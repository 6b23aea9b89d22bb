/-
  Eag.Foundation.FileTree

  A tree of files with symbolic links, as POSIX systems have them: how a path is looked up,
  and how `os.path.realpath` and `Path.resolve` (Python 3.12) resolve it. Files hold data of any
  type; every file can be read and every directory searched.

  `walk_of_stands` passes over the part of a path that goes through no link, and
  `resolveNames_plain` says that a path without links resolves to itself.
-/

import Mathlib.Data.List.Infix

namespace Eag.Foundation

/-! ## Trees -/

/-- What stands at a path. -/
inductive Node (α : Type) where
  | directory
  | file (data : α)
  | symlink (target : String)
  /-- A device, a pipe or a socket. -/
  | special
  deriving DecidableEq, Repr

/-- A name that is looked up: it is not empty, and does not stand for the directory it is in
    or for the parent of that. -/
def IsPlain (name : String) : Prop := name ≠ "" ∧ name ≠ "." ∧ name ≠ ".."

instance (name : String) : Decidable (IsPlain name) := inferInstanceAs (Decidable (_ ∧ _))

/-- A name that a directory entry can have. -/
def IsName (name : String) : Prop :=
  IsPlain name ∧ '/' ∉ name.toList ∧ Char.ofNat 0 ∉ name.toList

instance (name : String) : Decidable (IsName name) := inferInstanceAs (Decidable (_ ∧ _))

/-- What stands at the names that lead from the root directory to it. Only directories have
    entries. -/
structure FileTree (α : Type) where
  node : List String → Option (Node α)
  root_directory : node [] = some .directory
  parent_directory : ∀ path name, (node (path ++ [name])).isSome = true →
    node path = some .directory
  names : ∀ path name, (node (path ++ [name])).isSome = true → IsName name

/-- The names of a path text, in which empty names and single dots still stand. -/
def pathNames (text : String) : List String := (text.toList.splitOn '/').map String.ofList

/-- A path text that starts at the root directory. -/
def isAbsolutePath (text : String) : Bool := text.toList.head? = some '/'

namespace FileTree

variable {α : Type} (tree : FileTree α)

/-- A directory stands at the names. -/
def isDirectory (path : List String) : Bool :=
  match tree.node path with
  | some .directory => true
  | _ => false

theorem isDirectory_iff {path : List String} :
    tree.isDirectory path = true ↔ tree.node path = some .directory := by
  unfold isDirectory
  split
  · next h => exact iff_of_true rfl h
  · next h => exact iff_of_false Bool.false_ne_true fun hnode => h hnode

/-! ## Trees from lists -/

/-- What a list of entries has at a path, below the root directory. -/
def nodeOf (entries : List (List String × Node α)) (path : List String) : Option (Node α) :=
  if path = [] then some .directory else entries.lookup path

/-- The entry has a name, in a directory. -/
def EntryClosed (entries : List (List String × Node α)) (path : List String) : Prop :=
  (∃ name ∈ path.getLast?, IsName name) ∧
    (match nodeOf entries path.dropLast with
      | some .directory => True
      | _ => False)

instance (entries : List (List String × Node α)) (path : List String) :
    Decidable (EntryClosed entries path) := by
  unfold EntryClosed
  refine @instDecidableAnd _ _ ?_ ?_
  · infer_instance
  · split
    · infer_instance
    · infer_instance

theorem entryClosed_of_nodeOf {entries : List (List String × Node α)}
    (closed : ∀ entry ∈ entries, EntryClosed entries entry.1) {path : List String} {name : String}
    (h : (nodeOf entries (path ++ [name])).isSome = true) :
    IsName name ∧ nodeOf entries path = some .directory := by
  have hne : path ++ [name] ≠ [] := List.append_ne_nil_of_right_ne_nil _ (List.cons_ne_nil _ _)
  obtain ⟨node, hnode⟩ := Option.isSome_iff_exists.mp h
  rw [nodeOf, if_neg hne] at hnode
  obtain ⟨before, after, hentries, -⟩ := List.lookup_eq_some_iff.mp hnode
  obtain ⟨⟨last, hlast, hname⟩, hparent⟩ :=
    closed (path ++ [name], node) (by rw [hentries]; simp)
  rw [List.getLast?_concat, Option.mem_some_iff] at hlast
  rw [List.dropLast_concat] at hparent
  refine ⟨hlast ▸ hname, ?_⟩
  split at hparent
  · next hdirectory => exact hdirectory
  · exact hparent.elim

/-- The tree of a list of entries whose directories are in the list. -/
def ofEntries (entries : List (List String × Node α))
    (closed : ∀ entry ∈ entries, EntryClosed entries entry.1) : FileTree α where
  node := nodeOf entries
  root_directory := rfl
  parent_directory _ _ h := (entryClosed_of_nodeOf closed h).2
  names _ _ h := (entryClosed_of_nodeOf closed h).1

/-! ## Lookup -/

/-- Why a lookup fails: `ENOENT`, `ENOTDIR`, `ELOOP`. -/
inductive LookupError where
  | missing
  | notDirectory
  | loop
  deriving DecidableEq, Repr

/-- Where the target of a link is looked up from. -/
def linkStart (current : List String) (target : String) : List String :=
  if isAbsolutePath target then [] else current

/-- The lookup of names from a directory; `follow` looks a link up. The last name is followed
    only if `followLast` says so. -/
def walkNames (follow : List String → List String → Except LookupError (List String))
    (followLast : Bool) : List String → List String → Except LookupError (List String)
  | current, [] => .ok current
  | current, name :: rest =>
      if tree.isDirectory current = false then .error .notDirectory
      else if name = "" ∨ name = "." then walkNames follow followLast current rest
      else if name = ".." then walkNames follow followLast current.dropLast rest
      else
        match tree.node (current ++ [name]) with
        | none => .error .missing
        | some (.symlink target) =>
            if rest = [] ∧ followLast = false then .ok (current ++ [name])
            else follow (linkStart current target) (pathNames target ++ rest)
        | some _ => walkNames follow followLast (current ++ [name]) rest

/-- The lookup with a number of links that may still be followed. -/
def walk (followLast : Bool) : Nat → List String → List String →
    Except LookupError (List String)
  | 0 => tree.walkNames (fun _ _ => .error .loop) followLast
  | links + 1 => tree.walkNames (walk followLast links) followLast

/-- The links the system follows in one lookup. -/
def maxLinks : Nat := 40

/-- `os.stat`, which follows links. -/
def stat (path : List String) : Except LookupError (Option (Node α)) :=
  (tree.walk true maxLinks [] path).map tree.node

/-- `os.lstat`, which does not follow the last one. -/
def lstat (path : List String) : Except LookupError (Option (Node α)) :=
  (tree.walk false maxLinks [] path).map tree.node

/-- `path.exists()`. -/
def pathExists (path : List String) : Bool := (tree.stat path).isOk

/-- `path.is_symlink()`. -/
def isSymlink (path : List String) : Bool :=
  match tree.lstat path with
  | .ok (some (.symlink _)) => true
  | _ => false

/-- The data of a regular file, links followed; none where `path.is_file()` is false. -/
def fileData (path : List String) : Option α :=
  match tree.stat path with
  | .ok (some (.file data)) => some data
  | _ => none

/-! ## `realpath` -/

/-- The errors that leave `resolve`: an `OSError` of a lookup, the `RuntimeError` over a loop
    of links, the `ValueError` over a name with a null character, and `RecursionError`. -/
inductive ResolveError where
  | os (error : LookupError)
  | symlinkLoop
  | embeddedNull
  | recursion
  deriving DecidableEq, Repr

/-- `os.path.normpath` of names after a normal path. -/
def normalize : List String → List String → List String
  | path, [] => path
  | path, name :: rest =>
      if name = "" ∨ name = "." then normalize path rest
      else if name = ".." then normalize path.dropLast rest
      else normalize (path ++ [name]) rest

/-- `os.path.join` of the rest of a path text, normalized: a rest that starts with a separator
    starts at the root directory. -/
def joinRest (path : List String) : List String → List String
  | "" :: name :: rest => normalize [] (name :: rest)
  | rest => normalize path rest

/-- The links already seen: resolved, or still being resolved. -/
abbrev Seen := List (List String × Option (List String))

/-- What `_joinrealpath` returns: a path, whether all of it was resolved, and what it has
    seen. -/
abbrev Joined := List String × Bool × Seen

/-- The body of the loop of `_joinrealpath`, for one name of the path; `follow` is its call for
    the target of a link. -/
def resolveName (strict : Bool) (follow : Seen → List String → List String →
    Except ResolveError Joined) (seen : Seen) (path : List String) (name : String) :
    Except ResolveError Joined :=
  if name = "" ∨ name = "." then .ok (path, true, seen)
  else if name = ".." then .ok (path.dropLast, true, seen)
  else if Char.ofNat 0 ∈ name.toList then .error .embeddedNull
  else
    match tree.lstat (path ++ [name]) with
    | .error error => if strict then .error (.os error) else .ok (path ++ [name], true, seen)
    | .ok (some (.symlink target)) =>
        match seen.lookup (path ++ [name]) with
        | some (some resolved) => .ok (resolved, true, seen)
        | some none =>
            if strict then .error (.os .loop) else .ok (path ++ [name], false, seen)
        | none =>
            match follow ((path ++ [name], none) :: seen) (linkStart path target)
                (pathNames target) with
            | .error error => .error error
            | .ok (resolved, false, seen) => .ok (resolved, false, seen)
            | .ok (resolved, true, seen) =>
                .ok (resolved, true, (path ++ [name], some resolved) :: seen)
    | .ok _ => .ok (path ++ [name], true, seen)

/-- `_joinrealpath`: a path that is not resolved completely is joined with the rest. -/
def resolveNames (strict : Bool) (follow : Seen → List String → List String →
    Except ResolveError Joined) : Seen → List String → List String → Except ResolveError Joined
  | seen, path, [] => .ok (path, true, seen)
  | seen, path, name :: rest =>
      match tree.resolveName strict follow seen path name with
      | .error error => .error error
      | .ok (resolved, false, seen) => .ok (joinRest resolved rest, false, seen)
      | .ok (resolved, true, seen) => resolveNames strict follow seen resolved rest

/-- `_joinrealpath` with a number of calls that may still be nested. -/
def joinRealpath (strict : Bool) : Nat → Seen → List String → List String →
    Except ResolveError Joined
  | 0 => tree.resolveNames strict fun _ _ _ => .error .recursion
  | depth + 1 => tree.resolveNames strict (joinRealpath strict depth)

/-- `Path.resolve` of an absolute path. A result that is still a loop of links is refused. -/
def resolve (strict : Bool) (depth : Nat) (path : List String) :
    Except ResolveError (List String) :=
  match tree.joinRealpath strict depth [] [] path with
  | .error (.os .loop) => .error .symlinkLoop
  | .error error => .error error
  | .ok (resolved, _, _) =>
      if strict = false ∧ tree.walk true maxLinks [] resolved = .error .loop
      then .error .symlinkLoop
      else .ok resolved

/-! ## Paths without links -/

/-- Something stands at the names, and it is no link. -/
def Stands (path : List String) : Prop :=
  ∃ node, tree.node path = some node ∧ ∀ target, node ≠ .symlink target

variable {tree} {path names rest current : List String} {name : String}

theorem isDirectory_of_isSome (h : (tree.node (path ++ name :: rest)).isSome = true) :
    tree.isDirectory path = true := by
  rw [isDirectory_iff]
  induction rest using List.reverseRecOn with
  | nil => exact tree.parent_directory _ _ h
  | append_singleton rest last ih =>
      have hparent : tree.node (path ++ name :: rest) = some .directory := by
        refine tree.parent_directory (path ++ name :: rest) last ?_
        rwa [List.append_assoc, List.cons_append]
      exact ih (by rw [hparent]; rfl)

theorem isName_of_isSome (h : (tree.node (path ++ name :: rest)).isSome = true) :
    IsName name := by
  induction rest using List.reverseRecOn with
  | nil => exact tree.names _ _ h
  | append_singleton rest last ih =>
      have hparent : tree.node (path ++ name :: rest) = some .directory := by
        refine tree.parent_directory (path ++ name :: rest) last ?_
        rwa [List.append_assoc, List.cons_append]
      exact ih (by rw [hparent]; rfl)

theorem Stands.isSome (h : tree.Stands path) : (tree.node path).isSome = true := by
  obtain ⟨node, hnode, -⟩ := h
  rw [hnode]
  rfl

theorem stands_of_isDirectory (h : tree.isDirectory path = true) : tree.Stands path :=
  ⟨.directory, tree.isDirectory_iff.mp h, fun _ h => nomatch h⟩

/-- The directory that something stands in. -/
theorem Stands.dropLast (h : tree.Stands path) : tree.Stands path.dropLast := by
  induction path using List.reverseRecOn with
  | nil => exact h
  | append_singleton path last ih =>
      rw [List.dropLast_concat]
      exact stands_of_isDirectory (isDirectory_of_isSome h.isSome)

/-- Every beginning of a path that stands does. -/
theorem Stands.of_append (h : tree.Stands (path ++ rest)) : tree.Stands path := by
  cases rest with
  | nil => rwa [List.append_nil] at h
  | cons name rest => exact stands_of_isDirectory (isDirectory_of_isSome h.isSome)

section

variable {follow : List String → List String → Except LookupError (List String)}
  {followLast : Bool}

/-- One name of a lookup, from a directory. -/
theorem walkNames_cons (hdirectory : tree.isDirectory current = true) (hname : IsPlain name) :
    tree.walkNames follow followLast current (name :: rest) =
      match tree.node (current ++ [name]) with
      | none => .error .missing
      | some (.symlink target) =>
          if rest = [] ∧ followLast = false then .ok (current ++ [name])
          else follow (linkStart current target) (pathNames target ++ rest)
      | some _ => tree.walkNames follow followLast (current ++ [name]) rest := by
  rw [walkNames, if_neg (ne_false_of_eq_true hdirectory),
    if_neg (not_or.mpr ⟨hname.1, hname.2.1⟩), if_neg hname.2.2]

/-- **A lookup passes over names that stand.** -/
theorem walkNames_of_stands (h : tree.Stands (current ++ names)) :
    tree.walkNames follow followLast current (names ++ rest) =
      tree.walkNames follow followLast (current ++ names) rest := by
  induction names generalizing current with
  | nil => rw [List.append_nil, List.nil_append]
  | cons name names ih =>
      have hsplit : current ++ name :: names = current ++ [name] ++ names := by
        rw [List.append_assoc, List.singleton_append]
      rw [List.cons_append, walkNames_cons (isDirectory_of_isSome h.isSome)
        (isName_of_isSome h.isSome).1]
      rw [hsplit] at h ⊢
      obtain ⟨node, hnode, hlink⟩ := h.of_append
      rw [hnode]
      cases node with
      | symlink target => exact absurd rfl (hlink target)
      | directory => exact ih h
      | file data => exact ih h
      | special => exact ih h

end

theorem walk_of_stands {followLast : Bool} (links : Nat) (h : tree.Stands path) :
    tree.walk followLast links [] (path ++ rest) = tree.walk followLast links path rest := by
  cases links with
  | zero => exact walkNames_of_stands h
  | succ links => exact walkNames_of_stands h

theorem stat_of_stands (h : tree.Stands path) : tree.stat path = .ok (tree.node path) := by
  have hwalk : tree.walk true maxLinks [] (path ++ []) = .ok path :=
    (walk_of_stands maxLinks h).trans rfl
  rw [List.append_nil] at hwalk
  rw [stat, hwalk]
  rfl

theorem lstat_of_stands (h : tree.Stands path) : tree.lstat path = .ok (tree.node path) := by
  have hwalk : tree.walk false maxLinks [] (path ++ []) = .ok path :=
    (walk_of_stands maxLinks h).trans rfl
  rw [List.append_nil] at hwalk
  rw [lstat, hwalk]
  rfl

theorem fileData_of_stands (h : tree.Stands path) (data : α) :
    tree.fileData path = some data ↔ tree.node path = some (.file data) := by
  obtain ⟨node, hnode, hlink⟩ := h
  rw [fileData, stat_of_stands ⟨node, hnode, hlink⟩, hnode]
  cases node with
  | symlink target => exact absurd rfl (hlink target)
  | directory => exact iff_of_false (fun h => nomatch h) fun h => nomatch h
  | file content =>
      constructor
      · rintro ⟨⟩
        rfl
      · rintro ⟨⟩
        rfl
  | special => exact iff_of_false (fun h => nomatch h) fun h => nomatch h

theorem pathExists_of_stands (h : tree.Stands path) : tree.pathExists path = true := by
  rw [pathExists, stat_of_stands h]
  rfl

theorem isSymlink_of_stands (h : tree.Stands path) : tree.isSymlink path = false := by
  obtain ⟨node, hnode, hlink⟩ := h
  rw [isSymlink, lstat_of_stands ⟨node, hnode, hlink⟩, hnode]
  cases node with
  | symlink target => exact absurd rfl (hlink target)
  | directory => rfl
  | file data => rfl
  | special => rfl

/-- What `lstat` finds below a path that stands. -/
theorem lstat_append (h : tree.Stands path) (hname : IsPlain name) :
    tree.lstat (path ++ [name]) =
      if tree.isDirectory path = false then .error .notDirectory
      else
        match tree.node (path ++ [name]) with
        | none => .error .missing
        | some node => .ok (some node) := by
  have hwalk := @walk_of_stands _ _ _ [name] false maxLinks h
  rw [lstat, hwalk]
  by_cases hdirectory : tree.isDirectory path = true
  · rw [if_neg (ne_false_of_eq_true hdirectory)]
    unfold walk maxLinks
    dsimp only
    rw [walkNames_cons hdirectory hname]
    cases hnode : tree.node (path ++ [name]) with
    | none => rfl
    | some node =>
        cases node with
        | symlink target =>
            dsimp only
            rw [if_pos ⟨rfl, rfl⟩]
            exact congrArg Except.ok hnode
        | directory => exact congrArg Except.ok hnode
        | file data => exact congrArg Except.ok hnode
        | special => exact congrArg Except.ok hnode
  · rw [if_pos (eq_false_of_ne_true hdirectory)]
    unfold walk maxLinks
    dsimp only
    rw [walkNames, if_pos (eq_false_of_ne_true hdirectory)]
    rfl

/-! ## Lookups that fail -/

/-- A lookup that fails fails for every longer path. -/
theorem walkNames_append_error
    {follow longer : List String → List String → Except LookupError (List String)}
    (hfollow : ∀ current names rest error, follow current names = .error error →
      longer current (names ++ rest) = .error error) {error : LookupError}
    (h : tree.walkNames follow true current names = .error error) :
    tree.walkNames longer true current (names ++ rest) = .error error := by
  induction names generalizing current with
  | nil => cases h
  | cons name names ih =>
      rw [List.cons_append]
      unfold walkNames at h ⊢
      by_cases hdirectory : tree.isDirectory current = false
      · rw [if_pos hdirectory] at h ⊢
        exact h
      rw [if_neg hdirectory] at h ⊢
      by_cases hskip : name = "" ∨ name = "."
      · rw [if_pos hskip] at h ⊢
        exact ih h
      rw [if_neg hskip] at h ⊢
      by_cases hparent : name = ".."
      · rw [if_pos hparent] at h ⊢
        exact ih h
      rw [if_neg hparent] at h ⊢
      cases hnode : tree.node (current ++ [name]) with
      | none =>
          rw [hnode] at h
          exact h
      | some node =>
          rw [hnode] at h
          cases node with
          | symlink target =>
              dsimp only at h ⊢
              rw [if_neg fun hlast => Bool.noConfusion hlast.2] at h ⊢
              rw [← List.append_assoc]
              exact hfollow _ _ _ _ h
          | directory => exact ih h
          | file data => exact ih h
          | special => exact ih h

theorem walk_append_error {error : LookupError} (links : Nat)
    (h : tree.walk true links current names = .error error) :
    tree.walk true links current (names ++ rest) = .error error := by
  -- each link that is followed leaves one link less
  induction links generalizing current names rest error with
  | zero => exact walkNames_append_error (fun _ _ _ _ h => h) h
  | succ links ih => exact walkNames_append_error (fun _ _ _ _ h => ih h) h

/-- Below a path that does not exist nothing exists. -/
theorem not_pathExists_append (h : tree.pathExists path = false) :
    tree.pathExists (path ++ rest) = false := by
  unfold pathExists stat at h ⊢
  cases hwalk : tree.walk true maxLinks [] path with
  | ok found =>
      rw [hwalk] at h
      cases h
  | error error =>
      rw [walk_append_error maxLinks hwalk]
      rfl

/-- What is not below a directory, or not there, does not exist. -/
theorem not_pathExists_of_child (hpath : tree.Stands path) (hname : IsPlain name)
    (hmissing : tree.isDirectory path = true → tree.node (path ++ [name]) = none) :
    tree.pathExists (path ++ [name]) = false := by
  have hstat := @walk_of_stands _ _ _ [name] true maxLinks hpath
  unfold pathExists stat
  rw [hstat]
  unfold walk maxLinks
  dsimp only
  by_cases hdirectory : tree.isDirectory path = true
  · rw [walkNames_cons hdirectory hname, hmissing hdirectory]
    rfl
  · rw [walkNames, if_pos (eq_false_of_ne_true hdirectory)]
    rfl

/-- What exists below a path that stands, and is no link, stands. -/
theorem stands_of_child (hpath : tree.Stands path) (hname : IsPlain name)
    (hlink : tree.isSymlink (path ++ [name]) = false)
    (hexists : tree.pathExists (path ++ [name]) = true) : tree.Stands (path ++ [name]) := by
  have hlstat := lstat_append hpath hname
  by_cases hdirectory : tree.isDirectory path = true
  · cases hnode : tree.node (path ++ [name]) with
    | none =>
        rw [not_pathExists_of_child hpath hname fun _ => hnode] at hexists
        cases hexists
    | some node =>
        refine ⟨node, hnode, ?_⟩
        rintro target rfl
        rw [if_neg (ne_false_of_eq_true hdirectory), hnode] at hlstat
        rw [isSymlink, hlstat] at hlink
        cases hlink
  · rw [not_pathExists_of_child hpath hname fun h => absurd h hdirectory] at hexists
    cases hexists

/-- **A path that exists and goes through no link below one that stands, stands.** -/
theorem stands_of_pathExists (hpath : tree.Stands path)
    (hnames : ∀ name ∈ names, IsPlain name)
    (hlinks : ∀ before, before ≠ [] → before <+: names → tree.isSymlink (path ++ before) = false)
    (hexists : tree.pathExists (path ++ names) = true) : tree.Stands (path ++ names) := by
  induction names generalizing path with
  | nil => rwa [List.append_nil]
  | cons name names ih =>
      have hsplit : path ++ name :: names = path ++ [name] ++ names := by
        rw [List.append_assoc, List.singleton_append]
      have hchild : tree.pathExists (path ++ [name]) = true := by
        by_contra hmissing
        rw [Bool.not_eq_true] at hmissing
        rw [hsplit, not_pathExists_append hmissing] at hexists
        cases hexists
      have hlink := hlinks [name] (List.cons_ne_nil _ _) ⟨names, rfl⟩
      have hstands : tree.Stands (path ++ [name]) :=
        stands_of_child hpath (hnames name List.mem_cons_self) hlink hchild
      rw [hsplit] at hexists ⊢
      refine ih hstands (fun other hother => hnames other (List.mem_cons_of_mem _ hother)) ?_
        hexists
      intro before hne hbefore
      have hlonger := hlinks (name :: before) (List.cons_ne_nil _ _)
        (List.cons_prefix_cons.mpr ⟨rfl, hbefore⟩)
      rwa [List.append_assoc, List.singleton_append]

/-- A lookup that meets no link does not end in a loop. -/
theorem walkNames_ne_loop
    {follow : List String → List String → Except LookupError (List String)}
    (hpath : tree.Stands path) (hnames : ∀ name ∈ names, IsPlain name)
    (hlinks : ∀ before, before ≠ [] → before <+: names →
      tree.isSymlink (path ++ before) = false) :
    tree.walkNames follow true path names ≠ .error .loop := by
  induction names generalizing path with
  | nil => exact fun h => nomatch h
  | cons name names ih =>
      have hname := hnames name List.mem_cons_self
      by_cases hdirectory : tree.isDirectory path = true
      · have hlink := hlinks [name] (List.cons_ne_nil _ _) ⟨names, rfl⟩
        have hlstat := lstat_append hpath hname
        rw [if_neg (ne_false_of_eq_true hdirectory)] at hlstat
        rw [isSymlink, hlstat] at hlink
        rw [walkNames_cons hdirectory hname]
        have hnext : tree.Stands (path ++ [name]) →
            tree.walkNames follow true (path ++ [name]) names ≠ .error .loop := by
          intro hstands
          refine ih hstands (fun other hother => hnames other (List.mem_cons_of_mem _ hother)) ?_
          intro before hne hbefore
          have hlonger := hlinks (name :: before) (List.cons_ne_nil _ _)
            (List.cons_prefix_cons.mpr ⟨rfl, hbefore⟩)
          rwa [List.append_assoc, List.singleton_append]
        cases hnode : tree.node (path ++ [name]) with
        | none => exact fun h => nomatch h
        | some node =>
            rw [hnode] at hlink
            cases node with
            | symlink target => cases hlink
            | directory => exact hnext ⟨_, hnode, fun _ h => nomatch h⟩
            | file data => exact hnext ⟨_, hnode, fun _ h => nomatch h⟩
            | special => exact hnext ⟨_, hnode, fun _ h => nomatch h⟩
      · rw [walkNames, if_pos (eq_false_of_ne_true hdirectory)]
        exact fun h => nomatch h

/-! ## Resolution -/

section

variable {strict : Bool}
  {follow other : Seen → List String → List String → Except ResolveError Joined}
  {seen : Seen} {joined : Joined}

/-- A name that is no link is resolved already. -/
theorem resolveName_plain (hname : IsPlain name) (hnull : Char.ofNat 0 ∉ name.toList)
    (hlink : tree.isSymlink (path ++ [name]) = false) :
    tree.resolveName false follow seen path name = .ok (path ++ [name], true, seen) := by
  rw [resolveName, if_neg (not_or.mpr ⟨hname.1, hname.2.1⟩), if_neg hname.2.2, if_neg hnull]
  unfold isSymlink at hlink
  cases hlstat : tree.lstat (path ++ [name]) with
  | error error => exact if_neg Bool.false_ne_true
  | ok found =>
      rw [hlstat] at hlink
      cases found with
      | none => rfl
      | some node =>
          cases node with
          | symlink target => cases hlink
          | directory => rfl
          | file data => rfl
          | special => rfl

/-- **A path that goes through no link is resolved already.** -/
theorem resolveNames_plain
    (hnames : ∀ name ∈ names, IsPlain name ∧ Char.ofNat 0 ∉ name.toList)
    (hlinks : ∀ before, before ≠ [] → before <+: names →
      tree.isSymlink (path ++ before) = false) :
    tree.resolveNames false follow seen path names = .ok (path ++ names, true, seen) := by
  induction names generalizing path with
  | nil => rw [List.append_nil]; rfl
  | cons name names ih =>
      obtain ⟨hname, hnull⟩ := hnames name List.mem_cons_self
      have hlink := hlinks [name] (List.cons_ne_nil _ _) ⟨names, rfl⟩
      have hrest := @ih (path ++ [name]) (fun other hother =>
        hnames other (List.mem_cons_of_mem _ hother)) fun before hne hbefore => by
          have hlonger := hlinks (name :: before) (List.cons_ne_nil _ _)
            (List.cons_prefix_cons.mpr ⟨rfl, hbefore⟩)
          rwa [List.append_assoc, List.singleton_append]
      rw [List.append_assoc, List.singleton_append] at hrest
      rw [resolveNames, resolveName_plain hname hnull hlink]
      exact hrest

/-- A path that stands is resolved already, strictly or not. -/
theorem resolveNames_of_stands (h : tree.Stands (path ++ names)) :
    tree.resolveNames strict follow seen path names = .ok (path ++ names, true, seen) := by
  induction names generalizing path with
  | nil => rw [List.append_nil]; rfl
  | cons name names ih =>
      obtain ⟨hname, -, hnull⟩ := isName_of_isSome h.isSome
      have hsplit : path ++ name :: names = path ++ [name] ++ names := by
        rw [List.append_assoc, List.singleton_append]
      rw [hsplit] at h ⊢
      obtain ⟨node, hnode, hlink⟩ := h.of_append
      have hlstat := lstat_of_stands h.of_append
      have hresolved : tree.resolveName strict follow seen path name =
          .ok (path ++ [name], true, seen) := by
        rw [resolveName, if_neg (not_or.mpr ⟨hname.1, hname.2.1⟩), if_neg hname.2.2,
          if_neg hnull, hlstat, hnode]
        cases node with
        | symlink target => exact absurd rfl (hlink target)
        | directory => rfl
        | file data => rfl
        | special => rfl
      rw [resolveNames, hresolved]
      exact ih h

/-- A path that was resolved completely is resolved before what follows it. -/
theorem resolveNames_append (h : tree.resolveNames strict follow seen path names = .ok joined)
    (hcomplete : joined.2.1 = true) :
    tree.resolveNames strict follow seen path (names ++ rest) =
      tree.resolveNames strict follow joined.2.2 joined.1 rest := by
  induction names generalizing seen path with
  | nil =>
      cases h
      rfl
  | cons name names ih =>
      rw [List.cons_append]
      rw [resolveNames] at h ⊢
      rcases hresolved : tree.resolveName strict follow seen path name with
        error | ⟨resolved, _ | _, seen'⟩
      · rw [hresolved] at h
        cases h
      · rw [hresolved] at h
        cases h
        cases hcomplete
      · rw [hresolved] at h
        exact ih h

theorem resolveName_of_strict
    (hfollow : ∀ {seen path names joined}, follow seen path names = .ok joined →
      other seen path names = .ok joined ∧ joined.2.1 = true)
    (h : tree.resolveName true follow seen path name = .ok joined) :
    tree.resolveName false other seen path name = .ok joined ∧ joined.2.1 = true := by
  unfold resolveName at h ⊢
  by_cases hskip : name = "" ∨ name = "."
  · rw [if_pos hskip] at h ⊢
    cases h
    exact ⟨rfl, rfl⟩
  rw [if_neg hskip] at h ⊢
  by_cases hparent : name = ".."
  · rw [if_pos hparent] at h ⊢
    cases h
    exact ⟨rfl, rfl⟩
  rw [if_neg hparent] at h ⊢
  by_cases hnull : Char.ofNat 0 ∈ name.toList
  · rw [if_pos hnull] at h
    cases h
  rw [if_neg hnull] at h ⊢
  rcases hlstat : tree.lstat (path ++ [name]) with error | _ | _ | data | target | _
  · rw [hlstat] at h
    cases h
  · rw [hlstat] at h
    cases h
    exact ⟨rfl, rfl⟩
  · rw [hlstat] at h
    cases h
    exact ⟨rfl, rfl⟩
  · rw [hlstat] at h
    cases h
    exact ⟨rfl, rfl⟩
  · rw [hlstat] at h
    dsimp only at h ⊢
    rcases hlookup : seen.lookup (path ++ [name]) with _ | _ | resolved
    · rw [hlookup] at h
      dsimp only at h ⊢
      rcases hlink : follow ((path ++ [name], none) :: seen) (linkStart path target)
          (pathNames target) with error | ⟨resolved, complete, seen'⟩
      · rw [hlink] at h
        cases h
      · obtain ⟨hother, hcomplete⟩ := hfollow hlink
        dsimp only at hcomplete
        rw [hlink, hcomplete] at h
        rw [hother, hcomplete]
        cases h
        exact ⟨rfl, rfl⟩
    · rw [hlookup] at h
      cases h
    · rw [hlookup] at h
      cases h
      exact ⟨rfl, rfl⟩
  · rw [hlstat] at h
    cases h
    exact ⟨rfl, rfl⟩

/-- What is resolved strictly is resolved completely, and also without being strict. -/
theorem resolveNames_of_strict
    (hfollow : ∀ {seen path names joined}, follow seen path names = .ok joined →
      other seen path names = .ok joined ∧ joined.2.1 = true)
    (h : tree.resolveNames true follow seen path names = .ok joined) :
    tree.resolveNames false other seen path names = .ok joined ∧ joined.2.1 = true := by
  induction names generalizing seen path with
  | nil =>
      cases h
      exact ⟨rfl, rfl⟩
  | cons name names ih =>
      unfold resolveNames at h ⊢
      rcases hresolved : tree.resolveName true follow seen path name with
        error | ⟨resolved, complete, seen'⟩
      · rw [hresolved] at h
        cases h
      · obtain ⟨hother, hcomplete⟩ := resolveName_of_strict hfollow hresolved
        dsimp only at hcomplete
        rw [hresolved, hcomplete] at h
        rw [hother, hcomplete]
        exact ih h

theorem joinRealpath_of_strict {depth : Nat}
    (h : tree.joinRealpath true depth seen path names = .ok joined) :
    tree.joinRealpath false depth seen path names = .ok joined ∧ joined.2.1 = true := by
  -- the calls for the targets of links are one level down
  induction depth generalizing seen path names joined with
  | zero => exact resolveNames_of_strict (fun h => by cases h) h
  | succ depth ih => exact resolveNames_of_strict (fun h => ih h) h

/-- Every link that was seen resolved to something that stands. -/
def SeenStand (tree : FileTree α) (seen : Seen) : Prop :=
  ∀ link resolved, (link, some resolved) ∈ seen → tree.Stands resolved

theorem resolveName_stands
    (hfollow : ∀ {seen path names joined}, tree.SeenStand seen → tree.Stands path →
      follow seen path names = .ok joined →
      tree.Stands joined.1 ∧ tree.SeenStand joined.2.2)
    (hseen : tree.SeenStand seen) (hpath : tree.Stands path)
    (h : tree.resolveName true follow seen path name = .ok joined) :
    tree.Stands joined.1 ∧ tree.SeenStand joined.2.2 := by
  unfold resolveName at h
  by_cases hskip : name = "" ∨ name = "."
  · rw [if_pos hskip] at h
    cases h
    exact ⟨hpath, hseen⟩
  rw [if_neg hskip] at h
  by_cases hparent : name = ".."
  · rw [if_pos hparent] at h
    cases h
    exact ⟨hpath.dropLast, hseen⟩
  rw [if_neg hparent] at h
  by_cases hnull : Char.ofNat 0 ∈ name.toList
  · rw [if_pos hnull] at h
    cases h
  rw [if_neg hnull] at h
  have hlstat := lstat_append hpath ⟨(not_or.mp hskip).1, (not_or.mp hskip).2, hparent⟩
  by_cases hdirectory : tree.isDirectory path = false
  · rw [if_pos hdirectory] at hlstat
    rw [hlstat] at h
    cases h
  rw [if_neg hdirectory] at hlstat
  rcases hnode : tree.node (path ++ [name]) with _ | _ | data | target | _
  · rw [hlstat, hnode] at h
    cases h
  · rw [hlstat, hnode] at h
    cases h
    exact ⟨⟨_, hnode, fun _ h => nomatch h⟩, hseen⟩
  · rw [hlstat, hnode] at h
    cases h
    exact ⟨⟨_, hnode, fun _ h => nomatch h⟩, hseen⟩
  · rw [hlstat, hnode] at h
    dsimp only at h
    rcases hlookup : seen.lookup (path ++ [name]) with _ | _ | resolved
    · rw [hlookup] at h
      dsimp only at h
      have hpending : tree.SeenStand ((path ++ [name], none) :: seen) := by
        intro link resolved hmem
        rcases List.mem_cons.mp hmem with heq | hmem
        · cases heq
        · exact hseen link resolved hmem
      have hstart : tree.Stands (linkStart path target) := by
        unfold linkStart
        split
        · exact ⟨_, tree.root_directory, fun _ h => nomatch h⟩
        · exact hpath
      rcases hlink : follow ((path ++ [name], none) :: seen) (linkStart path target)
          (pathNames target) with error | ⟨resolved, complete, seen'⟩
      · rw [hlink] at h
        cases h
      · obtain ⟨hresolved, hseen'⟩ := hfollow hpending hstart hlink
        rw [hlink] at h
        cases complete with
        | false =>
            cases h
            exact ⟨hresolved, hseen'⟩
        | true =>
            cases h
            refine ⟨hresolved, fun link other hmem => ?_⟩
            rcases List.mem_cons.mp hmem with heq | hmem
            · cases heq
              exact hresolved
            · exact hseen' link other hmem
    · rw [hlookup] at h
      cases h
    · rw [hlookup] at h
      cases h
      obtain ⟨before, after, hsplit, -⟩ := List.lookup_eq_some_iff.mp hlookup
      exact ⟨hseen (path ++ [name]) resolved (by rw [hsplit]; simp), hseen⟩
  · rw [hlstat, hnode] at h
    cases h
    exact ⟨⟨_, hnode, fun _ h => nomatch h⟩, hseen⟩

theorem resolveNames_stands
    (hfollow : ∀ {seen path names joined}, tree.SeenStand seen → tree.Stands path →
      follow seen path names = .ok joined →
      tree.Stands joined.1 ∧ tree.SeenStand joined.2.2)
    (hseen : tree.SeenStand seen) (hpath : tree.Stands path)
    (h : tree.resolveNames true follow seen path names = .ok joined)
    (hcomplete : joined.2.1 = true) :
    tree.Stands joined.1 ∧ tree.SeenStand joined.2.2 := by
  induction names generalizing seen path with
  | nil =>
      cases h
      exact ⟨hpath, hseen⟩
  | cons name names ih =>
      rw [resolveNames] at h
      rcases hresolved : tree.resolveName true follow seen path name with
        error | ⟨resolved, _ | _, seen'⟩
      · rw [hresolved] at h
        cases h
      · rw [hresolved] at h
        cases h
        cases hcomplete
      · obtain ⟨hstands, hseen'⟩ := resolveName_stands hfollow hseen hpath hresolved
        rw [hresolved] at h
        exact ih hseen' hstands h

/-- **What is resolved strictly stands.** -/
theorem joinRealpath_stands {depth : Nat} (hseen : tree.SeenStand seen)
    (hpath : tree.Stands path)
    (h : tree.joinRealpath true depth seen path names = .ok joined) :
    tree.Stands joined.1 ∧ tree.SeenStand joined.2.2 := by
  have hcomplete := (joinRealpath_of_strict h).2
  induction depth generalizing seen path names joined with
  | zero => exact resolveNames_stands (fun _ _ h => by cases h) hseen hpath h hcomplete
  | succ depth ih =>
      exact resolveNames_stands
        (fun hseen hpath h => ih hseen hpath h (joinRealpath_of_strict h).2) hseen hpath h hcomplete

end

theorem exists_of_resolve_strict {depth : Nat} {root : List String}
    (h : tree.resolve true depth path = .ok root) :
    ∃ joined, tree.joinRealpath true depth [] [] path = .ok joined ∧ joined.1 = root := by
  unfold resolve at h
  rcases hjoined : tree.joinRealpath true depth [] [] path with error | ⟨resolved, complete, seen⟩
  · rw [hjoined] at h
    rcases error with (_ | _ | _) | _ | _ | _ <;> cases h
  · rw [hjoined] at h
    dsimp only at h
    rw [if_neg fun hstrict => Bool.noConfusion hstrict.1] at h
    exact ⟨_, rfl, Except.ok.inj h⟩

/-- What a strict `resolve` returns stands. -/
theorem stands_of_resolve {depth : Nat} {root : List String}
    (h : tree.resolve true depth path = .ok root) : tree.Stands root := by
  obtain ⟨joined, hjoined, rfl⟩ := exists_of_resolve_strict h
  have hroot : tree.Stands [] := ⟨_, tree.root_directory, fun _ h => nomatch h⟩
  exact (joinRealpath_stands (fun _ _ h => absurd h List.not_mem_nil) hroot hjoined).1

theorem joinRealpath_append {strict : Bool} {depth : Nat} {seen : Seen} {joined : Joined}
    (h : tree.joinRealpath strict depth seen path names = .ok joined)
    (hcomplete : joined.2.1 = true) :
    tree.joinRealpath strict depth seen path (names ++ rest) =
      tree.joinRealpath strict depth joined.2.2 joined.1 rest := by
  cases depth with
  | zero => exact resolveNames_append h hcomplete
  | succ depth => exact resolveNames_append h hcomplete

theorem joinRealpath_plain {depth : Nat} {seen : Seen}
    (hnames : ∀ name ∈ names, IsPlain name ∧ Char.ofNat 0 ∉ name.toList)
    (hlinks : ∀ before, before ≠ [] → before <+: names →
      tree.isSymlink (path ++ before) = false) :
    tree.joinRealpath false depth seen path names = .ok (path ++ names, true, seen) := by
  cases depth with
  | zero => exact resolveNames_plain hnames hlinks
  | succ depth => exact resolveNames_plain hnames hlinks

/-- **A path below a resolved root that goes through no link resolves to the names after the
    resolved root.** -/
theorem resolve_append {depth : Nat} {root : List String}
    (hroot : tree.resolve true depth path = .ok root)
    (hnames : ∀ name ∈ names, IsPlain name ∧ Char.ofNat 0 ∉ name.toList)
    (hlinks : ∀ before, before ≠ [] → before <+: names →
      tree.isSymlink (root ++ before) = false) :
    tree.resolve false depth (path ++ names) = .ok (root ++ names) := by
  have hstands := stands_of_resolve hroot
  obtain ⟨joined, hjoined, rfl⟩ := exists_of_resolve_strict hroot
  obtain ⟨hloose, hcomplete⟩ := joinRealpath_of_strict hjoined
  have hwalk : tree.walk true maxLinks [] (joined.1 ++ names) ≠ .error .loop := by
    rw [walk_of_stands maxLinks hstands]
    exact walkNames_ne_loop hstands (fun name hname => (hnames name hname).1) hlinks
  rw [resolve, joinRealpath_append hloose hcomplete, joinRealpath_plain hnames hlinks]
  exact if_neg fun h => hwalk h.2

/-- A path that stands resolves to itself, strictly or not. -/
theorem resolve_of_stands (strict : Bool) (depth : Nat) (h : tree.Stands path) :
    tree.resolve strict depth path = .ok path := by
  have hjoined : tree.joinRealpath strict depth [] [] path = .ok (path, true, []) := by
    cases depth with
    | zero => exact resolveNames_of_stands h
    | succ depth => exact resolveNames_of_stands h
  have hwalk : tree.walk true maxLinks [] path ≠ .error .loop := by
    have hself := @walk_of_stands _ _ _ [] true maxLinks h
    rw [List.append_nil] at hself
    rw [hself]
    exact fun h => nomatch h
  rw [resolve, hjoined]
  exact if_neg fun h => hwalk h.2

end FileTree

end Eag.Foundation
