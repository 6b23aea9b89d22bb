/-
  Eag.Foundation.DirectoryWalk

  `os.walk` (Python 3.12) over a tree of files with symbolic links, from the top down and
  without following links to directories. The caller takes away the directories that are not
  to be walked.

  The order in which a directory lists its entries is part of the tree (`ListedTree`).
  `mem_osWalk` says which directories are walked.
-/

import Mathlib.Algebra.Order.BigOperators.Group.List
import Mathlib.Algebra.GroupWithZero.Nat
import Mathlib.Algebra.Order.Group.Nat
import Mathlib.Data.List.Nodup
import Eag.Foundation.FileUpdates

namespace Eag.Foundation

/-! ## Listings -/

/-- A tree whose directories list their entries. It is no deeper than its height. -/
structure ListedTree (α : Type) extends FileTree α where
  scandir : List String → List String
  scandir_nodup : ∀ path, (scandir path).Nodup
  mem_scandir : ∀ path name,
    name ∈ scandir path ↔ (toFileTree.node (path ++ [name])).isSome = true
  height : Nat
  length_le_height : ∀ path, (toFileTree.node path).isSome = true → path.length ≤ height

namespace FileTree

variable {α : Type} {tree : FileTree α} {current names real top : List String} {name : String}

/-- What stands where a path leads, links followed. -/
def Locates (tree : FileTree α) (path location : List String) : Prop :=
  tree.walk true maxLinks [] path = .ok location

/-! ## Lookups that go on -/

/-- A lookup that succeeds is passed on the way to a longer path. -/
theorem walkNames_append_ok {links : Nat}
    {follow : List String → List String → Except LookupError (List String)}
    (longer : Bool → List String → List String → Except LookupError (List String))
    (hself : ∀ followLast current names, tree.walkNames (longer followLast) followLast current
      names = tree.walk followLast links current names)
    (hfollow : ∀ current names real, follow current names = .ok real →
      ∃ left, ∀ followLast rest, rest ≠ [] →
        longer followLast current (names ++ rest) = tree.walk followLast left real rest)
    (h : tree.walkNames follow true current names = .ok real) :
    ∃ left, ∀ followLast rest, rest ≠ [] →
      tree.walk followLast links current (names ++ rest) = tree.walk followLast left real rest := by
  induction names generalizing current with
  | nil =>
      obtain rfl := Except.ok.inj h
      exact ⟨links, fun _ _ _ => rfl⟩
  | cons name names ih =>
      unfold walkNames at h
      by_cases hdirectory : tree.isDirectory current = false
      · rw [if_pos hdirectory] at h
        cases h
      rw [if_neg hdirectory] at h
      by_cases hskip : name = "" ∨ name = "."
      · rw [if_pos hskip] at h
        obtain ⟨left, hleft⟩ := ih h
        refine ⟨left, fun followLast rest hrest => ?_⟩
        rw [← hself, List.cons_append, walkNames, if_neg hdirectory, if_pos hskip, hself]
        exact hleft followLast rest hrest
      rw [if_neg hskip] at h
      by_cases hparent : name = ".."
      · rw [if_pos hparent] at h
        obtain ⟨left, hleft⟩ := ih h
        refine ⟨left, fun followLast rest hrest => ?_⟩
        rw [← hself, List.cons_append, walkNames, if_neg hdirectory, if_neg hskip,
          if_pos hparent, hself]
        exact hleft followLast rest hrest
      rw [if_neg hparent] at h
      have hstep : ∀ {followLast node rest}, tree.node (current ++ [name]) = some node →
          (∀ target, node ≠ .symlink target) →
          tree.walk followLast links current (name :: names ++ rest) =
            tree.walk followLast links (current ++ [name]) (names ++ rest) := by
        intro followLast node rest hnode hlink
        rw [← hself, List.cons_append, walkNames, if_neg hdirectory, if_neg hskip,
          if_neg hparent, hnode]
        cases node with
        | symlink target => exact absurd rfl (hlink target)
        | directory => exact hself ..
        | file data => exact hself ..
        | special => exact hself ..
      cases hnode : tree.node (current ++ [name]) with
      | none =>
          rw [hnode] at h
          cases h
      | some node =>
          rw [hnode] at h
          cases node with
          | symlink target =>
              dsimp only at h
              rw [if_neg fun hlast => Bool.noConfusion hlast.2] at h
              obtain ⟨left, hleft⟩ := hfollow _ _ _ h
              refine ⟨left, fun followLast rest hrest => ?_⟩
              rw [← hself, List.cons_append, walkNames, if_neg hdirectory, if_neg hskip,
                if_neg hparent, hnode]
              dsimp only
              rw [if_neg fun hlast => hrest (List.append_eq_nil_iff.mp hlast.1).2,
                ← List.append_assoc]
              exact hleft followLast rest hrest
          | directory =>
              obtain ⟨left, hleft⟩ := ih h
              refine ⟨left, fun followLast rest hrest => ?_⟩
              rw [hstep hnode fun _ h => by cases h]
              exact hleft followLast rest hrest
          | file data =>
              obtain ⟨left, hleft⟩ := ih h
              refine ⟨left, fun followLast rest hrest => ?_⟩
              rw [hstep hnode fun _ h => by cases h]
              exact hleft followLast rest hrest
          | special =>
              obtain ⟨left, hleft⟩ := ih h
              refine ⟨left, fun followLast rest hrest => ?_⟩
              rw [hstep hnode fun _ h => by cases h]
              exact hleft followLast rest hrest

theorem walk_append_ok (links : Nat) (h : tree.walk true links current names = .ok real) :
    ∃ left, ∀ followLast rest, rest ≠ [] →
      tree.walk followLast links current (names ++ rest) = tree.walk followLast left real rest := by
  -- each link that is followed leaves one link less
  induction links generalizing current names real with
  | zero =>
      exact walkNames_append_ok (fun _ _ _ => .error .loop) (fun _ _ _ => rfl)
        (fun _ _ _ h => by cases h) h
  | succ links ih =>
      exact walkNames_append_ok (fun followLast => tree.walk followLast links)
        (fun _ _ _ => rfl) (fun _ _ _ h => ih h) h

/-- One name of a lookup, from a directory. -/
theorem walk_singleton (followLast : Bool) (links : Nat)
    (hdirectory : tree.node real = some .directory) (hname : IsPlain name) :
    (tree.node (real ++ [name]) = none →
      tree.walk followLast links real [name] = .error .missing) ∧
    (∀ node, tree.node (real ++ [name]) = some node →
      (followLast = true → ∀ target, node ≠ .symlink target) →
      tree.walk followLast links real [name] = .ok (real ++ [name])) := by
  have hstep : ∀ follow, tree.walkNames follow followLast real [name] = _ := fun follow =>
    walkNames_cons (tree.isDirectory_iff.mpr hdirectory) hname
  constructor
  · intro hnode
    cases links with
    | zero => exact (hstep _).trans (by rw [hnode])
    | succ links => exact (hstep _).trans (by rw [hnode])
  · intro node hnode hlink
    have hfound : ∀ follow,
        tree.walkNames follow followLast real [name] = .ok (real ++ [name]) := by
      intro follow
      rw [hstep, hnode]
      cases node with
      | symlink target =>
          cases followLast with
          | true => exact absurd rfl (hlink rfl target)
          | false => exact if_pos ⟨rfl, rfl⟩
      | directory => rfl
      | file data => rfl
      | special => rfl
    cases links with
    | zero => exact hfound _
    | succ links => exact hfound _

section

variable (hreal : tree.Locates top real) (hdirectory : tree.node real = some .directory)
  (hname : IsPlain name)

include hreal hdirectory hname

/-- What no link stands for lies below where the directory lies. -/
theorem Locates.child {node : Node α} (hnode : tree.node (real ++ [name]) = some node)
    (hlink : ∀ target, node ≠ .symlink target) : tree.Locates (top ++ [name]) (real ++ [name]) := by
  obtain ⟨left, hleft⟩ := walk_append_ok maxLinks hreal
  rw [Locates, hleft true [name] (List.cons_ne_nil _ _)]
  exact (walk_singleton true left hdirectory hname).2 node hnode fun _ => hlink

theorem lstat_child : tree.lstat (top ++ [name]) =
    match tree.node (real ++ [name]) with
    | none => .error .missing
    | some node => .ok (some node) := by
  obtain ⟨left, hleft⟩ := walk_append_ok maxLinks hreal
  rw [lstat, hleft false [name] (List.cons_ne_nil _ _)]
  have hstep := walk_singleton false left hdirectory hname
  cases hnode : tree.node (real ++ [name]) with
  | none => rw [hstep.1 hnode]; rfl
  | some node =>
      rw [hstep.2 node hnode fun h => Bool.noConfusion h]
      exact congrArg Except.ok hnode

/-- The entries of a directory that are walked in their turn are its own directories. -/
theorem walked_child_iff :
    (tree.isDir (top ++ [name]) = true ∧ tree.isSymlink (top ++ [name]) = false) ↔
      tree.node (real ++ [name]) = some .directory := by
  have hlstat := lstat_child hreal hdirectory hname
  constructor
  · rintro ⟨hdir, hlink⟩
    cases hnode : tree.node (real ++ [name]) with
    | none =>
        obtain ⟨left, hleft⟩ := walk_append_ok maxLinks hreal
        rw [isDir, stat, hleft true [name] (List.cons_ne_nil _ _),
          (walk_singleton true left hdirectory hname).1 hnode] at hdir
        cases hdir
    | some node =>
        have hplain : ∀ target, node ≠ .symlink target := by
          rintro target rfl
          rw [isSymlink, hlstat, hnode] at hlink
          cases hlink
        have hchild := Locates.child hreal hdirectory hname hnode hplain
        rw [isDir, stat, hchild, Except.map, hnode] at hdir
        cases node with
        | directory => rfl
        | file data => cases hdir
        | symlink target => cases hdir
        | special => cases hdir
  · intro hnode
    have hchild := Locates.child hreal hdirectory hname hnode fun _ h => by cases h
    rw [isSymlink, hlstat, hnode, isDir, stat, hchild, Except.map, hnode]
    exact ⟨rfl, rfl⟩

end

end FileTree

/-! ## The walk -/

namespace ListedTree

open FileTree

variable {α : Type}

theorem child_eq_some {key path : List String} {name : String} :
    (if key.dropLast = path then key.getLast? else none) = some name ↔ key = path ++ [name] := by
  constructor
  · intro h
    split at h
    · next hpath =>
        rw [← hpath]
        exact (List.dropLast_append_getLast? name h).symm
    · cases h
  · rintro rfl
    rw [List.dropLast_concat, if_pos rfl, List.getLast?_concat]

/-- The tree of a list of entries, which its directories list in the order of that list. -/
def ofEntries (entries : List (List String × Node α))
    (closed : ∀ entry ∈ entries, EntryClosed entries entry.1)
    (distinct : (entries.map Prod.fst).Nodup) : ListedTree α where
  toFileTree := .ofEntries entries closed
  scandir path := (entries.map Prod.fst).filterMap fun key =>
    if key.dropLast = path then key.getLast? else none
  scandir_nodup path := by
    refine List.Nodup.filterMap (fun key key' name h h' => ?_) distinct
    rw [child_eq_some.mp h, child_eq_some.mp h']
  mem_scandir path name := by
    have hne : path ++ [name] ≠ [] := List.append_ne_nil_of_right_ne_nil _ (List.cons_ne_nil _ _)
    have hnode : (FileTree.ofEntries entries closed).node (path ++ [name]) =
        entries.lookup (path ++ [name]) := if_neg hne
    rw [hnode, List.lookup_isSome_iff, List.mem_filterMap]
    constructor
    · rintro ⟨key, hkey, hname⟩
      obtain ⟨entry, hentry, rfl⟩ := List.mem_map.mp hkey
      exact ⟨entry, hentry, by rw [child_eq_some.mp hname, beq_self_eq_true]⟩
    · rintro ⟨entry, hentry, heq⟩
      refine ⟨entry.1, List.mem_map_of_mem hentry, ?_⟩
      exact child_eq_some.mpr (eq_of_beq heq).symm
  height := ((entries.map Prod.fst).map List.length).sum
  length_le_height path h := by
    by_cases hne : path = []
    · rw [hne]
      exact Nat.zero_le _
    · have hnode : (FileTree.ofEntries entries closed).node path = entries.lookup path := if_neg hne
      rw [hnode, List.lookup_isSome_iff] at h
      obtain ⟨entry, hentry, heq⟩ := h
      rw [eq_of_beq heq]
      exact List.le_sum_of_mem (List.mem_map_of_mem (List.mem_map_of_mem hentry))

variable (tree : ListedTree α)

/-- What `os.scandir` finds in the directory that a path leads to; `none` where it raises. -/
def listing (path : List String) : Option (List String) :=
  match tree.walk true maxLinks [] path with
  | .error _ => none
  | .ok location => if tree.isDirectory location then some (tree.scandir location) else none

/-- `os.walk`, with a number of directories that may still be nested: each directory with those of
    its entries that are none. Only the directories that are to be kept are walked. -/
def osWalk (keep : String → Bool) : Nat → List String → List (List String × List String)
  | 0, _ => []
  | depth + 1, top =>
      match tree.listing top with
      | none => []
      | some names =>
          let directories := (names.filter fun name => tree.isDir (top ++ [name])).filter keep
          (top, names.filter fun name => !tree.isDir (top ++ [name])) ::
            directories.flatMap fun name =>
              if tree.isSymlink (top ++ [name]) then [] else osWalk keep depth (top ++ [name])

/-- The paths of the files that are walked past, those of a directory in the order of
    `arrange`. -/
def walkedFiles (keep : String → Bool) (arrange : List String → List String)
    (top : List String) : List (List String) :=
  (tree.osWalk keep (tree.height + 1) top).flatMap fun entry =>
    (arrange entry.2).map fun name => entry.1 ++ [name]

variable {tree} {keep : String → Bool} {top real : List String} {depth : Nat}

theorem listing_eq_some {names : List String} :
    tree.listing top = some names ↔ ∃ real, tree.Locates top real ∧
      tree.node real = some .directory ∧ names = tree.scandir real := by
  unfold listing Locates
  cases tree.walk true maxLinks [] top with
  | error error =>
      refine iff_of_false (fun h => by cases h) ?_
      rintro ⟨real, h, -⟩
      cases h
  | ok location =>
      dsimp only
      constructor
      · intro h
        split at h
        · next hdirectory =>
            exact ⟨location, rfl, tree.isDirectory_iff.mp hdirectory, (Option.some.inj h).symm⟩
        · cases h
      · rintro ⟨real, hreal, hdirectory, rfl⟩
        obtain rfl := Except.ok.inj hreal
        rw [if_pos (tree.isDirectory_iff.mpr hdirectory)]

theorem isName_of_mem_scandir {name : String} (h : name ∈ tree.scandir real) : IsName name :=
  tree.names real name ((tree.mem_scandir real name).mp h)

theorem node_of_longer {name : String} {rest : List String}
    (h : tree.node (real ++ name :: rest) = some .directory) :
    tree.node (real ++ [name]) = some .directory := by
  cases rest with
  | nil => exact h
  | cons next rest =>
      have hsplit : real ++ name :: next :: rest = real ++ [name] ++ next :: rest := by
        rw [List.append_assoc, List.singleton_append]
      rw [hsplit] at h
      exact tree.isDirectory_iff.mp (isDirectory_of_isSome (by rw [h]; rfl))

/-- **The directories that are walked** are those that stand where the start lies, under names
    that are kept. -/
theorem mem_osWalk (hreal : tree.Locates top real)
    (hdirectory : tree.node real = some .directory) (hdepth : tree.height < real.length + depth)
    {entry : List String × List String} :
    entry ∈ tree.osWalk keep depth top ↔
      ∃ names, (∀ name ∈ names, keep name = true) ∧
        tree.node (real ++ names) = some .directory ∧
        entry = (top ++ names, (tree.scandir (real ++ names)).filter fun name =>
          !tree.isDir (top ++ names ++ [name])) := by
  induction depth generalizing top real with
  | zero =>
      have hheight := tree.length_le_height real (by rw [hdirectory]; rfl)
      omega
  | succ depth ih =>
      have hlisting : tree.listing top = some (tree.scandir real) :=
        listing_eq_some.mpr ⟨real, hreal, hdirectory, rfl⟩
      -- the walk of one of its directories, which lies below `real`
      have hbelow : ∀ {name}, tree.node (real ++ [name]) = some .directory →
          (entry ∈ tree.osWalk keep depth (top ++ [name]) ↔
            ∃ names, (∀ other ∈ names, keep other = true) ∧
              tree.node (real ++ name :: names) = some .directory ∧
              entry = (top ++ name :: names, (tree.scandir (real ++ name :: names)).filter
                fun other => !tree.isDir (top ++ name :: names ++ [other]))) := by
        intro name hnode
        have hname := (tree.names real name (by rw [hnode]; rfl)).1
        have hchild := Locates.child hreal hdirectory hname hnode fun _ h => by cases h
        have hmem := ih hchild hnode (by rw [List.length_append, List.length_singleton]; omega)
        simp only [List.append_assoc, List.singleton_append] at hmem ⊢
        exact hmem
      rw [osWalk, hlisting]
      dsimp only
      rw [List.mem_cons, List.mem_flatMap]
      constructor
      · rintro (rfl | ⟨name, hmem, hentry⟩)
        · refine ⟨[], fun _ h => absurd h List.not_mem_nil, ?_, ?_⟩
          · rwa [List.append_nil]
          · rw [List.append_nil, List.append_nil]
        · obtain ⟨hmem, hkeep⟩ := List.mem_filter.mp hmem
          obtain ⟨hmem, hdir⟩ := List.mem_filter.mp hmem
          split at hentry
          · cases hentry
          · next hlink =>
              have hnode := (walked_child_iff hreal hdirectory (isName_of_mem_scandir hmem).1).mp
                ⟨hdir, eq_false_of_ne_true hlink⟩
              obtain ⟨names, hnames, hstands, rfl⟩ := (hbelow hnode).mp hentry
              exact ⟨name :: names, List.forall_mem_cons.mpr ⟨hkeep, hnames⟩, hstands, rfl⟩
      · rintro ⟨names, hnames, hstands, rfl⟩
        cases names with
        | nil =>
            rw [List.append_nil, List.append_nil]
            exact .inl rfl
        | cons name names =>
            obtain ⟨hkeep, hnames⟩ := List.forall_mem_cons.mp hnames
            have hnode := node_of_longer hstands
            have hmem : name ∈ tree.scandir real :=
              (tree.mem_scandir real name).mpr (by rw [hnode]; rfl)
            obtain ⟨hdir, hlink⟩ :=
              (walked_child_iff hreal hdirectory (isName_of_mem_scandir hmem).1).mpr hnode
            refine .inr ⟨name, List.mem_filter.mpr ⟨List.mem_filter.mpr ⟨hmem, hdir⟩, hkeep⟩, ?_⟩
            rw [if_neg (by rw [hlink]; exact Bool.false_ne_true)]
            exact (hbelow hnode).mpr ⟨names, hnames, hstands, rfl⟩

variable {arrange : List String → List String}

/-- **The files that are walked past** are the entries of the directories that are walked which
    are no directories themselves. -/
theorem mem_walkedFiles (harrange : ∀ names, (arrange names).Perm names)
    (hreal : tree.Locates top real) (hdirectory : tree.node real = some .directory)
    {file : List String} :
    file ∈ tree.walkedFiles keep arrange top ↔
      ∃ names name, (∀ other ∈ names, keep other = true) ∧
        tree.node (real ++ names) = some .directory ∧
        (tree.node (real ++ names ++ [name])).isSome = true ∧
        tree.isDir (top ++ names ++ [name]) = false ∧ file = top ++ names ++ [name] := by
  unfold walkedFiles
  rw [List.mem_flatMap]
  have hdepth : tree.height < real.length + (tree.height + 1) := by omega
  constructor
  · rintro ⟨entry, hentry, hfile⟩
    obtain ⟨names, hnames, hstands, rfl⟩ := (mem_osWalk hreal hdirectory hdepth).mp hentry
    obtain ⟨name, hname, rfl⟩ := List.mem_map.mp hfile
    obtain ⟨hmem, hdir⟩ := List.mem_filter.mp ((harrange _).mem_iff.mp hname)
    exact ⟨names, name, hnames, hstands, (tree.mem_scandir _ name).mp hmem,
      by rwa [Bool.not_eq_true'] at hdir, rfl⟩
  · rintro ⟨names, name, hnames, hstands, hentry, hdir, rfl⟩
    refine ⟨_, (mem_osWalk hreal hdirectory hdepth).mpr ⟨names, hnames, hstands, rfl⟩, ?_⟩
    refine List.mem_map.mpr ⟨name, (harrange _).mem_iff.mpr (List.mem_filter.mpr ?_), rfl⟩
    exact ⟨(tree.mem_scandir _ name).mpr hentry, by rw [hdir]; rfl⟩

/-- What is walked lies below the start. -/
theorem append_of_mem_osWalk {entry : List String × List String}
    (h : entry ∈ tree.osWalk keep depth top) : ∃ names, entry.1 = top ++ names := by
  induction depth generalizing top with
  | zero => cases h
  | succ depth ih =>
      rw [osWalk] at h
      split at h
      · cases h
      · rcases List.mem_cons.mp h with rfl | h
        · exact ⟨[], (List.append_nil top).symm⟩
        · obtain ⟨name, -, hentry⟩ := List.mem_flatMap.mp h
          split at hentry
          · cases hentry
          · obtain ⟨names, hnames⟩ := ih hentry
            exact ⟨name :: names, by rw [hnames, List.append_assoc, List.singleton_append]⟩

/-- No file is walked past twice. -/
theorem nodup_walkedFiles (harrange : ∀ names, (arrange names).Perm names)
    (top : List String) : (tree.walkedFiles keep arrange top).Nodup := by
  unfold walkedFiles
  induction tree.height + 1 generalizing top with
  | zero => exact List.nodup_nil
  | succ depth ih =>
      rw [osWalk]
      split
      · exact List.nodup_nil
      · next names hlisting =>
          obtain ⟨real, -, -, rfl⟩ := listing_eq_some.mp hlisting
          -- what the walk of an own directory passes lies below it
          have hbelow : ∀ name file, (file ∈ (if tree.isSymlink (top ++ [name]) then []
              else tree.osWalk keep depth (top ++ [name])).flatMap
                fun entry => (arrange entry.2).map fun name => entry.1 ++ [name]) →
              ∃ rest, rest ≠ [] ∧ file = top ++ name :: rest := by
            intro name file hfile
            obtain ⟨entry, hentry, hfile⟩ := List.mem_flatMap.mp hfile
            obtain ⟨last, -, rfl⟩ := List.mem_map.mp hfile
            split at hentry
            · cases hentry
            · obtain ⟨rest, hrest⟩ := append_of_mem_osWalk hentry
              refine ⟨rest ++ [last], List.append_ne_nil_of_right_ne_nil _ (List.cons_ne_nil _ _), ?_⟩
              rw [hrest]
              simp only [List.append_assoc, List.cons_append, List.nil_append]
          rw [List.flatMap_cons, List.flatMap_assoc, List.nodup_append]
          refine ⟨?_, List.nodup_flatMap.mpr ⟨?_, ?_⟩, ?_⟩
          · refine List.Nodup.map (fun a b hab => List.singleton_inj.mp
              (List.append_cancel_left hab)) ?_
            exact (harrange _).nodup_iff.mpr ((tree.scandir_nodup real).filter _)
          · intro name _
            split
            · exact List.nodup_nil
            · exact ih (top ++ [name])
          · refine (((tree.scandir_nodup real).filter _).filter _).imp fun {a b} hne => ?_
            intro file ha hb
            obtain ⟨resta, -, rfl⟩ := hbelow a file ha
            obtain ⟨restb, -, heq⟩ := hbelow b _ hb
            exact hne (List.cons.inj (List.append_cancel_left heq)).1
          · intro a ha b hb hab
            obtain ⟨name, -, rfl⟩ := List.mem_map.mp ha
            obtain ⟨other, -, hb⟩ := List.mem_flatMap.mp hb
            obtain ⟨rest, hne, rfl⟩ := hbelow other b hb
            exact hne (List.cons.inj (List.append_cancel_left hab)).2.symm

end ListedTree

end Eag.Foundation
