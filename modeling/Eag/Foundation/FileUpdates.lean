/-
  Eag.Foundation.FileUpdates

  What changes a tree of files: `Path.touch`, `os.unlink`, `os.mkdir`, `Path.mkdir` with its
  parents, and `write_text`, for a process that may write some of the directories and files.

  A path without links (`LinkFree`) leads where it says, so that an update along it fills
  places on it and nothing else (`Fills`).
-/

import Eag.Foundation.FileTree

namespace Eag.Foundation.FileTree

variable {α : Type}

/-- Trees with the same nodes are the same. -/
theorem ext_node {tree tree' : FileTree α} (h : ∀ path, tree.node path = tree'.node path) :
    tree = tree' := by
  cases tree
  cases tree'
  obtain rfl := funext h
  rfl

/-! ## Single changes -/

/-- A file or a directory can be put there: in a directory, and not over one. -/
def Placeable (tree : FileTree α) (path : List String) : Prop :=
  (∃ name ∈ path.getLast?, IsName name) ∧ tree.isDirectory path.dropLast = true ∧
    tree.isDirectory path = false

instance (tree : FileTree α) (path : List String) : Decidable (tree.Placeable path) :=
  inferInstanceAs (Decidable (_ ∧ _))

theorem Placeable.ne_nil {tree : FileTree α} {path : List String} (h : tree.Placeable path) :
    path ≠ [] := by
  rintro rfl
  obtain ⟨⟨name, hname, -⟩, -⟩ := h
  cases hname

/-- The tree with a node at a path, where one can be put there. -/
def put (tree : FileTree α) (path : List String) (node : Node α) : FileTree α :=
  if h : tree.Placeable path then
    { node := fun other => if other = path then some node else tree.node other
      root_directory := by
        rw [if_neg h.ne_nil.symm]
        exact tree.root_directory
      parent_directory := by
        intro parent name hsome
        have hparent : tree.node parent = some .directory := by
          split at hsome
          · next heq =>
              have hdirectory := h.2.1
              rw [← heq, List.dropLast_concat] at hdirectory
              exact tree.isDirectory_iff.mp hdirectory
          · exact tree.parent_directory parent name hsome
        have hne : parent ≠ path := by
          rintro rfl
          have hdirectory := h.2.2
          rw [tree.isDirectory_iff.mpr hparent] at hdirectory
          cases hdirectory
        rw [if_neg hne]
        exact hparent
      names := by
        intro parent name hsome
        split at hsome
        · next heq =>
            obtain ⟨last, hlast, hname⟩ := h.1
            rw [← heq, List.getLast?_concat] at hlast
            rwa [Option.mem_some_iff.mp hlast]
        · exact tree.names parent name hsome }
  else tree

/-- The tree without what is at a path, if that is not a directory. -/
def remove (tree : FileTree α) (path : List String) : FileTree α :=
  if h : tree.isDirectory path = false then
    { node := fun other => if other = path then none else tree.node other
      root_directory := by
        rw [if_neg]
        · exact tree.root_directory
        · rintro rfl
          rw [tree.isDirectory_iff.mpr tree.root_directory] at h
          cases h
      parent_directory := by
        intro parent name hsome
        split at hsome
        · cases hsome
        · have hparent := tree.parent_directory parent name hsome
          rw [if_neg]
          · exact hparent
          · rintro rfl
            rw [tree.isDirectory_iff.mpr hparent] at h
            cases h
      names := by
        intro parent name hsome
        split at hsome
        · cases hsome
        · exact tree.names parent name hsome }
  else tree

theorem node_put {tree : FileTree α} {path : List String} (h : tree.Placeable path)
    (node : Node α) (other : List String) :
    (tree.put path node).node other = if other = path then some node else tree.node other := by
  rw [put, dif_pos h]

theorem node_remove {tree : FileTree α} {path : List String} (h : tree.isDirectory path = false)
    (other : List String) :
    (tree.remove path).node other = if other = path then none else tree.node other := by
  rw [remove, dif_pos h]

/-! ## Operations -/

/-- The lookup of a path whose last name may be missing, in a directory: what `open` creates. -/
def locateNames (tree : FileTree α)
    (follow : List String → List String → Except LookupError (List String)) :
    List String → List String → Except LookupError (List String)
  | current, [] => .ok current
  | current, name :: rest =>
      if tree.isDirectory current = false then .error .notDirectory
      else if name = "" ∨ name = "." then locateNames tree follow current rest
      else if name = ".." then locateNames tree follow current.dropLast rest
      else
        match tree.node (current ++ [name]) with
        | none => if rest = [] then .ok (current ++ [name]) else .error .missing
        | some (.symlink target) => follow (linkStart current target) (pathNames target ++ rest)
        | some _ => locateNames tree follow (current ++ [name]) rest

/-- The lookup with a number of links that may still be followed. -/
def locate (tree : FileTree α) : Nat → List String → List String →
    Except LookupError (List String)
  | 0 => tree.locateNames fun _ _ => .error .loop
  | links + 1 => tree.locateNames (locate tree links)

section

variable (writable : List String → Bool)

/-- `Path.touch`: none for an `OSError`. The times of what stands there are not modelled. -/
def touch (empty : α) (tree : FileTree α) (path : List String) : Option (FileTree α) :=
  match tree.locate maxLinks [] path with
  | .error _ => none
  | .ok place =>
      match tree.node place with
      | some _ => if writable place = true then some tree else none
      | none =>
          if writable place.dropLast = true ∧ tree.Placeable place then
            some (tree.put place (.file empty))
          else none

/-- `os.unlink`: none for an `OSError`. -/
def unlink (tree : FileTree α) (path : List String) : Option (FileTree α) :=
  match tree.walk false maxLinks [] path with
  | .error _ => none
  | .ok place =>
      if tree.isDirectory place = true ∨ writable place.dropLast = false then none
      else some (tree.remove place)

/-- How `os.mkdir` ends: with the directory, with `FileNotFoundError` or with another
    `OSError`. -/
inductive MkdirEnd (α : Type) where
  | made (tree : FileTree α)
  | missing
  | failed

/-- `os.mkdir` of the last name in the directory that the others lead to. -/
def mkdir (tree : FileTree α) (parent : List String) (name : String) : MkdirEnd α :=
  match tree.walk true maxLinks [] parent with
  | .error .missing => .missing
  | .error _ => .failed
  | .ok place =>
      if (tree.node (place ++ [name])).isSome = true then .failed
      else if writable place = true ∧ tree.Placeable (place ++ [name]) then
        .made (tree.put (place ++ [name]) .directory)
      else .failed

/-- `path.is_dir()`. -/
def isDir (tree : FileTree α) (path : List String) : Bool :=
  match tree.stat path with
  | .ok (some .directory) => true
  | _ => false

/-- `Path.mkdir(parents=True, exist_ok=True)` of a path whose names are given last first: the
    tree, and whether no error is raised. -/
def makeDirs (tree : FileTree α) : List String → FileTree α × Bool
  | [] => (tree, true)
  | name :: above =>
      match tree.mkdir writable above.reverse name with
      | .made made => (made, true)
      | .failed => (tree, tree.isDir (above.reverse ++ [name]))
      | .missing =>
          match makeDirs tree above with
          | (tree, false) => (tree, false)
          | (tree, true) =>
              match tree.mkdir writable above.reverse name with
              | .made made => (made, true)
              | .failed => (tree, tree.isDir (above.reverse ++ [name]))
              | .missing => (tree, false)

/-- `write_text`: none for an `OSError`. What is written to a device leaves the tree alone. -/
def writeData (tree : FileTree α) (path : List String) (data : α) : Option (FileTree α) :=
  match tree.locate maxLinks [] path with
  | .error _ => none
  | .ok place =>
      match tree.node place with
      | none =>
          if writable place.dropLast = true ∧ tree.Placeable place then
            some (tree.put place (.file data))
          else none
      | some (.file _) => if writable place = true then some (tree.put place (.file data)) else none
      | some .special => if writable place = true then some tree else none
      | some _ => none

end

/-! ## What updates fill -/

/-- Something is put at places on the path where nothing or a file was: a file or a
    directory. -/
def Fills (path : List String) (tree tree' : FileTree α) : Prop :=
  ∀ place, tree'.node place ≠ tree.node place →
    place <+: path ∧ (∀ node, tree.node place = some node → ∃ data, node = .file data) ∧
      ∃ node, tree'.node place = some node ∧ ∀ target, node ≠ .symlink target

theorem Fills.refl (path : List String) (tree : FileTree α) : Fills path tree tree :=
  fun _ h => absurd rfl h

theorem Fills.trans {path : List String} {tree tree' tree'' : FileTree α}
    (h : Fills path tree tree') (h' : Fills path tree' tree'') : Fills path tree tree'' := by
  intro place hplace
  by_cases hfirst : tree'.node place = tree.node place
  · rw [← hfirst] at hplace ⊢
    exact h' place hplace
  · obtain ⟨hwithin, hbefore, hafter⟩ := h place hfirst
    refine ⟨hwithin, hbefore, ?_⟩
    by_cases hsecond : tree''.node place = tree'.node place
    · rw [hsecond]
      exact hafter
    · exact (h' place hsecond).2.2

theorem Fills.mono {path longer : List String} {tree tree' : FileTree α}
    (h : Fills path tree tree') (hle : path <+: longer) : Fills longer tree tree' :=
  fun place hplace => ⟨(h place hplace).1.trans hle, (h place hplace).2⟩

/-- Directories stay. -/
theorem Fills.directory {path place : List String} {tree tree' : FileTree α}
    (h : Fills path tree tree') (hplace : tree.node place = some .directory) :
    tree'.node place = some .directory := by
  by_contra hne
  obtain ⟨-, hfile, -⟩ := h place fun heq => hne (heq.trans hplace)
  obtain ⟨data, hdata⟩ := hfile _ hplace
  cases hdata

/-- A path below a directory is filled below it. -/
theorem Fills.below {path root place : List String} {tree tree' : FileTree α}
    (h : Fills path tree tree') (hroot : tree.isDirectory root = true) (hpath : root <+: path)
    (hplace : tree'.node place ≠ tree.node place) : root <+: place := by
  obtain ⟨hwithin, hfile, -⟩ := h place hplace
  rcases List.prefix_or_prefix_of_prefix hpath hwithin with hbelow | ⟨rest, rfl⟩
  · exact hbelow
  · have hdirectory : tree.node place = some .directory := by
      cases rest with
      | nil =>
          rw [List.append_nil] at hroot
          exact tree.isDirectory_iff.mp hroot
      | cons name rest =>
          refine tree.isDirectory_iff.mp (@isDirectory_of_isSome _ _ _ rest name ?_)
          rw [tree.isDirectory_iff.mp hroot]
          rfl
    obtain ⟨data, hdata⟩ := hfile _ hdirectory
    cases hdata

theorem fills_put {tree : FileTree α} {path : List String} {node : Node α}
    (hfile : ∀ node, tree.node path = some node → ∃ data, node = .file data)
    (hnode : ∀ target, node ≠ .symlink target) : Fills path tree (tree.put path node) := by
  by_cases hplaceable : tree.Placeable path
  · intro place hplace
    rw [node_put hplaceable] at hplace ⊢
    by_cases heq : place = path
    · subst heq
      rw [if_pos rfl]
      exact ⟨List.prefix_rfl, hfile, node, rfl, hnode⟩
    · rw [if_neg heq] at hplace
      exact absurd rfl hplace
  · rw [put, dif_neg hplaceable]
    exact .refl path tree

/-! ## Paths without links -/

/-- The names are plain, and no link stands on the path. -/
structure LinkFree (tree : FileTree α) (path : List String) : Prop where
  names : ∀ name ∈ path, IsPlain name
  links : ∀ before, before <+: path → ∀ target, tree.node before ≠ some (.symlink target)

section LinkFree

variable {tree tree' : FileTree α} {path names rest current root : List String} {name : String}

theorem linkFree_nil (tree : FileTree α) : tree.LinkFree [] := by
  refine ⟨nofun, fun before hbefore target h => ?_⟩
  rw [List.prefix_nil.mp hbefore, tree.root_directory] at h
  cases h

theorem LinkFree.of_prefix (h : tree.LinkFree path) (hle : current <+: path) :
    tree.LinkFree current :=
  ⟨fun name hname => h.names name (hle.subset hname), fun before hbefore =>
    h.links before (hbefore.trans hle)⟩

theorem LinkFree.dropLast (h : tree.LinkFree path) : tree.LinkFree path.dropLast :=
  h.of_prefix (List.dropLast_prefix path)

/-- Updates make no links and take none away. -/
theorem Fills.linkFree_iff (h : Fills path tree tree') {other : List String} :
    tree'.LinkFree other ↔ tree.LinkFree other := by
  have hlink : ∀ place target, tree'.node place = some (.symlink target) ↔
      tree.node place = some (.symlink target) := by
    intro place target
    by_cases hsame : tree'.node place = tree.node place
    · rw [hsame]
    · obtain ⟨-, hfile, node, hnode, hnot⟩ := h place hsame
      refine iff_of_false (fun hafter => ?_) fun hbefore => ?_
      · exact hnot target (Option.some.inj (hnode.symm.trans hafter))
      · obtain ⟨data, hdata⟩ := hfile _ hbefore
        cases hdata
  constructor
  · intro hother
    exact ⟨hother.names, fun before hle target hnode =>
      hother.links before hle target ((hlink before target).mpr hnode)⟩
  · intro hother
    exact ⟨hother.names, fun before hle target hnode =>
      hother.links before hle target ((hlink before target).mp hnode)⟩

/-- A lookup along a path without links ends there. -/
theorem walkNames_of_linkFree
    {follow : List String → List String → Except LookupError (List String)} {followLast : Bool}
    (h : tree.LinkFree (current ++ names)) {place : List String}
    (hwalk : tree.walkNames follow followLast current names = .ok place) :
    place = current ++ names := by
  induction names generalizing current with
  | nil =>
      rw [List.append_nil]
      exact (Except.ok.inj hwalk).symm
  | cons name rest ih =>
      have hsplit : current ++ name :: rest = current ++ [name] ++ rest := by
        rw [List.append_assoc, List.singleton_append]
      have hname := h.names name (List.mem_append_right _ List.mem_cons_self)
      have hlink := h.links (current ++ [name]) (hsplit ▸ List.prefix_append _ rest)
      rw [walkNames] at hwalk
      by_cases hdirectory : tree.isDirectory current = false
      · rw [if_pos hdirectory] at hwalk
        cases hwalk
      rw [if_neg hdirectory, if_neg (not_or.mpr ⟨hname.1, hname.2.1⟩), if_neg hname.2.2] at hwalk
      rw [hsplit] at h ⊢
      cases hnode : tree.node (current ++ [name]) with
      | none =>
          rw [hnode] at hwalk
          cases hwalk
      | some node =>
          rw [hnode] at hwalk
          cases node with
          | symlink target => exact absurd hnode (hlink target)
          | directory => exact ih h hwalk
          | file data => exact ih h hwalk
          | special => exact ih h hwalk

theorem walk_of_linkFree {followLast : Bool} {links : Nat} (h : tree.LinkFree path)
    {place : List String} (hwalk : tree.walk followLast links [] path = .ok place) :
    place = path := by
  cases links with
  | zero => exact walkNames_of_linkFree h hwalk
  | succ links => exact walkNames_of_linkFree h hwalk

/-- There is no link at its end. -/
theorem LinkFree.isSymlink (h : tree.LinkFree path) : tree.isSymlink path = false := by
  unfold FileTree.isSymlink lstat
  cases hwalk : tree.walk false maxLinks [] path with
  | error error => rfl
  | ok place =>
      obtain rfl := walk_of_linkFree h hwalk
      rw [show (Except.ok place : Except LookupError (List String)).map tree.node
        = .ok (tree.node place) from rfl]
      split
      · next target hlink => exact absurd (Except.ok.inj hlink) (h.links place List.prefix_rfl _)
      · rfl

theorem locateNames_of_linkFree
    {follow : List String → List String → Except LookupError (List String)}
    (h : tree.LinkFree (current ++ names)) {place : List String}
    (hlocate : tree.locateNames follow current names = .ok place) : place = current ++ names := by
  induction names generalizing current with
  | nil =>
      rw [List.append_nil]
      exact (Except.ok.inj hlocate).symm
  | cons name rest ih =>
      have hsplit : current ++ name :: rest = current ++ [name] ++ rest := by
        rw [List.append_assoc, List.singleton_append]
      have hname := h.names name (List.mem_append_right _ List.mem_cons_self)
      have hlink := h.links (current ++ [name]) (hsplit ▸ List.prefix_append _ rest)
      rw [locateNames] at hlocate
      by_cases hdirectory : tree.isDirectory current = false
      · rw [if_pos hdirectory] at hlocate
        cases hlocate
      rw [if_neg hdirectory, if_neg (not_or.mpr ⟨hname.1, hname.2.1⟩),
        if_neg hname.2.2] at hlocate
      rw [hsplit] at h ⊢
      cases hnode : tree.node (current ++ [name]) with
      | none =>
          rw [hnode] at hlocate
          dsimp only at hlocate
          split at hlocate
          · next hrest =>
              subst hrest
              rw [List.append_nil]
              exact (Except.ok.inj hlocate).symm
          · cases hlocate
      | some node =>
          rw [hnode] at hlocate
          cases node with
          | symlink target => exact absurd hnode (hlink target)
          | directory => exact ih h hlocate
          | file data => exact ih h hlocate
          | special => exact ih h hlocate

theorem locate_of_linkFree {links : Nat} (h : tree.LinkFree path) {place : List String}
    (hlocate : tree.locate links [] path = .ok place) : place = path := by
  cases links with
  | zero => exact locateNames_of_linkFree h hlocate
  | succ links => exact locateNames_of_linkFree h hlocate

variable {writable : List String → Bool}

theorem mkdir_fills {made : FileTree α} (h : tree.LinkFree path)
    (hmade : tree.mkdir writable path name = .made made) :
    Fills (path ++ [name]) tree made := by
  unfold mkdir at hmade
  cases hwalk : tree.walk true maxLinks [] path with
  | error e =>
      rw [hwalk] at hmade
      cases e <;> cases hmade
  | ok place =>
      rw [hwalk] at hmade
      obtain rfl := walk_of_linkFree h hwalk
      dsimp only at hmade
      by_cases hsome : (tree.node (place ++ [name])).isSome = true
      · rw [if_pos hsome] at hmade
        cases hmade
      rw [if_neg hsome] at hmade
      split at hmade
      · obtain rfl := MkdirEnd.made.inj hmade
        refine fills_put (fun node hnode => ?_) nofun
        rw [hnode] at hsome
        exact absurd rfl hsome
      · cases hmade

/-- **`mkdir` with its parents** fills the path, also where it fails. -/
theorem makeDirs_fills (reversed : List String) (h : tree.LinkFree reversed.reverse) :
    Fills reversed.reverse tree (tree.makeDirs writable reversed).1 := by
  induction reversed generalizing tree with
  | nil => exact .refl _ tree
  | cons name above ih =>
      rw [List.reverse_cons] at h ⊢
      have habove : tree.LinkFree above.reverse := h.of_prefix (List.prefix_append _ _)
      unfold makeDirs
      cases hmkdir : tree.mkdir writable above.reverse name with
      | made made => exact mkdir_fills habove hmkdir
      | failed => exact .refl _ tree
      | missing =>
          have hparents := ih habove
          dsimp only
          generalize tree.makeDirs writable above = result at hparents ⊢
          obtain ⟨made, ok⟩ := result
          have hlonger := hparents.mono (List.prefix_append above.reverse [name])
          cases ok with
          | false => exact hlonger
          | true =>
              dsimp only
              cases hagain : made.mkdir writable above.reverse name with
              | made last =>
                  exact hlonger.trans (mkdir_fills (hparents.linkFree_iff.mpr habove) hagain)
              | failed => exact hlonger
              | missing => exact hlonger

theorem writeData_fills {data : α} (h : tree.LinkFree path)
    (hwrite : tree.writeData writable path data = some tree') : Fills path tree tree' := by
  unfold writeData at hwrite
  cases hlocate : tree.locate maxLinks [] path with
  | error e =>
      rw [hlocate] at hwrite
      cases hwrite
  | ok place =>
      rw [hlocate] at hwrite
      obtain rfl := locate_of_linkFree h hlocate
      dsimp only at hwrite
      rcases hnode : tree.node place with _ | _ | old | target | _
      · rw [hnode] at hwrite
        dsimp only at hwrite
        split at hwrite
        · obtain rfl := Option.some.inj hwrite
          exact fills_put (fun node h => by rw [hnode] at h; cases h) nofun
        · cases hwrite
      · rw [hnode] at hwrite
        cases hwrite
      · rw [hnode] at hwrite
        dsimp only at hwrite
        split at hwrite
        · obtain rfl := Option.some.inj hwrite
          refine fills_put (fun node h => ⟨old, ?_⟩) nofun
          exact Option.some.inj (h.symm.trans hnode)
        · cases hwrite
      · rw [hnode] at hwrite
        cases hwrite
      · rw [hnode] at hwrite
        dsimp only at hwrite
        split at hwrite
        · obtain rfl := Option.some.inj hwrite
          exact .refl place tree
        · cases hwrite

/-! ## What `realpath` resolves -/

/-- Every link that was seen resolved to a path without links. -/
def SeenLinkFree (tree : FileTree α) (seen : Seen) : Prop :=
  ∀ link resolved, (link, some resolved) ∈ seen → tree.LinkFree resolved

/-- A name on a path without links, where no link was found. -/
theorem LinkFree.snoc (h : tree.LinkFree path) (hname : IsPlain name)
    (hlink : ∀ target, tree.lstat (path ++ [name]) ≠ .ok (some (.symlink target))) :
    tree.LinkFree (path ++ [name]) := by
  constructor
  · intro other hother
    rcases List.mem_append.mp hother with hother | hother
    · exact h.names other hother
    · rwa [List.mem_singleton.mp hother]
  · intro before hbefore target hnode
    rcases List.prefix_concat_iff.mp hbefore with rfl | hbefore
    · -- A link stands in a directory, where it is found.
      have hdirectory : tree.isDirectory path = true :=
        tree.isDirectory_iff.mpr (tree.parent_directory path name (by rw [hnode]; rfl))
      refine hlink target ?_
      rw [lstat_append (stands_of_isDirectory hdirectory) hname,
        if_neg (ne_false_of_eq_true hdirectory), hnode]
    · exact h.links before hbefore target hnode

variable {strict : Bool} {seen : Seen} {joined : Joined}
  {follow : Seen → List String → List String → Except ResolveError Joined}

/-- What the resolution of a part of a path does: resolved completely, it is without links. -/
def ResolvesLinkFree (tree : FileTree α) (joined : Joined) : Prop :=
  joined.2.1 = true → tree.LinkFree joined.1 ∧ tree.SeenLinkFree joined.2.2

section

variable (hfollow : ∀ {seen path names joined}, tree.SeenLinkFree seen → tree.LinkFree path →
  follow seen path names = .ok joined → tree.ResolvesLinkFree joined)
include hfollow

theorem resolveName_linkFree (hseen : tree.SeenLinkFree seen) (hpath : tree.LinkFree path)
    (h : tree.resolveName strict follow seen path name = .ok joined) :
    tree.ResolvesLinkFree joined := by
  intro hcomplete
  unfold resolveName at h
  by_cases hskip : name = "" ∨ name = "."
  · rw [if_pos hskip] at h
    cases h
    exact ⟨hpath, hseen⟩
  rw [if_neg hskip] at h
  by_cases hparent : name = ".."
  · rw [if_pos hparent] at h
    cases h
    exact ⟨hpath.dropLast, hseen⟩
  rw [if_neg hparent] at h
  by_cases hnull : Char.ofNat 0 ∈ name.toList
  · rw [if_pos hnull] at h
    cases h
  rw [if_neg hnull] at h
  have hplain : IsPlain name := ⟨(not_or.mp hskip).1, (not_or.mp hskip).2, hparent⟩
  rcases hlstat : tree.lstat (path ++ [name]) with error | _ | _ | data | target | _
  · rw [hlstat] at h
    dsimp only at h
    split at h
    · cases h
    · cases h
      exact ⟨hpath.snoc hplain fun _ heq => (nomatch hlstat.symm.trans heq), hseen⟩
  · rw [hlstat] at h
    cases h
    exact ⟨hpath.snoc hplain fun _ heq => (nomatch hlstat.symm.trans heq), hseen⟩
  · rw [hlstat] at h
    cases h
    exact ⟨hpath.snoc hplain fun _ heq => (nomatch hlstat.symm.trans heq), hseen⟩
  · rw [hlstat] at h
    cases h
    exact ⟨hpath.snoc hplain fun _ heq => (nomatch hlstat.symm.trans heq), hseen⟩
  · rw [hlstat] at h
    dsimp only at h
    rcases hlookup : seen.lookup (path ++ [name]) with _ | _ | resolved
    · rw [hlookup] at h
      dsimp only at h
      have hpending : tree.SeenLinkFree ((path ++ [name], none) :: seen) := by
        intro link resolved hmem
        rcases List.mem_cons.mp hmem with heq | hmem
        · cases heq
        · exact hseen link resolved hmem
      have hstart : tree.LinkFree (linkStart path target) := by
        unfold linkStart
        split
        · exact linkFree_nil tree
        · exact hpath
      rcases hlink : follow ((path ++ [name], none) :: seen) (linkStart path target)
          (pathNames target) with error | ⟨resolved, complete, seen'⟩
      · rw [hlink] at h
        cases h
      · have hresolves := hfollow hpending hstart hlink
        rw [hlink] at h
        cases complete with
        | false =>
            cases h
            cases hcomplete
        | true =>
            cases h
            obtain ⟨hresolved, hseen'⟩ := hresolves rfl
            refine ⟨hresolved, fun link other hmem => ?_⟩
            rcases List.mem_cons.mp hmem with heq | hmem
            · cases heq
              exact hresolved
            · exact hseen' link other hmem
    · rw [hlookup] at h
      dsimp only at h
      split at h
      · cases h
      · cases h
        cases hcomplete
    · rw [hlookup] at h
      cases h
      obtain ⟨before, after, hsplit, -⟩ := List.lookup_eq_some_iff.mp hlookup
      exact ⟨hseen (path ++ [name]) resolved (by rw [hsplit]; simp), hseen⟩
  · rw [hlstat] at h
    cases h
    exact ⟨hpath.snoc hplain fun _ heq => (nomatch hlstat.symm.trans heq), hseen⟩

theorem resolveNames_linkFree (hseen : tree.SeenLinkFree seen) (hpath : tree.LinkFree path)
    (h : tree.resolveNames strict follow seen path names = .ok joined) :
    tree.ResolvesLinkFree joined := by
  induction names generalizing seen path with
  | nil =>
      cases h
      exact fun _ => ⟨hpath, hseen⟩
  | cons name names ih =>
      rw [resolveNames] at h
      rcases hresolved : tree.resolveName strict follow seen path name with
        error | ⟨resolved, _ | _, seen'⟩
      · rw [hresolved] at h
        cases h
      · rw [hresolved] at h
        cases h
        exact fun h => by cases h
      · obtain ⟨hlinkFree, hseen'⟩ := resolveName_linkFree hfollow hseen hpath hresolved rfl
        rw [hresolved] at h
        exact ih hseen' hlinkFree h

end

/-- **What is resolved completely is a path without links.** -/
theorem linkFree_of_joinRealpath {depth : Nat} (hseen : tree.SeenLinkFree seen)
    (hpath : tree.LinkFree path)
    (h : tree.joinRealpath strict depth seen path names = .ok joined) :
    tree.ResolvesLinkFree joined := by
  -- the calls for the targets of links are one level down
  induction depth generalizing seen path names joined with
  | zero => exact resolveNames_linkFree (fun _ _ h => by cases h) hseen hpath h
  | succ depth ih =>
      exact resolveNames_linkFree (fun hseen hpath h => ih hseen hpath h) hseen hpath h

end LinkFree

end Eag.Foundation.FileTree
