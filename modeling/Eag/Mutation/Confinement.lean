/-
  Eag.Mutation.Confinement

  The path that the mutation policy validates, over a tree of files with symbolic links, and
  the path that the runtime writes at.

  `resolveSafeTargetIn` is the walk of the policy over the tree. `resolveSafeTargetIn_eq` says
  that `resolveSafeTarget` is this walk over the workspace below the root.
-/

import Eag.Foundation.FileTree
import Eag.Mutation.AuthorizationRuns

namespace Eag.Mutation

open Eag.Foundation

/-! ## The workspace below a root -/

/-- The bytes of a file, as the policy reads them. -/
def readData (bytes : ByteArray) : FileData :=
  match String.fromUTF8? bytes with
  | some content => .text content
  | none => .undecodable bytes.data.toList

/-- What stands at a path, itself not followed. -/
def entryOf (tree : FileTree ByteArray) (path : List String) : Option Entry :=
  match tree.lstat path with
  | .ok (some .directory) => some .directory
  | .ok (some (.file bytes)) => some (.file (readData bytes))
  | .ok (some (.symlink _)) => some (.symlink (tree.pathExists path))
  | .ok (some .special) => some .special
  | _ => none

/-- The workspace below a root, whose device and inode are given. -/
def workspaceOf (rootIdentity : String) (tree : FileTree ByteArray) (root : List String) :
    Workspace where
  rootIdentity := rootIdentity
  entries path := entryOf tree (root ++ path)

/-! ## The walk -/

/-- How `_resolve_safe_target` ends without a target: with a violation, or with an error of
    `resolve`. -/
inductive TargetError where
  | rejected (violation : MutationViolation)
  | raised (error : FileTree.ResolveError)

section

variable (policy : MutationPolicy) (tree : FileTree ByteArray) (proposal : ChangeProposal)

/-- The loop of `_resolve_safe_target` over the parents. -/
def resolveParentsIn (current : List String) :
    List String → Except MutationViolation (List String)
  | [] => .ok current
  | component :: rest => do
      let current := current ++ [component]
      require (tree.pathExists current = true)
        (policy.violation .parentMissing "target parent directory does not exist" proposal)
      match tree.lstat current with
      | .ok (some (.symlink _)) =>
          .error (policy.violation .symlinkPath "symlink parent is forbidden" proposal)
      | .ok (some .directory) => resolveParentsIn current rest
      | _ => .error (policy.violation .pathEscape "target parent is not a directory" proposal)

/-- `_resolve_safe_target`. -/
def resolveSafeTargetIn (depth : Nat) (root relative : List String) :
    Except TargetError (List String) := do
  let parent ← (resolveParentsIn policy tree proposal root relative.dropLast).mapError .rejected
  let target := parent ++ relative.getLast?.toList
  if tree.isSymlink target then
    .error (.rejected (policy.violation .symlinkPath "symlink target is forbidden" proposal))
  else
    let resolved ← (tree.resolve true depth target.dropLast).mapError .raised
    if root <+: resolved then .ok target
    else
      .error (.rejected (policy.violation .pathEscape "target escapes workspace root" proposal))

end

/-! ## The path of the runtime -/

/-- `root.joinpath(*segments)`: an absolute segment starts anew. -/
def joinpath (root : List String) (segments : List String) : List String :=
  segments.foldl (fun path segment =>
    if isAbsolutePath segment then posixParts segment else path ++ posixParts segment) root

/-- `_target_path`. -/
def runtimeTarget (workspaceRoot : List String) (proposal : ChangeProposal) : List String :=
  joinpath workspaceRoot (pathNames proposal.targetPath)

/-- What stands between separators are parts of the text without one. -/
theorem of_mem_splitOn {α : Type} [DecidableEq α] {separator : α} {text piece : List α}
    (h : piece ∈ text.splitOn separator) : separator ∉ piece ∧ piece ⊆ text := by
  induction text generalizing piece with
  | nil =>
      rw [List.splitOn_nil, List.mem_singleton] at h
      rw [h]
      exact ⟨List.not_mem_nil, List.Subset.refl _⟩
  | cons c text ih =>
      rw [List.splitOn_cons_eq_if_modifyHead] at h
      split at h
      · rcases List.mem_cons.mp h with rfl | h
        · exact ⟨List.not_mem_nil, List.nil_subset _⟩
        · exact ⟨(ih h).1, List.subset_cons_of_subset _ (ih h).2⟩
      · next hc =>
          obtain ⟨first, rest, hsplit⟩ := List.exists_cons_of_ne_nil
            (List.splitOn_ne_nil separator text)
          rw [hsplit] at ih h
          rw [List.modifyHead_cons] at h
          rcases List.mem_cons.mp h with rfl | h
          · obtain ⟨hnot, hsubset⟩ := ih List.mem_cons_self
            refine ⟨?_, List.cons_subset_cons c hsubset⟩
            rw [List.mem_cons, not_or]
            exact ⟨fun hsame => hc (by rw [hsame, beq_self_eq_true]), hnot⟩
          · obtain ⟨hnot, hsubset⟩ := ih (List.mem_cons_of_mem _ h)
            exact ⟨hnot, List.subset_cons_of_subset _ hsubset⟩

/-- A segment between separators has no name but itself. -/
theorem posixParts_of_not_mem {segment : String} (h : '/' ∉ segment.toList) :
    posixParts segment = [segment].filter fun part => part ≠ "" ∧ part ≠ "." := by
  unfold posixParts
  rw [List.splitOn_eq_singleton h, List.map_singleton, String.ofList_toList]

theorem joinpath_eq {root segments : List String}
    (h : ∀ segment ∈ segments, '/' ∉ segment.toList) :
    joinpath root segments = root ++ segments.filter fun part => part ≠ "" ∧ part ≠ "." := by
  induction segments generalizing root with
  | nil => exact (List.append_nil root).symm
  | cons segment rest ih =>
      have hsegment := h segment List.mem_cons_self
      have hrelative : isAbsolutePath segment = false := by
        unfold isAbsolutePath
        rw [decide_eq_false_iff_not]
        intro hhead
        exact hsegment (List.mem_of_mem_head? hhead)
      have hstep : joinpath root (segment :: rest) =
          joinpath (root ++ posixParts segment) rest := by
        unfold joinpath
        rw [List.foldl_cons, hrelative]
        rfl
      rw [hstep, ih fun other hother => h other (List.mem_cons_of_mem _ hother),
        posixParts_of_not_mem hsegment, List.append_assoc, ← List.filter_append,
        List.singleton_append]

/-- **The runtime writes at the names of the proposal's path, below its root.** -/
theorem runtimeTarget_eq (workspaceRoot : List String) (proposal : ChangeProposal) :
    runtimeTarget workspaceRoot proposal = workspaceRoot ++ posixParts proposal.targetPath := by
  refine joinpath_eq fun segment hsegment => ?_
  obtain ⟨piece, hpiece, rfl⟩ := List.mem_map.mp hsegment
  rw [String.toList_ofList]
  exact (of_mem_splitOn hpiece).1

/-! ## The walk and the workspace -/

section

variable {policy : MutationPolicy} {tree : FileTree ByteArray} {proposal : ChangeProposal}
  {rootIdentity : String} {root current : List String}

/-- What stands below a path that stands, itself not followed. -/
theorem entryOf_append {name : String} (hcurrent : tree.Stands current) (hname : IsPlain name) :
    entryOf tree (current ++ [name]) =
      if tree.isDirectory current = false then none
      else
        match tree.node (current ++ [name]) with
        | none => none
        | some .directory => some .directory
        | some (.file bytes) => some (.file (readData bytes))
        | some (.symlink _) => some (.symlink (tree.pathExists (current ++ [name])))
        | some .special => some .special := by
  rw [entryOf, FileTree.lstat_append hcurrent hname]
  by_cases hdirectory : tree.isDirectory current = false
  · rw [if_pos hdirectory, if_pos hdirectory]
  · rw [if_neg hdirectory, if_neg hdirectory]
    cases tree.node (current ++ [name]) with
    | none => rfl
    | some node => cases node <;> rfl

/-- What exists below a path that stands. -/
theorem stands_entryOf {name : String} (hcurrent : tree.Stands current) (hname : IsPlain name) :
    ((entryOf tree (current ++ [name])).map Entry.stands).getD false =
      tree.pathExists (current ++ [name]) := by
  rw [entryOf_append hcurrent hname]
  by_cases hdirectory : tree.isDirectory current = false
  · rw [if_pos hdirectory, FileTree.not_pathExists_of_child hcurrent hname fun h => by
      rw [hdirectory] at h
      cases h]
    rfl
  · rw [if_neg hdirectory]
    cases hnode : tree.node (current ++ [name]) with
    | none =>
        rw [FileTree.not_pathExists_of_child hcurrent hname fun _ => hnode]
        rfl
    | some node =>
        cases node with
        | symlink target => rfl
        | directory =>
            exact (FileTree.pathExists_of_stands ⟨_, hnode, fun _ h => nomatch h⟩).symm
        | file data =>
            exact (FileTree.pathExists_of_stands ⟨_, hnode, fun _ h => nomatch h⟩).symm
        | special =>
            exact (FileTree.pathExists_of_stands ⟨_, hnode, fun _ h => nomatch h⟩).symm

/-- What is seen as a link is one. -/
theorem entryOf_isSymlink (tree : FileTree ByteArray) (path : List String) :
    (match entryOf tree path with
      | some (.symlink _) => true
      | _ => false) = tree.isSymlink path := by
  unfold entryOf FileTree.isSymlink
  rcases tree.lstat path with error | _ | node
  · rfl
  · rfl
  · cases node <;> rfl

/-- The loop over the parents, over the tree and over the workspace. -/
theorem resolveParentsIn_eq {components : List String}
    (hnames : ∀ component ∈ components, IsPlain component)
    (hcurrent : tree.Stands (root ++ current)) :
    resolveParentsIn policy tree proposal (root ++ current) components =
      (resolveParents policy (workspaceOf rootIdentity tree root) proposal current
        components).map (root ++ ·) := by
  induction components generalizing current with
  | nil => rfl
  | cons component rest ih =>
      have hname := hnames component List.mem_cons_self
      have hstands : (workspaceOf rootIdentity tree root).stands (current ++ [component]) =
          tree.pathExists (root ++ current ++ [component]) := by
        rw [List.append_assoc]
        unfold Workspace.stands workspaceOf
        dsimp only
        rw [← List.append_assoc]
        exact stands_entryOf hcurrent hname
      have hentry : (workspaceOf rootIdentity tree root).entries (current ++ [component]) =
          entryOf tree (root ++ current ++ [component]) := by
        rw [List.append_assoc]
        rfl
      rw [resolveParentsIn, resolveParents, hstands, hentry]
      by_cases hexists : tree.pathExists (root ++ current ++ [component]) = true
      · rw [require_of _ _ hexists, except_ok_bind, except_ok_bind]
        have hdirectory : tree.isDirectory (root ++ current) = true := by
          by_contra hnot
          rw [FileTree.not_pathExists_of_child hcurrent hname fun h => absurd h hnot] at hexists
          cases hexists
        rw [FileTree.lstat_append hcurrent hname, entryOf_append hcurrent hname,
          if_neg (ne_false_of_eq_true hdirectory), if_neg (ne_false_of_eq_true hdirectory)]
        cases hnode : tree.node (root ++ current ++ [component]) with
        | none => rfl
        | some node =>
            cases node with
            | directory =>
                have hnext : tree.Stands (root ++ (current ++ [component])) := by
                  rw [← List.append_assoc]
                  exact ⟨_, hnode, fun _ h => by cases h⟩
                have hrest := ih (fun other hother =>
                  hnames other (List.mem_cons_of_mem _ hother)) hnext
                rw [← List.append_assoc] at hrest
                exact hrest
            | file bytes => rfl
            | symlink target => rfl
            | special => rfl
      · unfold require
        rw [if_neg hexists]
        rfl

/-- A loop over the parents that ends, ends in a directory below the root. -/
theorem stands_of_resolveParentsIn {components : List String} {parent : List String}
    (hnames : ∀ component ∈ components, IsPlain component) (hcurrent : tree.Stands current)
    (h : resolveParentsIn policy tree proposal current components = .ok parent) :
    parent = current ++ components ∧ tree.Stands parent := by
  induction components generalizing current with
  | nil =>
      cases h
      exact ⟨(List.append_nil _).symm, hcurrent⟩
  | cons component rest ih =>
      rw [resolveParentsIn] at h
      simp only [except_bind_eq_ok, require_eq_ok] at h
      obtain ⟨-, hexists, h⟩ := h
      have hname := hnames component List.mem_cons_self
      have hdirectory : tree.isDirectory current = true := by
        by_contra hnot
        rw [FileTree.not_pathExists_of_child hcurrent hname fun h => absurd h hnot] at hexists
        cases hexists
      rw [FileTree.lstat_append hcurrent hname, if_neg (ne_false_of_eq_true hdirectory)] at h
      cases hnode : tree.node (current ++ [component]) with
      | none =>
          rw [hnode] at h
          cases h
      | some node =>
          rw [hnode] at h
          cases node with
          | directory =>
              obtain ⟨hparent, hstands⟩ := ih (fun other hother =>
                hnames other (List.mem_cons_of_mem _ hother)) ⟨_, hnode, fun _ h => by cases h⟩ h
              rw [List.append_assoc, List.singleton_append] at hparent
              exact ⟨hparent, hstands⟩
          | file bytes => cases h
          | symlink target => cases h
          | special => cases h

/-- **`_resolve_safe_target` over the tree is the one over the workspace below the root.** Its
    parents stand, so that its containment check never fails. -/
theorem resolveSafeTargetIn_eq (depth : Nat) {relative : List String}
    (hnames : ∀ name ∈ relative, IsPlain name) (hne : relative ≠ [])
    (hroot : tree.Stands root) :
    resolveSafeTargetIn policy tree proposal depth root relative =
      ((resolveSafeTarget policy (workspaceOf rootIdentity tree root) proposal relative).map
        (root ++ ·)).mapError .rejected := by
  have hparents := fun name hname => hnames name (List.dropLast_subset relative hname)
  have hloop := @resolveParentsIn_eq policy tree proposal rootIdentity root [] relative.dropLast
    hparents (by rwa [List.append_nil])
  rw [List.append_nil] at hloop
  unfold resolveSafeTargetIn resolveSafeTarget
  rw [hloop]
  cases hparent : resolveParents policy (workspaceOf rootIdentity tree root) proposal []
      relative.dropLast with
  | error violation => rfl
  | ok parent =>
      rw [hparent] at hloop
      obtain ⟨hpath, hstands⟩ := stands_of_resolveParentsIn hparents hroot hloop
      have hlast := List.getLast?_eq_some_getLast hne
      have htarget : (root ++ parent ++ [relative.getLast hne]).dropLast = root ++ parent :=
        List.dropLast_concat
      have hlink := entryOf_isSymlink tree (root ++ parent ++ [relative.getLast hne])
      rw [hlast]
      simp only [Except.map, Except.mapError, Option.toList_some, except_ok_bind, htarget,
        FileTree.resolve_of_stands true depth hstands]
      have hentry : (workspaceOf rootIdentity tree root).entries
          (parent ++ [relative.getLast hne]) =
          entryOf tree (root ++ parent ++ [relative.getLast hne]) := by
        rw [List.append_assoc]
        rfl
      rw [hentry, ← hlink, if_pos (List.prefix_append root parent)]
      rcases entryOf tree (root ++ parent ++ [relative.getLast hne]) with _ | entry
      · rw [List.append_assoc]
        rfl
      · rw [List.append_assoc]
        cases entry <;> rfl

/-- A target that the walk over the tree accepts is below the root, and goes through no
    link. -/
theorem unlinked_of_resolveSafeTargetIn {depth : Nat} {relative target : List String}
    (hnames : ∀ name ∈ relative, IsPlain name) (hne : relative ≠ [])
    (hroot : tree.Stands root)
    (h : resolveSafeTargetIn policy tree proposal depth root relative = .ok target) :
    target = root ++ relative ∧
      ∀ before, before ≠ [] → before <+: relative → tree.isSymlink (root ++ before) = false := by
  have hsplit := List.dropLast_append_getLast hne
  unfold resolveSafeTargetIn at h
  rw [List.getLast?_eq_some_getLast hne] at h
  cases hloop : resolveParentsIn policy tree proposal root relative.dropLast with
  | error violation =>
      rw [hloop] at h
      cases h
  | ok parent =>
      obtain ⟨rfl, hstands⟩ := stands_of_resolveParentsIn (fun name hname =>
        hnames name (List.dropLast_subset relative hname)) hroot hloop
      rw [hloop] at h
      simp only [Except.mapError, except_ok_bind, Option.toList_some, List.append_assoc,
        hsplit] at h
      by_cases hlink : tree.isSymlink (root ++ relative) = true
      · rw [if_pos hlink] at h
        cases h
      rw [if_neg hlink] at h
      simp only [except_bind_eq_ok] at h
      obtain ⟨resolved, -, h⟩ := h
      split at h
      · cases h
        refine ⟨rfl, fun before hbeforeNe hbefore => ?_⟩
        rw [← hsplit, List.prefix_concat_iff] at hbefore
        rcases hbefore with hlast | ⟨rest, hrest⟩
        · rw [hlast, hsplit]
          exact eq_false_of_ne_true hlink
        · rw [← hrest, ← List.append_assoc] at hstands
          exact FileTree.isSymlink_of_stands hstands.of_append
      · cases h

end

/-! ## Confinement -/

/-- A path the policy lets through: its names are plain, and its target is safe. -/
theorem safeTarget_of_inspect {policy : MutationPolicy} {ws : Workspace}
    {proposal : ChangeProposal} {found : List String} {current : Option String}
    (h : inspect policy ws proposal = .ok (found, current)) :
    resolveSafeTarget policy ws proposal (posixParts proposal.targetPath) =
        .ok (posixParts proposal.targetPath) ∧
      posixParts proposal.targetPath ≠ [] ∧
      (∀ name ∈ posixParts proposal.targetPath, IsPlain name) ∧
      ∀ name ∈ posixParts proposal.targetPath, Char.ofNat 0 ∉ name.toList := by
  simp only [inspect, except_bind_eq_ok, require_eq_ok] at h
  obtain ⟨relative, hrelative, resolved, hresolved, -⟩ := h
  simp only [validateRelativePath, except_bind_eq_ok, require_eq_ok] at hrelative
  obtain ⟨-, -, -, ⟨hne, hparent⟩, -, ⟨hnull, -⟩, hrelative⟩ := hrelative
  obtain rfl := Except.ok.inj hrelative
  obtain rfl := resolveSafeTarget_eq_ok hresolved hne
  refine ⟨hresolved, hne, fun name hname => ?_, fun name hname => ?_⟩
  · have hkept := (List.mem_filter.mp hname).2
    rw [decide_eq_true_eq] at hkept
    exact ⟨hkept.1, hkept.2, fun hdots => hparent (hdots ▸ hname)⟩
  · obtain ⟨piece, hpiece, rfl⟩ := List.mem_map.mp (List.mem_filter.mp hname).1
    rw [String.toList_ofList]
    exact fun hmem => hnull ((of_mem_splitOn hpiece).2 hmem)

theorem conditionalRestore_entries_of_ne (fails : FileAccess → Bool) (proposal : ChangeProposal)
    (ws : Workspace) (before observed : String) {path : List String}
    (hpath : path ≠ targetPath proposal) :
    (conditionalRestore fails proposal ws before observed).2.entries path = ws.entries path := by
  unfold conditionalRestore
  dsimp only
  split
  · rfl
  split
  · rfl
  split
  · rfl
  split
  · exact Workspace.set_entries_of_ne _ hpath _
  · exact Workspace.set_entries_of_ne _ hpath _

theorem finish_entries_of_ne (runtime : GovernedMutationRuntime) (ws : Workspace)
    (call : MutateCall) (current : ValidatedChangeProposal) (consumed : MutationAuthorization)
    (before : String) {path : List String}
    (hpath : path ≠ targetPath call.validated.proposal) :
    (runtime.finish ws call current consumed before).2.1.entries path = ws.entries path := by
  unfold GovernedMutationRuntime.finish
  dsimp only
  split
  · rfl
  split
  · rfl
  · exact conditionalRestore_entries_of_ne _ _ _ _ _ hpath

/-- A call of `mutate` changes no file but its target. -/
theorem mutate_entries_of_ne (runtime : GovernedMutationRuntime) (ws : Workspace)
    (call : MutateCall) {path : List String}
    (hpath : path ≠ targetPath call.validated.proposal) :
    (runtime.mutate ws call).workspace.entries path = ws.entries path := by
  unfold GovernedMutationRuntime.mutate
  by_cases hvalidate : call.fails .validate = true
  · rw [if_pos hvalidate]
  rw [if_neg hvalidate]
  rcases runtime.consumeCurrent ws call with violation | ⟨current, consumed⟩
  · rfl
  dsimp only
  split
  · rfl
  split
  · rfl
  · rw [finish_entries_of_ne runtime _ call current consumed _ hpath]
    exact Workspace.set_entries_of_ne _ hpath _

/-- **Confinement.** Where the policy accepts a proposal, the path that it validated is the one
    that the runtime's own path resolves to, below the root, through no link, and a call of
    `mutate` changes no file but the one there. -/
theorem confined (runtime : GovernedMutationRuntime) (tree : FileTree ByteArray)
    (rootIdentity : String) (depth : Nat) (workspaceRoot root : List String)
    (proposal : ChangeProposal) (validated : ValidatedChangeProposal)
    (hroot : tree.resolve true depth workspaceRoot = .ok root)
    (haccepted : validate runtime.policy (workspaceOf rootIdentity tree root) proposal =
      .ok validated) :
    ∃ target, resolveSafeTargetIn runtime.policy tree proposal depth root
        (posixParts proposal.targetPath) = .ok target ∧
      runtimeTarget root proposal = target ∧
      tree.resolve false depth (runtimeTarget workspaceRoot proposal) = .ok target ∧
      (root <+: target ∧ target ≠ root) ∧
      (∀ before, before ≠ [] → before <+: posixParts proposal.targetPath →
        tree.isSymlink (root ++ before) = false) ∧
      ∀ call : MutateCall, call.validated.proposal = proposal → ∀ path, root ++ path ≠ target →
        (runtime.mutate (workspaceOf rootIdentity tree root) call).workspace.entries path =
          (workspaceOf rootIdentity tree root).entries path := by
  have hstands := FileTree.stands_of_resolve hroot
  obtain ⟨found, current, hinspect, -⟩ := (validate_eq_ok ..).mp haccepted
  obtain ⟨hsafe, hne, hnames, hnull⟩ := safeTarget_of_inspect hinspect
  have htarget : resolveSafeTargetIn runtime.policy tree proposal depth root
      (posixParts proposal.targetPath) = .ok (root ++ posixParts proposal.targetPath) := by
    rw [@resolveSafeTargetIn_eq runtime.policy tree proposal rootIdentity root depth _ hnames hne
      hstands, hsafe]
    rfl
  obtain ⟨-, hlinks⟩ := unlinked_of_resolveSafeTargetIn hnames hne hstands htarget
  refine ⟨_, htarget, runtimeTarget_eq root proposal, ?_, ⟨List.prefix_append _ _, ?_⟩, hlinks,
    ?_⟩
  · rw [runtimeTarget_eq]
    exact FileTree.resolve_append hroot (fun name hname => ⟨hnames name hname,
      hnull name hname⟩) hlinks
  · intro hsame
    exact hne (List.append_right_eq_self.mp hsame)
  · rintro call rfl path hpath
    refine mutate_entries_of_ne runtime _ call fun hsame => hpath ?_
    rw [hsame]
    rfl

/-- A directory with one text file. -/
def plainTree : FileTree ByteArray :=
  .ofEntries [(["w"], .directory), (["w", "notes"], .file "hello".toUTF8)] (by decide)

theorem validate_plainTree :
    validate plainRuntime.policy (workspaceOf "1:2" plainTree ["w"]) plainProposal =
      .ok plainValidated := by
  have hinspect : inspect plainRuntime.policy (workspaceOf "1:2" plainTree ["w"])
      plainProposal = .ok (["notes"], some "hello") := by decide +kernel
  rw [validate_eq_ok]
  exact ⟨_, _, hinspect, ⟨rfl, rfl⟩, rfl⟩

/-- The theorem at a proposal for the file. -/
theorem confined_plainTree :
    ∃ target, resolveSafeTargetIn plainRuntime.policy plainTree plainProposal 8 ["w"]
        (posixParts plainProposal.targetPath) = .ok target ∧
      runtimeTarget ["w"] plainProposal = target := by
  have hroot : plainTree.resolve true 8 ["w"] = .ok ["w"] := by decide +kernel
  obtain ⟨target, hsafe, hruntime, -⟩ := confined plainRuntime plainTree "1:2" 8 ["w"] ["w"]
    plainProposal plainValidated hroot validate_plainTree
  exact ⟨target, hsafe, hruntime⟩

end Eag.Mutation
