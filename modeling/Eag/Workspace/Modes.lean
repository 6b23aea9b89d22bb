/-
  Eag.Workspace.Modes

  Which files do the operations of a workspace change?

  A write looks at the lock only, so that it changes files in every mode and in a workspace
  that is not open, and the probe of the validator deletes a file of its name. Runs that do
  neither change files in an open workspace in live mode only, below its root
  (`modes_protect_files`).

  What carries this is that the root is a path without links, and that a directory stands
  there once the workspace was opened (`Rooted`).
-/

import Eag.Workspace.Manager

namespace Eag.Workspace

open Eag.Foundation

namespace Manager

section

variable (writable : List String → Bool) (depth : Nat) {μ : Type}
  (manifest : FileTree ByteArray → List String → Except WorkspaceError μ)

/-! ## Statements -/

/-- Opening leaves whatever stands somewhere as it is; nothing changes in a mode other than live
    or while the workspace is not open; and what changes is below the root. -/
structure Protected (manager : Manager) (call : Call) : Prop where
  opening : call = .openWorkspace → ∀ place node, manager.tree.node place = some node →
    (manager.step writable depth manifest call).tree.node place = some node
  guarded : manager.mode ≠ .live ∨ manager.isOpen = false → ∀ place,
    (manager.step writable depth manifest call).tree.node place = manager.tree.node place
  confined : ∀ place,
    (manager.step writable depth manifest call).tree.node place ≠ manager.tree.node place →
      manager.root <+: place

/-- An opening that probes the root finds nothing under the name of the probe, or a directory. A
    write that the lock and the resolver let through is one in an open workspace in live mode,
    to a path that is resolved without running into a loop of links. -/
def Careful (manager : Manager) : Call → Prop
  | .openWorkspace => manager.mode ≠ .readOnly →
      ∀ node, manager.tree.node (manager.root ++ [writeProbe]) = some node → node = .directory
  | .write path _ => manager.lock ≠ .locked →
      ∀ resolved, resolve manager.tree depth manager.root path = .ok resolved →
        manager.mode = .live ∧ manager.isOpen = true ∧
          ∃ joined, manager.tree.joinRealpath false depth [] [] (namesFrom manager.root path)
            = .ok joined ∧ joined.2.1 = true
  | _ => True

/-- No link is on the path of the root, and it is a directory once it was opened. -/
structure Rooted (manager : Manager) : Prop where
  linkFree : manager.tree.LinkFree manager.root
  directory : manager.isOpen = true → manager.tree.isDirectory manager.root = true

end

/-! ## Opening -/

section Opening

variable {tree : FileTree ByteArray} {root : List String} {mode : WorkspaceMode}

/-- A root that is a directory is one where it says. -/
theorem isDirectory_of_isDir (hroot : tree.LinkFree root) (hexists : tree.pathExists root = true)
    (hisDir : tree.isDir root = true) : tree.isDirectory root = true := by
  have hstart : tree.Stands [] := FileTree.stands_of_isDirectory
    (tree.isDirectory_iff.mpr tree.root_directory)
  have hstands : tree.Stands root :=
    @FileTree.stands_of_pathExists _ tree [] root hstart hroot.names
      (fun before _ hbefore => (hroot.of_prefix hbefore).isSymlink) hexists
  unfold FileTree.isDir at hisDir
  rw [FileTree.stat_of_stands hstands] at hisDir
  unfold FileTree.isDirectory
  split at hisDir
  · next heq =>
      rw [Except.ok.inj heq]
  · cases hisDir

/-- The probe of a directory where nothing of its name stands, or a directory, leaves the tree. -/
theorem probe_spec (writable : List String → Bool) (hroot : tree.LinkFree root)
    (hdirectory : tree.isDirectory root = true)
    (hprobe : ∀ node, tree.node (root ++ [writeProbe]) = some node → node = .directory) :
    ∀ touched, tree.touch writable ByteArray.empty (root ++ [writeProbe]) = some touched →
      touched.unlink writable (root ++ [writeProbe]) = some tree ∨
        touched = tree ∧ touched.unlink writable (root ++ [writeProbe]) = none := by
  intro touched htouch
  have hplain : IsPlain writeProbe := by decide
  have hfree : tree.LinkFree (root ++ [writeProbe]) := by
    refine hroot.snoc hplain fun target hlink => ?_
    rw [FileTree.lstat_append (FileTree.stands_of_isDirectory hdirectory) hplain,
      if_neg (ne_false_of_eq_true hdirectory)] at hlink
    cases hnode : tree.node (root ++ [writeProbe]) with
    | none =>
        rw [hnode] at hlink
        cases hlink
    | some node =>
        rw [hnode, hprobe node hnode] at hlink
        cases hlink
  unfold FileTree.touch at htouch
  cases hlocate : tree.locate FileTree.maxLinks [] (root ++ [writeProbe]) with
  | error error =>
      rw [hlocate] at htouch
      cases htouch
  | ok place =>
      rw [hlocate] at htouch
      obtain rfl := FileTree.locate_of_linkFree hfree hlocate
      dsimp only at htouch
      cases hnode : tree.node (root ++ [writeProbe]) with
      | some node =>
          rw [hnode] at htouch
          dsimp only at htouch
          split at htouch
          · obtain rfl := Option.some.inj htouch
            refine .inr ⟨rfl, ?_⟩
            unfold FileTree.unlink
            cases hwalk : tree.walk false FileTree.maxLinks [] (root ++ [writeProbe]) with
            | error error => rfl
            | ok place =>
                obtain rfl := FileTree.walk_of_linkFree hfree hwalk
                have hisDirectory : tree.isDirectory (root ++ [writeProbe]) = true :=
                  tree.isDirectory_iff.mpr (hprobe node hnode ▸ hnode)
                exact if_pos (.inl hisDirectory)
          · cases htouch
      | none =>
          rw [hnode] at htouch
          dsimp only at htouch
          split at htouch
          · next hput =>
              obtain rfl := Option.some.inj htouch
              have hafter := FileTree.node_put hput.2 (.file ByteArray.empty)
              have hfile : (tree.put (root ++ [writeProbe]) (.file ByteArray.empty)).node
                  (root ++ [writeProbe]) = some (.file ByteArray.empty) := by
                rw [hafter, if_pos rfl]
              -- The file that was put there is found again.
              have hwalk := @FileTree.walk_of_stands _ _ _ [] false FileTree.maxLinks
                ⟨_, hfile, fun _ h => by cases h⟩
              rw [List.append_nil] at hwalk
              have hnot : (tree.put (root ++ [writeProbe]) (.file ByteArray.empty)).isDirectory
                  (root ++ [writeProbe]) = false := by
                unfold FileTree.isDirectory
                rw [hfile]
              refine .inl ?_
              unfold FileTree.unlink
              rw [hwalk]
              refine (if_neg ?_).trans (congrArg some (FileTree.ext_node fun other => ?_))
              · rw [hnot, hput.1]
                exact fun h => h.elim (fun h => by cases h) fun h => by cases h
              · rw [FileTree.node_remove hnot, hafter]
                split
                · next heq => rw [heq, hnode]
                · rfl
          · cases htouch

/-- **The validation** leaves the tree, and passes directories only. -/
theorem validate_spec (writable : List String → Bool) (hroot : tree.LinkFree root)
    (hprobe : mode ≠ .readOnly → ∀ node, tree.node (root ++ [writeProbe]) = some node →
      node = .directory) :
    (validate writable tree root mode).2 = tree ∧
      ((validate writable tree root mode).1 = .ok () → tree.isDirectory root = true) := by
  unfold validate
  by_cases hexists : tree.pathExists root = false
  · rw [if_pos hexists]
    exact ⟨rfl, nofun⟩
  rw [if_neg hexists]
  by_cases hisDir : tree.isDir root = false
  · rw [if_pos hisDir]
    exact ⟨rfl, nofun⟩
  rw [if_neg hisDir]
  have hdirectory := isDirectory_of_isDir hroot (eq_true_of_ne_false hexists)
    (eq_true_of_ne_false hisDir)
  by_cases hmode : mode = .live ∨ mode = .dryRun
  · rw [if_pos hmode]
    have hnotReadOnly : mode ≠ .readOnly := by
      rintro rfl
      exact hmode.elim nofun nofun
    cases htouch : tree.touch writable ByteArray.empty (root ++ [writeProbe]) with
    | none => exact ⟨rfl, nofun⟩
    | some touched =>
        dsimp only
        rcases probe_spec writable hroot hdirectory (hprobe hnotReadOnly) touched htouch with
          hunlink | ⟨rfl, hunlink⟩
        · rw [hunlink]
          exact ⟨rfl, fun _ => hdirectory⟩
        · rw [hunlink]
          exact ⟨rfl, nofun⟩
  · rw [if_neg hmode]
    exact ⟨rfl, fun _ => hdirectory⟩

end Opening

/-! ## Writing -/

/-- A write fills the path that it was resolved to. -/
theorem writeFile_fills {tree : FileTree ByteArray} {path : List String}
    (writable : List String → Bool) (h : tree.LinkFree path) (content : String) :
    FileTree.Fills path tree (writeFile writable tree path content).2 := by
  have hfree : tree.LinkFree path.dropLast.reverse.reverse := by
    rw [List.reverse_reverse]
    exact h.dropLast
  have hparents : FileTree.Fills path.dropLast.reverse.reverse tree
      (tree.makeDirs writable path.dropLast.reverse).1 := FileTree.makeDirs_fills _ hfree
  rw [List.reverse_reverse] at hparents
  have hlonger := hparents.mono (List.dropLast_prefix path)
  unfold writeFile
  generalize tree.makeDirs writable path.dropLast.reverse = result at hlonger ⊢
  obtain ⟨made, ok⟩ := result
  cases ok with
  | false => exact hlonger
  | true =>
      dsimp only at hlonger ⊢
      cases hwrite : made.writeData writable path content.toUTF8 with
      | none => exact hlonger
      | some written =>
          exact hlonger.trans (FileTree.writeData_fills (hlonger.linkFree_iff.mpr h) hwrite)

/-- What the resolver returns is below the root, and without links if it was resolved
    completely. -/
theorem resolve_spec {tree : FileTree ByteArray} {depth : Nat} {root resolved : List String}
    {path : String} {joined : FileTree.Joined}
    (h : resolve tree depth root path = .ok resolved)
    (hjoined : tree.joinRealpath false depth [] [] (namesFrom root path) = .ok joined)
    (hcomplete : joined.2.1 = true) : root <+: resolved ∧ tree.LinkFree resolved := by
  have hfree := FileTree.linkFree_of_joinRealpath (fun _ _ h => absurd h List.not_mem_nil)
    (FileTree.linkFree_nil tree) hjoined hcomplete
  unfold resolve at h
  cases hresolve : tree.resolve false depth (namesFrom root path) with
  | error error =>
      rw [hresolve] at h
      cases h
  | ok found =>
      rw [hresolve] at h
      dsimp only at h
      split at h
      · next hbelow =>
          obtain rfl := Except.ok.inj h
          have hfound : found = joined.1 := by
            unfold FileTree.resolve at hresolve
            rw [hjoined] at hresolve
            dsimp only at hresolve
            split at hresolve
            · cases hresolve
            · exact (Except.ok.inj hresolve).symm
          exact ⟨List.isPrefixOf_iff_prefix.mp hbelow, hfound ▸ hfree.1⟩
      · cases h

/-! ## Every call -/

section Steps

variable {writable : List String → Bool} {depth : Nat} {μ : Type}
  {manifest : FileTree ByteArray → List String → Except WorkspaceError μ} {manager : Manager}

/-- A call that leaves the tree protects it. -/
theorem protected_of_tree {call : Call}
    (htree : (manager.step writable depth manifest call).tree = manager.tree) :
    manager.Protected writable depth manifest call := by
  constructor
  · intro _ place node hnode
    rw [htree]
    exact hnode
  · intro _ place
    rw [htree]
  · intro place hplace
    rw [htree] at hplace
    exact absurd rfl hplace

/-- It keeps the root, too, where it does not open the workspace. -/
theorem rooted_of_tree {after : Manager} (h : manager.Rooted) (htree : after.tree = manager.tree)
    (hroot : after.root = manager.root) (hopen : after.isOpen = true → manager.isOpen = true) :
    after.Rooted := by
  constructor
  · rw [htree, hroot]
    exact h.linkFree
  · rw [htree, hroot]
    exact fun hafter => h.directory (hopen hafter)

theorem openWorkspace_step (h : manager.Rooted) (hcareful : manager.Careful depth .openWorkspace) :
    manager.Protected writable depth manifest .openWorkspace ∧
      (manager.step writable depth manifest .openWorkspace).Rooted := by
  obtain ⟨htree, hdirectory⟩ := validate_spec writable h.linkFree hcareful
  have hsame : (manager.step writable depth manifest .openWorkspace).tree = manager.tree := by
    show (manager.openWorkspace writable).2.tree = manager.tree
    unfold openWorkspace
    generalize validate writable manager.tree manager.root manager.mode = result at htree ⊢
    obtain ⟨ending, tree⟩ := result
    cases ending with
    | error error => exact htree
    | ok ending => exact htree
  refine ⟨protected_of_tree hsame, ?_, fun _ => ?_⟩
  · show FileTree.LinkFree (manager.step writable depth manifest .openWorkspace).tree
      (manager.openWorkspace writable).2.root
    rw [hsame]
    unfold openWorkspace
    generalize validate writable manager.tree manager.root manager.mode = result
    obtain ⟨ending, tree⟩ := result
    cases ending with
    | error error => exact h.linkFree
    | ok ending => exact h.linkFree
  · rename_i hopen
    rw [hsame]
    change (manager.openWorkspace writable).2.isOpen = true at hopen
    show manager.tree.isDirectory (manager.openWorkspace writable).2.root = true
    unfold openWorkspace at hopen ⊢
    generalize validate writable manager.tree manager.root manager.mode = result
      at hdirectory hopen ⊢
    obtain ⟨ending, tree⟩ := result
    cases ending with
    | error error => exact h.directory hopen
    | ok ending => exact hdirectory rfl

theorem write_step (h : manager.Rooted) {path content : String}
    (hcareful : manager.Careful depth (.write path content)) :
    manager.Protected writable depth manifest (.write path content) ∧
      (manager.step writable depth manifest (.write path content)).Rooted := by
  have hunchanged : (manager.write writable depth path content).2 = manager →
      manager.Protected writable depth manifest (.write path content) ∧
        (manager.step writable depth manifest (.write path content)).Rooted := by
    intro hsame
    have htree := congrArg Manager.tree hsame
    exact ⟨protected_of_tree htree, rooted_of_tree h htree (congrArg Manager.root hsame)
      fun hopen => congrArg Manager.isOpen hsame ▸ hopen⟩
  by_cases hlock : manager.lock = .locked
  · refine hunchanged ?_
    unfold write
    rw [if_pos hlock]
  cases hresolve : resolve manager.tree depth manager.root path with
  | error error =>
      refine hunchanged ?_
      unfold write
      rw [if_neg hlock, hresolve]
  | ok resolved =>
      obtain ⟨hmode, hopen, joined, hjoined, hcomplete⟩ := hcareful hlock resolved hresolve
      obtain ⟨hbelow, hfree⟩ := resolve_spec hresolve hjoined hcomplete
      have hfills := writeFile_fills writable hfree content
      have hdirectory := h.directory hopen
      -- Whether the write fails or not, only the tree differs in what matters.
      have hafter : (manager.write writable depth path content).2.tree
            = (writeFile writable manager.tree resolved content).2 ∧
          (manager.write writable depth path content).2.root = manager.root := by
        unfold write
        rw [if_neg hlock, hresolve]
        dsimp only
        generalize writeFile writable manager.tree resolved content = result
        obtain ⟨ending, tree⟩ := result
        cases ending with
        | error error => exact ⟨rfl, rfl⟩
        | ok ending => exact ⟨rfl, rfl⟩
      rw [← hafter.1] at hfills
      refine ⟨⟨nofun, fun hguarded => ?_, fun place hplace => ?_⟩, ⟨?_, fun _ => ?_⟩⟩
      · rcases hguarded with hmode' | hopen'
        · exact absurd hmode hmode'
        · rw [hopen] at hopen'
          cases hopen'
      · exact hfills.below hdirectory hbelow hplace
      · show FileTree.LinkFree _ (manager.write writable depth path content).2.root
        rw [hafter.2]
        exact hfills.linkFree_iff.mpr h.linkFree
      · show (manager.write writable depth path content).2.tree.isDirectory
          (manager.write writable depth path content).2.root = true
        rw [hafter.2, FileTree.isDirectory_iff]
        exact hfills.directory ((FileTree.isDirectory_iff _).mp hdirectory)

variable (manager depth) in
theorem read_tree (path : String) : (manager.read depth path).2.tree = manager.tree ∧
    (manager.read depth path).2.root = manager.root ∧
      (manager.read depth path).2.isOpen = manager.isOpen := by
  unfold read
  cases resolve manager.tree depth manager.root path with
  | error error => exact ⟨rfl, rfl, rfl⟩
  | ok resolved =>
      dsimp only
      cases readFile manager.tree resolved with
      | error error => exact ⟨rfl, rfl, rfl⟩
      | ok content => exact ⟨rfl, rfl, rfl⟩

variable (manager manifest) in
theorem snapshot_tree : (manager.snapshot manifest).2.tree = manager.tree ∧
    (manager.snapshot manifest).2.root = manager.root ∧
      (manager.snapshot manifest).2.isOpen = manager.isOpen := by
  unfold snapshot
  cases manifest manager.tree manager.root with
  | error error => exact ⟨rfl, rfl, rfl⟩
  | ok built => exact ⟨rfl, rfl, rfl⟩

variable (manager) in
theorem acquire_tree : manager.acquire.2.tree = manager.tree ∧
    manager.acquire.2.root = manager.root ∧ manager.acquire.2.isOpen = manager.isOpen := by
  unfold acquire
  split
  · exact ⟨rfl, rfl, rfl⟩
  · exact ⟨rfl, rfl, rfl⟩

/-- **A careful call** protects the files, and keeps what is known of the root. -/
theorem careful_step (h : manager.Rooted) {call : Call} (hcareful : manager.Careful depth call) :
    manager.Protected writable depth manifest call ∧
      (manager.step writable depth manifest call).Rooted := by
  have hreads : ∀ after : Manager, manager.step writable depth manifest call = after →
      after.tree = manager.tree ∧ after.root = manager.root ∧
        (after.isOpen = true → manager.isOpen = true) →
      manager.Protected writable depth manifest call ∧
        (manager.step writable depth manifest call).Rooted := by
    rintro after rfl ⟨htree, hroot, hopen⟩
    exact ⟨protected_of_tree htree, rooted_of_tree h htree hroot hopen⟩
  cases call with
  | openWorkspace => exact openWorkspace_step h hcareful
  | write path content => exact write_step h hcareful
  | close => exact hreads _ rfl ⟨rfl, rfl, nofun⟩
  | read path =>
      obtain ⟨htree, hroot, hopen⟩ := read_tree depth manager path
      exact hreads _ rfl ⟨htree, hroot, fun h => hopen ▸ h⟩
  | snapshot =>
      obtain ⟨htree, hroot, hopen⟩ := snapshot_tree manifest manager
      exact hreads _ rfl ⟨htree, hroot, fun h => hopen ▸ h⟩
  | acquire =>
      obtain ⟨htree, hroot, hopen⟩ := acquire_tree manager
      exact hreads _ rfl ⟨htree, hroot, fun h => hopen ▸ h⟩
  | release => exact hreads _ rfl ⟨rfl, rfl, fun h => h⟩

end Steps

/-! ## Runs -/

/-- **The modes protect the files** in every run of careful calls over a root that was resolved
    without running into a loop of links. -/
theorem modes_protect_files (writable : List String → Bool) (depth : Nat) {μ : Type}
    (manifest : FileTree ByteArray → List String → Except WorkspaceError μ)
    (tree : FileTree ByteArray) (root names : List String) (seen : FileTree.Seen)
    (mode : WorkspaceMode) (calls : List Call)
    (hroot : tree.joinRealpath false depth [] [] names = .ok (root, true, seen))
    (hcareful : EachStep (step writable depth manifest) (Careful depth)
      (Manager.new tree root mode) calls) :
    EachStep (step writable depth manifest) (Protected writable depth manifest)
      (Manager.new tree root mode) calls := by
  have hfree : tree.LinkFree root := (FileTree.linkFree_of_joinRealpath
    (fun _ _ h => absurd h List.not_mem_nil) (FileTree.linkFree_nil tree) hroot rfl).1
  have hstart : (Manager.new tree root mode).Rooted := ⟨hfree, nofun⟩
  have hthroughout : Throughout (step writable depth manifest) Rooted
      (Manager.new tree root mode) calls :=
    throughout_of_eachStep (fun manager call h hcall => (careful_step h hcall).2) hstart hcareful
  intro before call hbefore
  have hrooted := hthroughout before ((List.prefix_append before [call]).trans hbefore)
  exact (careful_step hrooted (hcareful before call hbefore)).1

/-- A workspace with an empty file. -/
def oneFile : FileTree ByteArray :=
  .ofEntries [(["w"], .directory), (["w", "a.txt"], .file ByteArray.empty)] (by decide +kernel)

/-- Everything may be written, and a snapshot has nothing. -/
abbrev stepFreely : Manager → Call → Manager :=
  step (fun _ => true) 4 fun _ _ => (.ok () : Except WorkspaceError Unit)

/-- A write in a live workspace that was opened. -/
theorem modes_protect_files_live :
    EachStep stepFreely (Protected (fun _ => true) 4 fun _ _ => (.ok () : Except WorkspaceError Unit))
      (Manager.new oneFile ["w"] .live) [.openWorkspace, .write "a.txt" "x", .close] := by
  refine modes_protect_files (fun _ => true) 4 (fun _ _ => .ok ()) oneFile ["w"] ["w"] [] .live _
    (by decide +kernel) ?_
  rw [eachStep_cons, eachStep_cons, eachStep_cons]
  refine ⟨fun _ node hnode => ?_, fun _ resolved _ => ⟨rfl, ?_, ?_⟩, trivial, eachStep_nil⟩
  · have hnone : oneFile.node ["w", writeProbe] = none := by decide +kernel
    exact absurd (hnone.symm.trans hnode) nofun
  · decide +kernel
  · exact ⟨(["w", "a.txt"], true, []), by decide +kernel, rfl⟩

/-- A write changes a file of a workspace in read-only mode. -/
theorem readOnly_file_written :
    ¬ EachStep stepFreely
      (Protected (fun _ => true) 4 fun _ _ => (.ok () : Except WorkspaceError Unit))
      (Manager.new oneFile ["w"] .readOnly) [.openWorkspace, .write "a.txt" "x"] := by
  rw [eachStep_cons, eachStep_cons]
  rintro ⟨-, hprotected, -⟩
  have hsame := hprotected.guarded (.inl nofun) ["w", "a.txt"]
  exact absurd hsame (by decide +kernel)

/-- An opening deletes a file under the name of the probe. -/
example : ((Manager.new
      (.ofEntries [(["w"], .directory), (["w", writeProbe], .file ByteArray.empty)]
        (by decide +kernel)) ["w"] .dryRun).openWorkspace fun _ => true).2.tree.node
      ["w", writeProbe] = none := by
  decide +kernel

end Manager

end Eag.Workspace
