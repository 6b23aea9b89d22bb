/-
  Eag.GovernedWorkspace.Custody

  **Custody isolation, and the descriptors of a custody call.** An attestation or a live
  handoff is only returned for isolated roots, whatever fails on the way. Every descriptor
  opened during the call is closed exactly once, except the workspace descriptor of a
  returned handle, exactly when no call failed where no clause closes what is open
  (`custody_isolated_and_closed_iff`).
-/

import Eag.GovernedWorkspace.Isolation

namespace Eag.GovernedWorkspace

open Eag.Foundation
open Prog (Ensures)
open Ledger (Balanced Leaks)

variable {tree : DirectoryTree} {k : Kernel} {mine : List Event}
  {gate : WorkspaceCustodyGate} {request : WorkspaceCustodyRequest}

/-! ## Isolated roots -/

/-- The custody isolation of a request: the roots are directories, not reached through a
    final link; they are different objects and none is above another; the control root is
    the one of the store; and the workspace is empty when that is required. -/
structure Isolated (tree : DirectoryTree) (gate : WorkspaceCustodyGate)
    (request : WorkspaceCustodyRequest) : Prop where
  directories : ∀ root, ∃ path,
    tree.target (request.root root) = some path ∧ tree.node path = some .directory
  apart : ∀ root other path path', root ≠ other →
    tree.target (request.root root) = some path → tree.target (request.root other) = some path' →
    tree.stat path ≠ tree.stat path' ∧ ¬path <+: path'
  control : ∃ resolved, tree.resolve request.controlRoot = .ok resolved ∧
    tree.resolve gate.controlRoot = .ok resolved
  empty : request.policy.requireEmptyWorkspace = true → ∀ path,
    tree.target request.workspaceRoot = some path → ∀ name, tree.node (path ++ [name]) = none

/-! ## Opening the roots -/

/-- Every entry is a descriptor of the declared root it is named after. -/
def Opened (tree : DirectoryTree) (request : WorkspaceCustodyRequest) (k : Kernel)
    (descriptors : Descriptors) : Prop :=
  ∀ entry ∈ descriptors, ∃ path,
    tree.target (request.root entry.1) = some path ∧ On tree k entry.2 path

theorem Opened.mono {k' : Kernel} {descriptors : Descriptors}
    (h : Opened tree request k descriptors) (hopened : k.opened <+: k'.opened) :
    Opened tree request k' descriptors := by
  intro entry hentry
  obtain ⟨path, htarget, hon⟩ := h entry hentry
  exact ⟨path, htarget, hon.mono hopened⟩

/-- The loop that opens the roots. -/
theorem openRoots_spec (roots : List Root) (descriptors : Descriptors)
    (hall : descriptors.map (·.1) ++ roots = Root.all)
    (hbalanced : Balanced (descriptors.map (·.2)) k)
    (hopened : Opened tree request k descriptors) (hmine : Guarded mine) :
    Ensures tree.perform (fun k' later r =>
      (Guarded later ∧
        ((Balanced [] k' ∧ (r = .ok none ∨ ∃ error, r = .error error)) ∨
          ∃ all : Descriptors, r = .ok (some all) ∧ all.map (·.1) = Root.all ∧
            Balanced (all.map (·.2)) k' ∧ Opened tree request k' all)) ∨
      (¬Guarded later ∧ Leaks [] k' ∧ ∃ error, r = .error error))
      k mine (openRoots request roots descriptors) := by
  induction roots generalizing k mine descriptors with
  | nil =>
      rw [List.append_nil] at hall
      exact Or.inl ⟨hmine, Or.inr ⟨descriptors, rfl, hall, hbalanced, hopened⟩⟩
  | cons root rest ih =>
      refine Ensures.bind (openRoot_spec root (request.root root) hmine) ?_
      rintro k1 later1 r1 (⟨rfl, hlater1, rfl⟩ | ⟨rfl, hlater1, rfl⟩ |
        ⟨p, htarget, hnode, rfl, hlater1, rfl⟩)
      · refine Ensures.bind (closeAll_spec (descriptors.map (·.2))) ?_
        rintro k2 later2 _ ⟨rfl, hlater2⟩
        have hsettled := (show Balanced (descriptors.map (·.2) ++ []) k1 by
          rw [List.append_nil]; exact hbalanced).releaseAll
        exact Or.inl ⟨hlater2.mpr hlater1, Or.inl ⟨hsettled, Or.inl rfl⟩⟩
      · -- the path of the first root leaves nothing behind, that of a later one does
        cases descriptors with
        | nil =>
            obtain rfl : root = .workspace := (List.cons.inj hall).1
            exact Or.inl ⟨hlater1.mpr rfl, Or.inl ⟨hbalanced, Or.inr ⟨_, rfl⟩⟩⟩
        | cons entry before =>
            have hroot : root ≠ .workspace := by
              have hfirst : entry.1 = .workspace := (List.cons.inj hall).1
              have hnodup : (entry.1 :: (before.map (·.1) ++ root :: rest)).Nodup := by
                have hall' : entry.1 :: (before.map (·.1) ++ root :: rest) = Root.all := hall
                rw [hall']
                decide
              rintro rfl
              exact (List.nodup_cons.mp hnodup).1 (by rw [hfirst]; simp)
            refine Or.inr ⟨fun h => hroot (hlater1.mp h), ?_, _, rfl⟩
            exact hbalanced.leaks List.mem_cons_self List.not_mem_nil
      · have hall' : (descriptors ++ [(root, k.opened.length)]).map (·.1) ++ rest = Root.all := by
          rw [List.map_append, List.append_assoc]
          exact hall
        refine ih (descriptors ++ [(root, k.opened.length)]) hall' ?_ ?_ hlater1
        · refine (hbalanced.acquire p).perm ?_
          rw [List.map_append]
          exact (List.perm_append_singleton _ _).symm
        · intro entry hentry
          rcases List.mem_append.mp hentry with hentry | hentry
          · exact hopened.mono (acquire_opened k p) entry hentry
          · rw [List.mem_singleton.mp hentry]
            exact ⟨p, htarget, on_acquire hnode⟩

/-! ## Constructors -/

/-- What the constructor of a record can do: nothing to the ledger, and it fails or gives what
    its checks let pass. -/
theorem perform_build (record : Record) (env : Injection) :
    (∃ error, tree.perform k env (.build record none) = (k, .error error)) ∨
      tree.perform k env (.build record none) = (k, .ok ()) := by
  have hperform : tree.perform k env (.build record none)
      = (k, if env.fails then .error .memoryError else .ok ()) := rfl
  rw [hperform]
  cases env.fails with
  | true => exact Or.inl ⟨_, rfl⟩
  | false => exact Or.inr rfl

/-- A constructor whose failure is not guarded. -/
theorem built_spec {α : Type} (record : Record) (outcome : Except Raised α)
    (hrecord : ∀ refused error, Unguarded ⟨.build record refused, .error error⟩)
    (hsuccess : ∀ refused, ¬Unguarded ⟨.build record refused, .ok ()⟩) (hmine : Guarded mine) :
    Ensures tree.perform (fun k' later r => k' = k ∧
      ((Guarded later ∧ ∃ a, outcome = .ok a ∧ r = .ok a) ∨
        (¬Guarded later ∧ ∃ error, r = .error error)))
      k mine (built record outcome).run := by
  cases outcome with
  | ok a =>
      intro env
      rcases @perform_build tree k record env with ⟨error, h⟩ | h
      · rw [h]
        exact ⟨rfl, Or.inr ⟨not_guarded_snoc (hrecord _ _), error, rfl⟩⟩
      · rw [h]
        exact ⟨rfl, Or.inl ⟨hmine.snoc (hsuccess _), a, rfl, rfl⟩⟩
  | error error =>
      intro env
      exact ⟨rfl, Or.inr ⟨not_guarded_snoc (hrecord _ _), error, rfl⟩⟩

/-- A constructor inside the `try` of its caller. -/
theorem built_guarded {α : Type} (record : Record) (outcome : Except Raised α)
    (hrecord : ∀ refused reply, ¬Unguarded ⟨.build record refused, reply⟩)
    (hmine : Guarded mine) :
    Ensures tree.perform (fun k' later r => k' = k ∧ Guarded later ∧
      ∀ a, r = .ok a → outcome = .ok a)
      k mine (built record outcome).run := by
  cases outcome with
  | ok a =>
      intro env
      rcases @perform_build tree k record env with ⟨error, h⟩ | h
      · rw [h]
        exact ⟨rfl, hmine.snoc (hrecord _ _), fun _ hr => nomatch hr⟩
      · rw [h]
        exact ⟨rfl, hmine.snoc (hrecord _ _), fun _ hr => hr⟩
  | error error =>
      intro env
      exact ⟨rfl, hmine.snoc (hrecord _ _), fun _ hr => nomatch hr⟩

/-! ## Admission -/

/-- Issuing the evidence: the constructors come before any `try`. -/
theorem issue_spec {descriptors : Descriptors} {paths : Descriptor → Path}
    (occurredAt : DateTime) (hnames : descriptors.map (·.1) = Root.all)
    (hbalanced : Balanced (descriptors.map (·.2)) k)
    (hon : ∀ descriptor ∈ descriptors.map (·.2), On tree k descriptor (paths descriptor))
    (hmine : Guarded mine) :
    Ensures tree.perform (fun k' later r => k' = k ∧
      ((Guarded later ∧ ∃ attestation, r = .ok attestation) ∨
        (¬Guarded later ∧ ∃ error, r = .error error)))
      k mine (WorkspaceCustodyGate.issue request occurredAt descriptors).run := by
  refine Prog.ensures_bind (x := ExceptT.mk (identitiesOf descriptors))
    (identitiesOf_spec descriptors hbalanced (fun entry h => List.mem_map_of_mem h) hon hmine)
    ?_ ?_
  · rintro k1 later1 error ⟨rfl, ⟨-, h⟩ | ⟨hlater1, -⟩⟩
    · cases h
    · exact ⟨rfl, Or.inr ⟨hlater1, error, rfl⟩⟩
  · rintro k1 later1 identities ⟨rfl, ⟨hlater1, h⟩ | ⟨-, error, h⟩⟩
    · have hall : identities.map (·.1) = Root.all := by
        rw [Except.ok.inj h, List.map_map]
        exact hnames
      obtain ⟨workspace, hworkspace, -⟩ := exists_lookup hall .workspace
      obtain ⟨source, hsource, -⟩ := exists_lookup hall .source
      obtain ⟨audit, haudit, -⟩ := exists_lookup hall .audit
      obtain ⟨control, hcontrol, -⟩ := exists_lookup hall .control
      rw [hworkspace, hsource, haudit, hcontrol]
      refine Prog.ensures_bind
        (built_spec .attestation _ (fun _ _ => trivial) (fun _ h => h) hlater1) ?_ ?_
      · rintro k2 later2 error ⟨rfl, ⟨-, _, -, h⟩ | ⟨hlater2, -⟩⟩
        · cases h
        · exact ⟨rfl, Or.inr ⟨hlater2, error, rfl⟩⟩
      · rintro k2 later2 attestation ⟨rfl, ⟨hlater2, -⟩ | ⟨-, error, h⟩⟩
        · refine (built_spec .admission _ (fun _ _ => trivial) (fun _ h => h) hlater2).imp ?_
          rintro k3 later3 r ⟨rfl, ⟨hlater3, a, -, hr⟩ | h⟩
          · exact ⟨rfl, Or.inl ⟨hlater3, a, hr⟩⟩
          · exact ⟨rfl, Or.inr h⟩
        · cases h
    · cases h

/-- What the admission of a request leaves: the outcomes of `_admit_descriptors`. -/
def Admitted (tree : DirectoryTree) (gate : WorkspaceCustodyGate)
    (request : WorkspaceCustodyRequest) (k : Kernel) (calls : List Event)
    (result : Except Raised (WorkspaceCustodyAdmission × Descriptors)) : Prop :=
  (Guarded calls ∧
    ((Balanced [] k ∧
        ((∃ error, result = .error error) ∨ ∃ reason, result = .ok (.rejected reason, []))) ∨
      ∃ attestation descriptors, result = .ok (.attested attestation, descriptors) ∧
        descriptors.map (·.1) = Root.all ∧ Balanced (descriptors.map (·.2)) k ∧
        Opened tree request k descriptors ∧ Isolated tree gate request)) ∨
  (¬Guarded calls ∧ Leaks [] k ∧
    ((∃ error, result = .error error) ∨ ∃ reason, result = .ok (.rejected reason, [])))

/-- Separate roots of a request whose control root is the store's are isolated. -/
theorem isolated_of_separate {descriptors : Descriptors} {paths : Descriptor → Path}
    (hnames : descriptors.map (·.1) = Root.all)
    (hopened : Opened tree request k descriptors)
    (hon : ∀ descriptor ∈ descriptors.map (·.2), On tree k descriptor (paths descriptor))
    (hcontrol : ∃ resolved, tree.resolve request.controlRoot = .ok resolved ∧
      tree.resolve gate.controlRoot = .ok resolved)
    (hseparate : Separate tree request descriptors paths) : Isolated tree gate request := by
  -- the path of a root is the one its descriptor is on
  have hplace : ∀ root, ∃ descriptor, (root, descriptor) ∈ descriptors ∧
      tree.target (request.root root) = some (paths descriptor) ∧
      tree.node (paths descriptor) = some .directory := by
    intro root
    obtain ⟨descriptor, -, hmem⟩ := exists_lookup hnames root
    obtain ⟨path, htarget, hpath⟩ := hopened _ hmem
    have hpaths := hon descriptor (List.mem_map_of_mem (f := (·.2)) hmem)
    have heq : path = paths descriptor := Option.some.inj (hpath.1.symm.trans hpaths.1)
    exact ⟨descriptor, hmem, heq ▸ htarget, hpaths.2⟩
  refine ⟨fun root => ?_, ?_, hcontrol, ?_⟩
  · obtain ⟨descriptor, -, htarget, hnode⟩ := hplace root
    exact ⟨_, htarget, hnode⟩
  · intro root other path path' hne hpath hpath'
    obtain ⟨descriptor, hmem, htarget, hnode⟩ := hplace root
    obtain ⟨descriptor', hmem', htarget', hnode'⟩ := hplace other
    obtain rfl := Option.some.inj (htarget.symm.trans hpath)
    obtain rfl := Option.some.inj (htarget'.symm.trans hpath')
    have hprefix := hseparate.1 _ hmem _ hmem' hne
    refine ⟨fun hstat => hprefix ?_, hprefix⟩
    rewrite [tree.stat_injective _ _ hnode hnode' hstat]
    exact List.prefix_refl _
  · intro hrequired path hpath name
    obtain ⟨descriptor, hmem, htarget, -⟩ := hplace .workspace
    obtain rfl := Option.some.inj (htarget.symm.trans hpath)
    exact hseparate.2 hrequired descriptor hmem name

/-- The admission of opened roots. -/
theorem admitOpened_spec {descriptors : Descriptors} (occurredAt : DateTime)
    (hnames : descriptors.map (·.1) = Root.all)
    (hbalanced : Balanced (descriptors.map (·.2)) k)
    (hopened : Opened tree request k descriptors)
    (hcontrol : ∃ resolved, tree.resolve request.controlRoot = .ok resolved ∧
      tree.resolve gate.controlRoot = .ok resolved)
    (hmine : Guarded mine) :
    Ensures tree.perform (Admitted tree gate request) k mine
      (WorkspaceCustodyGate.admitOpened (tree.depth + 1) request occurredAt descriptors).run := by
  have hon : ∀ descriptor ∈ descriptors.map (·.2),
      On tree k descriptor ((k.opened[descriptor]?).getD []) := by
    intro descriptor hmem
    obtain ⟨entry, hentry, rfl⟩ := List.mem_map.mp hmem
    obtain ⟨path, -, hpath⟩ := hopened entry hentry
    rw [hpath.1]
    exact hpath
  refine Prog.ensures_bind
    (x := ExceptT.mk (descriptorRejection (tree.depth + 1) request descriptors))
    (descriptorRejection_spec hnames hbalanced hon hmine) ?_ ?_
  · rintro k1 later1 error ⟨-, ⟨-, -, _, h, -⟩ | ⟨hlater1, ⟨-, hleaks⟩ | ⟨⟨_, h⟩, -⟩⟩⟩
    · cases h
    · exact Or.inr ⟨hlater1, hleaks, Or.inl ⟨error, rfl⟩⟩
    · cases h
  · rintro k1 later1 rejection ⟨hgrown, houtcome⟩
    cases rejection with
    | some reason =>
        refine Ensures.bind (closeAll_spec (descriptors.map (·.2))) ?_
        rintro k2 later2 _ ⟨rfl, hlater2⟩
        rcases houtcome with ⟨hlater1, hbalanced1, -⟩ | ⟨hlater1, ⟨⟨_, h⟩, -⟩ | ⟨-, hleaks⟩⟩
        · rw [← List.append_nil (descriptors.map (·.2))] at hbalanced1
          exact Or.inl ⟨hlater2.mpr hlater1,
            Or.inl ⟨hbalanced1.releaseAll, Or.inr ⟨reason, rfl⟩⟩⟩
        · cases h
        · rw [← List.append_nil (descriptors.map (·.2))] at hleaks
          exact Or.inr ⟨fun h => hlater1 (hlater2.mp h), hleaks.releaseAll,
            Or.inr ⟨reason, rfl⟩⟩
    | none =>
        rcases houtcome with ⟨hlater1, hbalanced1, rejection, h, hseparate⟩ |
          ⟨-, ⟨⟨_, h⟩, -⟩ | ⟨⟨_, h⟩, -⟩⟩
        · obtain rfl := Except.ok.inj h
          have hon1 : ∀ descriptor ∈ descriptors.map (·.2),
              On tree k1 descriptor ((k.opened[descriptor]?).getD []) :=
            fun descriptor hmem => (hon descriptor hmem).mono hgrown
          have hopened1 := hopened.mono hgrown
          have hisolated : Isolated tree gate request :=
            isolated_of_separate hnames hopened1 hon1 hcontrol (hseparate rfl)
          have hne : descriptors.map (·.2) ≠ [] := by
            obtain ⟨workspace, -, hmem⟩ := exists_lookup hnames .workspace
            exact List.ne_nil_of_mem (List.mem_map_of_mem (f := (·.2)) hmem)
          refine Prog.ensures_bind (issue_spec occurredAt hnames hbalanced1 hon1 hlater1) ?_ ?_
          · rintro k2 later2 error ⟨rfl, ⟨-, _, h⟩ | ⟨hlater2, -⟩⟩
            · cases h
            · have hopen := unclosed_of_balanced hbalanced1 fun _ h => h
              exact Or.inr ⟨hlater2, hopen.leaks hne, Or.inl ⟨error, rfl⟩⟩
          · rintro k2 later2 attestation ⟨rfl, ⟨hlater2, -⟩ | ⟨-, _, h⟩⟩
            · exact Or.inl ⟨hlater2, Or.inr
                ⟨attestation, descriptors, rfl, hnames, hbalanced1, hopened1, hisolated⟩⟩
            · cases h
        · cases h
        · cases h

/-- A call that touches no descriptor, and fails outside every danger. -/
theorem ensures_idle {α : Type} (op : Operation) {f : Answer op → Raising α}
    {R : Kernel → List Event → Except Raised α → Prop}
    (hidle : ∀ env, (tree.perform k env op).1 = k) (hop : ∀ reply, ¬Unguarded ⟨op, reply⟩)
    (hmine : Guarded mine)
    (herror : ∀ later error, Guarded later → R k later (.error error))
    (hok : ∀ env later answer, Guarded later → (tree.perform k env op).2 = .ok answer →
      Ensures tree.perform R k later (f answer).run) :
    Ensures tree.perform R k mine (Prog.ask op >>= f).run := by
  refine Prog.ensures_ask ?_ ?_
  · intro env error _
    rw [hidle env]
    exact herror _ error (hmine.snoc (hop _))
  · intro env answer hanswer
    rw [hidle env]
    exact hok env _ answer (hmine.snoc (hop _)) hanswer

/-- Asking whether the platform can hand a root over opens nothing. -/
theorem capable_spec (hmine : Guarded mine) :
    Ensures tree.perform (fun k' later _ => k' = k ∧ Guarded later) k mine gate.capable.run := by
  by_cases hplatform : gate.platform = true
  · have hprobe : gate.capable = Prog.ask Operation.probe := if_pos hplatform
    rw [hprobe]
    intro env
    exact ⟨rfl, hmine.snoc fun h => h⟩
  · have hnone : gate.capable = pure false := if_neg hplatform
    rw [hnone]
    exact ⟨rfl, hmine⟩

/-- Comparing the control roots. -/
theorem controlsStore_spec (hmine : Guarded mine) :
    Ensures tree.perform (fun k' later r => k' = k ∧ Guarded later ∧
      (r = .ok true → ∃ resolved, tree.resolve request.controlRoot = .ok resolved ∧
        tree.resolve gate.controlRoot = .ok resolved))
      k mine (gate.controlsStore request).run := by
  have hresolved : ∀ env path (resolved : PyText),
      (tree.perform k env (.resolve path)).2 = .ok resolved → tree.resolve path = .ok resolved := by
    intro env path resolved h
    have hguard : env.guard (tree.resolve path) = .ok resolved := h
    unfold Injection.guard at hguard
    split at hguard
    · cases hguard
    · exact hguard
  have herror : ∀ later error, Guarded later → k = k ∧ Guarded later ∧
      ((.error error : Except Raised Bool) = .ok true → ∃ resolved,
        tree.resolve request.controlRoot = .ok resolved ∧
          tree.resolve gate.controlRoot = .ok resolved) :=
    fun later error hlater => ⟨rfl, hlater, fun h => nomatch h⟩
  refine ensures_idle (.resolve request.controlRoot) (fun _ => rfl) (fun _ h => h) hmine herror ?_
  intro env later (declared : PyText) hlater hdeclared
  refine ensures_idle (.resolve gate.controlRoot) (fun _ => rfl) (fun _ h => h) hlater herror ?_
  intro env' later' (own : PyText) hlater' hown
  refine ⟨rfl, hlater', fun hequal => ?_⟩
  have heq : decide (declared = own) = true := Except.ok.inj hequal
  obtain rfl := of_decide_eq_true heq
  exact ⟨declared, hresolved env _ _ hdeclared, hresolved env' _ _ hown⟩

/-- **`_admit_descriptors`.** -/
theorem admitDescriptors_spec (occurredAt : DateTime) (hbalanced : Balanced [] k)
    (hmine : Guarded mine) :
    Ensures tree.perform (Admitted tree gate request) k mine
      (gate.admitDescriptors (tree.depth + 1) request occurredAt).run := by
  have hraised : ∀ later error, Guarded later →
      Admitted tree gate request k later (.error error) :=
    fun later error hlater => Or.inl ⟨hlater, Or.inl ⟨hbalanced, Or.inl ⟨error, rfl⟩⟩⟩
  have hrefused : ∀ later reason, Guarded later →
      Admitted tree gate request k later (.ok (.rejected reason, [])) :=
    fun later reason hlater => Or.inl ⟨hlater, Or.inl ⟨hbalanced, Or.inr ⟨reason, rfl⟩⟩⟩
  refine Prog.ensures_bind (capable_spec hmine) ?_ ?_
  · rintro k1 later1 error ⟨rfl, hlater1⟩
    exact hraised later1 error hlater1
  · rintro k1 later1 capable ⟨rfl, hlater1⟩
    cases capable with
    | false => exact hrefused later1 _ hlater1
    | true =>
        refine Prog.ensures_bind (controlsStore_spec hlater1) ?_ ?_
        · rintro k2 later2 error ⟨rfl, hlater2, -⟩
          exact hraised later2 error hlater2
        · rintro k2 later2 controls ⟨rfl, hlater2, hcontrol⟩
          cases controls with
          | false => exact hrefused later2 _ hlater2
          | true =>
              refine Prog.ensures_bind (x := ExceptT.mk (openDeclaredRoots request))
                (openRoots_spec Root.all [] rfl hbalanced (fun _ h => nomatch h) hlater2) ?_ ?_
              · rintro k3 later3 error (⟨hlater3, hend⟩ | ⟨hlater3, hleaks, -⟩)
                · rcases hend with ⟨hbalanced3, -⟩ | ⟨_, h, -⟩
                  · exact Or.inl ⟨hlater3, Or.inl ⟨hbalanced3, Or.inl ⟨error, rfl⟩⟩⟩
                  · cases h
                · exact Or.inr ⟨hlater3, hleaks, Or.inl ⟨error, rfl⟩⟩
              · rintro k3 later3 opened (⟨hlater3, hend⟩ | ⟨-, -, _, h⟩)
                · rcases hend with ⟨hbalanced3, h | ⟨_, h⟩⟩ | ⟨all, h, hnames, hbalanced3, hopened⟩
                  · obtain rfl := Except.ok.inj h
                    exact Or.inl ⟨hlater3, Or.inl ⟨hbalanced3, Or.inr ⟨_, rfl⟩⟩⟩
                  · cases h
                  · obtain rfl := Except.ok.inj h
                    exact admitOpened_spec occurredAt hnames hbalanced3 hopened (hcontrol rfl)
                      hlater3
                · cases h

/-! ## The two calls -/

/-- Claiming touches no descriptor, and what it raises is met by the `finally`. -/
theorem claim_spec (attestation : WorkspaceCustodyAttestation) (hmine : Guarded mine) :
    Ensures tree.perform (fun k' later _ => k' = k ∧ Guarded later)
      k mine (claim attestation) := by
  intro env
  have hlater : ∀ reply, Guarded (mine ++ [⟨.claim attestation, reply⟩]) :=
    fun reply => hmine.snoc fun h => h
  generalize hreply : (tree.perform k env (.claim attestation)).2 = reply
  cases reply with
  | ok disposition => cases disposition <;> exact ⟨rfl, hlater _⟩
  | error error => cases error <;> exact ⟨rfl, hlater _⟩

/-- A custody call, from no descriptor opened to its end. -/
def run {α : Type} (tree : DirectoryTree) (envs : Nat → Injection) (call : Raising α) :
    Prog.Played Kernel Operation (fun op => Except Raised (Answer op)) (Except Raised α) :=
  call.run.play tree.perform Ledger.empty envs

/-- **What `attest` owes**: evidence of isolated roots only, and all its descriptors closed
    exactly once. -/
def AttestHolds (tree : DirectoryTree) (gate : WorkspaceCustodyGate)
    (request : WorkspaceCustodyRequest) (k : Kernel)
    (result : Except Raised WorkspaceCustodyAdmission) : Prop :=
  (∀ attestation, result = .ok (.attested attestation) → Isolated tree gate request) ∧
    k.ReleasedOnce none

/-- The descriptor that a result owns. -/
def owned : Except Raised WorkspaceCustodyRootHandoff → Option Descriptor
  | .ok (.acquired _ _ handle) => some handle.descriptor
  | _ => none

/-- **What `attest_and_acquire_root_handoff` owes**: a handoff of isolated roots only, with a
    handle on the workspace, and all its descriptors but the one of that handle closed exactly
    once. -/
def HandoffHolds (tree : DirectoryTree) (gate : WorkspaceCustodyGate)
    (request : WorkspaceCustodyRequest) (k : Kernel)
    (result : Except Raised WorkspaceCustodyRootHandoff) : Prop :=
  (∀ attestation binding handle, result = .ok (.acquired attestation binding handle) →
    Isolated tree gate request ∧ ∃ path, tree.target request.workspaceRoot = some path ∧
      k.opened[handle.descriptor]? = some path) ∧
    k.ReleasedOnce (owned result)

/-- How `attest` ends. -/
theorem attest_spec (occurredAt : DateTime) (hbalanced : Balanced [] k) (hmine : Guarded mine) :
    Ensures tree.perform (fun k' later r =>
      (Guarded later ∧ AttestHolds tree gate request k' r) ∨ (¬Guarded later ∧ Leaks [] k'))
      k mine (gate.attest (tree.depth + 1) request occurredAt).run := by
  refine Prog.ensures_bind (admitDescriptors_spec occurredAt hbalanced hmine) ?_ ?_
  · rintro k1 later1 error (⟨hlater1, ⟨hbalanced1, -⟩ | ⟨_, _, h, -⟩⟩ | ⟨hlater1, hleaks, -⟩)
    · exact Or.inl ⟨hlater1, fun _ h => (nomatch h), hbalanced1.releasedOnce⟩
    · cases h
    · exact Or.inr ⟨hlater1, hleaks⟩
  · rintro k1 later1 ⟨admission, descriptors⟩
      (⟨hlater1, ⟨hbalanced1, ⟨_, h⟩ | ⟨reason, h⟩⟩ |
        ⟨attestation, all, h, hnames, hbalanced1, -, hisolated⟩⟩ |
       ⟨hlater1, hleaks, ⟨_, h⟩ | ⟨reason, h⟩⟩)
    · cases h
    · cases h
      exact Or.inl ⟨hlater1, fun _ h => (nomatch h), hbalanced1.releasedOnce⟩
    · cases h
      -- whatever the `try` does, its `finally` closes the four roots
      have hfinally : ∀ later2 (r : Except Raised WorkspaceCustodyAdmission), Guarded later2 →
          Ensures tree.perform (fun k' later r =>
            (Guarded later ∧ AttestHolds tree gate request k' r) ∨
              (¬Guarded later ∧ Leaks [] k'))
            k1 later2 (closeAll (descriptors.map (·.2)) >>= fun _ => pure r) := by
        intro later2 r hlater2
        refine Ensures.bind (closeAll_spec (descriptors.map (·.2))) ?_
        rintro k3 later3 _ ⟨rfl, hlater3⟩
        rw [← List.append_nil (descriptors.map (·.2))] at hbalanced1
        exact Or.inl ⟨hlater3.mpr hlater2, fun _ _ => hisolated,
          hbalanced1.releaseAll.releasedOnce⟩
      have hbody : Ensures tree.perform (fun k' later _ => k' = k1 ∧ Guarded later) k1 later1
          (attestAdmitted (.attested attestation)).run := by
        refine Prog.ensures_bind (x := ExceptT.mk (claim attestation))
          (claim_spec attestation hlater1) (fun _ _ _ h => h) ?_
        rintro k2 later2 refused ⟨rfl, hlater2⟩
        cases refused with
        | some reason => exact ⟨rfl, hlater2⟩
        | none =>
            refine (built_guarded .result _ (fun _ _ h => h) hlater2).imp ?_
            exact fun _ _ _ h => ⟨h.1, h.2.1⟩
      refine Ensures.bind (p := (attestAdmitted (.attested attestation)).run) hbody ?_
      rintro k2 later2 r ⟨rfl, hlater2⟩
      exact hfinally later2 r hlater2
    · cases h
    · cases h
      exact Or.inr ⟨hlater1, hleaks⟩

/-- A handle that is issued has the workspace descriptor. -/
theorem issueHandle_spec (occurredAt : DateTime) (attestation : WorkspaceCustodyAttestation)
    (workspace : Descriptor) (hmine : Guarded mine) :
    Ensures tree.perform (fun k' later r => k' = k ∧ Guarded later ∧
      ∀ binding handle, r = .ok (binding, handle) → handle.descriptor = workspace)
      k mine (issueHandle request occurredAt attestation workspace).run := by
  refine Prog.ensures_bind (x := ExceptT.mk (fromDescriptor .binding workspace))
    (fromDescriptor_binding workspace hmine)
    (fun _ _ _ h => ⟨h.1, h.2, fun _ _ hr => nomatch hr⟩) ?_
  rintro k1 later1 identity ⟨rfl, hlater1⟩
  refine Prog.ensures_bind (built_guarded .binding _ (fun _ _ h => h) hlater1)
    (fun _ _ _ h => ⟨h.1, h.2.1, fun _ _ hr => nomatch hr⟩) ?_
  rintro k2 later2 binding ⟨rfl, hlater2, -⟩
  refine Prog.ensures_bind (built_guarded .handle _ (fun _ _ h => h) hlater2)
    (fun _ _ _ h => ⟨h.1, h.2.1, fun _ _ hr => nomatch hr⟩) ?_
  rintro k3 later3 handle ⟨rfl, hlater3, hhandle⟩
  refine ⟨rfl, hlater3, fun binding' handle' hr => ?_⟩
  obtain ⟨-, rfl⟩ := Prod.ext_iff.mp (Except.ok.inj hr)
  rw [← Except.ok.inj (hhandle handle rfl)]

/-- The `try` of the handoff: the workspace leaves the dictionary exactly when the handle has
    been issued. -/
theorem acquire_spec {descriptors : Descriptors} {workspace : Descriptor}
    (occurredAt : DateTime) (attestation : WorkspaceCustodyAttestation)
    (hlookup : descriptors.lookup .workspace = some workspace) (hmine : Guarded mine) :
    Ensures tree.perform (fun k' later r => k' = k ∧
      ((Guarded later ∧ r.2 = descriptors ∧ owned r.1 = none) ∨
        (r.2 = descriptors.filter (·.1 ≠ .workspace) ∧
          ((Guarded later ∧ owned r.1 = some workspace) ∨
            (¬Guarded later ∧ owned r.1 = none)))))
      k mine (acquire request occurredAt descriptors (.attested attestation)) := by
  unfold acquire
  rw [hlookup]
  refine Ensures.bind (claim_spec attestation hmine) ?_
  rintro k1 later1 claimed ⟨rfl, hlater1⟩
  cases claimed with
  | error error => exact ⟨rfl, Or.inl ⟨hlater1, rfl, rfl⟩⟩
  | ok refused =>
      cases refused with
      | some reason => exact ⟨rfl, Or.inl ⟨hlater1, rfl, rfl⟩⟩
      | none =>
          refine Ensures.bind (p := (issueHandle request occurredAt attestation workspace).run)
            (issueHandle_spec occurredAt attestation workspace hlater1) ?_
          rintro k2 later2 issued ⟨rfl, hlater2, hissued⟩
          cases issued with
          | error error => exact ⟨rfl, Or.inl ⟨hlater2, rfl, rfl⟩⟩
          | ok issued =>
              obtain ⟨binding, handle⟩ := issued
              have hhandle := hissued binding handle rfl
              refine Ensures.bind (p := (built .handoff _).run)
                (built_spec .handoff
                  (.ok (WorkspaceCustodyRootHandoff.acquired attestation binding handle))
                  (fun _ _ => trivial) (fun _ h => h) hlater2) ?_
              rintro k3 later3 handoff ⟨rfl, ⟨hlater3, a, ha, rfl⟩ | ⟨hlater3, error, rfl⟩⟩
              · obtain rfl := Except.ok.inj ha
                exact ⟨rfl, Or.inr ⟨rfl, Or.inl ⟨hlater3, congrArg some hhandle⟩⟩⟩
              · exact ⟨rfl, Or.inr ⟨rfl, Or.inr ⟨hlater3, rfl⟩⟩⟩

/-- Without the workspace, the dictionary has the other three descriptors. -/
theorem perm_workspace {descriptors : Descriptors} {workspace : Descriptor}
    (hnames : descriptors.map (·.1) = Root.all)
    (hlookup : descriptors.lookup .workspace = some workspace) :
    (descriptors.map (·.2)).Perm
      ((descriptors.filter (·.1 ≠ .workspace)).map (·.2) ++ [workspace]) := by
  cases descriptors with
  | nil => cases hnames
  | cons entry rest =>
      obtain ⟨name, first⟩ := entry
      obtain ⟨hname, hrest⟩ := List.cons.inj hnames
      obtain rfl : name = .workspace := hname
      obtain rfl : first = workspace := by
        rw [List.lookup_cons_self] at hlookup
        exact Option.some.inj hlookup
      have hothers : rest.filter (·.1 ≠ .workspace) = rest := by
        refine List.filter_eq_self.mpr fun other hother => decide_eq_true ?_
        have hmem : other.1 ∈ [Root.source, .audit, .control] := by
          rw [← show rest.map (·.1) = [Root.source, .audit, .control] from hrest]
          exact List.mem_map_of_mem hother
        intro hworkspace
        rw [hworkspace] at hmem
        exact absurd hmem (by decide)
      rw [List.filter_cons_of_neg (by simp), hothers]
      exact (List.perm_append_singleton first (rest.map (·.2))).symm

/-- How `attest_and_acquire_root_handoff` ends. -/
theorem handoff_spec (hbalanced : Balanced [] k) (hmine : Guarded mine) :
    Ensures tree.perform (fun k' later r =>
      (Guarded later ∧ HandoffHolds tree gate request k' r) ∨
        (¬Guarded later ∧ Leaks [] k' ∧ owned r = none))
      k mine (gate.attestAndAcquireRootHandoff (tree.depth + 1) request).run := by
  have hquiet : ∀ k' later (r : Except Raised WorkspaceCustodyRootHandoff), Guarded later →
      Balanced [] k' → (∀ a b h, r ≠ .ok (.acquired a b h)) → owned r = none →
      (Guarded later ∧ HandoffHolds tree gate request k' r) ∨
        (¬Guarded later ∧ Leaks [] k' ∧ owned r = none) := by
    intro k' later r hlater hk' hr howned
    refine Or.inl ⟨hlater, fun a b h heq => absurd heq (hr a b h), ?_⟩
    rw [howned]
    exact hk'.releasedOnce
  refine Prog.ensures_bind (capable_spec hmine) ?_ ?_
  · rintro k1 later1 error ⟨rfl, hlater1⟩
    exact hquiet _ _ _ hlater1 hbalanced (fun _ _ _ h => nomatch h) rfl
  rintro k1 later1 capable ⟨rfl, hlater1⟩
  cases capable with
  | false => exact hquiet _ _ _ hlater1 hbalanced (fun _ _ _ h => nomatch h) rfl
  | true =>
      refine ensures_idle .now (fun _ => rfl) (fun _ h => h) hlater1
        (fun later error hlater => hquiet _ _ _ hlater hbalanced (fun _ _ _ h => nomatch h) rfl) ?_
      intro env later2 (occurredAt : Occurrence) hlater2 _
      refine Prog.ensures_bind (admitDescriptors_spec occurredAt.val hbalanced hlater2) ?_ ?_
      · rintro k3 later3 error (⟨hlater3, ⟨hbalanced3, -⟩ | ⟨_, _, h, -⟩⟩ | ⟨hlater3, hleaks, -⟩)
        · exact hquiet _ _ _ hlater3 hbalanced3 (fun _ _ _ h => nomatch h) rfl
        · cases h
        · exact Or.inr ⟨hlater3, hleaks, rfl⟩
      rintro k3 later3 ⟨admission, descriptors⟩
        (⟨hlater3, ⟨hbalanced3, ⟨_, h⟩ | ⟨reason, h⟩⟩ |
          ⟨attestation, all, h, hnames, hbalanced3, hopened, hisolated⟩⟩ |
         ⟨hlater3, hleaks, ⟨_, h⟩ | ⟨reason, h⟩⟩)
      · cases h
      · cases h
        exact hquiet _ _ _ hlater3 hbalanced3 (fun _ _ _ h => nomatch h) rfl
      · cases h
        obtain ⟨workspace, hlookup, hmem⟩ := exists_lookup hnames .workspace
        obtain ⟨path, htarget, hon⟩ := hopened _ hmem
        have hperm := perm_workspace hnames hlookup
        refine Ensures.bind (acquire_spec occurredAt.val attestation hlookup hlater3) ?_
        rintro k4 later4 ⟨result, remaining⟩ ⟨rfl, hend⟩
        refine Ensures.bind (closeAll_spec (remaining.map (·.2))) ?_
        rintro k5 later5 _ ⟨rfl, hlater5⟩
        rcases hend with ⟨hlater4, rfl, hnone⟩ | ⟨rfl, ⟨hlater4, hsome⟩ | ⟨hlater4, hnone⟩⟩
        · rw [← List.append_nil (remaining.map (·.2))] at hbalanced3
          refine hquiet _ _ _ (hlater5.mpr hlater4) hbalanced3.releaseAll ?_ hnone
          intro a b h heq
          rw [heq] at hnone
          cases hnone
        · have hbalanced5 := (hbalanced3.perm hperm).releaseAll
          refine Or.inl ⟨hlater5.mpr hlater4, fun a b handle heq => ?_, ?_⟩
          · rw [heq] at hsome
            obtain rfl := Option.some.inj hsome
            refine ⟨hisolated, path, htarget, ?_⟩
            rw [Ledger.opened_releaseAll]
            exact hon.1
          · rw [hsome]
            exact hbalanced5.releasedOnce_except
        · have hbalanced5 := (hbalanced3.perm hperm).releaseAll
          exact Or.inr ⟨fun h => hlater4 (hlater5.mp h),
            hbalanced5.leaks List.mem_cons_self List.not_mem_nil, hnone⟩
      · cases h
      · cases h
        exact Or.inr ⟨hlater3, hleaks, rfl⟩

/-- **Isolation without leaks.** For every directory tree, request and failure of a call, both
    custody calls return evidence or a handle of isolated roots only and close every descriptor
    exactly once but the one of a returned handle, if and only if no call failed at a point
    that is not guarded. -/
theorem custody_isolated_and_closed_iff (tree : DirectoryTree) (gate : WorkspaceCustodyGate)
    (request : WorkspaceCustodyRequest) (envs : Nat → Injection) :
    (∀ occurredAt,
      let final := run tree envs (gate.attest (tree.depth + 1) request occurredAt)
      AttestHolds tree gate request final.shared final.value ↔ Guarded final.trace) ∧
    (let final := run tree envs (gate.attestAndAcquireRootHandoff (tree.depth + 1) request)
     HandoffHolds tree gate request final.shared final.value ↔ Guarded final.trace) := by
  have hnone : Guarded [] := fun _ h => nomatch h
  constructor
  · intro occurredAt final
    have hspec : Ensures tree.perform _ Ledger.empty []
        (gate.attest (tree.depth + 1) request occurredAt).run :=
      attest_spec occurredAt Ledger.balanced_empty hnone
    have hend := hspec.play envs
    rcases hend with ⟨hguarded, hholds⟩ | ⟨hguarded, hleaks⟩
    · exact iff_of_true hholds hguarded
    · exact iff_of_false (fun h => hleaks.not_releasedOnce h.2) hguarded
  · intro final
    have hspec : Ensures tree.perform _ Ledger.empty []
        (gate.attestAndAcquireRootHandoff (tree.depth + 1) request).run :=
      handoff_spec Ledger.balanced_empty hnone
    have hend := hspec.play envs
    rcases hend with ⟨hguarded, hholds⟩ | ⟨hguarded, hleaks, howned⟩
    · exact iff_of_true hholds hguarded
    · refine iff_of_false (fun h => ?_) hguarded
      have honce := h.2
      rw [show owned final.value = none from howned] at honce
      exact hleaks.not_releasedOnce honce

/-! ## A leak -/

/-- The root of the file system with one empty directory, `w`. -/
def workspaceTree : DirectoryTree where
  node path :=
    if path = [] ∨ path = [PyText.ofString "w"] then some .directory else none
  entries path := if path = [] then [PyText.ofString "w"] else []
  stat path := (0, path.length)
  target text := if text = PyText.ofString "/w" then some [PyText.ofString "w"] else none
  resolve text := .ok text
  depth := 1
  mem_entries path name := by
    cases path with
    | nil => simp
    | cons first rest => simp
  length_le path h := by
    have hpath : path = [] ∨ path = [PyText.ofString "w"] := by
      by_contra hnot
      exact h (if_neg hnot)
    rcases hpath with rfl | rfl <;> decide
  stat_injective path path' h h' hstat := by
    have hcases : ∀ q : Path, (if q = [] ∨ q = [PyText.ofString "w"] then some Node.directory
        else none) = some .directory → q = [] ∨ q = [PyText.ofString "w"] := by
      intro q hq
      by_contra hnot
      rw [if_neg hnot] at hq
      cases hq
    rcases hcases path h with rfl | rfl <;> rcases hcases path' h' with rfl | rfl
    · rfl
    · cases hstat
    · cases hstat
    · rfl

/-- A request whose source root has a NUL in its path. -/
def nulSourceRequest : WorkspaceCustodyRequest where
  attestationId := ⟨PyText.ofString "a", by decide⟩
  executionId := ⟨PyText.ofString "e", by decide⟩
  runId := ⟨PyText.ofString "r", by decide⟩
  workspaceId := ⟨PyText.ofString "i", by decide⟩
  workspaceRoot := PyText.ofString "/w"
  sourceRepositoryRoot := PyText.ofString "/\x00"
  auditRoot := PyText.ofString "/a"
  controlRoot := PyText.ofString "/c"
  policy := ⟨true, true, true⟩
  custodyRequestId := ⟨PyText.ofString "q", by decide⟩

/-- No call fails. -/
def calm : Injection := ⟨false, .ok true, ⟨⟨0, some 0⟩, DateTime.epoch_utc⟩, .ok .claimed⟩

/-- **The workspace descriptor is leaked**: opening the source root raises `ValueError`, which
    `_open_declared_roots` does not catch. -/
theorem workspace_leaked_by_nul :
    let final := run workspaceTree (fun _ => calm)
      (WorkspaceCustodyGate.attest ⟨true, PyText.ofString "/c"⟩ 2 nulSourceRequest ⟨0, some 0⟩)
    final.shared.opened = [[PyText.ofString "w"]] ∧ final.shared.released = [] ∧
      ¬AttestHolds workspaceTree ⟨true, PyText.ofString "/c"⟩ nulSourceRequest final.shared
        final.value := by
  refine ⟨by decide +kernel, by decide +kernel, fun h => ?_⟩
  exact absurd (h.2 0 (by decide +kernel)) (by decide +kernel)

end Eag.GovernedWorkspace
