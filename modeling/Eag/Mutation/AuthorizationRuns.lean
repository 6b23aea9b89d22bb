/-
  Eag.Mutation.AuthorizationRuns

  Authorizations over whole histories of a runtime: calls of `mutate` in any
  order, with any file faults, and any change to the files between them.

  `consume` decides from the presented record and the state that stands, and
  keeps no account of what it consumed. `one_time_iff` says for which histories
  an authorization is still used only once.
-/

import Eag.Mutation.Runtime

namespace Eag.Mutation

open Eag.Foundation

/-! ## Histories -/

/-- A step of a history: a call, or somebody else changing the files. -/
inductive HistoryStep where
  | mutate (call : MutateCall)
  | external (ws : Workspace)

/-- A call and the files it found. -/
structure Attempt where
  ws : Workspace
  call : MutateCall

namespace Attempt

variable (runtime : GovernedMutationRuntime) (attempt : Attempt)

/-- The identity of the authorization that is presented. -/
def authorizationId : String := attempt.call.authorization.authorizationId

def result : Mutated := runtime.mutate attempt.ws attempt.call

/-- The call wrote its target. -/
def Wrote : Prop := (attempt.result runtime).wrote = true

instance : Decidable (attempt.Wrote runtime) :=
  inferInstanceAs (Decidable ((attempt.result runtime).wrote = true))

/-- The call returned a completed receipt. -/
def Successful : Prop :=
  ∃ receipt, (attempt.result runtime).outcome = .ok receipt ∧ receipt.result = .completed

/-- The call returned a rejected receipt, or raised while it validated. -/
def Refused : Prop :=
  (∃ receipt, (attempt.result runtime).outcome = .ok receipt ∧ receipt.result = .rejected) ∨
    (attempt.result runtime).outcome = .error .validate

/-- The call left the files as it found them. -/
def Unchanged : Prop := (attempt.result runtime).workspace = attempt.ws

end Attempt

/-- The calls of a history, each with the files it found. -/
def attempts (runtime : GovernedMutationRuntime) : Workspace → List HistoryStep → List Attempt
  | _, [] => []
  | _, .external ws :: steps => attempts runtime ws steps
  | ws, .mutate call :: steps =>
      ⟨ws, call⟩ :: attempts runtime (runtime.mutate ws call).workspace steps

/-- **One-time authorization.** No identity is presented in two calls that write, and a
    call that presents the identity of an earlier successful call is refused and leaves
    every file unchanged. -/
def OneTime (runtime : GovernedMutationRuntime) (history : List Attempt) : Prop :=
  ((history.filter fun attempt => attempt.Wrote runtime).map Attempt.authorizationId).Nodup ∧
  history.Pairwise fun earlier later => later.authorizationId = earlier.authorizationId →
    earlier.Successful runtime → later.Refused runtime ∧ later.Unchanged runtime

/-! ## What decides a call -/

namespace Attempt

variable (runtime : GovernedMutationRuntime) (attempt : Attempt)

/-- The presented record is still `AUTHORIZED` and matches the proposal, and the proposal
    is acceptable in the files the call finds: its precondition holds there. -/
def Available : Prop :=
  attempt.call.authorization.state = .authorized ∧
  runtime.authorizer.Matches attempt.call.authorization attempt.call.validated.proposal
    (workspaceFingerprint attempt.ws) ∧
  Acceptable runtime.policy attempt.ws attempt.call.validated.proposal

/-- No access that comes before the write is refused by the file system, nor the write. -/
def ReachesWrite : Prop :=
  attempt.call.fails .validate = false ∧
  ¬ ((attempt.ws.entries (targetPath attempt.call.validated.proposal)).isSome = true ∧
    attempt.call.fails .readBefore = true) ∧
  attempt.call.fails .write = false

/-- The postcondition of the proposal is one its content meets, and it can be read back. -/
def Verifiable : Prop :=
  attempt.call.fails .readBack = false ∧
  verifyPostcondition attempt.call.validated.proposal
    attempt.call.validated.proposal.contentFingerprint = true

theorem consumeCurrent_ok_iff :
    (∃ accepted, runtime.consumeCurrent attempt.ws attempt.call = .ok accepted) ↔
      attempt.Available runtime := by
  simp only [GovernedMutationRuntime.consumeCurrent, except_bind_eq_ok, validate_eq_ok,
    MutationAuthorizer.consume_eq_ok]
  constructor
  · rintro ⟨accepted, current, ⟨target, text, hinspect, hpre, rfl⟩, consumed,
      ⟨hstate, hmatches, -⟩, -⟩
    exact ⟨hstate, hmatches, target, text, hinspect, hpre⟩
  · rintro ⟨hstate, hmatches, target, text, hinspect, hpre⟩
    exact ⟨_, _, ⟨target, text, hinspect, hpre, rfl⟩, _, ⟨hstate, hmatches, rfl⟩, rfl⟩

/-- The target exists for the accepted proposal exactly when something stands at its
    path. -/
theorem targetExists_of_consumeCurrent {current : ValidatedChangeProposal}
    {consumed : MutationAuthorization}
    (h : runtime.consumeCurrent attempt.ws attempt.call = .ok (current, consumed)) :
    current.targetExists =
      (attempt.ws.entries (targetPath attempt.call.validated.proposal)).isSome := by
  simp only [GovernedMutationRuntime.consumeCurrent, except_bind_eq_ok, validate_eq_ok] at h
  obtain ⟨validated, ⟨target, text, hinspect, -, rfl⟩, authorization, -, h⟩ := h
  obtain ⟨rfl, -⟩ := Prod.mk.inj (Except.ok.inj h)
  obtain ⟨htarget, hentry⟩ := inspect_eq_ok hinspect
  rw [htarget] at hentry
  rw [targetPath, hentry, Option.isSome_map]

/-- A call that is not available is refused before anything is written. -/
theorem result_of_not_available (h : ¬ attempt.Available runtime) :
    attempt.Refused runtime ∧ attempt.Unchanged runtime ∧ ¬ attempt.Wrote runtime ∧
      ¬ attempt.Successful runtime := by
  rw [← consumeCurrent_ok_iff] at h
  unfold Refused Unchanged Wrote Successful result GovernedMutationRuntime.mutate
  by_cases hfails : attempt.call.fails .validate = true
  · simp [hfails]
  · cases hconsume : runtime.consumeCurrent attempt.ws attempt.call with
    | ok accepted => exact absurd ⟨accepted, hconsume⟩ h
    | error violation => simp [hfails, GovernedMutationRuntime.rejectedReceipt]

/-- A call that cannot validate is refused as well. -/
theorem result_of_fails_validate (h : attempt.call.fails .validate = true) :
    attempt.Refused runtime ∧ attempt.Unchanged runtime ∧ ¬ attempt.Wrote runtime ∧
      ¬ attempt.Successful runtime := by
  unfold Refused Unchanged Wrote Successful result GovernedMutationRuntime.mutate
  simp [h]

/-- **An available authorization is accepted.** It is not refused; the target is written
    when the file system lets the call get there, and the call is successful when the
    postcondition holds of the content. -/
theorem result_of_available (h : attempt.Available runtime)
    (hvalidate : attempt.call.fails .validate = false) :
    ¬ attempt.Refused runtime ∧ (attempt.Wrote runtime ↔ attempt.ReachesWrite) ∧
      (attempt.Successful runtime ↔ attempt.ReachesWrite ∧ attempt.Verifiable) := by
  obtain ⟨⟨current, consumed⟩, hconsume⟩ := (attempt.consumeCurrent_ok_iff runtime).mpr h
  have hexists := attempt.targetExists_of_consumeCurrent runtime hconsume
  unfold Refused Wrote Successful ReachesWrite Verifiable result GovernedMutationRuntime.mutate
  simp only [hvalidate, hconsume, Bool.false_eq_true, if_false, true_and, ← hexists]
  by_cases hbefore : current.targetExists = true ∧ attempt.call.fails .readBefore = true
  · -- the bytes before the write cannot be read: the error leaves the call
    simp [hbefore]
  · simp only [hbefore, if_false, not_false_eq_true, true_and]
    by_cases hwrite : attempt.call.fails .write = true
    · simp [hwrite, GovernedMutationRuntime.writeReceipt]
    · -- the content stands at the target, whatever `finish` then makes of it
      have hwritten := Workspace.textAt_set attempt.ws
        (targetPath attempt.call.validated.proposal) attempt.call.validated.proposal.content
      have hcompleted := runtime.finish_result_completed _ attempt.call current consumed
        (attempt.ws.textAt (targetPath attempt.call.validated.proposal)) hwritten
      have hrejected := runtime.finish_result_ne_rejected (attempt.ws.set
          (targetPath attempt.call.validated.proposal)
          (some (.file (.text attempt.call.validated.proposal.content)))) attempt.call current
        consumed (attempt.ws.textAt (targetPath attempt.call.validated.proposal))
      simp [hwrite, hcompleted, hrejected]

theorem refused_iff :
    attempt.Refused runtime ↔
      ¬ (attempt.Available runtime ∧ attempt.call.fails .validate = false) := by
  by_cases hvalidate : attempt.call.fails .validate = true
  · simp [hvalidate, (attempt.result_of_fails_validate runtime hvalidate).1]
  · rw [Bool.not_eq_true] at hvalidate
    by_cases h : attempt.Available runtime
    · simp [h, hvalidate, (attempt.result_of_available runtime h hvalidate).1]
    · simp [h, (attempt.result_of_not_available runtime h).1]

/-- The call gets an available authorization as far as the write. -/
def Spends : Prop := attempt.Available runtime ∧ attempt.ReachesWrite

theorem wrote_iff : attempt.Wrote runtime ↔ attempt.Spends runtime := by
  unfold Spends
  by_cases hvalidate : attempt.call.fails .validate = true
  · simp [ReachesWrite, hvalidate, (attempt.result_of_fails_validate runtime hvalidate).2.2.1]
  · rw [Bool.not_eq_true] at hvalidate
    by_cases h : attempt.Available runtime
    · simp [h, (attempt.result_of_available runtime h hvalidate).2.1]
    · simp [h, (attempt.result_of_not_available runtime h).2.2.1]

theorem successful_iff :
    attempt.Successful runtime ↔ attempt.Spends runtime ∧ attempt.Verifiable := by
  unfold Spends
  by_cases hvalidate : attempt.call.fails .validate = true
  · simp [ReachesWrite, hvalidate, (attempt.result_of_fails_validate runtime hvalidate).2.2.2]
  · rw [Bool.not_eq_true] at hvalidate
    by_cases h : attempt.Available runtime
    · simp [h, (attempt.result_of_available runtime h hvalidate).2.2]
    · simp [h, (attempt.result_of_not_available runtime h).2.2.2]

/-- A successful call leaves the content at its target, and every other file alone. -/
theorem workspace_of_successful (h : attempt.Successful runtime) :
    (attempt.result runtime).workspace =
      attempt.ws.set (targetPath attempt.call.validated.proposal)
        (some (.file (.text attempt.call.validated.proposal.content))) := by
  obtain ⟨havailable, hvalidate, hbefore, hwrite⟩ := ((attempt.successful_iff runtime).mp h).1
  obtain ⟨⟨current, consumed⟩, hconsume⟩ :=
    (attempt.consumeCurrent_ok_iff runtime).mpr havailable
  rw [← attempt.targetExists_of_consumeCurrent runtime hconsume] at hbefore
  unfold Successful at h
  unfold result GovernedMutationRuntime.mutate at h ⊢
  simp only [hvalidate, hconsume, hbefore, hwrite, Bool.false_eq_true, if_false] at h ⊢
  obtain ⟨receipt, hreceipt, hcompleted⟩ := h
  obtain rfl := Except.ok.inj hreceipt
  exact runtime.finish_workspace_of_completed _ _ _ _ _ hcompleted

/-- A refused call changes no file. -/
theorem unchanged_of_refused (h : attempt.Refused runtime) : attempt.Unchanged runtime := by
  rw [refused_iff] at h
  by_cases hvalidate : attempt.call.fails .validate = true
  · exact (attempt.result_of_fails_validate runtime hvalidate).2.1
  · have havailable : ¬ attempt.Available runtime :=
      fun ha => h ⟨ha, by simpa using hvalidate⟩
    exact (attempt.result_of_not_available runtime havailable).2.1

end Attempt

/-! ## When an authorization is used once -/

/-- `later` does not use again what `earlier` used: where both present one identity and
    `earlier` wrote, the record that `later` presents is no longer available in the files
    it finds, or the file system keeps it from the write; where the write of `earlier`
    could be verified, it is not available at all. -/
def NotReused (runtime : GovernedMutationRuntime) (earlier later : Attempt) : Prop :=
  later.authorizationId = earlier.authorizationId → earlier.Spends runtime →
    ¬ later.Spends runtime ∧
    (earlier.Verifiable →
      ¬ (later.Available runtime ∧ later.call.fails .validate = false))

/-- **Exactly when one-time authorization holds** of a history, for every first workspace
    and every sequence of calls and external changes: no later call finds the
    authorization of an earlier write available again. -/
theorem one_time_iff (runtime : GovernedMutationRuntime) (ws : Workspace)
    (steps : List HistoryStep) :
    OneTime runtime (attempts runtime ws steps) ↔
      (attempts runtime ws steps).Pairwise (NotReused runtime) := by
  unfold OneTime
  rw [List.Nodup, List.pairwise_map, List.pairwise_filter, ← List.pairwise_and_iff]
  refine List.Pairwise.iff fun earlier later => ?_
  simp only [decide_eq_true_eq, Attempt.wrote_iff, Attempt.successful_iff, NotReused]
  constructor
  · rintro ⟨hwrites, hrefused⟩ hid hspends
    refine ⟨fun hagain => hwrites hspends hagain hid.symm, fun hverifiable => ?_⟩
    exact (later.refused_iff runtime).mp (hrefused hid ⟨hspends, hverifiable⟩).1
  · intro h
    refine ⟨fun hspends hagain hid => (h hid.symm hspends).1 hagain, ?_⟩
    rintro hid ⟨hspends, hverifiable⟩
    have hrefused := (later.refused_iff runtime).mpr ((h hid hspends).2 hverifiable)
    exact ⟨hrefused, later.unchanged_of_refused runtime hrefused⟩

/-! ## One authorization, two writes -/

/-- A runtime with small limits whose sensitivity policy objects to nothing. -/
def plainRuntime : GovernedMutationRuntime where
  policy := {
    settings := {
      maxContentBytes := 64000, maxTargetBytes := 64000, policyVersion := "1.0"
      limits_pos := by decide
      policyVersion_nonBlank := nonBlank_of_head '1' _ (by decide) }
    sensitivity := { excludes := fun _ => false, redactions := fun _ => 0 } }
  authorizer := { policyVersion := "1.0" }

/-- One text file. -/
def plainWorkspace : Workspace where
  rootIdentity := "1:2"
  entries path := if path = ["notes"] then some (.file (.text "hello")) else none

/-- A proposal to write to the file what stands there. -/
def plainProposal : ChangeProposal where
  proposalId := "p"
  runId := "r"
  decisionId := "d"
  targetPath := "notes"
  operation := .modifyFile
  content := "hello"
  precondition := {
    expectExists := true
    expectedFingerprint := some (sha256Hex "hello")
    fingerprint_of_exists := by
      intro _ hempty
      have hblank := nonBlank_of_isDigest (isDigest_sha256Hex "hello")
      rw [Option.getD_some] at hempty
      rw [hempty] at hblank
      exact absurd hblank (by decide)
    fingerprint_of_absent := by simp }
  reason := "n"
  provenanceIds := []
  risk := .low
  authorizationMetadata := []
  expectedPostcondition := { expectExists := true, expectedFingerprint := none }
  contextFingerprint := ""
  repositorySnapshotFingerprint := ""
  workspaceFingerprint := ""
  contractVersion := mutationContractVersion
  identities_nonBlank := by decide
  provenanceIds_nodup := by decide
  contractVersion_supported := rfl

def plainValidated : ValidatedChangeProposal where
  proposal := plainProposal
  targetFingerprint := some (sha256Hex "hello")
  targetSize := 5
  targetExists := true
  workspaceFingerprint := workspaceFingerprint plainWorkspace

/-- A call with the authorization the runtime issued for the proposal. -/
def plainCall : MutateCall where
  validated := plainValidated
  authorization := plainRuntime.authorizer.authorize "a" plainValidated
  mutationId := "m"
  fails := fun _ => false

theorem inspect_plain :
    inspect plainRuntime.policy plainWorkspace plainProposal = .ok (["notes"], some "hello") := by
  decide

theorem validate_plain :
    validate plainRuntime.policy plainWorkspace plainProposal = .ok plainValidated := by
  rw [validate_eq_ok]
  exact ⟨_, _, inspect_plain, ⟨rfl, rfl⟩, rfl⟩

theorem spends_plain : (Attempt.mk plainWorkspace plainCall).Spends plainRuntime :=
  ⟨⟨rfl, plainRuntime.authorizer.authorize_matches "a" plainValidated, _, _, inspect_plain,
    rfl, rfl⟩, rfl, by simp [plainCall], rfl⟩

/-- **A consumed authorization is accepted again**: writing what already stands there
    leaves the precondition in place, and the second call completes like the first. -/
theorem not_oneTime_plain :
    ¬ OneTime plainRuntime
      (attempts plainRuntime plainWorkspace [.mutate plainCall, .mutate plainCall]) := by
  have hsuccessful : (Attempt.mk plainWorkspace plainCall).Successful plainRuntime :=
    (Attempt.successful_iff ..).mpr ⟨spends_plain, rfl, by simp [plainCall, plainValidated,
      plainProposal, verifyPostcondition]⟩
  have hsame : (plainRuntime.mutate plainWorkspace plainCall).workspace = plainWorkspace := by
    have hset := Attempt.workspace_of_successful plainRuntime _ hsuccessful
    rw [Workspace.set_of_entries_eq] at hset
    · exact hset
    · decide
  rw [one_time_iff]
  intro h
  simp only [attempts, hsame, List.pairwise_cons, List.mem_singleton, forall_eq] at h
  exact (h.1 rfl spends_plain).1 spends_plain

end Eag.Mutation
