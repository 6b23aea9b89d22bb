/-
  Eag.Mutation.Runtime

  `GovernedMutationRuntime` (`mutation/runtime.py`). A call of `mutate` holds the lock of
  the runtime to its end, so a call is a function of the workspace it finds. Which file
  operations the system refuses is part of the call.

  Subscribers that raise are not modelled, nor is the temporary file of an atomic write.
  An authorization (`mutation/authorization.py`) is a value: `consume` answers with a
  consumed copy, and the record that was presented keeps the state it had.
-/

import Eag.Mutation.Policy

namespace Eag.Mutation

open Eag.Foundation

/-! ## Authorization -/

/-- The settings of an authorizer. -/
structure MutationAuthorizer where
  policyVersion : String

namespace MutationAuthorizer

variable (authorizer : MutationAuthorizer)

/-- `_reject`. -/
def violation (code : MutationViolationCode) (message targetPath : String) :
    MutationViolation where
  code := code
  stage := "mutation_authorization"
  message := message
  targetPath := some targetPath
  policyVersion := authorizer.policyVersion

/-- `authorize`, with the fresh identity of the record. -/
def authorize (authorizationId : String) (validated : ValidatedChangeProposal) :
    MutationAuthorization where
  authorizationId := authorizationId
  proposalId := validated.proposal.proposalId
  proposalDigest := validated.proposal.digest
  targetPath := validated.proposal.targetPath
  operation := validated.proposal.operation
  workspaceFingerprint := validated.workspaceFingerprint
  repositorySnapshotFingerprint := validated.proposal.repositorySnapshotFingerprint
  policyVersion := authorizer.policyVersion
  state := .authorized
  authorizationMetadata := [("contract_version", .str validated.proposal.contractVersion)]
  identities_nonBlank :=
    ⟨validated.proposal.identities_nonBlank _ (by simp),
      nonBlank_of_isDigest (isDigest_jsonDigest _)⟩

/-- The fields of an authorization that `consume` compares, for a proposal in a
    workspace. -/
def Matches (authorization : MutationAuthorization) (proposal : ChangeProposal)
    (workspaceFingerprint : String) : Prop :=
  authorization.proposalId = proposal.proposalId ∧
  authorization.proposalDigest = proposal.digest ∧
  authorization.targetPath = proposal.targetPath ∧
  authorization.operation = proposal.operation ∧
  authorization.workspaceFingerprint = workspaceFingerprint ∧
  authorization.repositorySnapshotFingerprint = proposal.repositorySnapshotFingerprint ∧
  authorization.policyVersion = authorizer.policyVersion

instance (authorization : MutationAuthorization) (proposal : ChangeProposal)
    (workspaceFingerprint : String) :
    Decidable (authorizer.Matches authorization proposal workspaceFingerprint) := by
  unfold Matches; infer_instance

/-- `consume`. -/
def consume (authorization : MutationAuthorization) (validated : ValidatedChangeProposal) :
    Except MutationViolation MutationAuthorization := do
  let proposal := validated.proposal
  require (authorization.state = .authorized)
    (authorizer.violation .authorizationReused
      "authorization is not available for one-time consumption" proposal.targetPath)
  require (authorizer.Matches authorization proposal validated.workspaceFingerprint)
    (authorizer.violation .authorizationMismatch
      "authorization does not match the validated proposal state" proposal.targetPath)
  .ok { authorization with state := .consumed }

/-- What `consume` accepts, and the copy it answers with. -/
theorem consume_eq_ok (authorization consumed : MutationAuthorization)
    (validated : ValidatedChangeProposal) :
    authorizer.consume authorization validated = .ok consumed ↔
      authorization.state = .authorized ∧
      authorizer.Matches authorization validated.proposal validated.workspaceFingerprint ∧
      consumed = { authorization with state := .consumed } := by
  simp only [consume, except_bind_eq_ok, require_eq_ok]
  constructor
  · rintro ⟨-, hstate, -, hmatches, hconsumed⟩
    exact ⟨hstate, hmatches, (Except.ok.inj hconsumed).symm⟩
  · rintro ⟨hstate, hmatches, rfl⟩
    exact ⟨(), hstate, (), hmatches, rfl⟩

/-- An issued authorization matches what it was issued for. -/
theorem authorize_matches (authorizationId : String) (validated : ValidatedChangeProposal) :
    authorizer.Matches (authorizer.authorize authorizationId validated) validated.proposal
      validated.workspaceFingerprint :=
  ⟨rfl, rfl, rfl, rfl, rfl, rfl, rfl⟩

end MutationAuthorizer

/-! ## The runtime -/

/-- The settings of a runtime. -/
structure GovernedMutationRuntime where
  policy : MutationPolicy
  authorizer : MutationAuthorizer

/-! ## Calls -/

/-- The accesses to the file system that one call of `mutate` makes. -/
inductive FileAccess where
  | validate
  | readBefore
  | write
  | readBack
  | restoreRead
  | restoreWrite
  deriving DecidableEq, Repr

/-- One call of `mutate`: its arguments, the fresh identity of its receipt, and the
    accesses that raise `OSError`. -/
structure MutateCall where
  validated : ValidatedChangeProposal
  authorization : MutationAuthorization
  mutationId : String
  fails : FileAccess → Bool

/-- What a call did: the receipt it returned or the access whose error left it, the
    files, the published events, and whether it replaced or created the target. -/
structure Mutated where
  outcome : Except FileAccess MutationReceipt
  workspace : Workspace
  events : List MutationEvent
  wrote : Bool

/-! ## Files -/

/-- The text of a file. -/
def Workspace.textAt (ws : Workspace) (path : List String) : String :=
  match ws.entries path with
  | some (.file (.text content)) => content
  | _ => ""

@[simp] theorem Workspace.textAt_set (ws : Workspace) (path : List String) (content : String) :
    (ws.set path (some (.file (.text content)))).textAt path = content := by
  simp [Workspace.textAt]

/-- What `read_text` makes of the line ends. -/
def universalNewlines : List Char → List Char
  | [] => []
  | '\r' :: '\n' :: rest => '\n' :: universalNewlines rest
  | c :: rest => (if c = '\r' then '\n' else c) :: universalNewlines rest

/-- `_target_path`: empty names and single dots do not count when paths are joined. -/
def targetPath (proposal : ChangeProposal) : List String := posixParts proposal.targetPath

/-- `_verify_postcondition`. -/
def verifyPostcondition (proposal : ChangeProposal) (fingerprint : String) : Bool :=
  proposal.expectedPostcondition.expectExists &&
    (proposal.expectedPostcondition.expectedFingerprint.all (· == fingerprint)) &&
    fingerprint == proposal.contentFingerprint

/-- `_conditional_restore`: whether the target was restored, and the files. -/
def conditionalRestore (fails : FileAccess → Bool) (proposal : ChangeProposal) (ws : Workspace)
    (before observedPostFingerprint : String) : Bool × Workspace :=
  let target := targetPath proposal
  let current := String.ofList (universalNewlines (ws.textAt target).toList)
  if fails .restoreRead then (false, ws)
  -- the text was read with its line ends translated, the observed bytes were not
  else if sha256Hex current ≠ observedPostFingerprint then (false, ws)
  else if fails .restoreWrite then (false, ws)
  else
    match proposal.operation with
    | .createFile => (true, ws.set target none)
    | _ => (true, ws.set target (some (.file (.text before))))

/-! ## Receipts and events -/

namespace GovernedMutationRuntime

variable (runtime : GovernedMutationRuntime)

/-- The event of a rejection. -/
def rejectedEvent (proposal : ChangeProposal) (violation : MutationViolation) : MutationEvent :=
  .rejected proposal.proposalId proposal.runId violation.code violation.stage
    violation.targetPath

/-- `_rejected_receipt`, less its event. -/
def rejectedReceipt (mutationId : String) (proposal : ChangeProposal)
    (violation : MutationViolation) (authorization : Option MutationAuthorization) :
    MutationReceipt where
  mutationId := mutationId
  proposalId := proposal.proposalId
  runId := proposal.runId
  authorizationId := authorization.map (·.authorizationId)
  targetPath := proposal.targetPath
  operation := proposal.operation
  result := .rejected
  preFingerprint := none
  postFingerprint := none
  bytesBefore := 0
  bytesAfter := 0
  bytesChanged := 0
  authorizationState := some ((authorization.map (·.state)).getD .rejected)
  policyVersion := violation.policyVersion
  failureCode := some violation.code.value
  failureReason := some violation.message
  verificationPassed := false
  rollbackPerformed := false
  contractVersion := mutationContractVersion
  verified_of_completed := by simp

/-- The receipt of a write: completed without a failure, failed with one. The bytes
    after it are known when the target was read back. -/
def writeReceipt (call : MutateCall) (current : ValidatedChangeProposal)
    (consumed : MutationAuthorization) (before : String) (after : Option String)
    (failure : Option (MutationViolationCode × String)) (rollbackPerformed : Bool) :
    MutationReceipt where
  mutationId := call.mutationId
  proposalId := call.validated.proposal.proposalId
  runId := call.validated.proposal.runId
  authorizationId := some consumed.authorizationId
  targetPath := call.validated.proposal.targetPath
  operation := call.validated.proposal.operation
  result := if failure.isNone then .completed else .failed
  preFingerprint := current.targetFingerprint
  postFingerprint := after.map sha256Hex
  bytesBefore := before.utf8ByteSize
  bytesAfter := (after.map String.utf8ByteSize).getD 0
  -- `abs(len(after) - len(before))`, and zero when nothing was read back
  bytesChanged := (after.map fun content =>
    ((content.utf8ByteSize : Int) - before.utf8ByteSize).natAbs).getD 0
  authorizationState := some consumed.state
  policyVersion := runtime.policy.settings.policyVersion
  failureCode := failure.map (·.1.value)
  failureReason := failure.map (·.2)
  verificationPassed := failure.isNone
  rollbackPerformed := rollbackPerformed
  contractVersion := mutationContractVersion
  verified_of_completed := by cases failure <;> simp

/-- `_publish_failed`. -/
def failedEvent (proposal : ChangeProposal) (receipt : MutationReceipt)
    (code : MutationViolationCode) : MutationEvent :=
  .failed proposal.proposalId proposal.runId receipt.mutationId code "mutation_execution"

/-! ## One call -/

/-- The first two statements of `mutate`: the proposal is validated in the state that
    stands, and the authorization is consumed for it. -/
def consumeCurrent (ws : Workspace) (call : MutateCall) :
    Except MutationViolation (ValidatedChangeProposal × MutationAuthorization) := do
  let current ← validate runtime.policy ws call.validated.proposal
  let consumed ← runtime.authorizer.consume call.authorization current
  .ok (current, consumed)

/-- The part of `mutate` after the write, over the files as written. -/
def finish (ws : Workspace) (call : MutateCall) (current : ValidatedChangeProposal)
    (consumed : MutationAuthorization) (before : String) :
    MutationReceipt × Workspace × MutationEvent :=
  let proposal := call.validated.proposal
  let receipt := runtime.writeReceipt call current consumed before
  if call.fails .readBack then
    let failed := receipt none (some (.writeFailed, "bounded atomic workspace write failed")) false
    (failed, ws, failedEvent proposal failed .writeFailed)
  else
    let after := ws.textAt (targetPath proposal)
    if verifyPostcondition proposal (sha256Hex after) then
      let completed := receipt (some after) none false
      (completed, ws, .completed proposal.proposalId proposal.runId completed.mutationId
        proposal.targetPath proposal.operation completed.result)
    else
      let (restored, ws) := conditionalRestore call.fails proposal ws before (sha256Hex after)
      let failed := receipt (some after)
        (some (.postconditionMismatch, "postcondition fingerprint did not match")) restored
      (failed, ws, failedEvent proposal failed .postconditionMismatch)

/-- `mutate`. -/
def mutate (ws : Workspace) (call : MutateCall) : Mutated :=
  let proposal := call.validated.proposal
  if call.fails .validate then ⟨.error .validate, ws, [], false⟩
  else
    match runtime.consumeCurrent ws call with
    | .error violation =>
        -- published once here and once more with the receipt
        ⟨.ok (rejectedReceipt call.mutationId proposal violation (some call.authorization)), ws,
          [rejectedEvent proposal violation, rejectedEvent proposal violation], false⟩
    | .ok (current, consumed) =>
        if current.targetExists ∧ call.fails .readBefore then ⟨.error .readBefore, ws, [], false⟩
        else
          let before := ws.textAt (targetPath proposal)
          let started : MutationEvent := .started proposal.proposalId proposal.runId
            consumed.authorizationId proposal.targetPath proposal.operation
          if call.fails .write then
            let failed := runtime.writeReceipt call current consumed before none
              (some (.writeFailed, "bounded atomic workspace write failed")) false
            ⟨.ok failed, ws, [started, failedEvent proposal failed .writeFailed], false⟩
          else
            let written := ws.set (targetPath proposal) (some (.file (.text proposal.content)))
            let (receipt, ws, event) := runtime.finish written call current consumed before
            ⟨.ok receipt, ws, [started, event], true⟩

/-! ## What a write reports -/

theorem writeReceipt_result_ne_rejected (call : MutateCall) (current : ValidatedChangeProposal)
    (consumed : MutationAuthorization) (before : String) (after : Option String)
    (failure : Option (MutationViolationCode × String)) (rollbackPerformed : Bool) :
    (runtime.writeReceipt call current consumed before after failure
      rollbackPerformed).result ≠ .rejected := by
  cases failure <;> simp [writeReceipt]

/-- A write is never reported as rejected. -/
theorem finish_result_ne_rejected (ws : Workspace) (call : MutateCall)
    (current : ValidatedChangeProposal) (consumed : MutationAuthorization) (before : String) :
    (runtime.finish ws call current consumed before).1.result ≠ .rejected := by
  unfold finish
  dsimp only
  split
  · exact runtime.writeReceipt_result_ne_rejected _ _ _ _ _ _ _
  · split
    · exact runtime.writeReceipt_result_ne_rejected _ _ _ _ _ _ _
    · exact runtime.writeReceipt_result_ne_rejected _ _ _ _ _ _ _

/-- The content was written, so a write completes exactly when it can be read back and
    the postcondition is one the content meets. -/
theorem finish_result_completed (ws : Workspace) (call : MutateCall)
    (current : ValidatedChangeProposal) (consumed : MutationAuthorization) (before : String)
    (hws : ws.textAt (targetPath call.validated.proposal) = call.validated.proposal.content) :
    (runtime.finish ws call current consumed before).1.result = .completed ↔
      call.fails .readBack = false ∧
      verifyPostcondition call.validated.proposal
        call.validated.proposal.contentFingerprint = true := by
  have hfp : sha256Hex (ws.textAt (targetPath call.validated.proposal)) =
      call.validated.proposal.contentFingerprint := by rw [hws, ChangeProposal.contentFingerprint]
  unfold finish
  by_cases hread : call.fails .readBack = true
  · simp [hread, writeReceipt]
  · by_cases hpost : verifyPostcondition call.validated.proposal
        call.validated.proposal.contentFingerprint = true
    · simp [hread, hpost, hfp, writeReceipt]
    · simp [hread, hpost, hfp, writeReceipt]

/-- What stands at the target after a completed write is the content of the proposal. -/
theorem finish_workspace_of_completed (ws : Workspace) (call : MutateCall)
    (current : ValidatedChangeProposal) (consumed : MutationAuthorization) (before : String)
    (h : (runtime.finish ws call current consumed before).1.result = .completed) :
    (runtime.finish ws call current consumed before).2.1 = ws := by
  unfold finish at h ⊢
  by_cases hread : call.fails .readBack = true
  · simp [hread]
  · simp only [hread] at h ⊢
    by_cases hpost : verifyPostcondition call.validated.proposal
        (sha256Hex (ws.textAt (targetPath call.validated.proposal))) = true
    · simp [hpost]
    · simp [hpost, writeReceipt] at h

end GovernedMutationRuntime

end Eag.Mutation
