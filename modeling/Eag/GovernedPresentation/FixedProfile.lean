/-
  Eag.GovernedPresentation.FixedProfile

  `submit_fixed_profile_construction` and `continue_fixed_profile_after_handoff`: a
  submission relayed through the intent issuer, the custody gate, the work order owners and
  the file constructor.

  The owners of the intent, the work order, the authorization and the construction are not
  in the source tree. Each call on one of them is an operation that is answered or refused
  from outside; their evidence is a type of its own.
-/

import Eag.GovernedWorkspace.Gate

namespace Eag.GovernedPresentation

open Eag.Foundation Eag.GovernedWorkspace

/-! ## Evidence of the owners -/

/-- The evidence types of the owners, with what the presentation reads of them. -/
structure Owners where
  Intent : Type
  IntentAssessment : Type
  /-- The disposition is `FIXED_PROFILE_CONSTRUCTION_INTENT_ATTESTED`. -/
  intentAttested : IntentAssessment → Bool
  intentDisposition : IntentAssessment → String
  WorkOrder : Type
  WorkOrderRequest : Type
  WorkOrderAssessment : Type
  /-- The disposition is `INTENT_BOUND_LOCAL_CONSTRUCTION_WORK_ORDER_ATTESTED`. -/
  workOrderAttested : WorkOrderAssessment → Bool
  workOrderDisposition : WorkOrderAssessment → String
  Authorization : Type
  Receipt : Type

/-- `FixedProfilePresentationSubmission`. -/
structure FixedProfilePresentationSubmission where
  submissionId : PyText
  selectedProfileToken : PyText
  requestedAt : DateTime
  expiresAt : DateTime
  custodyGate : WorkspaceCustodyGate
  custodyRequest : WorkspaceCustodyRequest
  /-- `attestation_id` and `binding_digest` of the runtime composition attestation. -/
  compositionAttestation : PyText × String

/-- What can escape a submission. -/
inductive SubmissionError where
  /-- `ConstructionWorkOrderEvidenceError`. -/
  | evidence (text : String)
  | value (text : String)
  | custody (error : Raised)
  | other
  deriving DecidableEq, Repr

/-- What the work order is issued from. -/
structure WorkOrderTerms (owners : Owners) where
  workOrderId : PyText
  attestation : WorkspaceCustodyAttestation
  compositionAttestation : PyText × String
  intent : owners.Intent
  assessment : owners.IntentAssessment
  issuedAt : DateTime
  expiresAt : DateTime

/-- What the authorization is issued from. -/
structure AuthorizationTerms (owners : Owners) where
  authorizationId : PyText
  intent : owners.Intent
  intentAssessment : owners.IntentAssessment
  workOrderRequest : owners.WorkOrderRequest
  workOrderAssessment : owners.WorkOrderAssessment
  custodyRequest : WorkspaceCustodyRequest
  attestation : WorkspaceCustodyAttestation
  binding : WorkspaceCustodyRootBinding
  timestamp : DateTime

/-! ## Operations -/

/-- What a submission calls. -/
inductive Operation (owners : Owners) where
  | issueIntent (intentRequestId profile : PyText) (requestedAt : DateTime)
  | assessIntent (assessmentId : PyText) (intent : owners.Intent) (assessedAt : DateTime)
  /-- A call of the custody gate. -/
  | custody (op : GovernedWorkspace.Operation)
  /-- `__enter__` of the handle. -/
  | enterHandle (descriptor : Descriptor)
  | issueWorkOrder (terms : WorkOrderTerms owners)
  /-- The constructor of the assessment request. -/
  | requestAssessment (requestId : PyText) (terms : WorkOrderTerms owners)
      (workOrder : owners.WorkOrder)
  | assessWorkOrder (assessmentId : PyText) (request : owners.WorkOrderRequest)
  | issueAuthorization (terms : AuthorizationTerms owners)
  /-- `FixedProfileWorkspaceFileConstructor().construct`. -/
  | construct (authorization : owners.Authorization) (handle : WorkspaceCustodyRootHandle)
  /-- `os.close` of the handle, whose `OSError` is suppressed. -/
  | closeHandle (descriptor : Descriptor)

/-- What an operation returns or raises; a construction also says whether it has closed the
    handle. -/
def Reply {owners : Owners} : Operation owners → Type
  | .issueIntent _ _ _ => Except SubmissionError owners.Intent
  | .assessIntent _ _ _ => Except SubmissionError owners.IntentAssessment
  | .custody op => Except Raised (Answer op)
  | .enterHandle _ | .closeHandle _ => Unit
  | .issueWorkOrder _ => Except SubmissionError owners.WorkOrder
  | .requestAssessment _ _ _ => Except SubmissionError owners.WorkOrderRequest
  | .assessWorkOrder _ _ => Except SubmissionError owners.WorkOrderAssessment
  | .issueAuthorization _ => Except SubmissionError owners.Authorization
  | .construct _ _ => Except SubmissionError owners.Receipt × Bool

/-- An operation with its reply. -/
abbrev Event (owners : Owners) := Sigma (@Reply owners)

/-- A program over the operations. -/
abbrev Steps (owners : Owners) (α : Type) : Type := Prog (Operation owners) Reply α

/-- A program of the custody gate, as part of a submission. -/
def custody {owners : Owners} {α : Type} : Calls α → Steps owners α
  | .ret a => .ret a
  | .call op next => .call (Operation.custody op) fun reply => custody (next reply)

/-! ## Views -/

/-- `FixedProfilePresentationFailureStage`. -/
inductive FixedProfilePresentationFailureStage where
  | profileIssuance
  | intentAssessment
  | custodyHandoff
  | workOrderIssuance
  | workOrderAssessment
  | compatibilityAuthorization
  deriving DecidableEq, Repr

/-- The code of a refusal. -/
inductive FailureCode where
  | text (text : String)
  | custody (reason : WorkspaceCustodyRejectionReason)
  deriving DecidableEq, Repr

/-- `FixedProfileTerminalView`: its identifiers and digests are those of the evidence that
    had been issued. -/
inductive FixedProfileTerminalView (owners : Owners) where
  | receiptAvailable (intent : owners.Intent) (intentAssessment : owners.IntentAssessment)
      (workOrder : owners.WorkOrder) (workOrderAssessment : owners.WorkOrderAssessment)
      (authorization : owners.Authorization) (receipt : owners.Receipt)
  | upstreamRefused (stage : FixedProfilePresentationFailureStage) (code : FailureCode)
      (profile : PyText) (intent : Option owners.Intent)
      (intentAssessment : Option owners.IntentAssessment) (workOrder : Option owners.WorkOrder)
      (workOrderAssessment : Option owners.WorkOrderAssessment)
  | handoffRefused (code : FailureCode) (intent : owners.Intent)
      (intentAssessment : owners.IntentAssessment)

/-! ## The submission -/

section Submit

variable {owners : Owners} (submission : FixedProfilePresentationSubmission)

open Prog (perform)

/-- `f"{submission_id}-{part}"`. -/
def FixedProfilePresentationSubmission.name (part : String) : PyText :=
  submission.submissionId ++ PyText.ofString part

/-- A result that leaves the handle open. -/
def leaving {α : Type} (result : Except SubmissionError α) :
    Steps owners (Except SubmissionError α × Bool) :=
  pure (result, false)

/-- `_upstream_refusal`, before the handoff or inside the `with` block. -/
def upstreamRefusal (stage : FixedProfilePresentationFailureStage) (code : String)
    (intent : Option owners.Intent) (intentAssessment : Option owners.IntentAssessment)
    (workOrder : Option owners.WorkOrder) (assessment : Option owners.WorkOrderAssessment) :
    FixedProfileTerminalView owners :=
  .upstreamRefused stage (.text code) submission.selectedProfileToken intent intentAssessment
    workOrder assessment

/-- The construction and the receipt view. -/
def constructReceipt (intent : owners.Intent) (intentAssessment : owners.IntentAssessment)
    (workOrder : owners.WorkOrder) (assessment : owners.WorkOrderAssessment)
    (authorization : owners.Authorization) (handle : WorkspaceCustodyRootHandle) :
    Steps owners (Except SubmissionError (FixedProfileTerminalView owners) × Bool) := do
  match ← perform (Operation.construct authorization handle) with
  | (.error error, closed) => pure (.error error, closed)
  | (.ok receipt, closed) =>
      pure (.ok (.receiptAvailable intent intentAssessment workOrder assessment authorization
        receipt), closed)

/-- The authorization, and what follows it. -/
def authorizeConstruction (intent : owners.Intent) (intentAssessment : owners.IntentAssessment)
    (workOrder : owners.WorkOrder) (request : owners.WorkOrderRequest)
    (assessment : owners.WorkOrderAssessment) (attestation : WorkspaceCustodyAttestation)
    (binding : WorkspaceCustodyRootBinding) (handle : WorkspaceCustodyRootHandle) :
    Steps owners (Except SubmissionError (FixedProfileTerminalView owners) × Bool) := do
  let refusal (text : String) := upstreamRefusal submission .compatibilityAuthorization text
    (some intent) (some intentAssessment) (some workOrder) (some assessment)
  match ← perform (Operation.issueAuthorization
      ⟨submission.name "-authorization", intent, intentAssessment, request, assessment,
        submission.custodyRequest, attestation, binding, attestation.occurredAt.val⟩) with
  | .error (.evidence text) | .error (.value text) => leaving (.ok (refusal text))
  | .error error => leaving (.error error)
  | .ok authorization =>
      constructReceipt intent intentAssessment workOrder assessment authorization handle

/-- The assessment of the work order, and what follows it. -/
def assessWorkOrder (terms : WorkOrderTerms owners) (workOrder : owners.WorkOrder)
    (binding : WorkspaceCustodyRootBinding) (handle : WorkspaceCustodyRootHandle) :
    Steps owners (Except SubmissionError (FixedProfileTerminalView owners) × Bool) := do
  match ← perform (Operation.requestAssessment (submission.name "-work-order-request") terms
      workOrder) with
  | .error error => leaving (.error error)
  | .ok request => do
      match ← perform (Operation.assessWorkOrder
          (submission.name "-work-order-assessment") request) with
      | .error error => leaving (.error error)
      | .ok (assessment : owners.WorkOrderAssessment) =>
          if owners.workOrderAttested assessment = false then
            leaving (.ok (upstreamRefusal submission .workOrderAssessment
              (owners.workOrderDisposition assessment) (some terms.intent)
              (some terms.assessment) (some workOrder) (some assessment)))
          else
            authorizeConstruction submission terms.intent terms.assessment workOrder request
              assessment terms.attestation binding handle

/-- The body of the `with` block. -/
def handoffBody (intent : owners.Intent) (intentAssessment : owners.IntentAssessment)
    (attestation : WorkspaceCustodyAttestation) (binding : WorkspaceCustodyRootBinding)
    (handle : WorkspaceCustodyRootHandle) :
    Steps owners (Except SubmissionError (FixedProfileTerminalView owners) × Bool) := do
  let terms : WorkOrderTerms owners :=
    ⟨submission.name "-work-order", attestation, submission.compositionAttestation, intent,
      intentAssessment, attestation.occurredAt.val, submission.expiresAt⟩
  match ← perform (Operation.issueWorkOrder terms) with
  | .error (.evidence text) =>
      leaving (.ok (upstreamRefusal submission .workOrderIssuance text (some intent)
        (some intentAssessment) none none))
  | .error error => leaving (.error error)
  | .ok workOrder => assessWorkOrder submission terms workOrder binding handle

/-- `continue_fixed_profile_after_handoff`. -/
def continueFixedProfileAfterHandoff (intent : owners.Intent)
    (intentAssessment : owners.IntentAssessment) (attestation : WorkspaceCustodyAttestation)
    (binding : WorkspaceCustodyRootBinding) (handle : WorkspaceCustodyRootHandle) :
    Steps owners (Except SubmissionError (FixedProfileTerminalView owners)) := do
  let _ ← perform (Operation.enterHandle handle.descriptor)
  let (result, closed) ← handoffBody submission intent intentAssessment attestation binding handle
  -- `__exit__` closes the handle unless the constructor did
  if closed then pure result
  else do
    let _ ← perform (Operation.closeHandle handle.descriptor)
    pure result

/-- `submit_fixed_profile_construction`, its ancestor walks run for a number of steps. -/
def submitFixedProfileConstruction (steps : Nat) :
    Steps owners (Except SubmissionError (FixedProfileTerminalView owners)) := do
  match ← perform (Operation.issueIntent (submission.name "-intent")
      submission.selectedProfileToken submission.requestedAt) with
  | .error (.evidence text) =>
      pure (.ok (upstreamRefusal submission .profileIssuance text none none none none))
  | .error error => pure (.error error)
  | .ok intent => do
      match ← perform (Operation.assessIntent (submission.name "-intent-assessment") intent
          submission.requestedAt) with
      | .error error => pure (.error error)
      | .ok (intentAssessment : owners.IntentAssessment) =>
          if owners.intentAttested intentAssessment = false then
            pure (.ok (upstreamRefusal submission .intentAssessment
              (owners.intentDisposition intentAssessment) (some intent) (some intentAssessment)
              none none))
          else do
            match ← custody (submission.custodyGate.attestAndAcquireRootHandoff steps
                submission.custodyRequest).run with
            | .error error => pure (.error (.custody error))
            | .ok (.rejected reason) =>
                pure (.ok (.handoffRefused (.custody reason) intent intentAssessment))
            | .ok (.acquired attestation binding handle) =>
                continueFixedProfileAfterHandoff submission intent intentAssessment attestation
                  binding handle

end Submit

end Eag.GovernedPresentation
