/-
  Eag.GovernedFileConstruction.Constructor

  `BoundedWorkspaceFileConstructor`: the checks of the authorization, the consumption of
  the custody handle, and the creation of the planned files one after the other, each
  below directories that are walked by descriptor.

  The local variables of `_create_one_file` that its `finally` clause reads are a `Frame`
  that every exit hands on.
-/

import Eag.GovernedFileConstruction.Filesystem

namespace Eag.GovernedFileConstruction

open Eag.Foundation

/-- A program over the system calls. -/
abbrev Calls (α : Type) : Type := Prog Operation (fun op => Except Raised (Answer op)) α

/-- A program over the system calls in which what a call raises is not caught. -/
abbrev Raising (α : Type) : Type := Prog.Fallible Raised Operation Answer α

open Prog (perform ask)

/-! ## Capabilities -/

/-- `ConstructionPlatformCapabilities`. -/
structure ConstructionPlatformCapabilities where
  liveRootHandleConsumption : Bool
  descriptorRelativeOpen : Bool
  noFollow : Bool
  exclusiveCreate : Bool
  regularFileVerification : Bool
  linkCountVerification : Bool
  deriving DecidableEq, Repr

namespace ConstructionPlatformCapabilities

def supported (c : ConstructionPlatformCapabilities) : Bool :=
  c.liveRootHandleConsumption && c.descriptorRelativeOpen && c.noFollow && c.exclusiveCreate &&
    c.regularFileVerification && c.linkCountVerification

/-- `_capability_intersection`. -/
def intersection (detected requested : ConstructionPlatformCapabilities) :
    ConstructionPlatformCapabilities where
  liveRootHandleConsumption :=
    detected.liveRootHandleConsumption && requested.liveRootHandleConsumption
  descriptorRelativeOpen := detected.descriptorRelativeOpen && requested.descriptorRelativeOpen
  noFollow := detected.noFollow && requested.noFollow
  exclusiveCreate := detected.exclusiveCreate && requested.exclusiveCreate
  regularFileVerification :=
    detected.regularFileVerification && requested.regularFileVerification
  linkCountVerification := detected.linkCountVerification && requested.linkCountVerification

end ConstructionPlatformCapabilities

/-- `BoundedWorkspaceFileConstructor`. -/
structure BoundedWorkspaceFileConstructor where
  platformCapabilities : ConstructionPlatformCapabilities

/-- `__init__`, on a platform with the detected capabilities. -/
def BoundedWorkspaceFileConstructor.init (detected : ConstructionPlatformCapabilities) :
    Option ConstructionPlatformCapabilities → BoundedWorkspaceFileConstructor
  | none => ⟨detected⟩
  | some requested => ⟨detected.intersection requested⟩

/-! ## The custody handle -/

/-- `WorkspaceCustodyRootHandle`, between two of its methods. -/
structure WorkspaceCustodyRootHandle where
  descriptor : Path
  bindingDigest : String
  closed : Bool
  /-- The handle is in the registry of issued handles. -/
  issued : Bool
  consumed : Bool
  /-- The calling process and thread are the ones that made the handle. -/
  sameContext : Bool

/-- `WorkspaceCustodyRejectionReason`, the reasons a handle gives. -/
inductive WorkspaceCustodyHandleError where
  | handleClosed
  | custodyContinuityBroken
  | handleAlreadyConsumed
  | handleContextMismatch
  | handleBindingMismatch
  deriving DecidableEq, Repr

namespace WorkspaceCustodyRootHandle

/-- `consume_for_g2_4_22`: the descriptor, once. -/
def consume (handle : WorkspaceCustodyRootHandle) (binding : WorkspaceCustodyRootBinding) :
    Except WorkspaceCustodyHandleError Path := do
  require (handle.closed = false) .handleClosed
  require (handle.issued = true) .custodyContinuityBroken
  require (handle.consumed = false) .handleAlreadyConsumed
  require (handle.sameContext = true) .handleContextMismatch
  require (binding.bindingDigest = handle.bindingDigest) .handleBindingMismatch
  return handle.descriptor

/-- `close`. -/
def close (handle : WorkspaceCustodyRootHandle) : Calls Unit :=
  if handle.closed then pure ()
  else do
    let _ ← perform (Operation.closeRoot handle.descriptor)

end WorkspaceCustodyRootHandle

/-! ## Authorization -/

section Authorize

variable (calculate : UpstreamDigests)

/-- `_immutable_evidence_is_self_validating`. -/
def immutableEvidenceIsSelfValidating (authorization : ConstructionAuthorizationRequest) : Bool :=
  let workOrder := authorization.assessmentRequest.workOrder
  authorization.authorizationDigest = authorization.calculateDigest ∧
    authorization.plan.planDigest = authorization.plan.calculateDigest ∧
    authorization.assessmentRequest.requestDigest =
      calculate.assessmentRequest authorization.assessmentRequest ∧
    authorization.assessment.assessmentDigest = calculate.assessment authorization.assessment ∧
    workOrder.workOrderDigest = calculate.workOrder workOrder ∧
    authorization.custodyAttestation.bindingDigest =
      calculate.custodyAttestation authorization.custodyAttestation ∧
    authorization.custodyRootBinding.bindingDigest =
      calculate.custodyRootBinding authorization.custodyRootBinding

/-- `_refusal`. -/
def refusal (authorization : ConstructionAuthorizationRequest) (code : ConstructionFindingCode)
    (evidenceReference : String) : Except String ConstructionAuthorizationDecision := do
  let h ← requireIdentifier evidenceReference "evidence_reference"
  ConstructionAuthorizationDecision.build .refused [⟨code, evidenceReference, h.down⟩]
    authorization.binding

/-- `_authorize`. -/
def authorize (authorization : ConstructionAuthorizationRequest)
    (handle : WorkspaceCustodyRootHandle) : Except String ConstructionAuthorizationDecision :=
  let assessmentRequest := authorization.assessmentRequest
  let assessment := authorization.assessment
  let custodyRequest := authorization.custodyRequest
  let custodyAttestation := authorization.custodyAttestation
  let rootBinding := authorization.custodyRootBinding
  let plan := authorization.plan
  let workOrder := assessmentRequest.workOrder
  if immutableEvidenceIsSelfValidating calculate authorization = false then
    refusal authorization .assessmentInvalid "evidence_self_validation"
  else if assessment.schemaVersion ≠ "g2.4.21.construction-work-order-assessment.v2" then
    refusal authorization .assessmentInvalid "assessment_schema"
  else if assessment.assessedRequestId = "" ∨ assessment.assessedRequestDigest = "" then
    refusal authorization .assessmentInvalid "assessment_provenance"
  else if assessment.assessedRequestId ≠ assessmentRequest.assessmentRequestId ∨
      assessment.assessedRequestDigest ≠ assessmentRequest.requestDigest then
    refusal authorization .requestProvenanceMismatch "assessment_request"
  else if assessment.disposition ≠ .constructionWorkOrderAttested then
    refusal authorization .assessmentNotAttested "assessment_disposition"
  else if assessmentRequest.workspaceCustodyAttestation ≠ custodyAttestation ∨
      assessmentRequest.workOrder ≠ workOrder ∨
      assessment.workOrderId ≠ some workOrder.workOrderId ∨
      assessment.workspaceId ≠ workOrder.workspaceId then
    refusal authorization .workOrderBindingMismatch "assessment_work_order"
  else if workOrder.actionPlanDigest ≠ plan.planDigest ∨
      workOrder.maxCommandActions ≠ 0 ∨
      workOrder.maxFileActions < plan.fileCount ∨
      workOrder.maxTotalBytes < plan.totalBytes ∨
      workOrder.expiresAt.instant ≤ authorization.timestamp.instant then
    refusal authorization .planBindingMismatch "plan_work_order"
  else if workOrder.workspaceCustodyAttestationId ≠ custodyAttestation.attestationId ∨
      workOrder.workspaceCustodyBindingDigest ≠ custodyAttestation.bindingDigest ∨
      workOrder.workspaceId ≠ custodyAttestation.workspaceId ∨
      workOrder.executionId ≠ custodyAttestation.executionId ∨
      workOrder.runId ≠ custodyAttestation.runId ∨
      workOrder.workspaceRootIdentity ≠ custodyAttestation.workspaceRootIdentity then
    refusal authorization .workOrderBindingMismatch "work_order_custody"
  else if custodyAttestation.custodyRequestId ≠ custodyRequest.custodyRequestId ∨
      custodyAttestation.custodyRequestDigest ≠ custodyRequest.requestDigest ∨
      custodyAttestation.executionId ≠ custodyRequest.executionId ∨
      custodyAttestation.runId ≠ custodyRequest.runId ∨
      custodyAttestation.workspaceId ≠ custodyRequest.workspaceId ∨
      custodyAttestation.custodyPolicyDigest ≠ custodyRequest.policyDigest then
    refusal authorization .custodyHandoffMismatch "request_attestation"
  else if rootBinding.custodyRequestId ≠ custodyRequest.custodyRequestId ∨
      rootBinding.custodyRequestDigest ≠ custodyRequest.requestDigest ∨
      rootBinding.custodyAttestationId ≠ custodyAttestation.attestationId ∨
      rootBinding.custodyAttestationBindingDigest ≠ custodyAttestation.bindingDigest ∨
      rootBinding.workspaceObjectIdentity ≠ custodyAttestation.workspaceObjectIdentity then
    refusal authorization .custodyHandoffMismatch "attestation_binding"
  else if handle.bindingDigest ≠ rootBinding.bindingDigest then
    refusal authorization .handleRejected "handle_binding"
  else
    ConstructionAuthorizationDecision.build .attested [] authorization.binding

end Authorize

/-! ## One file -/

/-- `_ActionAttempt`. -/
structure ActionAttempt where
  finding : ConstructionFindingCode
  effectStarted : Bool
  deriving DecidableEq, Repr

/-- How a part of `_create_one_file` ends: it raises, returns an attempt, or goes on. -/
abbrev Ending := Except Raised (Option ActionAttempt)

/-- `directory_descriptor`, `owns_directory_descriptor` and `effect_started`. -/
structure Frame where
  directory : Path
  owns : Bool
  effectStarted : Bool

/-- The inner `try` after `os.mkdir`. -/
def openParent (part : PyText) (directory : Path) : Raising (Path × Metadata) := do
  let next : Path ← ask (Operation.openDirectory part directory)
  let metadata : Metadata ← ask (Operation.fstat next)
  return (next, metadata)

/-- The inner `try` of the walk, with `effect_started` after it. -/
def enterParent (part : PyText) (frame : Frame) :
    Calls (Bool × Except Raised (Path × Metadata)) := do
  match ← perform (Operation.mkdir part frame.directory) with
  | .ok _ => do
      let opened ← (openParent part frame.directory).run
      pure (true, opened)
  | .error (.os .fileExists) => do
      let opened ← (openParent part frame.directory).run
      pure (frame.effectStarted, opened)
  | .error error => pure (frame.effectStarted, .error error)

/-- The walk over `parts[:-1]`. -/
def walkParents : List PyText → Frame → Calls (Frame × Ending)
  | [], frame => pure (frame, .ok none)
  | part :: rest, frame => do
      let (effectStarted, entered) ← enterParent part frame
      let frame := { frame with effectStarted := effectStarted }
      match entered with
      | .error (.os _) => pure (frame, .ok (some ⟨.pathUnsafe, effectStarted⟩))
      | .error .embeddedNull => pure (frame, .error .embeddedNull)
      | .ok (next, metadata) =>
          if metadata.isDirectory = false then
            pure (frame, .ok (some ⟨.pathUnsafe, effectStarted⟩))
          else if frame.owns then do
            match ← perform (Operation.close frame.directory) with
            | .error error => pure (frame, .error error)
            | .ok _ => walkParents rest ⟨next, true, effectStarted⟩
          else walkParents rest ⟨next, true, effectStarted⟩

/-- The loop of `os.write`; `false` when a write moved nothing. -/
def writeAll (descriptor : Path) (remaining : List UInt8) : Raising Bool :=
  if _h : remaining = [] then pure true
  else do
    let count : Nat ← ask (Operation.write descriptor remaining)
    if _hcount : count = 0 then pure false
    else writeAll descriptor (remaining.drop count)
termination_by remaining.length
decreasing_by
  have hpos : 0 < remaining.length := List.length_pos_of_ne_nil _h
  rw [List.length_drop]
  omega

/-- The loop of `os.read`, after `observed`. -/
def readAll (descriptor : Path) (length : Nat) (observed : List UInt8) :
    Raising (List UInt8) :=
  if _h : observed.length < length then do
    let chunk : List UInt8 ← ask (Operation.read descriptor (length - observed.length))
    if _hchunk : chunk = [] then pure observed
    else readAll descriptor length (observed ++ chunk)
  else pure observed
termination_by length - observed.length
decreasing_by
  have hpos : 0 < chunk.length := List.length_pos_of_ne_nil _hchunk
  rw [List.length_append]
  omega

/-- The inner `try` that fills and reads back the file. -/
def fillFile (descriptor : Path) (encoded : List UInt8) (expectedDigest : String) :
    Raising (Option ActionAttempt) := do
  let written ← writeAll descriptor encoded
  if written = false then return some ⟨.filesystemFailure, true⟩
  let _ ← ask (Operation.fsync descriptor)
  let metadata : Metadata ← ask (Operation.fstat descriptor)
  if metadata.isRegular = false ∨ metadata.links ≠ 1 then
    return some ⟨.postwriteVerificationFailed, true⟩
  let _ ← ask (Operation.seekStart descriptor)
  let observed ← readAll descriptor encoded.length []
  if observed.length ≠ encoded.length ∨ sha256HexBytes observed ≠ expectedDigest then
    return some ⟨.postwriteVerificationFailed, true⟩
  return none

/-- `except OSError` around the filling. -/
def filledEnding : Ending → Ending
  | .error (.os _) => .ok (some ⟨.filesystemFailure, true⟩)
  | ending => ending

/-- The creation of the file itself, in its directory. -/
def createTarget (name : PyText) (frame : Frame) (encoded : List UInt8)
    (expectedDigest : String) : Calls Ending := do
  match ← perform (Operation.createFile name frame.directory) with
  | .error (.os .fileExists) => pure (.ok (some ⟨.targetExists, frame.effectStarted⟩))
  | .error (.os .other) => pure (.ok (some ⟨.filesystemFailure, frame.effectStarted⟩))
  | .error .embeddedNull => pure (.error .embeddedNull)
  | .ok descriptor => do
      let filled ← (fillFile descriptor encoded expectedDigest).run
      -- the `finally` of the filling: what closing raises replaces how it ended
      match ← perform (Operation.close descriptor) with
      | .error error => pure (.error error)
      | .ok _ => pure (filledEnding filled)

/-- The outer `finally`. -/
def closeOwned (frame : Frame) (ending : Ending) : Calls Ending :=
  if frame.owns then do
    match ← perform (Operation.close frame.directory) with
    | .error error => pure (.error error)
    | .ok _ => pure ending
  else pure ending

/-- `_create_one_file`. -/
def createOneFile (root : Path) (parts : List PyText) (encoded : List UInt8)
    (expectedDigest : String) : Calls Ending := do
  let (frame, walked) ← walkParents parts.dropLast ⟨root, false, false⟩
  match walked with
  | .ok none => do
      let ending ← createTarget (parts.getLastD []) frame encoded expectedDigest
      closeOwned frame ending
  | ending => closeOwned frame ending

/-! ## The batch -/

/-- What escapes `construct`. -/
inductive ConstructError where
  | raised (error : Raised)
  | evidence (text : String)
  deriving DecidableEq, Repr

/-- The result of a constructor of evidence. -/
def evidence {α : Type} : Except String α → Except ConstructError α
  | .ok a => .ok a
  | .error text => .error (.evidence text)

/-- `_batch_receipt`. -/
def batchReceipt (authorization : ConstructionAuthorizationRequest)
    (disposition : ConstructionBatchDisposition) (receipts : List ConstructionActionReceipt)
    (firstFailure : Option ConstructionFindingCode) :
    Except ConstructError ConstructionBatchReceipt :=
  evidence (ConstructionBatchReceipt.build disposition authorization.binding receipts
    authorization.timestamp firstFailure)

/-- `_refused_batch`. -/
def refusedBatch (authorization : ConstructionAuthorizationRequest)
    (finding : ConstructionFindingCode) : Except ConstructError ConstructionBatchReceipt :=
  batchReceipt authorization .constructionRefused [] (some finding)

/-- The loop over the actions, after `receipts`. -/
def constructActions (authorization : ConstructionAuthorizationRequest) (root : Path) :
    List ConstructionFileAction → List ConstructionActionReceipt →
      Calls (Except ConstructError ConstructionBatchReceipt)
  | [], receipts => pure (batchReceipt authorization .constructionFilesCreated receipts none)
  | action :: rest, receipts => do
      match ← createOneFile root action.parts (utf8Bytes action.content)
          action.contentDigest with
      | .error error => pure (.error (.raised error))
      | .ok (some attempt) =>
          let partly : Bool := decide (receipts ≠ []) || attempt.effectStarted
          pure (batchReceipt authorization
            (if partly then .partialConstructionStopped else .constructionRefused) receipts
            (some attempt.finding))
      | .ok none =>
          match ConstructionActionReceipt.build action.sequence action.relativePath
              action.contentDigest action.byteCount authorization.timestamp with
          | .error text => pure (.error (.evidence text))
          | .ok receipt => constructActions authorization root rest (receipts ++ [receipt])

namespace BoundedWorkspaceFileConstructor

variable (constructor : BoundedWorkspaceFileConstructor)

/-- The body of `construct`, before its `finally`. -/
def constructBody (calculate : UpstreamDigests)
    (authorization : ConstructionAuthorizationRequest) (handle : WorkspaceCustodyRootHandle) :
    Calls (Except ConstructError ConstructionBatchReceipt) :=
  match authorize calculate authorization handle with
  | .error text => pure (.error (.evidence text))
  | .ok decision =>
      match decision.disposition, decision.findings with
      | .refused, finding :: _ => pure (refusedBatch authorization finding.code)
      | .refused, [] => pure (.error (.evidence "tuple index out of range"))
      | .attested, _ =>
          if constructor.platformCapabilities.supported = false then
            pure (refusedBatch authorization .constructionCapabilityUnsupported)
          else
            match handle.consume authorization.custodyRootBinding with
            | .error _ => pure (refusedBatch authorization .handleRejected)
            | .ok root => constructActions authorization root authorization.plan.actions []

/-- `construct`. -/
def construct (calculate : UpstreamDigests)
    (authorization : ConstructionAuthorizationRequest) (handle : WorkspaceCustodyRootHandle) :
    Calls (Except ConstructError ConstructionBatchReceipt) := do
  let result ← constructor.constructBody calculate authorization handle
  handle.close
  return result

end BoundedWorkspaceFileConstructor

end Eag.GovernedFileConstruction
