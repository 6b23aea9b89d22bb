/-
  Eag.GovernedRuntime.Runtime

  `GovernedEngineeringExecutionRuntime.execute` (`governed_runtime/runtime.py`) and the governed
  mutation workflow it drives (`chief/intelligence/gateway/mutation_workflow.py`, `execute` with
  an observer), as programs over what they ask of their collaborators. A collaborator answers
  with any value of its declared type, or raises anything.

  Of the state machine only the clock is left open, so its answer is the time of the record.
  One execution holds the lock of its workspace from beginning to end, and the lock is left
  out.
-/

import Eag.Foundation.Interleaving
import Eag.Gateway.MutationTranslation
import Eag.GovernedExecution.Ledger
import Eag.GovernedExecution.Replanning
import Eag.GovernedRuntime.Models

namespace Eag.GovernedRuntime

open Eag.Foundation Eag.Gateway Eag.GovernedExecution Eag.Mutation
open Eag.Foundation.PyText (ofString)

/-! ## What is asked -/

/-- What leaves the runtime or a collaborator in place of a result: the errors that are told
    apart, each with its message or violation, a plain `ValueError`, a failed `assert`, or any
    other. -/
inductive Raised where
  | lifecycleRefused
  | translation (violation : TranslationViolation)
  | policy (violation : MutationViolation)
  | illegalTransition (code : String)
  | runtime (message : String)
  | authority (message : String)
  | replanning (message : String)
  | reflection (fault : ReflectionFault)
  | verificationRequest (message : String)
  | contract (message : String)
  | auditRequired (message : String)
  | value (message : String)
  | assertion
  | other (message : String)

/-- `ContextAssemblyRequest`. -/
structure ContextAssemblyRequest where
  goal : String
  repositoryPath : ResolvedPath
  availableCapabilities : List String
  knownConstraints : List String

/-- `IterationContextBundle`. -/
structure IterationContextBundle where
  context : EngineeringContext
  artifact : IterationContextArtifact
  trustedState : TrustedWorkspaceState

/-- What the adaptive planner is given: the context and the capability of the one step of the
    base plan. -/
structure PlanningQuestion where
  goal : String
  experiences : List EngineeringExperience
  rules : List PlanningRule
  capabilityId : String

/-- What the runtime and its workflow ask of their collaborators. -/
inductive Effect where
  | preflight (workspaceRoot : ResolvedPath)
  | advance (context : GovernedExecutionContext) (target : GovernedExecutionState)
      (evidence : List ExecutionEvidenceRef) (stopReason : Option GovernedExecutionStopReason)
  | assemble (request : ContextAssemblyRequest) (iteration : Nat)
  | buildRequest (request : GovernedExecutionRequest) (context : EngineeringContext)
  | decide (request : EngineeringDecisionRequest)
  | translate (result : EngineeringDecisionResult) (request : EngineeringDecisionRequest)
      (runId : String) (trustedState : TrustedWorkspaceState)
  | validate (proposal : ChangeProposal)
  | executeProposal (proposal : ChangeProposal)
  | authorize (validated : ValidatedChangeProposal)
  | mutate (validated : ValidatedChangeProposal) (authorization : MutationAuthorization)
  | buildSpecification (proposal : ChangeProposal)
  | requestId
  | verify (request : VerificationRequest)
  | reflect (context : ReflectionContext)
  | plan (question : PlanningQuestion)
  | record (result : GovernedExecutionResult)

/-- What each of them answers. -/
abbrev Answer : Effect → Type
  | .preflight _ => Unit
  | .advance .. => DateTime
  | .assemble .. => IterationContextBundle
  | .buildRequest .. => EngineeringDecisionRequest
  | .decide _ => EngineeringDecisionResult
  | .translate .. => ChangeProposal
  | .validate _ => ValidatedChangeProposal
  | .executeProposal _ => MutationReceipt
  | .authorize _ => MutationAuthorization
  | .mutate .. => MutationReceipt
  | .buildSpecification _ => VerificationSpecification
  | .requestId => { id : String // NonBlank id }
  | .verify _ => VerificationResult
  | .reflect _ => ReflectionReport
  | .plan _ => String
  | .record _ => Unit

abbrev Reply (effect : Effect) : Type := Except Raised (Answer effect)

/-- A program over the effects. -/
abbrev Program (α : Type) : Type := Prog.Fallible Raised Effect Answer α

/-- A result that is there without an effect. -/
abbrev settled {α : Type} (result : Except Raised α) : Program α := ExceptT.mk (Prog.ret result)

/-- `assert value is not None`. -/
def asserted {α : Type} : Option α → Program α
  | none => settled (.error .assertion)
  | some a => settled (.ok a)

/-- What the interpreter computes for the runtime: `decision.digest`, a digest of a JSON text
    with floats in it, and whether two costs are equal numbers. -/
structure Interpreter where
  digest : EngineeringDecision → Except Raised PyText
  sameCost : Cost → Cost → Bool

/-! ## Transitions -/

/-- `_transition`. -/
def transition (context : GovernedExecutionContext) (target : GovernedExecutionState)
    (evidence : List ExecutionEvidenceRef) (stopReason : Option GovernedExecutionStopReason) :
    Program GovernedExecutionContext := do
  let now ← Prog.ask (.advance context target evidence stopReason)
  settled ((transitionOrRaise context ⟨target, evidence, stopReason, now⟩).mapError
    .illegalTransition)

/-- A transition to `FAILED`. -/
def fail (context : GovernedExecutionContext) (stopReason : GovernedExecutionStopReason)
    (evidence : List ExecutionEvidenceRef) : Program GovernedExecutionContext :=
  transition context .failed evidence (some stopReason)

/-- A ledger reference without a digest. -/
def refer (kind : ExecutionEvidenceKind) (referenceId : PyText) (metadata : MetadataEntries) :
    Program ExecutionEvidenceRef :=
  settled ((evidenceRef kind referenceId [] metadata).mapError .value)

/-! ## The workflow -/

/-- `GovernedMutationFailureStage`. -/
inductive GovernedMutationFailureStage where
  | providerTimeout
  | providerFailure
  | schemaFailure
  | decisionRejected
  | translationFailure
  | policyRejected
  | authorizationRejected
  | mutationFailed
  | verificationFailed
  deriving DecidableEq, Repr

/-- `GovernedDecisionMutationResult`. -/
structure GovernedDecisionMutationResult where
  gatewayResult : EngineeringDecisionResult
  proposal : Option ChangeProposal
  receipt : Option MutationReceipt
  failureStage : Option GovernedMutationFailureStage
  translationViolation : Option TranslationViolation

/-- `success`. -/
def GovernedDecisionMutationResult.success (result : GovernedDecisionMutationResult) : Bool :=
  match result.receipt with
  | none => false
  | some receipt => receipt.result = .completed

/-- `_gateway_failure_stage`. -/
def gatewayFailureStage (result : EngineeringDecisionResult) : GovernedMutationFailureStage :=
  match result.error.map GatewayError.kind with
  | some .providerTimeout => .providerTimeout
  | some .schemaInvalid => .schemaFailure
  | some .policyRejected => .decisionRejected
  | _ => .providerFailure

/-- `_receipt_failure_stage`. -/
def receiptFailureStage (receipt : MutationReceipt) : Option GovernedMutationFailureStage :=
  if receipt.result = .completed then none
  else if receipt.failureCode ∈ [some MutationViolationCode.authorizationRejected.value,
      some MutationViolationCode.authorizationMismatch.value,
      some MutationViolationCode.authorizationReused.value] then some .authorizationRejected
  else if receipt.failureCode = some MutationViolationCode.postconditionMismatch.value then
    some .verificationFailed
  else if receipt.result = .rejected then some .policyRejected
  else some .mutationFailed

/-- `_stop_reason_for_workflow_failure`. -/
def stopReasonFor : Option GovernedMutationFailureStage → GovernedExecutionStopReason
  | some .decisionRejected | some .policyRejected => .policyRejected
  | some .authorizationRejected => .authorizationFailed
  | some .providerTimeout | some .providerFailure | some .schemaFailure => .providerFailed
  | _ => .unrecoverable

/-- What `_LifecycleObserver` changes: its context, and of the state of the iteration the
    decision and the authority. -/
structure ObserverState where
  context : GovernedExecutionContext
  decisionId : PyText
  authority : Option FreshIterationAuthority

/-- A program whose observer keeps its state also when something is raised. -/
abbrev Observed (α : Type) : Type := Prog.Stateful Raised ObserverState Effect Answer α

/-- The answer of a collaborator. -/
def consult (effect : Effect) : Observed (Answer effect) := Prog.keep (Prog.ask effect)

/-- `try`: the answer of a collaborator, as a value. -/
def tried (effect : Effect) : Observed (Reply effect) :=
  Prog.keep (Prog.attempt (Prog.ask effect))

/-- `GovernedMutationLifecycleObserver`. -/
structure LifecycleObserver where
  beforeDeciding : EngineeringDecisionRequest → Observed Unit
  beforeProposing : EngineeringDecisionRequest → EngineeringDecisionResult → Observed Unit
  beforeAuthorizing : ChangeProposal → Observed Unit
  beforeMutating : ChangeProposal → MutationAuthorization → Observed Unit

/-- `execute`, from the proposal on. -/
def carryOut (observer : LifecycleObserver) (gatewayResult : EngineeringDecisionResult)
    (proposal : ChangeProposal) : Observed GovernedDecisionMutationResult := do
  observer.beforeAuthorizing proposal
  match ← tried (.validate proposal) with
  | .error (.policy _) =>
      let receipt ← consult (.executeProposal proposal)
      return ⟨gatewayResult, some proposal, some receipt, receiptFailureStage receipt, none⟩
  | .error raised => throw raised
  | .ok validated =>
      let authorization ← consult (.authorize validated)
      observer.beforeMutating proposal authorization
      let receipt ← consult (.mutate validated authorization)
      return ⟨gatewayResult, some proposal, some receipt, receiptFailureStage receipt, none⟩

/-- `GovernedDecisionMutationWorkflow.execute`, with an observer. -/
def workflow (observer : LifecycleObserver) (request : EngineeringDecisionRequest) (runId : String)
    (trustedState : TrustedWorkspaceState) : Observed GovernedDecisionMutationResult := do
  observer.beforeDeciding request
  let gatewayResult ← consult (.decide request)
  if gatewayResult.success = false then
    return ⟨gatewayResult, none, none, some (gatewayFailureStage gatewayResult), none⟩
  else
    observer.beforeProposing request gatewayResult
    match ← tried (.translate gatewayResult request runId trustedState) with
    | .error (.translation violation) =>
        return ⟨gatewayResult, none, none, some .translationFailure, some violation⟩
    | .error raised => throw raised
    | .ok proposal => carryOut observer gatewayResult proposal

/-! ## The observer of the runtime -/

section

variable (interpreter : Interpreter)

/-- `_decision_id_from_result`. -/
def decisionIdOf (result : EngineeringDecisionResult) : Except Raised PyText :=
  match result.decision with
  | none => .error (.runtime "successful workflow result requires a decision identity")
  | some decision => do
      let value ← interpreter.digest decision
      require (value ≠ []) (.runtime "successful workflow result requires a decision identity")
      .ok value

/-- A transition of the context of the observer. -/
def observeTransition (target : GovernedExecutionState) (evidence : List ExecutionEvidenceRef) :
    Observed Unit := do
  let observed ← get
  let context ← Prog.keep (transition observed.context target evidence none)
  set { observed with context }

/-- The authority that `before_mutating` allocates. -/
def authorityOf (observed : ObserverState) (bundle : IterationContextBundle)
    (request : EngineeringDecisionRequest) (proposal : ChangeProposal)
    (authorization : MutationAuthorization) : FreshIterationAuthority where
  executionId := observed.context.executionId
  iteration := observed.context.iteration
  contextArtifactId := ofString bundle.artifact.artifactId
  contextFingerprint := ofString bundle.artifact.contextFingerprint
  decisionRequestId := ofString request.requestId
  decisionId := observed.decisionId
  proposalId := ofString proposal.proposalId
  authorizationId := ofString authorization.authorizationId

/-- `before_mutating`, but for the transition: the authority, if it is fresh. -/
def freshAuthority (previousAuthority : Option FreshIterationAuthority)
    (authority : FreshIterationAuthority) : Except Raised Unit := do
  authority.postInit.mapError .authority
  match previousAuthority with
  | none => .ok ()
  | some previous => (validateFreshAuthority previous authority).mapError .authority

/-- `_LifecycleObserver`. -/
def lifecycleObserver (bundle : IterationContextBundle) (request : EngineeringDecisionRequest)
    (previousAuthority : Option FreshIterationAuthority) : LifecycleObserver where
  beforeDeciding _ := observeTransition .deciding []
  beforeProposing _ result := do
    let decisionId ← Prog.keep (settled (decisionIdOf interpreter result))
    modify fun observed => { observed with decisionId }
    let decision ← Prog.keep (refer .decision decisionId .nil)
    observeTransition .proposing [decision]
  beforeAuthorizing proposal := do
    let reference ← Prog.keep (refer .proposal (ofString proposal.proposalId) .nil)
    observeTransition .authorizing [reference]
  beforeMutating proposal authorization := do
    let observed ← get
    let authority := authorityOf observed bundle request proposal authorization
    Prog.keep (settled (freshAuthority previousAuthority authority))
    modify fun observed => { observed with authority := some authority }
    let reference ← Prog.keep (refer .authorization authority.authorizationId .nil)
    observeTransition .mutating [reference]

/-! ## One iteration -/

/-- `_IterationState`. -/
structure IterationState where
  bundle : IterationContextBundle
  request : EngineeringDecisionRequest
  workflowResult : Option GovernedDecisionMutationResult
  authority : Option FreshIterationAuthority
  verification : Option VerificationResult

/-- `policy != gateway_policy`. -/
def samePolicy (policy other : GatewayPolicy) : Bool :=
  policy.maxAttempts = other.maxAttempts && policy.timeoutMs = other.timeoutMs &&
    policy.maxTotalTokens = other.maxTotalTokens &&
    interpreter.sameCost policy.maxEstimatedCost other.maxEstimatedCost &&
    policy.maxSchemaRepairAttempts = other.maxSchemaRepairAttempts &&
    policy.allowFallback = other.allowFallback &&
    policy.redactProviderContent = other.redactProviderContent

/-- `metadata.get(key) == value`. -/
def Binds (context : EngineeringContext) (key value : String) : Prop :=
  (context.truncationMetadata.lookup key).bind Json.str? = some value

instance (context : EngineeringContext) (key value : String) :
    Decidable (Binds context key value) := inferInstanceAs (Decidable (_ = _))

/-- `_validate_iteration_bindings`. -/
def validateIterationBindings (request : GovernedExecutionRequest)
    (bundle : IterationContextBundle) (decisionRequest : EngineeringDecisionRequest)
    (iteration : Nat) : Except Raised Unit := do
  require (samePolicy interpreter decisionRequest.policy request.gatewayPolicy = true)
    (.runtime "decision request must retain the approved one-attempt gateway policy")
  require (Binds decisionRequest.context "snapshot_fingerprint"
      bundle.artifact.repositorySnapshotFingerprint)
    (.runtime "decision request snapshot binding does not match fresh context artifact")
  require (Binds decisionRequest.context "context_fingerprint" bundle.artifact.contextFingerprint)
    (.runtime "decision request context binding does not match fresh context artifact")
  require (decisionRequest.requestId ≠ "") (.runtime "decision request identity cannot be empty")
  require (1 ≤ iteration) (.runtime "iteration must be positive")

/-- The context and the decision request of an iteration. -/
def gather (request : GovernedExecutionRequest) (iteration : Nat) :
    Program (IterationContextBundle × EngineeringDecisionRequest) := do
  let bundle ← Prog.ask (.assemble
    ⟨request.goal, request.repositoryPath, request.availableCapabilityIds,
      request.knownConstraints⟩ iteration)
  let decisionRequest ← Prog.ask (.buildRequest request bundle.context)
  return (bundle, decisionRequest)

/-- `VerificationRequest(...)`, with its fresh identity. -/
def verificationRequest (requestId : { id : String // NonBlank id }) (runId : String)
    (receipt : MutationReceipt) (specification : VerificationSpecification)
    (context : GovernedExecutionContext) : Except String VerificationRequest := do
  let ⟨hrun⟩ ← ensure (NonBlank runId) "request_id and run_id cannot be empty"
  let ⟨hreceipt⟩ ← ensure (NonBlank receipt.mutationId ∧ NonBlank receipt.runId ∧
      NonBlank receipt.targetPath) "receipt must provide immutable mutation receipt evidence"
  let ⟨hrunId⟩ ← ensure (runId = receipt.runId) "request run_id must match receipt run_id"
  let ⟨htarget⟩ ← ensure (specification.targetPath = receipt.targetPath)
    "specification target_path must match receipt target_path"
  require (context.runId = ofString runId)
    "execution context run_id must match request run_id"
  .ok ⟨requestId.val, runId, receipt, specification, ⟨requestId.property, hrun⟩, hreceipt,
    hrunId, htarget⟩

/-- The end of `_execute_iteration`: the verification of a mutation that completed. -/
def verifyMutation (request : GovernedExecutionRequest) (context : GovernedExecutionContext)
    (proposal : ChangeProposal) (receipt : MutationReceipt) :
    Program (GovernedExecutionContext × VerificationResult) := do
  let reference ← refer .mutationReceipt (ofString receipt.mutationId) .nil
  let context ← transition context .verifying [reference] none
  let specification ← Prog.ask (.buildSpecification proposal)
  let requestId ← Prog.ask .requestId
  let verifying ← settled ((verificationRequest requestId request.runId receipt specification
    context).mapError .verificationRequest)
  let verification ← Prog.ask (.verify verifying)
  return (context, verification)

/-- `_execute_iteration`. -/
def executeIteration (request : GovernedExecutionRequest) (context : GovernedExecutionContext)
    (iteration : Nat) (previousAuthority : Option FreshIterationAuthority) :
    Program (GovernedExecutionContext × Option IterationState) := do
  let context ← transition context .contextAssembling [] none
  if context.state.isTerminal then
    throw (.runtime "iteration budget exhausted before context assembly")
  else
    match ← Prog.attempt (gather request iteration) with
    | .error _ =>
        let context ← fail context .unrecoverable []
        return (context, none)
    | .ok (bundle, decisionRequest) =>
        settled (validateIterationBindings interpreter request bundle decisionRequest iteration)
        let plan ← refer .plan (ofString bundle.artifact.artifactId)
          (.cons "context_fingerprint" (.str bundle.artifact.contextFingerprint) .nil)
        let context ← transition context .planning [plan] none
        let (outcome, observed) ←
          Prog.startedIn (workflow (lifecycleObserver interpreter bundle decisionRequest
            previousAuthority) decisionRequest request.runId bundle.trustedState)
            ⟨context, [], none⟩
        match outcome with
        | .error .lifecycleRefused =>
            let context ← fail observed.context .unrecoverable []
            return (context, some ⟨bundle, decisionRequest, none, observed.authority, none⟩)
        | .error raised => throw raised
        | .ok result =>
            match result.success, result.proposal, result.receipt with
            | true, some proposal, some receipt =>
                let (context, verification) ←
                  verifyMutation request observed.context proposal receipt
                return (context, some ⟨bundle, decisionRequest, some result, observed.authority,
                  some verification⟩)
            | _, _, _ =>
                let context ← fail observed.context (stopReasonFor result.failureStage) []
                return (context, some ⟨bundle, decisionRequest, some result, observed.authority,
                  none⟩)

/-! ## Recovery -/

/-- The surface of a receipt that reflection reads; `none` stands for a receipt without an
    authorization, which is none. -/
def receiptEvidence (receipt : MutationReceipt) : Option ReceiptEvidence :=
  receipt.authorizationId.map fun authorizationId =>
    { mutationId := ofString receipt.mutationId
      proposalId := ofString receipt.proposalId
      runId := ofString receipt.runId
      authorizationId := ofString authorizationId
      result := ofString (match receipt.result with
        | .completed => "completed"
        | .rejected => "rejected"
        | .failed => "failed")
      verificationPassed := receipt.verificationPassed }

/-- `GovernedReflectionInput(...)`, as `_recover` makes it. -/
def reflectionInput (context : GovernedExecutionContext) (artifact : IterationContextArtifact)
    (decisionId : PyText) (proposal : ChangeProposal) (receipt : MutationReceipt)
    (verification : VerificationResult) (objective : ObjectiveAssessment) :
    Except Raised GovernedReflectionInput :=
  match receiptEvidence receipt with
  | none => .error (.other "receipt must provide immutable mutation receipt evidence")
  | some evidence =>
      let fields : ReflectionFields :=
        { executionContext := context
          receipt := evidence
          verification
          objective
          contextArtifactId := ofString artifact.artifactId
          contextFingerprint := ofString artifact.contextFingerprint
          decisionId
          proposalId := ofString proposal.proposalId
          authorizationId := ofString (receipt.authorizationId.getD "")
          policyVersion := ofString artifact.policyVersion
          redactedMetadata := Dict.empty
          contractVersion := governedReflectionContractVersion }
      match h : fields.postInit with
      | .error fault => .error (.reflection fault)
      | .ok () => .ok ⟨fields, h⟩

/-- The first `try` of `_recover`. -/
def reflectOn (context : GovernedExecutionContext) (artifact : IterationContextArtifact)
    (gatewayResult : EngineeringDecisionResult) (proposal : ChangeProposal)
    (receipt : MutationReceipt) (verification : VerificationResult)
    (objective : ObjectiveAssessment) :
    Program (GovernedReflectionOutcome × GovernedMemoryEvidence) := do
  let decisionId ← settled (decisionIdOf interpreter gatewayResult)
  let input ← settled
    (reflectionInput context artifact decisionId proposal receipt verification objective)
  let report ← Prog.ask (.reflect (GovernedReflectionAdapter.buildContext input))
  let reflection ← settled
    ((GovernedReflectionAdapter.reflect (fun _ => .ok report) input).mapError .reflection)
  let memory ← settled ((GovernedReflectionAdapter.memoryEvidence reflection).mapError .reflection)
  return (reflection, memory)

/-- The second `try` of `_recover`. -/
def replan (request : GovernedExecutionRequest) (input : ReplanningInput) :
    Program ReplanningOutcome := do
  let planningDecisionId ← Prog.ask (.plan ⟨request.goal, [input.memory.experience],
    request.recoveryRules, request.mutationIntentPolicy.capabilityId⟩)
  settled ((ReplanningPolicy.decide input planningDecisionId).mapError .replanning)

/-- `_recover`. -/
def recover (request : GovernedExecutionRequest) (context : GovernedExecutionContext)
    (artifact : IterationContextArtifact) (gatewayResult : EngineeringDecisionResult)
    (proposal : ChangeProposal) (receipt : MutationReceipt) (verification : VerificationResult)
    (objective : ObjectiveAssessment) :
    Program (GovernedExecutionContext × Option ReplanningInput) := do
  let context ← transition context .reflecting [verification.evidenceRef] none
  match ← Prog.attempt (reflectOn interpreter context artifact gatewayResult proposal receipt
      verification objective) with
  | .error _ =>
      let context ← fail context .unrecoverable []
      return (context, none)
  | .ok (reflection, memory) =>
      let reflected ← settled (reflection.evidenceRef.mapError .value)
      let remembered ← refer .memory memory.reflectionId .nil
      let context ← transition context .replanning [reflected, remembered] none
      let decisionId ← settled (decisionIdOf interpreter gatewayResult)
      let input : ReplanningInput :=
        { executionContext := context
          reflection
          memory
          previousDecisionId := decisionId
          previousProposalId := ofString proposal.proposalId
          previousAuthorizationId := ofString (receipt.authorizationId.getD "")
          previousContextArtifactId := ofString artifact.artifactId }
      settled (input.postInit.mapError .replanning)
      match ← Prog.attempt (replan request input) with
      | .error _ =>
          let context ← fail context .unrecoverable []
          return (context, none)
      | .ok outcome =>
          if outcome.action ≠ .continueWithFreshDecision then
            let reference ← settled (outcome.evidenceRef.mapError .value)
            let context ← fail context .verificationFailed [reference]
            return (context, some input)
          else return (context, some input)

/-- `_validate_complete_iteration`. -/
def validateCompleteIteration (input : Option ReplanningInput) (state : IterationState) :
    Except Raised Unit :=
  match input, state.workflowResult.bind (·.proposal) with
  | some input, some _ =>
      match state.workflowResult.bind (·.receipt), state.verification, state.authority with
      | some receipt, some verification, some authority => do
          let artifacts : FreshIterationArtifacts :=
            { toIterationIdentities := authority.toIterationIdentities
              receiptId := ofString receipt.mutationId
              verificationId := ofString verification.verificationId }
          artifacts.postInit.mapError .replanning
          (ReplanningPolicy.validateFreshIteration input artifacts).mapError .replanning
      | _, _, _ => .error (.runtime "second iteration lacks complete freshness artifacts")
  | _, _ => .error (.runtime "second iteration lacks recovery evidence")

/-! ## The execution -/

/-- `GovernedExecutionResult(...)`. -/
def executionResult (context : GovernedExecutionContext)
    (artifacts : List IterationContextArtifact) : Except String GovernedExecutionResult := do
  let ⟨hterminal⟩ ← ensure (context.state.isTerminal = true) "result requires a terminal context"
  let ⟨hartifacts⟩ ← ensure (artifacts.length = context.iteration)
    "iteration artifacts must match context iteration"
  .ok ⟨context, artifacts, governedRuntimeContractVersion, hterminal, hartifacts, rfl⟩

/-- `_terminal_result`, of a runtime with or without an audit observer. -/
def terminalResult (audited : Bool) (context : GovernedExecutionContext)
    (artifacts : List IterationContextArtifact) : Program GovernedExecutionResult := do
  let result ← settled ((executionResult context artifacts).mapError .contract)
  if audited then
    match ← Prog.attempt (Prog.ask (.record result)) with
    | .error _ => throw (.auditRequired
        "terminal execution result could not be persisted to the required audit store")
    | .ok _ => return result
  else return result

/-- What the loop of `execute` carries. -/
structure LoopState where
  context : GovernedExecutionContext
  artifacts : List IterationContextArtifact
  previousAuthority : Option FreshIterationAuthority
  replanningInput : Option ReplanningInput

/-- The turns of the loop of `execute` that are left. -/
def executeFrom (audited : Bool) (request : GovernedExecutionRequest) :
    List Nat → LoopState → Program GovernedExecutionResult
  | [], _ => throw (.runtime "serial runtime exceeded the fixed two-iteration bound")
  | iteration :: rest, loop => do
      let (context, state?) ←
        executeIteration interpreter request loop.context iteration loop.previousAuthority
      let artifacts := loop.artifacts ++ (state?.map (·.bundle.artifact)).toList
      if context.state.isTerminal then terminalResult audited context artifacts
      else
        let state ← asserted state?
        let result ← asserted state.workflowResult
        let receipt ← asserted result.receipt
        let proposal ← asserted result.proposal
        let verification ← asserted state.verification
        let objective ← settled ((assessObjective receipt verification).mapError
          .verificationRequest)
        if objective.status = .satisfied then
          if iteration = 2 then
            settled (validateCompleteIteration loop.replanningInput state)
          let context ← transition context .completed [verification.evidenceRef] (some .success)
          terminalResult audited context artifacts
        else if iteration = 2 then
          settled (validateCompleteIteration loop.replanningInput state)
          let context ← fail context .verificationFailed [verification.evidenceRef]
          terminalResult audited context artifacts
        else
          let (context, replanningInput) ← recover interpreter request context
            state.bundle.artifact result.gatewayResult proposal receipt verification objective
          if context.state.isTerminal then terminalResult audited context artifacts
          else
            match state.authority with
            | none =>
                let context ← fail context .unrecoverable []
                terminalResult audited context artifacts
            | some authority =>
                executeFrom audited request rest
                  ⟨context, artifacts, some authority, replanningInput⟩

/-- The arguments of the first context of an execution. -/
def startFields (request : GovernedExecutionRequest) : ContextFields where
  executionId := ofString request.executionId
  runId := ofString request.runId
  goal := ofString request.goal
  state := .created
  iteration := 0
  budget := request.budget
  history := []
  evidence := []
  stopReason := none
  metadata := .nil

/-- `execute`. -/
def execute (audited : Bool) (request : GovernedExecutionRequest) :
    Program GovernedExecutionResult := do
  if audited then
    match ← Prog.attempt (Prog.ask (.preflight request.workspaceRoot)) with
    | .error _ => throw (.auditRequired
        "required audit observation could not be prepared before execution")
    | .ok _ => pure ()
  let context ← settled ((GovernedExecutionContext.construct (startFields request)).mapError
    .value)
  executeFrom interpreter audited request [1, 2] ⟨context, [], none, none⟩

end

end Eag.GovernedRuntime
