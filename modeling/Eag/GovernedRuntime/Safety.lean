/-
  Eag.GovernedRuntime.Safety

  What one execution does, whatever its collaborators answer or raise.

  `execute_guarded`: each collaborator is asked in the state that the ledger is in, about what
  the others answered in the same iteration; a write has its own accepted `MUTATING` record, and
  the second shares no identity with the first. `execute_truthful`: what a result says is what
  was accepted, verified and persisted.

  A result has one artifact for each `CONTEXT_ASSEMBLING` record. So an execution whose context
  or request could not be made ends at `FAILED`, but without a result.
-/

import Eag.GovernedExecution.Runs
import Eag.GovernedRuntime.Runtime

namespace Eag.GovernedRuntime

open Eag.Foundation Eag.Gateway Eag.GovernedExecution Eag.Mutation
open Eag.Foundation.PyText (ofString)

/-! ## What a run has done -/

/-- An effect with its answer. -/
abbrev Step : Type := Sigma Reply

/-- What the steps of a run come to: the accepted records with their evidence, the answers of
    the current iteration, the artifacts of the contexts that a request was made for, the
    identities under which each write was made, and the results that were persisted. -/
structure Log where
  ledger : List (GovernedExecutionState × List ExecutionEvidenceRef) := []
  bundle : Option IterationContextBundle := none
  request : Option EngineeringDecisionRequest := none
  decision : Option EngineeringDecisionResult := none
  proposal : Option ChangeProposal := none
  validated : Option ValidatedChangeProposal := none
  authorization : Option MutationAuthorization := none
  receipt : Option MutationReceipt := none
  verification : Option (VerificationRequest × VerificationResult) := none
  artifacts : List IterationContextArtifact := []
  written : List (Option IterationIdentities) := []
  persisted : List GovernedExecutionResult := []

namespace Log

/-- The state of the last record. -/
def stateOf (ledger : List (GovernedExecutionState × List ExecutionEvidenceRef)) :
    GovernedExecutionState :=
  (ledger.getLast?.map (·.1)).getD .created

abbrev state (log : Log) : GovernedExecutionState := stateOf log.ledger

/-- The log with one more record. -/
def enter (log : Log) (state : GovernedExecutionState) (evidence : List ExecutionEvidenceRef) :
    Log :=
  { log with ledger := log.ledger ++ [(state, evidence)] }

@[simp] theorem state_enter (log : Log) (state : GovernedExecutionState)
    (evidence : List ExecutionEvidenceRef) : (log.enter state evidence).state = state := by
  rw [enter, Log.state, stateOf, List.getLast?_concat]
  rfl

variable (interpreter : Interpreter)

/-- The identities of an iteration with these answers. -/
def identitiesOf (bundle : IterationContextBundle) (request : EngineeringDecisionRequest)
    (decisionId : PyText) (proposal : ChangeProposal) (authorization : MutationAuthorization) :
    IterationIdentities where
  contextArtifactId := ofString bundle.artifact.artifactId
  contextFingerprint := ofString bundle.artifact.contextFingerprint
  decisionRequestId := ofString request.requestId
  decisionId := decisionId
  proposalId := ofString proposal.proposalId
  authorizationId := ofString authorization.authorizationId

/-- The identities of the current iteration. -/
def identities (log : Log) : Option IterationIdentities := do
  let bundle ← log.bundle
  let request ← log.request
  let result ← log.decision
  let decisionId ← (decisionIdOf interpreter result).toOption
  let proposal ← log.proposal
  let authorization ← log.authorization
  return identitiesOf bundle request decisionId proposal authorization

theorem identities_eq {log : Log} {bundle : IterationContextBundle}
    {request : EngineeringDecisionRequest} {result : EngineeringDecisionResult}
    {decisionId : PyText} {proposal : ChangeProposal} {authorization : MutationAuthorization}
    (hbundle : log.bundle = some bundle) (hrequest : log.request = some request)
    (hdecision : log.decision = some result)
    (hdecisionId : decisionIdOf interpreter result = .ok decisionId)
    (hproposal : log.proposal = some proposal)
    (hauthorization : log.authorization = some authorization) :
    log.identities interpreter = some (identitiesOf bundle request decisionId proposal authorization) := by
  rw [identities, hbundle, hrequest, hdecision, hproposal, hauthorization]
  dsimp only [Option.bind_eq_bind, Option.bind_some]
  rw [hdecisionId]
  rfl

/-- The log after one more step. An assembly begins an iteration. -/
def after (log : Log) : Step → Log
  | ⟨.advance context target evidence stopReason, .ok now⟩ =>
      match transitionOrRaise context ⟨target, evidence, stopReason, now⟩ with
      | .ok next => log.enter next.state evidence
      | .error _ => log
  | ⟨.assemble .., reply⟩ =>
      { ledger := log.ledger, artifacts := log.artifacts, written := log.written,
        persisted := log.persisted, bundle := reply.toOption }
  | ⟨.buildRequest .., .ok request⟩ =>
      { log with request := some request,
                 artifacts := log.artifacts ++ (log.bundle.map (·.artifact)).toList }
  | ⟨.decide _, reply⟩ => { log with decision := reply.toOption }
  | ⟨.translate .., reply⟩ => { log with proposal := reply.toOption }
  | ⟨.validate _, reply⟩ => { log with validated := reply.toOption }
  | ⟨.authorize _, reply⟩ => { log with authorization := reply.toOption }
  | ⟨.mutate .., reply⟩ =>
      { log with written := log.written ++ [log.identities interpreter],
                 receipt := reply.toOption }
  | ⟨.verify request, reply⟩ => { log with verification := reply.toOption.map (request, ·) }
  | ⟨.record result, .ok _⟩ => { log with persisted := log.persisted ++ [result] }
  | _ => log

/-- The log of a run. -/
def of (steps : List Step) : Log := steps.foldl (after interpreter) {}

end Log

/-! ## What is asked of a step -/

/-- The state that an effect belongs to. -/
def Effect.phase : Effect → GovernedExecutionState
  | .preflight _ => .created
  | .advance context .. => context.state
  | .assemble .. | .buildRequest .. => .contextAssembling
  | .decide _ => .deciding
  | .translate .. => .proposing
  | .validate _ | .executeProposal _ | .authorize _ => .authorizing
  | .mutate .. => .mutating
  | .buildSpecification _ | .requestId | .verify _ => .verifying
  | .reflect _ => .reflecting
  | .plan _ => .replanning
  | .record result => result.context.state

/-- The records of a context, as a log has them. -/
def recordsOf (context : GovernedExecutionContext) :
    List (GovernedExecutionState × List ExecutionEvidenceRef) :=
  context.history.map fun record => (record.toState, record.evidence)

/-- The last record is that of this authorization. -/
def OwnRecord (log : Log) (authorization : MutationAuthorization) : Prop :=
  ∃ reference, log.ledger.getLast? = some (.mutating, [reference]) ∧
    reference.kind = .authorization ∧
    reference.referenceId = ofString authorization.authorizationId

/-- The write to come is the first, or the second and shares no identity with the first. -/
def FreshWrite (interpreter : Interpreter) (log : Log) : Prop :=
  ∃ identities, log.identities interpreter = some identities ∧
    (log.written = [] ∨ ∃ old, log.written = [some old] ∧ Fresh old identities)

/-- A mutation completed in the current iteration, and its own verification failed. -/
def Recoverable (log : Log) : Prop :=
  ∃ receipt request verification, log.receipt = some receipt ∧
    log.verification = some (request, verification) ∧ request.receipt = receipt ∧
    receipt.result = .completed ∧ verification.status = .failed

/-- An iteration begins: the first, or the second after one that can be recovered from. -/
def Begins (log : Log) (iteration : Nat) : Prop :=
  iteration = 1 ∧ log.written = [] ∨ iteration = 2 ∧ Recoverable log

/-- What an effect is about is what was answered before it in its iteration. -/
def Linked (interpreter : Interpreter) (log : Log) : Effect → Prop
  | .assemble _ iteration => Begins log iteration
  | .buildRequest _ context => log.bundle.map (·.context) = some context
  | .decide request => log.request = some request
  | .translate result request _ trustedState =>
      log.decision = some result ∧ log.request = some request ∧
        log.bundle.map (·.trustedState) = some trustedState
  | .validate proposal | .executeProposal proposal | .buildSpecification proposal =>
      log.proposal = some proposal
  | .authorize validated => log.validated = some validated
  | .mutate validated authorization =>
      log.validated = some validated ∧ log.authorization = some authorization ∧
        OwnRecord log authorization ∧ FreshWrite interpreter log
  | .verify request => log.receipt = some request.receipt ∧ request.receipt.result = .completed
  | .reflect _ | .plan _ => Recoverable log
  | .record result => log.ledger = recordsOf result.context
  | _ => True

/-- **What is asked of a step**, after a run with this log. -/
structure Guarded (interpreter : Interpreter) (log : Log) (effect : Effect) : Prop where
  phase : log.state = effect.phase
  unpersisted : log.persisted = []
  linked : Linked interpreter log effect

/-! ## Transitions -/

/-- These are the records of a context, its budget is that of an execution, and nothing was
    persisted. -/
structure Held (records : List (GovernedExecutionState × List ExecutionEvidenceRef))
    (persisted : List GovernedExecutionResult) (context : GovernedExecutionContext) : Prop where
  ledger : records = recordsOf context
  budget : context.budget.maxIterations = 2 ∧ context.budget.maxMutations = 2 ∧
    context.budget.maxVerifications = 2
  unpersisted : persisted = []

/-- The log of a run whose context is at hand. -/
abbrev Base (log : Log) (context : GovernedExecutionContext) : Prop :=
  Held log.ledger log.persisted context

section

variable {records : List (GovernedExecutionState × List ExecutionEvidenceRef)}
  {persisted : List GovernedExecutionResult} {context next : GovernedExecutionContext}
  {target : GovernedExecutionState} {evidence : List ExecutionEvidenceRef}

theorem Held.state (h : Held records persisted context) :
    Log.stateOf records = context.state := by
  rw [context.consistent.state, Log.stateOf, h.ledger, recordsOf, List.getLast?_map, lastState,
    Option.map_map]
  rfl

/-- What an accepted transition does. -/
structure Moved (context next : GovernedExecutionContext) (target : GovernedExecutionState)
    (evidence : List ExecutionEvidenceRef) : Prop where
  legal : isLegal context.state target = true
  state : next.state = (meter context target).target
  records : recordsOf next = recordsOf context ++ [(next.state, evidence)]
  sameMax : next.budget.SameMax context.budget

theorem moved_of_transition {request : TransitionRequest}
    (h : transitionOrRaise context request = .ok next) :
    Moved context next request.target request.evidence := by
  unfold transitionOrRaise at h
  rcases transition_cases context request with
    ⟨code, hrefused, -⟩ | ⟨next', haccepted, hlegal, -, hfields⟩
  · rw [hrefused] at h
    cases h
  · rw [haccepted] at h
    have hnext : next' = next := Except.ok.inj h
    rw [hnext] at hfields
    have hstate : next.state = (meter context request.target).target := by rw [hfields]; rfl
    refine ⟨hlegal, hstate, ?_, ?_⟩
    · rw [hstate, recordsOf, hfields]
      exact List.map_append
    · rw [hfields]
      exact (meter_counters context request.target).1

theorem Held.moved (h : Held records persisted context)
    (hmoved : Moved context next target evidence) :
    Held (records ++ [(next.state, evidence)]) persisted next where
  ledger := by rw [hmoved.records, ← h.ledger]
  budget := by
    rw [hmoved.sameMax.iterations, hmoved.sameMax.mutations, hmoved.sameMax.verifications]
    exact h.budget
  unpersisted := h.unpersisted

/-- Two writes and two verifications are enough for two iterations. -/
theorem Held.not_exhausts (h : Held records persisted context)
    (hlegal : isLegal context.state target = true)
    (htarget : target ≠ .contextAssembling) : ¬Exhausts context.budget target := by
  obtain ⟨hi, hm, hv⟩ := h.budget
  have hconsistent := context.consistent
  have hle := context.budget.iterationsUsed_le
  rw [hi, hconsistent.iterationsUsed] at hle
  rw [hconsistent.state] at hlegal
  rintro ⟨limit, hspent⟩
  rcases position_of_isLegal hlegal with hterminal | ⟨hcontext, -⟩ | ⟨-, -, hpos, hmut, hver, -⟩
  · cases target <;> first | cases hspent | cases hterminal
  · exact htarget hcontext
  cases hconsistent.ledger.phase with
  | created empty =>
      rw [empty] at hpos
      exact absurd hpos (by decide)
  | stopped terminal _ _ _ =>
      rw [isLegal_of_isTerminal terminal] at hlegal
      cases hlegal
  | running _ _ _ mutations verifications =>
      cases target with
      | contextAssembling => exact htarget rfl
      | mutating =>
          rw [if_pos (hmut.mp rfl).1] at mutations
          simp only [spent, Option.some.injEq, Prod.mk.injEq] at hspent
          rw [hm, hconsistent.mutationsUsed] at hspent
          omega
      | verifying =>
          rw [if_pos (hver.mp rfl).1] at verifications
          simp only [spent, Option.some.injEq, Prod.mk.injEq] at hspent
          rw [hv, hconsistent.verificationsUsed] at hspent
          omega
      | _ => cases hspent

/-- Within an iteration, what is entered is what was asked for. -/
theorem Held.enters (h : Held records persisted context)
    (hmoved : Moved context next target evidence) (htarget : target ≠ .contextAssembling) :
    next.state = target := by
  rw [hmoved.state]
  rcases meter_cases' context target with ⟨hexhausts, -⟩ | ⟨-, hkept, -⟩
  · exact absurd hexhausts (h.not_exhausts hmoved.legal htarget)
  · exact hkept

/-- A running context that asked for `CONTEXT_ASSEMBLING` is there. -/
theorem Moved.assembling (h : Moved context next .contextAssembling evidence)
    (hrunning : next.state.isTerminal ≠ true) : next.state = .contextAssembling := by
  rw [h.state] at hrunning ⊢
  rcases meter_cases' context .contextAssembling with ⟨-, hfailed⟩ | ⟨-, hkept, -⟩
  · rw [hfailed] at hrunning
    exact absurd rfl hrunning
  · exact hkept

end

/-- Only `MUTATING` leads to `VERIFYING`. -/
theorem state_of_isLegal_verifying {state : GovernedExecutionState}
    (h : isLegal state .verifying = true) : state = .mutating := by
  revert h
  cases state <;> decide

/-! ## Rules -/

section

variable (interpreter : Interpreter)

/-- From a log on, every effect of the program is guarded and its outcome satisfies `R`. -/
abbrev Runs {α : Type} (R : Log → Except Raised α → Prop) (log : Log) (x : Program α) : Prop :=
  x.run.Follows (Log.after interpreter) (Guarded interpreter) R log

/-- A result satisfies `P` with the log; nothing is persisted when there is none. -/
def Ends {α : Type} (P : Log → α → Prop) (log : Log) : Except Raised α → Prop
  | .error _ => log.persisted = []
  | .ok a => P log a

variable {interpreter} {α : Type} {log : Log} {context : GovernedExecutionContext}
  {target : GovernedExecutionState} {evidence : List ExecutionEvidenceRef}
  {stopReason : Option GovernedExecutionStopReason}

theorem settled_runs {result : Except Raised α} {R : Log → Except Raised α → Prop}
    (herror : ∀ raised, R log (.error raised))
    (hok : ∀ a, result = .ok a → R log (.ok a)) : Runs interpreter R log (settled result) := by
  cases result with
  | error raised => exact herror raised
  | ok a => exact hok a rfl

theorem refer_runs {kind : ExecutionEvidenceKind} {referenceId : PyText}
    {metadata : MetadataEntries} {R : Log → Except Raised ExecutionEvidenceRef → Prop}
    (herror : ∀ raised, R log (.error raised))
    (hok : ∀ reference, reference.kind = kind → reference.referenceId = referenceId →
      R log (.ok reference)) : Runs interpreter R log (refer kind referenceId metadata) := by
  refine settled_runs herror fun reference hreference => ?_
  rw [except_mapError_eq_ok, evidenceRef, except_bind_eq_ok] at hreference
  obtain ⟨_, -, h⟩ := hreference
  obtain rfl := Except.ok.inj h
  exact hok _ rfl rfl

/-- A transition is refused, and the log stays as it is; or the ledger has its record. -/
theorem transition_runs {R : Log → Except Raised GovernedExecutionContext → Prop}
    (hbase : Base log context)
    (herror : ∀ raised, R log (.error raised))
    (hok : ∀ next, Moved context next target evidence →
      Base (log.enter next.state evidence) next → R (log.enter next.state evidence) (.ok next)) :
    Runs interpreter R log (transition context target evidence stopReason) := by
  refine Prog.follows_ask ⟨hbase.state, hbase.unpersisted, trivial⟩ herror fun now => ?_
  show R (Log.after interpreter log ⟨.advance context target evidence stopReason, .ok now⟩)
    ((transitionOrRaise context ⟨target, evidence, stopReason, now⟩).mapError .illegalTransition)
  unfold Log.after
  dsimp only
  cases hnext : transitionOrRaise context ⟨target, evidence, stopReason, now⟩ with
  | error code => exact herror _
  | ok next =>
      have hmoved := moved_of_transition hnext
      exact hok next hmoved (hbase.moved hmoved)

/-- Within an iteration, the record of an accepted transition is of the state asked for. -/
theorem enter_runs {R : Log → Except Raised GovernedExecutionContext → Prop}
    (hbase : Base log context)
    (htarget : target ≠ .contextAssembling) (herror : ∀ raised, R log (.error raised))
    (hok : ∀ next, next.state = target → isLegal context.state target = true →
      Base (log.enter target evidence) next → R (log.enter target evidence) (.ok next)) :
    Runs interpreter R log (transition context target evidence stopReason) := by
  refine transition_runs hbase herror fun next hmoved hnext => ?_
  have hstate : next.state = target := hbase.enters hmoved htarget
  rw [hstate] at hnext ⊢
  exact hok next hstate hmoved.legal hnext

end

/-! ## The workflow -/

/-- The identities under which an iteration may write, given the authority of the one before. -/
def writtenUnder (previous : Option FreshIterationAuthority) :
    List (Option IterationIdentities) :=
  (previous.map fun authority => some authority.toIterationIdentities).toList

/-- What holds all along the workflow. -/
def Calm (artifacts : List IterationContextArtifact) (log : Log) (observed : ObserverState) :
    Prop :=
  Base log observed.context ∧ log.verification = none ∧ log.artifacts = artifacts

/-- What a successful result of the workflow tells: the write was made, under the authority that
    the observer allocated; or a proposal that was not validated is said to have been carried out,
    and the state is still `AUTHORIZING`. -/
def Carried (previous : Option FreshIterationAuthority) (log : Log)
    (result : GovernedDecisionMutationResult) (observed : ObserverState) : Prop :=
  result.success = true → log.proposal = result.proposal ∧ (observed.context.state = .authorizing ∨
    observed.context.state = .mutating ∧ log.receipt = result.receipt ∧
      ∃ authority, observed.authority = some authority ∧
        log.written = writtenUnder previous ++ [some authority.toIterationIdentities])

/-- The workflow stays calm, and its result tells the truth. -/
def Works (artifacts : List IterationContextArtifact) (previous : Option FreshIterationAuthority)
    (log : Log) (outcome : Except Raised GovernedDecisionMutationResult)
    (observed : ObserverState) : Prop :=
  Calm artifacts log observed ∧ ∀ result, outcome = .ok result →
    Carried previous log result observed

section

variable (interpreter : Interpreter) (artifacts : List IterationContextArtifact)
  (previous : Option FreshIterationAuthority)

/-- The workflow, or what is left of it, from a log and a state on. -/
abbrev Observes (log : Log) (observed : ObserverState)
    (x : Observed GovernedDecisionMutationResult) : Prop :=
  Prog.FollowsFrom (Log.after interpreter) (Guarded interpreter) (Works artifacts previous) log
    observed x

variable {interpreter} {artifacts} {previous} {log : Log} {observed : ObserverState}
  {effect : Effect}

theorem works_error {raised : Raised} (hcalm : Calm artifacts log observed) :
    Works artifacts previous log (.error raised) observed := by
  refine ⟨hcalm, fun result h => ?_⟩
  cases h

theorem works_ok {result : GovernedDecisionMutationResult} (hcalm : Calm artifacts log observed)
    (h : Carried previous log result observed) :
    Works artifacts previous log (.ok result) observed := by
  refine ⟨hcalm, fun result' hresult => ?_⟩
  obtain rfl := Except.ok.inj hresult
  exact h

theorem observes_consult {f : Answer effect → Observed GovernedDecisionMutationResult}
    (hguard : Guarded interpreter log effect)
    (herror : ∀ raised, Works artifacts previous (log.after interpreter ⟨effect, .error raised⟩)
      (.error raised) observed)
    (hok : ∀ answer, Observes interpreter artifacts previous
      (log.after interpreter ⟨effect, .ok answer⟩) observed (f answer)) :
    Observes interpreter artifacts previous log observed (consult effect >>= f) := by
  refine Prog.followsFrom_keep ⟨hguard, fun reply => ?_⟩
  cases reply with
  | error raised => exact herror raised
  | ok answer => exact hok answer

theorem observes_tried {f : Reply effect → Observed GovernedDecisionMutationResult}
    (hguard : Guarded interpreter log effect)
    (hreply : ∀ reply, Observes interpreter artifacts previous
      (log.after interpreter ⟨effect, reply⟩) observed (f reply)) :
    Observes interpreter artifacts previous log observed (tried effect >>= f) :=
  Prog.followsFrom_keep ⟨hguard, hreply⟩

theorem observes_transition {target : GovernedExecutionState}
    {evidence : List ExecutionEvidenceRef} {f : Unit → Observed GovernedDecisionMutationResult}
    (hcalm : Calm artifacts log observed) (htarget : target ≠ .contextAssembling)
    (hok : ∀ next, next.state = target →
      Calm artifacts (log.enter target evidence) { observed with context := next } →
      Observes interpreter artifacts previous (log.enter target evidence)
        { observed with context := next } (f ())) :
    Observes interpreter artifacts previous log observed
      (observeTransition target evidence >>= f) := by
  simp only [observeTransition, bind_assoc]
  refine Prog.followsFrom_get (Prog.followsFrom_keep (enter_runs hcalm.1 htarget
    (fun _ => works_error hcalm) fun next hstate _ hbase => ?_))
  exact hok next hstate ⟨hbase, hcalm.2⟩

variable {bundle : IterationContextBundle} {request : EngineeringDecisionRequest}

/-- A fresh authority shares no identity with the previous one. -/
theorem freshAuthority_eq_ok {authority : FreshIterationAuthority}
    (h : freshAuthority previous authority = .ok ()) :
    ∀ old, previous = some old → Fresh old.toIterationIdentities
      authority.toIterationIdentities := by
  rintro old rfl
  unfold freshAuthority at h
  rw [except_bind_eq_ok] at h
  obtain ⟨_, -, h⟩ := h
  exact (validateFreshAuthority_eq_ok.mp (except_mapError_eq_ok.mp h)).2.2

theorem carryOut_observes {gatewayResult : EngineeringDecisionResult} {proposal : ChangeProposal}
    (hcalm : Calm artifacts log observed) (hbundle : log.bundle = some bundle)
    (hrequest : log.request = some request) (hdecision : log.decision = some gatewayResult)
    (hdecisionId : decisionIdOf interpreter gatewayResult = .ok observed.decisionId)
    (hproposal : log.proposal = some proposal) (hwritten : log.written = writtenUnder previous) :
    Observes interpreter artifacts previous log observed
      (carryOut (lifecycleObserver interpreter bundle request previous) gatewayResult
        proposal) := by
  simp only [carryOut, lifecycleObserver, bind_assoc]
  refine Prog.followsFrom_keep (refer_runs (fun _ => works_error hcalm) fun reference1 _ _ => ?_)
  refine observes_transition hcalm (by decide) fun next1 hstate1 hcalm1 => ?_
  have hphase1 := log.state_enter .authorizing [reference1]
  refine observes_tried ⟨hphase1, hcalm1.1.unpersisted, hproposal⟩ fun outcome => ?_
  cases outcome with
  | error raised =>
      cases raised with
      | policy violation =>
          -- a refused proposal is handed over without an authorization: no `MUTATING` record
          refine observes_consult ⟨hphase1, hcalm1.1.unpersisted, hproposal⟩
            (fun _ => works_error hcalm1) fun receipt => ?_
          exact Prog.follows_ret (works_ok hcalm1 fun _ => ⟨hproposal, Or.inl hstate1⟩)
      | _ => exact Prog.follows_ret (works_error hcalm1)
  | ok validated =>
      refine observes_consult ⟨hphase1, hcalm1.1.unpersisted, rfl⟩
        (fun _ => works_error hcalm1) fun authorization => ?_
      refine Prog.followsFrom_get (Prog.followsFrom_keep (settled_runs
        (fun _ => works_error hcalm1) fun _ hfresh => ?_))
      refine Prog.followsFrom_modify (Prog.followsFrom_keep (refer_runs
        (fun _ => works_error hcalm1) fun reference hkind hid => ?_))
      refine observes_transition hcalm1 (by decide) fun next2 hstate2 hcalm2 => ?_
      have hidentities : Log.identities interpreter ((((log.enter .authorizing [reference1]).after
          interpreter ⟨.validate proposal, .ok validated⟩).after interpreter
            ⟨.authorize validated, .ok authorization⟩).enter .mutating [reference]) = _ :=
        Log.identities_eq interpreter hbundle hrequest hdecision hdecisionId hproposal rfl
      refine observes_consult ⟨Log.state_enter _ _ _, hcalm2.1.unpersisted, rfl, rfl,
        ⟨reference, List.getLast?_concat, hkind, hid⟩, _, hidentities, ?_⟩
        (fun _ => works_error hcalm2) fun receipt => ?_
      · cases previous with
        | none => exact Or.inl hwritten
        | some old => exact Or.inr ⟨_, hwritten, freshAuthority_eq_ok hfresh old rfl⟩
      · refine Prog.follows_ret (works_ok hcalm2 fun _ =>
          ⟨hproposal, Or.inr ⟨hstate2, rfl, _, rfl, ?_⟩⟩)
        exact congrArg₂ (· ++ [·]) hwritten hidentities

theorem workflow_observes {context : GovernedExecutionContext} {runId : String}
    (hbase : Base log context) (hbundle : log.bundle = some bundle)
    (hrequest : log.request = some request) (hunverified : log.verification = none)
    (hgathered : log.artifacts = artifacts) (hwritten : log.written = writtenUnder previous) :
    Observes interpreter artifacts previous log ⟨context, [], none⟩
      (workflow (lifecycleObserver interpreter bundle request previous) request runId
        bundle.trustedState) := by
  simp only [workflow, lifecycleObserver, bind_assoc]
  have hcalm : Calm artifacts log ⟨context, [], none⟩ := ⟨hbase, hunverified, hgathered⟩
  refine observes_transition hcalm (by decide) fun next1 _ hcalm1 => ?_
  refine observes_consult ⟨Log.state_enter _ _ _, hcalm1.1.unpersisted, hrequest⟩
    (fun _ => works_error hcalm1) fun result => ?_
  by_cases hsuccess : result.success = false
  · rw [if_pos hsuccess]
    refine Prog.follows_ret (works_ok hcalm1 fun h => ?_)
    cases h
  rw [if_neg hsuccess]
  refine Prog.followsFrom_keep (settled_runs (fun _ => works_error hcalm1)
    fun decisionId hdecisionId => ?_)
  refine Prog.followsFrom_modify (Prog.followsFrom_keep (refer_runs
    (fun _ => works_error hcalm1) fun reference _ _ => ?_))
  refine observes_transition hcalm1 (by decide) fun next2 _ hcalm2 => ?_
  refine observes_tried ⟨Log.state_enter _ _ _, hcalm2.1.unpersisted, rfl, hrequest,
    congrArg (Option.map _) hbundle⟩ fun translated => ?_
  cases translated with
  | error raised =>
      cases raised with
      | translation violation =>
          refine Prog.follows_ret (works_ok hcalm2 fun h => ?_)
          cases h
      | _ => exact Prog.follows_ret (works_error hcalm2)
  | ok proposal =>
      exact carryOut_observes hcalm2 hbundle hrequest rfl hdecisionId rfl hwritten

end

/-! ## One iteration -/

section

variable {interpreter : Interpreter} {α β : Type} {log : Log} {request : GovernedExecutionRequest}
  {context : GovernedExecutionContext} {artifacts : List IterationContextArtifact}
  {previous : Option FreshIterationAuthority} {proposal : ChangeProposal}
  {receipt : MutationReceipt} {verification : VerificationResult}

theorem runs_next {P : Log → α → Prop} {P' : Log → β → Prop} {x : Program α} {f : α → Program β}
    (hx : Runs interpreter (Ends P) log x)
    (hf : ∀ log' a, P log' a → Runs interpreter (Ends P') log' (f a)) :
    Runs interpreter (Ends P') log (x >>= f) := by
  refine Prog.follows_then (hx.imp fun log' outcome h => ?_)
  cases outcome with
  | error raised => exact h
  | ok a => exact hf log' a h

theorem verificationRequest_receipt {requestId : { id : String // NonBlank id }} {runId : String}
    {specification : VerificationSpecification} {verifying : VerificationRequest}
    (h : verificationRequest requestId runId receipt specification context = .ok verifying) :
    verifying.receipt = receipt := by
  unfold verificationRequest at h
  simp only [except_bind_eq_ok, exists_ensure] at h
  obtain ⟨_, _, _, _, _, -, h⟩ := h
  obtain rfl := Except.ok.inj h
  rfl

/-- What is known once a mutation was verified. -/
structure Verified (log : Log) (context : GovernedExecutionContext) (receipt : MutationReceipt)
    (verification : VerificationResult) : Prop where
  base : Base log context
  verifying : context.state = .verifying
  answered : log.receipt = some receipt
  completed : receipt.result = .completed
  verified : ∃ request, log.verification = some (request, verification) ∧
    request.receipt = receipt

/-- Only a mutation that has its own record is verified. -/
theorem verifyMutation_runs (hbase : Base log context) (hproposal : log.proposal = some proposal)
    (hreceipt : context.state = .mutating → log.receipt = some receipt)
    (hcompleted : receipt.result = .completed) :
    Runs interpreter (Ends fun log' out => Verified log' out.1 receipt out.2 ∧
      context.state = .mutating ∧ log'.written = log.written ∧ log'.artifacts = log.artifacts) log
      (verifyMutation request context proposal receipt) := by
  have hunpersisted := hbase.unpersisted
  refine Prog.follows_then (refer_runs (fun _ => hunpersisted) fun reference _ _ => ?_)
  refine Prog.follows_then (enter_runs hbase (by decide) (fun _ => hunpersisted)
    fun next hstate hlegal hnext => ?_)
  have hmutating := state_of_isLegal_verifying hlegal
  have hphase := hnext.state.trans hstate
  refine Prog.follows_ask ⟨hphase, hunpersisted, hproposal⟩ (fun _ => hunpersisted)
    fun specification => ?_
  refine Prog.follows_ask ⟨hphase, hunpersisted, trivial⟩ (fun _ => hunpersisted)
    fun requestId => ?_
  refine Prog.follows_then (settled_runs (fun _ => hunpersisted) fun verifying hverifying => ?_)
  have hsame : verifying.receipt = receipt :=
    verificationRequest_receipt (except_mapError_eq_ok.mp hverifying)
  have hlogged : log.receipt = some verifying.receipt :=
    (hreceipt hmutating).trans (congrArg some hsame.symm)
  refine Prog.follows_ask ⟨hphase, hunpersisted, hlogged, hsame ▸ hcompleted⟩
    (fun _ => hunpersisted) fun verification => Prog.follows_ret ?_
  exact ⟨⟨hnext, hstate, hreceipt hmutating, hcompleted, verifying, rfl, hsame⟩, hmutating, rfl,
    rfl⟩

/-- What an iteration leaves: a failure, or a mutation that was made and verified. -/
inductive Iterated (artifacts : List IterationContextArtifact)
    (previous : Option FreshIterationAuthority) (log : Log) :
    GovernedExecutionContext × Option IterationState → Prop where
  | failed {context : GovernedExecutionContext} {state : Option IterationState}
      (base : Base log context) (failed : context.state = .failed)
      (unverified : log.verification = none)
      (gathered : log.artifacts = artifacts ++ (state.map (·.bundle.artifact)).toList) :
      Iterated artifacts previous log (context, state)
  | verified {context : GovernedExecutionContext} {state : IterationState}
      {result : GovernedDecisionMutationResult} {proposal : ChangeProposal}
      {receipt : MutationReceipt} {authority : FreshIterationAuthority}
      {verification : VerificationResult} (verified : Verified log context receipt verification)
      (hresult : state.workflowResult = some result) (hproposal : result.proposal = some proposal)
      (hreceipt : result.receipt = some receipt) (hauthority : state.authority = some authority)
      (hverification : state.verification = some verification)
      (written : log.written = writtenUnder previous ++ [some authority.toIterationIdentities])
      (gathered : log.artifacts = artifacts ++ [state.bundle.artifact]) :
      Iterated artifacts previous log (context, some state)

theorem failed_runs {reason : GovernedExecutionStopReason} {state : Option IterationState}
    (hbase : Base log context)
    (hunverified : log.verification = none)
    (hgathered : log.artifacts = artifacts ++ (state.map (·.bundle.artifact)).toList) :
    Runs interpreter (Ends (Iterated artifacts previous)) log
      (fail context reason [] >>= fun next => pure (next, state)) :=
  Prog.follows_then (enter_runs hbase (by decide) (fun _ => hbase.unpersisted)
    fun _ hstate _ hnext => Iterated.failed hnext hstate hunverified hgathered)

theorem executeIteration_runs {iteration : Nat} (hbase : Base log context)
    (hbegins : Begins log iteration) (hwritten : log.written = writtenUnder previous) :
    Runs interpreter (Ends (Iterated log.artifacts previous)) log
      (executeIteration interpreter request context iteration previous) := by
  have hunpersisted := hbase.unpersisted
  refine Prog.follows_then (transition_runs hbase (fun _ => hunpersisted)
    fun next1 hmoved1 hbase1 => ?_)
  dsimp only [Prog.Continues]
  by_cases hterminal : next1.state.isTerminal = true
  · rw [if_pos hterminal]
    exact Prog.follows_ret hunpersisted
  rw [if_neg hterminal]
  have hphase1 := hbase1.state.trans (hmoved1.assembling hterminal)
  refine Prog.follows_attempt (Prog.follows_ask ⟨hphase1, hunpersisted, hbegins⟩
    (fun _ => failed_runs hbase1 rfl (List.append_nil _).symm) fun bundle => ?_)
  refine Prog.follows_ask ⟨hphase1, hunpersisted, rfl⟩
    (fun _ => failed_runs hbase1 rfl (List.append_nil _).symm)
    fun decisionRequest => Prog.follows_ret ?_
  refine Prog.follows_then (settled_runs (fun _ => hunpersisted) fun _ _ => ?_)
  refine Prog.follows_then (refer_runs (fun _ => hunpersisted) fun plan _ _ => ?_)
  refine Prog.follows_then (enter_runs hbase1 (by decide) (fun _ => hunpersisted)
    fun next2 _ _ hbase2 => ?_)
  refine Prog.follows_startedIn ((workflow_observes hbase2 rfl rfl rfl rfl hwritten).imp
    fun log' worked hworks => ?_)
  obtain ⟨outcome, observed⟩ := worked
  obtain ⟨⟨hbase3, hunverified, hgathered⟩, hcarried⟩ := hworks
  cases outcome with
  | error raised =>
      cases raised with
      | lifecycleRefused => exact failed_runs hbase3 hunverified hgathered
      | _ => exact Prog.follows_ret hbase3.unpersisted
  | ok result =>
      dsimp only
      split
      · rename_i proposal receipt hsuccess hproposal hreceipt
        obtain ⟨hlogged, hwhere⟩ := hcarried result rfl hsuccess
        have hcompleted : receipt.result = .completed := by
          rw [GovernedDecisionMutationResult.success, hreceipt] at hsuccess
          exact of_decide_eq_true hsuccess
        refine runs_next (verifyMutation_runs hbase3 (hlogged.trans hproposal)
          (fun hmutating => ?_) hcompleted) fun log'' out hout => ?_
        · rcases hwhere with hauthorizing | ⟨-, hwrote, -⟩
          · rw [hauthorizing] at hmutating
            cases hmutating
          · exact hwrote.trans hreceipt
        · obtain ⟨hverified, hmutating, hkept, hsame⟩ := hout
          rcases hwhere with hauthorizing | ⟨-, -, authority, hauthority, hwrote⟩
          · rw [hauthorizing] at hmutating
            cases hmutating
          · exact Prog.follows_ret (Iterated.verified hverified rfl hproposal hreceipt hauthority
              rfl (hkept.trans hwrote) (hsame.trans hgathered))
      · exact failed_runs hbase3 hunverified hgathered

/-! ## Recovery -/

/-- The answers and the writes are those that were there before. -/
structure Same (log log' : Log) : Prop where
  receipt : log'.receipt = log.receipt
  verification : log'.verification = log.verification
  written : log'.written = log.written
  artifacts : log'.artifacts = log.artifacts

/-- Only a verification that failed is reflected on. -/
theorem reflectionInput_failed {artifact : IterationContextArtifact} {decisionId : PyText}
    {objective : ObjectiveAssessment} {input : GovernedReflectionInput}
    (h : reflectionInput context artifact decisionId proposal receipt verification objective
      = .ok input) : verification.status = .failed := by
  unfold reflectionInput at h
  split at h
  · cases h
  · dsimp only at h
    split at h
    · cases h
    · rename_i haccepted
      unfold ReflectionFields.postInit at haccepted
      simp only [except_bind_eq_ok] at haccepted
      obtain ⟨_, -, _, -, _, -, _, -, _, -, _, -, _, -, _, -, _, hfailed, -⟩ := haccepted
      by_contra hstatus
      rw [governedCheck, if_neg hstatus] at hfailed
      cases hfailed

/-- Reflection asks one collaborator, and settles the rest itself. -/
theorem reflectOn_runs {artifact : IterationContextArtifact}
    {gatewayResult : EngineeringDecisionResult} {objective : ObjectiveAssessment}
    {R : Log → Except Raised (GovernedReflectionOutcome × GovernedMemoryEvidence) → Prop}
    (hphase : log.state = .reflecting) (hunpersisted : log.persisted = [])
    (hrecoverable : verification.status = .failed → Recoverable log)
    (herror : ∀ raised, R log (.error raised))
    (hok : ∀ pair, Recoverable log → R log (.ok pair)) :
    Runs interpreter R log (reflectOn interpreter context artifact gatewayResult proposal receipt
      verification objective) := by
  refine Prog.follows_then (settled_runs herror fun decisionId _ => ?_)
  refine Prog.follows_then (settled_runs herror fun input hinput => ?_)
  have hfailed := hrecoverable (reflectionInput_failed hinput)
  refine Prog.follows_ask ⟨hphase, hunpersisted, hfailed⟩ herror fun report => ?_
  refine Prog.follows_then (settled_runs herror fun reflection _ => ?_)
  refine Prog.follows_then (settled_runs herror fun memory _ => ?_)
  exact hok _ hfailed

theorem recover_runs {artifact : IterationContextArtifact}
    {gatewayResult : EngineeringDecisionResult} {objective : ObjectiveAssessment}
    (hbase : Base log context)
    (hrecoverable : verification.status = .failed → Recoverable log) :
    Runs interpreter (Ends fun log' out => Base log' out.1 ∧ Same log log' ∧
        (out.1.state = .failed ∨ out.1.state = .replanning ∧ Recoverable log')) log
      (recover interpreter request context artifact gatewayResult proposal receipt verification
        objective) := by
  have hunpersisted := hbase.unpersisted
  have hfailed : ∀ {log' : Log} {context : GovernedExecutionContext}
      {evidence : List ExecutionEvidenceRef} {input : Option ReplanningInput}
      {reason : GovernedExecutionStopReason}, Base log' context → Same log log' →
      Runs interpreter (Ends fun log' out => Base log' out.1 ∧ Same log log' ∧
          (out.1.state = .failed ∨ out.1.state = .replanning ∧ Recoverable log')) log'
        (fail context reason evidence >>= fun next => pure (next, input)) := by
    intro log' context evidence input reason hbase' hsame
    refine Prog.follows_then (enter_runs hbase' (by decide) (fun _ => hbase'.unpersisted)
      fun next hstate _ hnext => ?_)
    exact ⟨hnext, ⟨hsame.receipt, hsame.verification, hsame.written, hsame.artifacts⟩,
      Or.inl hstate⟩
  refine Prog.follows_then (enter_runs hbase (by decide) (fun _ => hunpersisted)
    fun next1 hstate1 _ hbase1 => ?_)
  have hphase1 := hbase1.state.trans hstate1
  refine Prog.follows_attempt (reflectOn_runs hphase1 hunpersisted hrecoverable
    (fun _ => hfailed hbase1 ⟨rfl, rfl, rfl, rfl⟩) fun pair hlog => ?_)
  refine Prog.follows_then (settled_runs (fun _ => hunpersisted) fun reflected _ => ?_)
  refine Prog.follows_then (refer_runs (fun _ => hunpersisted) fun remembered _ _ => ?_)
  refine Prog.follows_then (enter_runs hbase1 (by decide) (fun _ => hunpersisted)
    fun next2 hstate2 _ hbase2 => ?_)
  refine Prog.follows_then (settled_runs (fun _ => hunpersisted) fun decisionId _ => ?_)
  refine Prog.follows_then (settled_runs (fun _ => hunpersisted) fun _ _ => ?_)
  have hphase2 := hbase2.state.trans hstate2
  refine Prog.follows_attempt (Prog.follows_ask ⟨hphase2, hunpersisted, hlog⟩
    (fun _ => hfailed hbase2 ⟨rfl, rfl, rfl, rfl⟩) fun planned => settled_runs
      (fun _ => hfailed hbase2 ⟨rfl, rfl, rfl, rfl⟩) fun outcome _ => ?_)
  dsimp only
  split
  · refine Prog.follows_then (settled_runs (fun _ => hunpersisted) fun reference _ => ?_)
    exact hfailed hbase2 ⟨rfl, rfl, rfl, rfl⟩
  · exact Prog.follows_ret ⟨hbase2, ⟨rfl, rfl, rfl, rfl⟩, Or.inr ⟨hstate2, hlog⟩⟩

/-! ## The execution -/

/-- The current iteration has a mutation that succeeded and a verification of it that passed. -/
def Achieved (log : Log) : Prop :=
  ∃ receipt request verification, log.receipt = some receipt ∧
    log.verification = some (request, verification) ∧ request.receipt = receipt ∧
    MutationSucceeded receipt ∧ verification.status = .passed

/-- What a result tells about the run that it is the result of. -/
structure Truthful (audited : Bool) (log : Log) (result : GovernedExecutionResult) : Prop where
  ledger : log.ledger = recordsOf result.context
  artifacts : log.artifacts = result.iterationArtifacts
  persisted : log.persisted = if audited then [result] else []
  completed : result.context.state = .completed ↔ Achieved log

theorem executionResult_parts {result : GovernedExecutionResult}
    (h : executionResult context artifacts = .ok result) :
    result.context = context ∧ result.iterationArtifacts = artifacts := by
  unfold executionResult at h
  simp only [except_bind_eq_ok, exists_ensure] at h
  obtain ⟨_, _, h⟩ := h
  obtain rfl := Except.ok.inj h
  exact ⟨rfl, rfl⟩

theorem terminalResult_runs {audited : Bool} (hbase : Base log context)
    (hgathered : log.artifacts = artifacts)
    (hcompleted : context.state = .completed ↔ Achieved log) :
    Runs interpreter (Ends (Truthful audited)) log (terminalResult audited context artifacts) := by
  refine Prog.follows_then (settled_runs (fun _ => hbase.unpersisted) fun result hresult => ?_)
  obtain ⟨hcontext, hartifacts⟩ := executionResult_parts (except_mapError_eq_ok.mp hresult)
  rw [← hcontext] at hbase hcompleted
  rw [← hartifacts] at hgathered
  cases audited with
  | false => exact Truthful.mk hbase.ledger hgathered hbase.unpersisted hcompleted
  | true =>
      show Runs interpreter _ log (Prog.attempt (Prog.ask (.record result)) >>= _)
      refine Prog.follows_attempt ⟨⟨hbase.state, hbase.unpersisted, hbase.ledger⟩, fun reply => ?_⟩
      cases reply with
      | error raised => exact Prog.follows_ret hbase.unpersisted
      | ok _ =>
          exact Prog.follows_ret (Truthful.mk hbase.ledger hgathered
            (congrArg (· ++ [result]) hbase.unpersisted) hcompleted)

theorem asserted_runs {o : Option α} {a : α} {R : Log → Except Raised α → Prop} (h : o = some a)
    (hok : R log (.ok a)) : Runs interpreter R log (asserted o) := by
  rw [h]
  exact hok

/-- A failure that is not of the verification is no success. -/
theorem failed_iff_achieved {state : GovernedExecutionState} (hstate : state = .failed)
    (h : ¬Achieved log) : state = .completed ↔ Achieved log := by
  refine iff_of_false ?_ h
  rw [hstate]
  decide

/-- Whether the verified mutation of an iteration is a success. -/
theorem Verified.achieved_iff (h : Verified log context receipt verification) :
    Achieved log ↔ MutationSucceeded receipt ∧ verification.status = .passed := by
  obtain ⟨request, hverification, hrequest⟩ := h.verified
  constructor
  · rintro ⟨receipt', request', verification', hreceipt', hverification', -, hsucceeded, hpassed⟩
    obtain rfl := Option.some.inj (h.answered.symm.trans hreceipt')
    obtain ⟨-, rfl⟩ := Prod.mk.inj (Option.some.inj (hverification.symm.trans hverification'))
    exact ⟨hsucceeded, hpassed⟩
  · rintro ⟨hsucceeded, hpassed⟩
    exact ⟨receipt, request, verification, h.answered, hverification, hrequest, hsucceeded,
      hpassed⟩

/-- The answers decide whether there is a success. -/
theorem Same.achieved {log log' : Log} (h : Same log log') : Achieved log' ↔ Achieved log := by
  unfold Achieved
  rw [h.receipt, h.verification]

/-- **One turn of the loop.** It ends the execution, or leaves one write, of the authority that
    the next turn starts with. -/
theorem turn_runs {audited : Bool} {iteration : Nat} {rest : List Nat} {loop : LoopState}
    (hbase : Base log loop.context)
    (hbegins : Begins log iteration)
    (hwritten : log.written = writtenUnder loop.previousAuthority)
    (hgathered : log.artifacts = loop.artifacts)
    (hrest : iteration ≠ 2 → loop.previousAuthority = none ∧
      ∀ log' loop', Base log' loop'.context → Recoverable log' →
        log'.written = writtenUnder loop'.previousAuthority → log'.artifacts = loop'.artifacts →
        Runs interpreter (Ends (Truthful audited)) log'
          (executeFrom interpreter audited request rest loop')) :
    Runs interpreter (Ends (Truthful audited)) log
      (executeFrom interpreter audited request (iteration :: rest) loop) := by
  refine runs_next (executeIteration_runs hbase hbegins hwritten) fun log1 out hout => ?_
  rw [hgathered] at hout
  cases hout with
  | failed base failed unverified gathered =>
      dsimp only
      rw [if_pos (show _ = true by rw [failed]; rfl)]
      refine terminalResult_runs base gathered (failed_iff_achieved failed ?_)
      rintro ⟨_, _, _, _, hverification, -⟩
      rw [unverified] at hverification
      cases hverification
  | @verified context state result proposal receipt authority verification verified hresult
      hproposal hreceipt hauthority hverification written gathered =>
      have hunpersisted := verified.base.unpersisted
      dsimp only
      rw [if_neg (show ¬_ = true by rw [verified.verifying]; decide)]
      refine Prog.follows_then (asserted_runs rfl ?_)
      refine Prog.follows_then (asserted_runs hresult ?_)
      refine Prog.follows_then (asserted_runs hreceipt ?_)
      refine Prog.follows_then (asserted_runs hproposal ?_)
      refine Prog.follows_then (asserted_runs hverification ?_)
      refine Prog.follows_then (settled_runs (fun _ => hunpersisted) fun objective hobjective => ?_)
      have hsatisfied : objective.status = .satisfied ↔ Achieved log1 := by
        rw [verified.achieved_iff]
        exact (assessObjective_satisfied (except_mapError_eq_ok.mp hobjective)).2
      -- what is said of the second iteration is checked, and leaves the log as it is
      have hvalidated : ∀ {x : Program GovernedExecutionResult},
          Runs interpreter (Ends (Truthful audited)) log1 x →
          Runs interpreter (Ends (Truthful audited)) log1
            (settled (validateCompleteIteration loop.replanningInput state) >>= fun _ => x) :=
        fun hx => Prog.follows_then (settled_runs (fun _ => hunpersisted) fun _ _ => hx)
      dsimp only [Prog.Continues]
      split
      · rename_i hstatus
        have hcomplete : Runs interpreter (Ends (Truthful audited)) log1
            (transition context .completed [verification.evidenceRef] (some .success)
              >>= fun next => terminalResult audited next
                (loop.artifacts ++ [state.bundle.artifact])) := by
          refine Prog.follows_then (enter_runs verified.base (by decide) (fun _ => hunpersisted)
            fun next hstate _ hnext => ?_)
          exact terminalResult_runs hnext gathered (iff_of_true hstate (hsatisfied.mp hstatus))
        split
        · exact hvalidated hcomplete
        · exact hcomplete
      · rename_i hstatus
        have hunachieved : ¬Achieved log1 := fun h => hstatus (hsatisfied.mpr h)
        split
        · refine hvalidated (Prog.follows_then (enter_runs verified.base (by decide)
            (fun _ => hunpersisted) fun next hstate _ hnext => ?_))
          exact terminalResult_runs hnext gathered (failed_iff_achieved hstate hunachieved)
        · rename_i hiteration
          obtain ⟨hfirst, hcontinue⟩ := hrest hiteration
          obtain ⟨verifying, hverified, hown⟩ := verified.verified
          refine runs_next (recover_runs verified.base fun hfailed => ⟨receipt, verifying,
            verification, verified.answered, hverified, hown, verified.completed, hfailed⟩)
            fun log2 out hout => ?_
          obtain ⟨hbase2, hsame, hstate⟩ := hout
          have hgathered2 := hsame.artifacts.trans gathered
          rcases hstate with hstate | ⟨hstate, hrecoverable⟩
          · rw [if_pos (show _ = true by rw [hstate]; rfl)]
            exact terminalResult_runs hbase2 hgathered2
              (failed_iff_achieved hstate fun h => hunachieved (hsame.achieved.mp h))
          · rw [if_neg (show ¬_ = true by rw [hstate]; decide), hauthority]
            refine hcontinue log2 _ hbase2 hrecoverable ?_ hgathered2
            rw [hsame.written, written, hfirst]
            rfl

/-- No execution takes a third turn. -/
theorem executeFrom_runs {audited : Bool} (hbase : Base log context) (hwritten : log.written = [])
    (hgathered : log.artifacts = []) :
    Runs interpreter (Ends (Truthful audited)) log
      (executeFrom interpreter audited request [1, 2] ⟨context, [], none, none⟩) := by
  refine turn_runs hbase (Or.inl ⟨rfl, hwritten⟩) hwritten hgathered fun _ =>
    ⟨rfl, fun log' loop' hbase' hrecoverable hwritten' hgathered' => ?_⟩
  exact turn_runs hbase' (Or.inr ⟨rfl, hrecoverable⟩) hwritten' hgathered' fun h => absurd rfl h

theorem execute_runs (audited : Bool) (request : GovernedExecutionRequest) :
    Runs interpreter (Ends (Truthful audited)) {} (execute interpreter audited request) := by
  have hloop : Runs interpreter (Ends (Truthful audited)) {}
      (settled ((GovernedExecutionContext.construct (startFields request)).mapError .value)
        >>= fun context => executeFrom interpreter audited request [1, 2]
          ⟨context, [], none, none⟩) := by
    refine Prog.follows_then (settled_runs (fun _ => rfl) fun context hcontext => ?_)
    have hfields := (GovernedExecutionContext.construct_eq_ok _ _).mp
      (except_mapError_eq_ok.mp hcontext)
    refine executeFrom_runs ⟨?_, ?_, rfl⟩ rfl rfl
    · rw [recordsOf, ← hfields]
      rfl
    · rw [← hfields]
      exact request.budget_two
  cases audited with
  | false => exact hloop
  | true =>
      show Runs interpreter _ _ (Prog.attempt (Prog.ask (.preflight request.workspaceRoot)) >>= _)
      refine Prog.follows_attempt ⟨⟨rfl, rfl, trivial⟩, fun reply => ?_⟩
      cases reply with
      | error raised => exact Prog.follows_ret rfl
      | ok _ => exact hloop

end

/-- **Every execution keeps its order.** Each collaborator is asked in the state of the ledger
    that it belongs to, about the answers of its own iteration, and before anything is persisted.
    A write is the first or the second of the execution, it has been validated and authorized,
    the last record of the ledger is its own, and the second has no identity of the first. -/
theorem execute_guarded (interpreter : Interpreter) (audited : Bool)
    (request : GovernedExecutionRequest) :
    (execute interpreter audited request).run.Meets
      (fun mine step => Guarded interpreter (Log.of interpreter mine) step.1)
      (fun _ _ => True) [] :=
  (execute_runs audited request).meets (fun _ _ h => h) fun _ _ _ => trivial

/-- **Every result is true.** Its ledger is what was accepted, its artifacts are those of the
    contexts that a request was made for, it is `COMPLETED` exactly when the last iteration
    succeeded and was verified, and it alone is persisted, by an audited execution; an execution
    that raises persists nothing. -/
theorem execute_truthful (interpreter : Interpreter) (audited : Bool)
    (request : GovernedExecutionRequest) :
    (execute interpreter audited request).run.Meets (fun _ _ => True)
      (fun later outcome =>
        (∀ result, outcome = .ok result → Truthful audited (Log.of interpreter later) result) ∧
        ∀ raised, outcome = .error raised → (Log.of interpreter later).persisted = []) [] := by
  refine (execute_runs audited request).meets (fun _ _ _ => trivial) fun later outcome hends => ?_
  cases outcome with
  | error raised =>
      refine ⟨fun result h => ?_, fun _ _ => hends⟩
      cases h
  | ok result =>
      refine ⟨fun result' h => ?_, fun raised h => ?_⟩
      · obtain rfl := Except.ok.inj h
        exact hends
      · cases h

end Eag.GovernedRuntime
