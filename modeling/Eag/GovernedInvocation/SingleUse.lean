/-
  Eag.GovernedInvocation.SingleUse

  The single-dispatch bridge from a consumed session permit to a supplied runtime
  (`governed_invocation/invoker.py` and `models.py`), and runs of `create_session`,
  `consume_for_runtime_start` and `invoke` calls over one shared ledger, in any
  interleaving and with any ledger failures.

  The code of one call fixes the order of its own operations (`invoke_path`); the
  ledger fixes that a path is claimed once and that a record that is read was claimed
  before (`LedgerHistory`).
-/

import Eag.GovernedSession.Gate
import Eag.GovernedSession.History

namespace Eag.GovernedInvocation

open Eag.Foundation Eag.GovernedActivation Eag.GovernedRuntime Eag.GovernedSession

/-- Typed refusal reasons evaluated before the supplied runtime is called. -/
inductive InvocationRejectionReason where
  | missingSession
  | executionIdMismatch
  | runIdMismatch
  | runtimeBindingMismatch
  | invalidRuntimeExecutor
  deriving DecidableEq, Repr

/-- Exact bindings required for one controlled dispatch. The executor itself is
    reached through the dispatch operation. -/
structure ControlledRuntimeInvocationRequest where
  session : Option ControlledRuntimeSession
  inputs : SessionInputs
  boundRuntimeId : String
  boundRuntimeId_nonBlank : NonBlank boundRuntimeId

/-- Result of one attempted invocation; only a refusal carries a reason, only a
    dispatched one a result or the type of the failure. A refusal by the session
    gate that states no reason reads `session_refused`. -/
inductive ControlledRuntimeInvocationResult where
  | runtimeInvoked (sessionId executionId runId : String) (result : GovernedExecutionResult)
  | sessionRefused (sessionId : Option String) (executionId runId : String)
      (reason : InvocationRejectionReason ⊕ Option SessionRejectionReason)
  | runtimeFailedAfterConsumption (sessionId executionId runId failureType : String)

/-- The supplied runtime was called. -/
def ControlledRuntimeInvocationResult.dispatched : ControlledRuntimeInvocationResult → Bool
  | .sessionRefused .. => false
  | _ => true

/-- `_pre_dispatch_rejection`: the refusal, or the session it found. -/
def preDispatchRejection (request : ControlledRuntimeInvocationRequest) :
    Except InvocationRejectionReason ControlledRuntimeSession := do
  let some session := request.session | .error .missingSession
  require (session.executionId = request.inputs.runtimeRequest.executionId)
    .executionIdMismatch
  require (session.runId = request.inputs.runtimeRequest.runId) .runIdMismatch
  let some availability := request.inputs.runtimeAvailability | .error .runtimeBindingMismatch
  require (availability.runtimeId = session.runtimeId) .runtimeBindingMismatch
  require (request.boundRuntimeId = session.runtimeId) .runtimeBindingMismatch
  .ok session

/-- `_refused`. -/
def refused (request : ControlledRuntimeInvocationRequest)
    (reason : InvocationRejectionReason ⊕ Option SessionRejectionReason) :
    ControlledRuntimeInvocationResult :=
  .sessionRefused (request.session.map (·.sessionId))
    ((request.session.map (·.executionId)).getD request.inputs.runtimeRequest.executionId)
    ((request.session.map (·.runId)).getD request.inputs.runtimeRequest.runId) reason

/-- What `invoke` does with the decision of the session gate. -/
def afterConsumption (request : ControlledRuntimeInvocationRequest)
    (session : ControlledRuntimeSession) :
    ControlledSessionDecision → SessionProg ControlledRuntimeInvocationResult
  | .runtimeStartAllowed _ _ _ => do
      match ← dispatch request.inputs.runtimeRequest with
      | .ok result =>
          .ret (.runtimeInvoked session.sessionId session.executionId session.runId result)
      | .error failureType =>
          .ret (.runtimeFailedAfterConsumption session.sessionId session.executionId
            session.runId failureType)
  | .sessionCreated _ _ _ => .ret (refused request (.inr none))
  | .rejected reason => .ret (refused request (.inr (some reason)))

/-- `ControlledRuntimeInvoker.invoke`, by an invoker whose gate's ledger has this
    control root. -/
def invoke (controlRoot : ResolvedPath) (request : ControlledRuntimeInvocationRequest) :
    SessionProg ControlledRuntimeInvocationResult :=
  match preDispatchRejection request with
  | .error reason => .ret (refused request (.inl reason))
  | .ok session =>
      consumeForRuntimeStart ⟨controlRoot, session, request.inputs⟩ >>=
        afterConsumption request session

theorem preDispatchRejection_eq_ok {request : ControlledRuntimeInvocationRequest}
    {session : ControlledRuntimeSession} (h : preDispatchRejection request = .ok session) :
    request.session = some session := by
  unfold preDispatchRejection at h
  cases hs : request.session with
  | none => simp [hs] at h
  | some s =>
      simp only [hs, except_bind_eq_ok, require_eq_ok, exists_const] at h
      obtain ⟨-, -, h⟩ := h
      cases ha : request.inputs.runtimeAvailability with
      | none => simp [ha] at h
      | some availability =>
          simp only [ha, except_bind_eq_ok, require_eq_ok, exists_const] at h
          obtain ⟨-, -, h⟩ := h
          rw [Except.ok.inj h]

/-! ## Calls -/

/-- A call by some gate or invoker. -/
inductive RuntimeStartCall where
  | create (call : CreateSessionCall)
  | consume (call : ConsumeCall)
  | invoke (controlRoot : ResolvedPath) (request : ControlledRuntimeInvocationRequest)

/-- What a call returns. -/
inductive CallResult where
  | admission (admission : ControlledSessionAdmission)
  | decision (decision : ControlledSessionDecision)
  | invocation (result : ControlledRuntimeInvocationResult)

/-- The program of a call. -/
def RuntimeStartCall.program : RuntimeStartCall → SessionProg CallResult
  | .create call => createSession call >>= fun a => .ret (.admission a)
  | .consume call => consumeForRuntimeStart call >>= fun d => .ret (.decision d)
  | .invoke controlRoot request =>
      GovernedInvocation.invoke controlRoot request >>= fun r => .ret (.invocation r)

/-- The call issues or presents this session. -/
def RuntimeStartCall.Concerns (session : ControlledRuntimeSession) : RuntimeStartCall → Prop
  | .create call => ∃ binding, call.precheck = .ok binding ∧ call.session binding = session
  | .consume call => call.session = session
  | .invoke _ request => request.session = some session

/-- The entry is a dispatch to the runtime. -/
def isDispatch : LedgerEntry → Bool
  | ⟨.execute _, _⟩ => true
  | _ => false

/-! ## The operations of one call -/

/-- The operations of a `create_session` call: none, the activation claim, or
    both claims after the first was answered `CLAIMED`; a session is returned
    only after both were. -/
theorem createSession_path {call : CreateSessionCall} {h : List LedgerEntry}
    {q : SessionProg ControlledSessionAdmission} (p : (createSession call).Path h q) :
    (h = [] ∧ ∀ s, q ≠ .ret (.created s)) ∨
    ∃ binding, call.precheck = .ok binding ∧
      ((∃ reply, h = [claimEntry (activationRecordFor binding.receipt) reply] ∧
          ∀ s, q ≠ .ret (.created s)) ∨
        ∃ reply, h = [claimEntry (activationRecordFor binding.receipt) (.ok .claimed),
            claimEntry (issuedRecordFor (call.session binding)) reply] ∧
          ∀ s, q = .ret (.created s) → s = call.session binding ∧ reply = .ok .claimed) := by
  unfold createSession at p
  cases ha : call.precheck with
  | error reason =>
      simp only [ha] at p
      obtain ⟨rfl, rfl⟩ := Prog.path_ret p
      exact Or.inl ⟨rfl, by simp⟩
  | ok binding =>
      simp only [ha, ledgerClaim_bind] at p
      rcases Prog.path_call p with ⟨rfl, rfl⟩ | ⟨reply, rest, rfl, hrest⟩
      · exact Or.inl ⟨rfl, by simp⟩
      refine Or.inr ⟨binding, rfl, ?_⟩
      match reply, hrest with
      | .error failure, hrest =>
          obtain ⟨rfl, rfl⟩ := Prog.path_ret hrest
          exact Or.inl ⟨_, rfl, by simp⟩
      | .ok (.alreadyClaimed existing), hrest =>
          obtain ⟨rfl, rfl⟩ := Prog.path_ret hrest
          exact Or.inl ⟨_, rfl, by simp⟩
      | .ok (.conflict existing), hrest =>
          obtain ⟨rfl, rfl⟩ := Prog.path_ret hrest
          exact Or.inl ⟨_, rfl, by simp⟩
      | .ok .claimed, hrest =>
          rcases Prog.path_call hrest with ⟨rfl, rfl⟩ | ⟨second, rest, rfl, hnext⟩
          · exact Or.inl ⟨_, rfl, by simp⟩
          refine Or.inr ⟨second, ?_⟩
          match second, hnext with
          | .error failure, hnext =>
              obtain ⟨rfl, rfl⟩ := Prog.path_ret hnext
              exact ⟨rfl, by simp⟩
          | .ok (.alreadyClaimed existing), hnext =>
              obtain ⟨rfl, rfl⟩ := Prog.path_ret hnext
              exact ⟨rfl, by simp⟩
          | .ok (.conflict existing), hnext =>
              obtain ⟨rfl, rfl⟩ := Prog.path_ret hnext
              exact ⟨rfl, by simp⟩
          | .ok .claimed, hnext =>
              obtain ⟨rfl, rfl⟩ := Prog.path_ret hnext
              exact ⟨rfl, by rintro s ⟨⟩; exact ⟨rfl, rfl⟩⟩

/-- The read of a session's issue record, with its answer. -/
def issueReadEntry (session : ControlledRuntimeSession)
    (reply : Except WriteOnce.Failure (Option DurableReplayLedgerRecord)) : LedgerEntry :=
  readEntry .sessionIssued session.sessionId reply

/-- A consumption that has not allowed a start, and does not dispatch itself. -/
def Unallowed (q : SessionProg ControlledSessionDecision) : Prop :=
  (∀ s e r, q ≠ .ret (.runtimeStartAllowed s e r)) ∧
    ∀ request next, q ≠ .call (.execute request) next

/-- The operations of a `consume_for_runtime_start` call: none, the read of the
    issue record, or the consumption claim after the read returned exactly that
    record; a start is allowed only after the claim was answered `CLAIMED`. -/
theorem consume_path {call : ConsumeCall} {h : List LedgerEntry}
    {q : SessionProg ControlledSessionDecision} (p : (consumeForRuntimeStart call).Path h q) :
    (h = [] ∧ Unallowed q) ∨
    (∃ reply, h = [issueReadEntry call.session reply] ∧ Unallowed q) ∨
    ∃ reply, h = [issueReadEntry call.session (.ok (some (issuedRecordFor call.session))),
        claimEntry (consumedRecordFor call.session) reply] ∧
      (Unallowed q ∨ reply = .ok .claimed ∧
        ∃ e r, q = .ret (.runtimeStartAllowed call.session.sessionId e r)) := by
  unfold consumeForRuntimeStart at p
  cases ha : call.precheck with
  | error reason =>
      simp only [ha] at p
      obtain ⟨rfl, rfl⟩ := Prog.path_ret p
      exact Or.inl ⟨rfl, by simp [Unallowed]⟩
  | ok u =>
      simp only [ha, ledgerRead_bind, ledgerClaim_bind] at p
      rcases Prog.path_call p with ⟨rfl, rfl⟩ | ⟨reply, rest, rfl, hrest⟩
      · exact Or.inl ⟨rfl, by simp [Unallowed]⟩
      refine Or.inr ?_
      match reply, hrest with
      | .error failure, hrest =>
          obtain ⟨rfl, rfl⟩ := Prog.path_ret hrest
          exact Or.inl ⟨_, rfl, by simp [Unallowed]⟩
      | .ok none, hrest =>
          obtain ⟨rfl, rfl⟩ := Prog.path_ret hrest
          exact Or.inl ⟨_, rfl, by simp [Unallowed]⟩
      | .ok (some stored), hrest =>
          by_cases hstored : stored = issuedRecordFor call.session
          · subst hstored
            simp only [ne_eq, not_true_eq_false, if_false] at hrest
            rcases Prog.path_call hrest with ⟨rfl, rfl⟩ | ⟨second, rest, rfl, hnext⟩
            · exact Or.inl ⟨_, rfl, by simp [Unallowed]⟩
            refine Or.inr ⟨second, ?_⟩
            match second, hnext with
            | .error failure, hnext =>
                obtain ⟨rfl, rfl⟩ := Prog.path_ret hnext
                exact ⟨rfl, Or.inl (by simp [Unallowed])⟩
            | .ok (.alreadyClaimed existing), hnext =>
                obtain ⟨rfl, rfl⟩ := Prog.path_ret hnext
                exact ⟨rfl, Or.inl (by simp [Unallowed])⟩
            | .ok (.conflict existing), hnext =>
                obtain ⟨rfl, rfl⟩ := Prog.path_ret hnext
                exact ⟨rfl, Or.inl (by simp [Unallowed])⟩
            | .ok .claimed, hnext =>
                obtain ⟨rfl, rfl⟩ := Prog.path_ret hnext
                exact ⟨rfl, Or.inr ⟨rfl, _, _, rfl⟩⟩
          · simp only [ne_eq, hstored, not_false_eq_true, if_true] at hrest
            obtain ⟨rfl, rfl⟩ := Prog.path_ret hrest
            exact Or.inl ⟨_, rfl, by simp [Unallowed]⟩

/-- An invocation has reached its dispatch: it is about to call the runtime, or
    has returned from it. -/
def Dispatching (q : SessionProg ControlledRuntimeInvocationResult) : Prop :=
  (∃ request next, q = .call (.execute request) next) ∨ ∃ r, q = .ret r ∧ r.dispatched = true

theorem not_dispatching_refused (request : ControlledRuntimeInvocationRequest)
    (reason : InvocationRejectionReason ⊕ Option SessionRejectionReason) :
    ¬ Dispatching (.ret (refused request reason)) := by
  rintro (⟨_, _, h⟩ | ⟨r, h, hd⟩)
  · cases h
  · cases h; cases hd

/-- An invocation whose consumption has not allowed a start does not dispatch. -/
theorem Unallowed.not_dispatching {q : SessionProg ControlledSessionDecision}
    (h : Unallowed q) (request : ControlledRuntimeInvocationRequest)
    (session : ControlledRuntimeSession) :
    ¬ Dispatching (q >>= afterConsumption request session) := by
  intro hd
  cases q with
  | ret d =>
      cases d with
      | runtimeStartAllowed s e r => exact h.1 s e r rfl
      | sessionCreated s e r => exact not_dispatching_refused _ _ hd
      | rejected reason => exact not_dispatching_refused _ _ hd
  | call op next =>
      rcases hd with ⟨_, _, hq⟩ | ⟨_, hq, _⟩
      · cases hq; exact h.2 _ _ rfl
      · cases hq

/-- The operations of an `invoke` call: those of its consumption, and one
    dispatch after the consumption claim was answered `CLAIMED`. -/
theorem invoke_path {controlRoot : ResolvedPath}
    {request : ControlledRuntimeInvocationRequest} {h : List LedgerEntry}
    {q : SessionProg ControlledRuntimeInvocationResult}
    (p : (invoke controlRoot request).Path h q) :
    (h = [] ∧ ¬ Dispatching q) ∨
    ∃ session, request.session = some session ∧
      ((∃ reply, h = [issueReadEntry session reply] ∧ ¬ Dispatching q) ∨
        ∃ reply rest, h = issueReadEntry session (.ok (some (issuedRecordFor session))) ::
            claimEntry (consumedRecordFor session) reply :: rest ∧
          (Dispatching q ∨ rest ≠ [] → reply = .ok .claimed) ∧
          (rest = [] ∨ ∃ answer, rest = [⟨.execute request.inputs.runtimeRequest, answer⟩])) := by
  unfold invoke at p
  cases hp : preDispatchRejection request with
  | error reason =>
      simp only [hp] at p
      obtain ⟨rfl, rfl⟩ := Prog.path_ret p
      exact Or.inl ⟨rfl, not_dispatching_refused _ _⟩
  | ok session =>
      simp only [hp] at p
      have hsession := preDispatchRejection_eq_ok hp
      rcases p.bind_cases with ⟨q', hq', rfl⟩ | ⟨h1, h2, decision, rfl, hconsume, hrest⟩
      · -- inside the consumption, or just after its last operation
        rcases consume_path hq' with ⟨rfl, hun⟩ | ⟨reply, rfl, hun⟩ | ⟨reply, rfl, hcase⟩
        · exact Or.inl ⟨rfl, hun.not_dispatching request session⟩
        · exact Or.inr ⟨session, hsession,
            Or.inl ⟨reply, rfl, hun.not_dispatching request session⟩⟩
        · refine Or.inr ⟨session, hsession, Or.inr ⟨reply, [], rfl, ?_, Or.inl rfl⟩⟩
          rintro (hd | hne)
          · rcases hcase with hun | ⟨hr, -⟩
            · exact absurd hd (hun.not_dispatching request session)
            · exact hr
          · exact absurd rfl hne
      · -- the consumption has returned its decision
        have hrefused : Unallowed (.ret decision) → h2 = [] ∧ ¬ Dispatching q := by
          intro hun
          cases decision with
          | runtimeStartAllowed s e r => exact absurd rfl (hun.1 s e r)
          | sessionCreated s e r =>
              obtain ⟨rfl, rfl⟩ := Prog.path_ret hrest
              exact ⟨rfl, not_dispatching_refused _ _⟩
          | rejected reason =>
              obtain ⟨rfl, rfl⟩ := Prog.path_ret hrest
              exact ⟨rfl, not_dispatching_refused _ _⟩
        rcases consume_path hconsume with ⟨rfl, hun⟩ | ⟨reply, rfl, hun⟩ | ⟨reply, rfl, hcase⟩
        · obtain ⟨rfl, hnd⟩ := hrefused hun
          exact Or.inl ⟨rfl, hnd⟩
        · obtain ⟨rfl, hnd⟩ := hrefused hun
          exact Or.inr ⟨session, hsession, Or.inl ⟨reply, rfl, hnd⟩⟩
        · refine Or.inr ⟨session, hsession, Or.inr ⟨reply, h2, rfl, ?_, ?_⟩⟩
          · rcases hcase with hun | ⟨hr, -⟩
            · obtain ⟨rfl, hnd⟩ := hrefused hun
              rintro (hd | hne)
              · exact absurd hd hnd
              · exact absurd rfl hne
            · exact fun _ => hr
          · rcases hcase with hun | ⟨-, e, r, hdecision⟩
            · exact Or.inl (hrefused hun).1
            · cases hdecision
              simp only [afterConsumption, dispatch_bind] at hrest
              rcases Prog.path_call hrest with ⟨rfl, -⟩ | ⟨answer, rest, rfl, hdone⟩
              · exact Or.inl rfl
              · refine Or.inr ⟨answer, ?_⟩
                cases answer with
                | ok result => rw [(Prog.path_ret hdone).1]
                | error failureType => rw [(Prog.path_ret hdone).1]

/-! ## Runs -/

section Run

variable {ι : Type} [DecidableEq ι] (calls : ι → RuntimeStartCall)
  (schedule : List (ι × SessionEnv))

/-- The configuration after a run of the calls from an empty ledger. -/
def outcome : Config ι ReplayLedger SessionOp SessionOp.Reply CallResult :=
  (Config.start (fun _ => none) fun i => (calls i).program).run performOp schedule

/-- Call `i` returned `SESSION_CREATED` with this session. -/
def Created (i : ι) (session : ControlledRuntimeSession) : Prop :=
  (outcome calls schedule).progs i = .ret (.admission (.created session))

/-- Call `i` was allowed to start the runtime for `session`: a consumption
    returned `RUNTIME_START_ALLOWED`, or an invocation went on to its dispatch. -/
def StartAllowed (i : ι) (session : ControlledRuntimeSession) : Prop :=
  match calls i with
  | .create _ => False
  | .consume call => call.session = session ∧
      ∃ s e r, (outcome calls schedule).progs i =
        .ret (.decision (.runtimeStartAllowed s e r))
  | .invoke _ request => request.session = some session ∧
      ((∃ r next, (outcome calls schedule).progs i = .call (.execute r) next) ∨
        ∃ result, (outcome calls schedule).progs i = .ret (.invocation result) ∧
          result.dispatched = true)

/-- Some call had claimed its activation and written the issue record of
    `session` by then. -/
def Issued (before : List (ι × LedgerEntry)) (session : ControlledRuntimeSession) : Prop :=
  ∃ j call binding, calls j = .create call ∧ call.precheck = .ok binding ∧
    call.session binding = session ∧
    (j, claimEntry (activationRecordFor binding.receipt) (.ok .claimed)) ∈ before ∧
    ∃ reply, (j, claimEntry (issuedRecordFor session) reply) ∈ before ∧
      (reply = .ok .claimed ∨ reply = .error .unavailable)

/-- The entry is a dispatch by a call that presents the session `sessionId`. -/
def dispatches (sessionId : String) (e : ι × LedgerEntry) : Bool :=
  match calls e.1 with
  | .invoke _ request =>
      request.session.map (·.sessionId) = some sessionId && isDispatch e.2
  | _ => false

/-- How often the runtime was called for a session. -/
def dispatchCount (sessionId : String) : Nat :=
  (outcome calls schedule).history.countP (dispatches calls sessionId)

/-! ## One call in a run -/

theorem path_outcome (i : ι) :
    (calls i).program.Path (projection i (outcome calls schedule).history)
      ((outcome calls schedule).progs i) :=
  Config.path_run performOp (fun _ => none) (fun i => (calls i).program) schedule i

theorem ledgerHistory_outcome :
    LedgerHistory (outcome calls schedule).shared (outcome calls schedule).history :=
  ledgerHistory_run _ schedule

variable {calls schedule}

/-- A call that returned `SESSION_CREATED` is a `create_session` call, and its own
    operations are a path of it to that answer. -/
theorem Created.path {i : ι} {session : ControlledRuntimeSession}
    (h : Created calls schedule i session) :
    ∃ call, calls i = .create call ∧
      (createSession call).Path (projection i (outcome calls schedule).history)
        (.ret (.created session)) := by
  have p := path_outcome calls schedule i
  unfold Created at h
  rw [h] at p
  cases hc : calls i with
  | create call =>
      rw [hc] at p
      obtain ⟨q, hq, he⟩ := p.of_map
      obtain ⟨a, rfl, ha⟩ := Prog.map_eq_ret he.symm
      cases ha
      exact ⟨call, rfl, hq⟩
  | consume call =>
      rw [hc] at p
      obtain ⟨q, -, he⟩ := p.of_map
      obtain ⟨d, -, hd⟩ := Prog.map_eq_ret he.symm
      cases hd
  | invoke controlRoot request =>
      rw [hc] at p
      obtain ⟨q, -, he⟩ := p.of_map
      obtain ⟨d, -, hd⟩ := Prog.map_eq_ret he.symm
      cases hd

/-- The operations of a `consume_for_runtime_start` call that returned are a path
    of it to its decision. -/
theorem path_of_decision {i : ι} {call : ConsumeCall} {decision : ControlledSessionDecision}
    (hc : calls i = .consume call)
    (h : (outcome calls schedule).progs i = .ret (.decision decision)) :
    (consumeForRuntimeStart call).Path (projection i (outcome calls schedule).history)
      (.ret decision) := by
  have p := path_outcome calls schedule i
  rw [h, hc] at p
  obtain ⟨q, hq, he⟩ := p.of_map
  obtain ⟨d, rfl, hd⟩ := Prog.map_eq_ret he.symm
  cases hd
  exact hq

/-- A call that returned `SESSION_CREATED` had both its claims answered `CLAIMED`. -/
theorem Created.claims {i : ι} {session : ControlledRuntimeSession}
    (h : Created calls schedule i session) :
    ∃ receipt : GovernedActivationReceipt,
      receipt.decision.activationId = session.activationId ∧
      (i, claimEntry (activationRecordFor receipt) (.ok .claimed)) ∈
        (outcome calls schedule).history := by
  obtain ⟨call, -, hq⟩ := h.path
  rcases createSession_path hq with ⟨-, hn⟩ | ⟨binding, -, ⟨_, -, hn⟩ | ⟨reply, hops, hs⟩⟩
  · exact absurd rfl (hn session)
  · exact absurd rfl (hn session)
  · obtain ⟨rfl, -⟩ := hs session rfl
    refine ⟨binding.receipt, rfl, mem_projection.mp ?_⟩
    rw [hops]
    simp

/-- A call that was allowed to start had its consumption claim answered `CLAIMED`. -/
theorem StartAllowed.claim {i : ι} {session : ControlledRuntimeSession}
    (h : StartAllowed calls schedule i session) :
    (i, claimEntry (consumedRecordFor session) (.ok .claimed)) ∈
      (outcome calls schedule).history := by
  have p := path_outcome calls schedule i
  refine mem_projection.mp ?_
  unfold StartAllowed at h
  cases hc : calls i with
  | create call => rw [hc] at h; cases h
  | consume call =>
      rw [hc] at h p
      obtain ⟨rfl, s, e, r, hret⟩ := h
      rcases consume_path (path_of_decision hc hret) with ⟨-, hn⟩ | ⟨_, -, hn⟩ | ⟨reply, hops, hn | ⟨rfl, -⟩⟩
      · exact absurd rfl (hn.1 s e r)
      · exact absurd rfl (hn.1 s e r)
      · exact absurd rfl (hn.1 s e r)
      · rw [hops]; simp
  | invoke controlRoot request =>
      rw [hc] at h p
      obtain ⟨hsession, hat⟩ := h
      obtain ⟨q, hq, he⟩ := p.of_map
      have hd : Dispatching q := by
        rcases hat with ⟨r, next, hcall⟩ | ⟨result, hret, hdispatched⟩
        · rw [hcall] at he
          cases q with
          | ret a => cases he
          | call op next' => cases he; exact Or.inl ⟨_, _, rfl⟩
        · obtain ⟨a, rfl, ha⟩ := Prog.map_eq_ret (he.symm.trans hret)
          cases ha
          exact Or.inr ⟨_, rfl, hdispatched⟩
      rcases invoke_path hq with ⟨-, hn⟩ | ⟨session', hs, ⟨_, -, hn⟩ | ⟨reply, rest, hops, hr, -⟩⟩
      · exact absurd hd hn
      · exact absurd hd hn
      · rw [hsession] at hs
        cases hs
        rw [hops, hr (Or.inl hd)]
        simp

omit [DecidableEq ι] in
/-- A consumption claim follows a read that returned exactly the issue record of
    the session the call presents. -/
theorem read_of_consumption {call : RuntimeStartCall} {session : ControlledRuntimeSession}
    {h : List LedgerEntry} {reply : Except WriteOnce.Failure ReplayLedgerClaim}
    {q : SessionProg CallResult}
    (p : call.program.Path (h ++ [claimEntry (consumedRecordFor session) reply]) q) :
    ∃ presented, call.Concerns presented ∧
      h = [issueReadEntry presented (.ok (some (issuedRecordFor presented)))] := by
  cases call with
  | create call =>
      obtain ⟨q, hq, -⟩ := p.of_map
      rcases createSession_path hq with ⟨hn, -⟩ | ⟨binding, -, ⟨r, ho, -⟩ | ⟨r, ho, -⟩⟩
      · simp at hn
      · cases congrArg DurableReplayLedgerRecord.entryKind (claimEntry_inj (concat_eq_one ho).2).1
      · cases congrArg DurableReplayLedgerRecord.entryKind (claimEntry_inj (concat_eq_two ho).2).1
  | consume call =>
      obtain ⟨q, hq, -⟩ := p.of_map
      rcases consume_path hq with ⟨hn, -⟩ | ⟨r, ho, -⟩ | ⟨r, ho, -⟩
      · simp at hn
      · cases (concat_eq_one ho).2
      · exact ⟨call.session, rfl, (concat_eq_two ho).1⟩
  | invoke controlRoot request =>
      obtain ⟨q, hq, -⟩ := p.of_map
      rcases invoke_path hq with ⟨hn, -⟩ | ⟨presented, hs, ⟨r, ho, -⟩ | ⟨r, rest, ho, -, hrest⟩⟩
      · simp at hn
      · cases (concat_eq_one ho).2
      · rcases hrest with rfl | ⟨answer, rfl⟩
        · exact ⟨presented, hs, (concat_eq_two ho).1⟩
        · cases (concat_eq_three ho).2

omit [DecidableEq ι] in
/-- An issue claim is the second operation of a `create_session` call whose
    activation claim was answered `CLAIMED`. -/
theorem activation_of_issue {call : RuntimeStartCall} {session : ControlledRuntimeSession}
    {h : List LedgerEntry} {reply : Except WriteOnce.Failure ReplayLedgerClaim}
    {q : SessionProg CallResult}
    (p : call.program.Path (h ++ [claimEntry (issuedRecordFor session) reply]) q) :
    ∃ c binding, call = .create c ∧ c.precheck = .ok binding ∧
      issuedRecordFor session = issuedRecordFor (c.session binding) ∧
      h = [claimEntry (activationRecordFor binding.receipt) (.ok .claimed)] := by
  cases call with
  | create c =>
      obtain ⟨q, hq, -⟩ := p.of_map
      rcases createSession_path hq with ⟨hn, -⟩ | ⟨binding, ha, ⟨r, ho, -⟩ | ⟨r, ho, -⟩⟩
      · simp at hn
      · cases congrArg DurableReplayLedgerRecord.entryKind (claimEntry_inj (concat_eq_one ho).2).1
      · exact ⟨c, binding, rfl, ha, (claimEntry_inj (concat_eq_two ho).2).1, (concat_eq_two ho).1⟩
  | consume call =>
      obtain ⟨q, hq, -⟩ := p.of_map
      rcases consume_path hq with ⟨hn, -⟩ | ⟨r, ho, -⟩ | ⟨r, ho, -⟩
      · simp at hn
      · cases (concat_eq_one ho).2
      · cases congrArg DurableReplayLedgerRecord.entryKind (claimEntry_inj (concat_eq_two ho).2).1
  | invoke controlRoot request =>
      obtain ⟨q, hq, -⟩ := p.of_map
      rcases invoke_path hq with ⟨hn, -⟩ | ⟨presented, hs, ⟨r, ho, -⟩ | ⟨r, rest, ho, -, hrest⟩⟩
      · simp at hn
      · cases (concat_eq_one ho).2
      · rcases hrest with rfl | ⟨answer, rfl⟩
        · cases congrArg DurableReplayLedgerRecord.entryKind
            (claimEntry_inj (concat_eq_two ho).2).1
        · cases (concat_eq_three ho).2

omit [DecidableEq ι] in
/-- An invocation dispatches at most once, and only after its consumption claim
    was answered `CLAIMED`. -/
theorem dispatches_of_invoke {controlRoot : ResolvedPath}
    {request : ControlledRuntimeInvocationRequest} {session : ControlledRuntimeSession}
    (hsession : request.session = some session) {h : List LedgerEntry}
    {q : SessionProg ControlledRuntimeInvocationResult}
    (p : (invoke controlRoot request).Path h q) :
    h.countP isDispatch ≤ 1 ∧ (1 ≤ h.countP isDispatch →
      claimEntry (consumedRecordFor session) (.ok .claimed) ∈ h) := by
  rcases invoke_path p with ⟨rfl, -⟩ | ⟨s, hs, ⟨r, rfl, -⟩ | ⟨r, rest, rfl, hr, hrest⟩⟩
  · simp
  · simp [issueReadEntry, readEntry, isDispatch]
  · rw [hsession] at hs
    cases hs
    rcases hrest with rfl | ⟨answer, rfl⟩
    · simp [issueReadEntry, readEntry, claimEntry, isDispatch]
    · rw [hr (Or.inr (by simp))]
      simp [issueReadEntry, readEntry, claimEntry, isDispatch]

omit [DecidableEq ι] in
theorem dispatches_eq_true {sessionId : String} {i : ι} {e : LedgerEntry}
    (h : dispatches calls sessionId (i, e) = true) :
    ∃ controlRoot request session, calls i = .invoke controlRoot request ∧
      request.session = some session ∧ session.sessionId = sessionId ∧ isDispatch e = true := by
  unfold dispatches at h
  split at h
  · rename_i controlRoot request hc
    simp only [Bool.and_eq_true, decide_eq_true_eq, Option.map_eq_some_iff] at h
    obtain ⟨⟨session, hs, hid⟩, hd⟩ := h
    exact ⟨controlRoot, request, session, hc, hs, hid, hd⟩
  · cases h

/-- A call with a dispatch in the history had its consumption claim answered
    `CLAIMED`, and dispatched once. -/
theorem consumption_of_dispatch {sessionId : String} {i : ι} {e : LedgerEntry}
    (hm : (i, e) ∈ (outcome calls schedule).history)
    (h : dispatches calls sessionId (i, e) = true) :
    ((projection i (outcome calls schedule).history).countP isDispatch ≤ 1) ∧
    ∃ session : ControlledRuntimeSession, session.sessionId = sessionId ∧
      (i, claimEntry (consumedRecordFor session) (.ok .claimed)) ∈
        (outcome calls schedule).history := by
  obtain ⟨controlRoot, request, session, hc, hs, hid, hd⟩ := dispatches_eq_true h
  have p := path_outcome calls schedule i
  rw [hc] at p
  obtain ⟨q, hq, -⟩ := p.of_map
  obtain ⟨hle, hclaim⟩ := dispatches_of_invoke hs hq
  have hpos : 1 ≤ (projection i (outcome calls schedule).history).countP isDispatch :=
    List.countP_pos_iff.mpr ⟨e, mem_projection.mpr hm, hd⟩
  exact ⟨hle, session, hid, mem_projection.mp (hclaim hpos)⟩

/-! ## The joint invariant -/

/-- Two successful consumption claims of one session identity are one call's. -/
theorem consumption_unique {i j : ι} {s t : ControlledRuntimeSession}
    (hi : (i, claimEntry (consumedRecordFor s) (.ok .claimed)) ∈
      (outcome calls schedule).history)
    (hj : (j, claimEntry (consumedRecordFor t) (.ok .claimed)) ∈
      (outcome calls schedule).history) (hid : s.sessionId = t.sessionId) : i = j := by
  refine (ledgerHistory_outcome calls schedule).claimed_unique hi hj ?_
  show recordPath .sessionConsumed t.sessionId = recordPath .sessionConsumed s.sessionId
  rw [hid]

theorem dispatchCount_le_one (sessionId : String) :
    dispatchCount calls schedule sessionId ≤ 1 := by
  unfold dispatchCount
  by_cases hpos : 0 < (outcome calls schedule).history.countP (dispatches calls sessionId)
  · obtain ⟨⟨i, e⟩, hm, hd⟩ := List.countP_pos_iff.mp hpos
    obtain ⟨hle, s, hs, hclaim⟩ := consumption_of_dispatch hm hd
    refine le_trans ?_ hle
    rw [countP_projection]
    refine List.countP_mono_left fun e' hm' hd' => ?_
    obtain ⟨-, t, ht, hclaim'⟩ := consumption_of_dispatch hm' hd'
    obtain ⟨_, _, _, -, -, -, hdispatch⟩ := dispatches_eq_true (i := e'.1) (e := e'.2) hd'
    have hij := consumption_unique hclaim hclaim' (hs.trans ht.symm)
    simp [hij, hdispatch]
  · omega

/-- A call that was allowed to start presents one session. -/
theorem StartAllowed.concerns {i : ι} {session presented : ControlledRuntimeSession}
    (h : StartAllowed calls schedule i session) (hc : (calls i).Concerns presented) :
    presented = session ∧ (calls i).Concerns session := by
  unfold StartAllowed at h
  cases hcall : calls i with
  | create call => rw [hcall] at h; cases h
  | consume call =>
      rw [hcall] at h hc
      exact ⟨hc.symm.trans h.1, h.1⟩
  | invoke controlRoot request =>
      rw [hcall] at h hc
      exact ⟨Option.some.inj (hc.symm.trans h.1), h.1⟩

/-- Where the binding texts of a run do not collide, equal issue records are the
    records of equal sessions. -/
theorem session_eq_of_issuedRecord {s t : ControlledRuntimeSession} {texts : Set String}
    (hsha : CollisionFreeOn texts) (hs : (sessionBindingJson s).dumps ∈ texts)
    (ht : (sessionBindingJson t).dumps ∈ texts)
    (h : issuedRecordFor s = issuedRecordFor t) : s = t := by
  have hdigest : sessionBindingDigest s = sessionBindingDigest t :=
    congrArg DurableReplayLedgerRecord.bindingDigest h
  exact sessionBindingJson_injective (jsonDigest_inj hsha (canonical_sessionBindingJson s)
    (canonical_sessionBindingJson t) hs ht hdigest)

/-- **A start is allowed only after the session was issued**: before the
    consumption claim of an allowed call, a `create_session` call had claimed its
    activation and written the issue record of an equal session. -/
theorem issued_of_startAllowed
    (hsha : CollisionFreeOn {t | ∃ i s, (calls i).Concerns s ∧ t = (sessionBindingJson s).dumps})
    {i : ι} {session : ControlledRuntimeSession} (h : StartAllowed calls schedule i session) :
    ∃ before after, (outcome calls schedule).history =
        before ++ (i, claimEntry (consumedRecordFor session) (.ok .claimed)) :: after ∧
      Issued calls before session := by
  have hearlier : ∀ {before after : List (ι × LedgerEntry)} {j : ι} {e : LedgerEntry},
      (outcome calls schedule).history = before ++ (j, e) :: after →
      ∃ q, (calls j).program.Path (projection j before ++ [e]) q := fun hh =>
    Config.path_run_prefix performOp (fun _ => none) (fun i => (calls i).program) schedule hh
  obtain ⟨before, after, hhist⟩ := List.append_of_mem h.claim
  refine ⟨before, after, hhist, ?_⟩
  -- the claim follows a read of the session's own issue record
  obtain ⟨q, hq⟩ := hearlier hhist
  obtain ⟨presented, hpresented, hread⟩ := read_of_consumption hq
  obtain ⟨rfl, hconcerns⟩ := h.concerns hpresented
  have hmem : (i, issueReadEntry presented (.ok (some (issuedRecordFor presented)))) ∈ before :=
    mem_projection.mp (by rw [hread]; simp)
  -- which an earlier claim had written
  obtain ⟨b1, b2, rfl⟩ := List.append_of_mem hmem
  rw [List.append_assoc, List.cons_append] at hhist
  obtain ⟨j, reply, hissue, hreply⟩ :=
    ((ledgerHistory_outcome calls schedule).ordered _ _ _ hhist).readBack _ _ _ rfl
  -- as the second operation of a `create_session` call
  obtain ⟨c1, c2, rfl⟩ := List.append_of_mem hissue
  have hhist' := hhist
  rw [List.append_assoc, List.cons_append] at hhist'
  obtain ⟨q', hq'⟩ := hearlier hhist'
  obtain ⟨call, binding, hcall, hprecheck, hrecord, hactivation⟩ := activation_of_issue hq'
  have hsession : call.session binding = presented := by
    refine session_eq_of_issuedRecord hsha ⟨j, _, ?_, rfl⟩ ⟨i, _, hconcerns, rfl⟩ hrecord.symm
    rw [hcall]
    exact ⟨binding, hprecheck, rfl⟩
  have hclaimed : (j, claimEntry (activationRecordFor binding.receipt) (.ok .claimed)) ∈ c1 :=
    mem_projection.mp (by rw [hactivation]; simp)
  exact ⟨j, call, binding, hcall, hprecheck, hsession, by simp [hclaimed], reply, by simp, hreply⟩

variable (calls schedule)

end Run

end Eag.GovernedInvocation
