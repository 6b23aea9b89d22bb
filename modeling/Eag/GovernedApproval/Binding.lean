/-
  Eag.GovernedApproval.Binding

  What a session or an approval binds of the request it was given for. The request
  digest covers every field of a request but four: the constraints are hashed as one
  joined text, the recovery rules by their representations, the budget by its maxima,
  and the redaction flag of the gateway policy not at all. `binds_iff`: the gates tell
  two requests apart exactly when they do not agree on what is covered (`BoundAgree`).
-/

import Eag.GovernedApproval.Gate
import Eag.GovernedInvocation.SingleUse

namespace Eag.GovernedApproval

open Eag.Foundation Eag.Gateway Eag.GovernedActivation Eag.GovernedExecution
open Eag.GovernedRuntime Eag.GovernedSession Eag.GovernedInvocation

/-! ## What the digest covers -/

/-- The two requests agree on everything the request digest covers. -/
structure BoundAgree (r s : GovernedExecutionRequest) : Prop where
  goal : r.goal = s.goal
  workspaceRoot : r.workspaceRoot = s.workspaceRoot
  repositoryPath : r.repositoryPath = s.repositoryPath
  availableCapabilityIds : r.availableCapabilityIds = s.availableCapabilityIds
  mutationIntentPolicy : r.mutationIntentPolicy = s.mutationIntentPolicy
  joinedConstraints : joinedConstraints r = joinedConstraints s
  ruleRepresentations : r.recoveryRules.map (·.representation) =
    s.recoveryRules.map (·.representation)
  executionId : r.executionId = s.executionId
  runId : r.runId = s.runId
  budgetMaxima : r.budget.SameMax s.budget
  gatewayLimits : { r.gatewayPolicy with redactProviderContent := true } =
    { s.gatewayPolicy with redactProviderContent := true }
  contractVersion : r.contractVersion = s.contractVersion

/-- The texts hashed for the two requests do not collide. -/
structure CollisionFreeFor (r s : GovernedExecutionRequest) : Prop where
  goals : CollisionFreeOn {r.goal, s.goal}
  constraints : CollisionFreeOn {joinedConstraints r, joinedConstraints s}
  prefixes : CollisionFreeOn
    {t | ∃ item ∈ r.mutationIntentPolicy.preservationRequirements ++
      s.mutationIntentPolicy.preservationRequirements, t = item.requiredPrefix}
  policies : CollisionFreeOn
    {(runtimePolicyJson r.gatewayPolicy).dumps, (runtimePolicyJson s.gatewayPolicy).dumps}
  requests : CollisionFreeOn {(runtimeRequestJson r).dumps, (runtimeRequestJson s).dumps}

theorem gatewayLimits_of_policyJson {p q : GatewayPolicy}
    (h : runtimePolicyJson p = runtimePolicyJson q) :
    { p with redactProviderContent := true } = { q with redactProviderContent := true } := by
  simp only [runtimePolicyJson, policyJson, Json.object_inj, List.cons.injEq, Prod.mk.injEq,
    true_and, and_true, Json.bool.injEq, Json.int.injEq] at h
  obtain ⟨h1, h2, h3, h4, h5, h6⟩ := h
  have h3' := Cost.toJson_injective h3
  cases p
  cases q
  simp_all

theorem policyJson_of_gatewayLimits {p q : GatewayPolicy}
    (h : { p with redactProviderContent := true } = { q with redactProviderContent := true }) :
    runtimePolicyJson p = runtimePolicyJson q := by
  cases p
  cases q
  simp_all [runtimePolicyJson]

theorem map_str_inj {xs ys : List String} (h : xs.map Json.str = ys.map Json.str) : xs = ys :=
  List.map_injective_iff.mpr (fun _ _ hxy => Json.str.inj hxy) h

/-- Requirements shown by identity and fingerprint are the same requirements where
    their prefixes do not collide. -/
theorem requirements_of_fingerprints {xs ys : List PreservationRequirement}
    (hsha : CollisionFreeOn {t | ∃ item ∈ xs ++ ys, t = item.requiredPrefix})
    (h : (xs.map fun item => Json.array [.str item.requirementId, .str item.fingerprint]) =
      ys.map fun item => Json.array [.str item.requirementId, .str item.fingerprint]) :
    xs = ys := by
  induction xs generalizing ys with
  | nil => cases ys with
    | nil => rfl
    | cons y ys => simp at h
  | cons x xs ih => cases ys with
    | nil => simp at h
    | cons y ys =>
        simp only [List.map_cons, List.cons.injEq, Json.array_inj, Json.str.injEq,
          and_true] at h
        obtain ⟨⟨hid, hfp⟩, hrest⟩ := h
        have hprefix : x.requiredPrefix = y.requiredPrefix :=
          hsha ⟨x, by simp, rfl⟩ ⟨y, by simp, rfl⟩ hfp
        have hxy : x = y := by cases x; cases y; simp_all
        have hsub : CollisionFreeOn {t | ∃ item ∈ xs ++ ys, t = item.requiredPrefix} := by
          refine hsha.mono ?_
          rintro t ⟨item, hm, rfl⟩
          refine ⟨item, ?_, rfl⟩
          rcases List.mem_append.mp hm with hm | hm <;> simp [hm]
        rw [hxy, ih hsub hrest]

/-- **The digest binds what it covers.** -/
theorem boundAgree_of_digest {r s : GovernedExecutionRequest} (hsha : CollisionFreeFor r s)
    (h : runtimeRequestDigest r = runtimeRequestDigest s) : BoundAgree r s := by
  have hjson : runtimeRequestJson r = runtimeRequestJson s :=
    jsonDigest_inj hsha.requests (canonical_runtimeRequestJson r)
      (canonical_runtimeRequestJson s) (by simp) (by simp) h
  simp only [runtimeRequestJson, Json.object_inj, List.cons.injEq, Prod.mk.injEq, true_and,
    and_true, Json.array_inj, Json.str.injEq, Json.int.injEq, Int.natCast_inj] at hjson
  obtain ⟨hcap, ⟨hi, hm, hv⟩, hver, hexec, hgoal, hcon, ⟨hops, hcid, hbytes, hpres, hschema⟩,
    hpol, hrules, hrepo, hrun, hroot⟩ := hjson
  have hpolicy : runtimePolicyJson r.gatewayPolicy = runtimePolicyJson s.gatewayPolicy :=
    jsonDigest_inj hsha.policies (canonical_runtimePolicyJson _)
      (canonical_runtimePolicyJson _) (by simp) (by simp) hpol
  have hmut : r.mutationIntentPolicy = s.mutationIntentPolicy := by
    have hreq := requirements_of_fingerprints hsha.prefixes hpres
    have hop := map_str_inj hops
    revert hop hcid hbytes hreq hschema
    generalize r.mutationIntentPolicy = p
    generalize s.mutationIntentPolicy = q
    intro hcid hbytes hschema hreq hop
    cases p
    cases q
    simp_all
  exact {
    goal := hsha.goals (by simp) (by simp) hgoal
    workspaceRoot := ResolvedPath.text_injective hroot
    repositoryPath := ResolvedPath.text_injective hrepo
    availableCapabilityIds := map_str_inj hcap
    mutationIntentPolicy := hmut
    joinedConstraints := hsha.constraints (by simp) (by simp) hcon
    ruleRepresentations := map_str_inj (by simpa [List.map_map, Function.comp_def] using hrules)
    executionId := hexec
    runId := hrun
    budgetMaxima := ⟨hi, hm, hv⟩
    gatewayLimits := gatewayLimits_of_policyJson hpolicy
    contractVersion := hver }

/-- Requests that agree on what the digest covers have one digest. -/
theorem BoundAgree.requestJson {r s : GovernedExecutionRequest} (h : BoundAgree r s) :
    runtimeRequestJson r = runtimeRequestJson s := by
  have hrules : (r.recoveryRules.map fun rule => Json.str rule.representation) =
      s.recoveryRules.map fun rule => Json.str rule.representation := by
    have := congrArg (List.map Json.str) h.ruleRepresentations
    simpa [List.map_map, Function.comp_def] using this
  have hpolicy : runtimePolicyDigest r.gatewayPolicy = runtimePolicyDigest s.gatewayPolicy :=
    congrArg jsonDigest (policyJson_of_gatewayLimits h.gatewayLimits)
  simp only [runtimeRequestJson, h.goal, h.workspaceRoot, h.repositoryPath,
    h.availableCapabilityIds, h.mutationIntentPolicy, h.joinedConstraints, hrules, h.executionId,
    h.runId, h.budgetMaxima.iterations, h.budgetMaxima.mutations, h.budgetMaxima.verifications,
    hpolicy, h.contractVersion]

/-- What the digest does not cover, beyond what it does. -/
structure UnboundAgree (r s : GovernedExecutionRequest) : Prop where
  knownConstraints : r.knownConstraints = s.knownConstraints
  recoveryRules : r.recoveryRules = s.recoveryRules
  budget : r.budget = s.budget
  redactProviderContent : r.gatewayPolicy.redactProviderContent =
    s.gatewayPolicy.redactProviderContent

/-- The two together are all of a request. -/
theorem BoundAgree.eq {r s : GovernedExecutionRequest} (hb : BoundAgree r s)
    (hu : UnboundAgree r s) : r = s := by
  have hpolicy : r.gatewayPolicy = s.gatewayPolicy := by
    have h1 := hb.gatewayLimits
    have h2 := hu.redactProviderContent
    revert h1 h2
    generalize r.gatewayPolicy = p
    generalize s.gatewayPolicy = q
    intro h1 h2
    cases p
    cases q
    simp_all
  obtain ⟨h1, h2, h3, h4, h5, -, -, h6, h7, -, -, h8⟩ := hb
  obtain ⟨h9, h10, h11, -⟩ := hu
  cases r
  cases s
  simp_all

/-! ## What the gates let through -/

/-- Whatever the first request was admitted with, the gates let the second through
    on its session or on its approval only when the two are equal. -/
structure Binds (first second : GovernedExecutionRequest) : Prop where
  /-- In every run over one ledger, a start allowed with the session that was
      created for `first`. -/
  session : ∀ (calls : Nat → RuntimeStartCall) (schedule : List (Nat × SessionEnv))
    (i j : Nat) (creation : CreateSessionCall) (consumption : ConsumeCall) (s e r : String),
    calls i = .create creation → creation.inputs.runtimeRequest = first →
    Created calls schedule i consumption.session →
    calls j = .consume consumption → consumption.inputs.runtimeRequest = second →
    (outcome calls schedule).progs j = .ret (.decision (.runtimeStartAllowed s e r)) →
    first = second
  /-- Over any stores, an approval recorded for `first` and accepted later. -/
  approval : ∀ (root₁ root₂ : ResolvedPath) (fault₁ fault₂ : Option WriteOnce.Fault)
    (store store' later : ApprovalStore) (decision : ApprovalDecision)
    (inputs₁ inputs₂ : ApprovalInputs) (receipt : GovernedApprovalReceipt),
    inputs₁.runtimeRequest = first → inputs₂.runtimeRequest = second →
    record root₁ fault₁ store decision inputs₁ = .ok (store', .recorded receipt) →
    validateForSession root₂ fault₂ later (some receipt) inputs₂ = .ok none →
    first = second

theorem precheck_of_allowed {call : ConsumeCall} {k : List LedgerEntry} {s e r : String}
    (p : (consumeForRuntimeStart call).Path k (.ret (.runtimeStartAllowed s e r))) :
    call.precheck = .ok () := by
  unfold consumeForRuntimeStart at p
  cases ha : call.precheck with
  | ok u => rfl
  | error reason =>
      simp only [ha] at p
      cases (Prog.path_ret p).2

theorem session_of_precheck {call : ConsumeCall} (h : call.precheck = .ok ()) :
    ∃ binding, sessionFor binding call.inputs.runtimeRequest
      call.inputs.activationRequest.isolation = call.session := by
  unfold ConsumeCall.precheck at h
  simp only [except_bind_eq_ok] at h
  obtain ⟨binding, -, h⟩ := h
  refine ⟨binding, ?_⟩
  split at h
  · cases h
  · simpa using h

/-- **A session binds the request digest.** -/
theorem runtimeRequestDigest_of_allowed {creation : CreateSessionCall}
    {consumption : ConsumeCall} {h k : List LedgerEntry} {s e r : String}
    (hc : (createSession creation).Path h (.ret (.created consumption.session)))
    (ha : (consumeForRuntimeStart consumption).Path k (.ret (.runtimeStartAllowed s e r))) :
    runtimeRequestDigest creation.inputs.runtimeRequest =
      runtimeRequestDigest consumption.inputs.runtimeRequest := by
  obtain ⟨binding, hb⟩ := session_of_precheck (precheck_of_allowed ha)
  rcases createSession_path hc with ⟨-, hn⟩ | ⟨binding', -, ⟨_, -, hn⟩ | ⟨reply, -, hs⟩⟩
  · exact absurd rfl (hn _)
  · exact absurd rfl (hn _)
  · have heq := (hs _ rfl).1
    rw [← hb] at heq
    exact (congrArg ControlledRuntimeSession.requestDigest heq).symm

/-- Requests that the digest tells apart are bound. -/
theorem binds_of_digest {r s : GovernedExecutionRequest}
    (h : runtimeRequestDigest r = runtimeRequestDigest s → r = s) : Binds r s where
  session := by
    rintro calls schedule i j creation consumption t e u hi rfl hcreated hj rfl hallowed
    obtain ⟨call, hcall, hpath⟩ := hcreated.path
    rw [hi] at hcall
    cases hcall
    exact h (runtimeRequestDigest_of_allowed hpath (path_of_decision hj hallowed))
  approval := by
    rintro root₁ root₂ fault₁ fault₂ store store' later decision inputs₁ inputs₂ receipt
      rfl rfl hrecord haccept
    exact h (runtimeRequestDigest_of_accepted hrecord haccept)

/-! ## Requests with one digest -/

/-- An approval by one operator. -/
def plainDecision : ApprovalDecision where
  approvalId := "approval"
  approverIdentity := "operator"
  occurredAt := ⟨0, some 0⟩
  disposition := .approved

/-- The inputs of an approval for a request, in a workspace of its own. -/
def plainInputs (request : GovernedExecutionRequest) : ApprovalInputs where
  activationReceipt := approvedReceipt request
  activationRequest := {
    confirmation := none
    providerPolicy := none
    isolation := {
      workspaceRoot := some ⟨["workspace"], workspaceNames_proper⟩
      auditRoot := some ⟨["audit"], auditNames_proper⟩
      sourceRepositoryRoot := some ⟨["source"], sourceNames_proper⟩
      executionId := request.executionId }
    auditObserver := none }
  runtimeRequest := request
  auditObserver := ⟨"eag.governed_audit.recorder", "GovernedExecutionAuditRecorder", 1⟩
  runtimeAvailability := ⟨"runtime", true, runtimeName_nonBlank⟩

/-- The roots of `plainInputs`. -/
def plainRoots : IsolationRoots where
  workspaceRoot := ⟨["workspace"], workspaceNames_proper⟩
  auditRoot := ⟨["audit"], auditNames_proper⟩
  sourceRoot := ⟨["source"], sourceNames_proper⟩

theorem plainInputs_isolated (request : GovernedExecutionRequest) :
    storeIsolationRejection ⟨["control"], by decide⟩
      (plainInputs request).activationRequest.isolation = .ok plainRoots :=
  rfl

/-- The fields of an approval of `plainInputs` pass their checks. -/
theorem plainFields_checked (request : GovernedExecutionRequest) :
    (∀ item ∈ (receiptFields plainDecision (plainInputs request) plainRoots).identities,
      NonBlank item.2) ∧
    ∀ item ∈ (receiptFields plainDecision (plainInputs request) plainRoots).digests,
      IsDigest item.2 := by
  constructor
  · simp only [ApprovalFields.identities, List.forall_mem_cons, List.not_mem_nil,
      false_implies, implies_true, and_true]
    exact ⟨(by decide : NonBlank "approval"), (by decide : NonBlank "operator"),
      (by decide : NonBlank "activation"), request.executionId_nonBlank,
      request.runId_nonBlank, observerIdentity_nonBlank _, (by decide : NonBlank "runtime")⟩
  · simp only [ApprovalFields.digests, List.forall_mem_cons, List.not_mem_nil,
      false_implies, implies_true, and_true]
    exact ⟨isDigest_jsonDigest _, isDigest_jsonDigest _, isDigest_jsonDigest _,
      isDigest_jsonDigest _⟩

/-- **An approval for one of two requests with one digest is accepted with the
    other.** -/
theorem accepted_of_boundAgree {r s : GovernedExecutionRequest} (h : BoundAgree r s) :
    ∃ receipt,
      record ⟨["control"], by decide⟩ none (fun _ => none) plainDecision (plainInputs r) =
        .ok (WriteOnce.Store.put (fun _ => none) (approvalPath receipt.approvalId)
          (.whole receipt), .recorded receipt) ∧
      validateForSession ⟨["control"], by decide⟩ none
        (WriteOnce.Store.put (fun _ => none) (approvalPath receipt.approvalId) (.whole receipt))
        (some receipt) (plainInputs s) = .ok none := by
  obtain ⟨receipt, hissue, hfields⟩ := GovernedApprovalReceipt.issue_of_checks
    (f := receiptFields plainDecision (plainInputs r) plainRoots) rfl
    (plainFields_checked r).1 (plainFields_checked r).2
  refine ⟨receipt, record_of_free (plainInputs_isolated r) hissue rfl,
    validate_of_standing (plainInputs_isolated s) (WriteOnce.Store.put_self _ _ _) ?_
      (congrArg ApprovalFields.disposition hfields)⟩
  -- the second inputs give the fields the receipt was issued with
  have hdigest : runtimeRequestDigest s = runtimeRequestDigest r :=
    congrArg jsonDigest h.requestJson.symm
  have hpolicy : runtimePolicyDigest s.gatewayPolicy = runtimePolicyDigest r.gatewayPolicy :=
    congrArg jsonDigest (policyJson_of_gatewayLimits h.gatewayLimits).symm
  have hreceipt : receiptDigest (approvedReceipt s) = receiptDigest (approvedReceipt r) := by
    simp only [receiptDigest, approvedReceipt, h.executionId, hpolicy]
  have hsame : receiptFields ⟨receipt.approvalId, receipt.approverIdentity,
      receipt.occurredAt, receipt.disposition⟩ (plainInputs s) plainRoots =
        receiptFields plainDecision (plainInputs r) plainRoots := by
    rw [hfields]
    simp only [receiptFields, plainInputs, hdigest, hreceipt, h.executionId, h.runId]
    simp [approvedReceipt, hpolicy, DateTime.toUtc, plainDecision]
  rw [receiptFor, hsame]
  exact hissue

/-- A run in which a session is created for one request and then presented with
    another. -/
def reuse (r s : GovernedExecutionRequest) : Nat → RuntimeStartCall
  | 0 => .create (plainCreation r)
  | _ => .consume (plainConsumption (plainSession r) s)

/-- The two calls one after the other, undisturbed. -/
def inTurn : List (Nat × SessionEnv) :=
  [quiet, quiet].map (0, ·) ++ [quiet, quiet].map (1, ·)

/-- **A session created for one of two requests with one digest allows the other**,
    where no root of theirs lies around the control root. -/
theorem allowed_of_boundAgree {r s : GovernedExecutionRequest} (h : BoundAgree r s)
    (hroot : s.workspaceRoot = ⟨["workspace"], by decide⟩) :
    Created (reuse r s) inTurn 0 (plainSession r) ∧
    ∃ t e u, (outcome (reuse r s) inTurn).progs 1 =
      .ret (.decision (.runtimeStartAllowed t e u)) := by
  have hdigest : runtimeRequestDigest s = runtimeRequestDigest r :=
    congrArg jsonDigest h.requestJson.symm
  have hpolicy : runtimePolicyDigest s.gatewayPolicy = runtimePolicyDigest r.gatewayPolicy :=
    congrArg jsonDigest (policyJson_of_gatewayLimits h.gatewayLimits).symm
  have hsession : plainSession s =
      plainSession r := by
    have hreceipt : approvedReceipt s = approvedReceipt r := by
      simp only [approvedReceipt, h.executionId, hpolicy]
    have hroots : s.workspaceRoot = r.workspaceRoot := h.workspaceRoot.symm
    simp only [plainSession, CreateSessionCall.session, sessionFor, plainCreation, plainBinding,
      boundInputs, sessionIdJson, hreceipt, hroots, hdigest, h.executionId, h.runId]
  obtain ⟨hfirst, hsecond⟩ := Config.run_inTurn performOp (fun _ => none)
    (fun i => (reuse r s i).program) (show 1 ≠ 0 by decide) [quiet, quiet] [quiet, quiet]
  have hc := exec_createSession (precheck_plainCreation (h.workspaceRoot.trans hroot))
    (fun _ => none) rfl rfl
  have hissued : (consumedRecordFor (plainSession r)).path ≠
      (issuedRecordFor (plainSession r)).path :=
    recordPath_ne (show ReplayLedgerEntryKind.sessionConsumed ≠ .sessionIssued by decide) _ _
  have hactivation : (consumedRecordFor (plainSession r)).path ≠
      (activationRecordFor (plainBinding r).receipt).path :=
    recordPath_ne (show ReplayLedgerEntryKind.sessionConsumed ≠ .activationClaimed by decide) _ _
  have hfree : (Prog.exec performOp (fun _ => none) [quiet, quiet]
      (createSession (plainCreation r))).1
        (consumedRecordFor (plainSession r)).path = none := by
    simp only [hc]
    rw [WriteOnce.Store.put_of_ne _ hissued, WriteOnce.Store.put_of_ne _ hactivation]
  have hk := exec_consumeForRuntimeStart (precheck_plainConsumption hroot hsession)
    (Prog.exec performOp (fun _ => none) [quiet, quiet] (createSession (plainCreation r))).1
    (by rw [hc]; exact WriteOnce.Store.put_self ..)
    hfree
  have hcreate : Prog.exec performOp (fun _ => none) [quiet, quiet] (reuse r s 0).program = _ :=
    Prog.exec_map performOp CallResult.admission (fun _ => none) [quiet, quiet]
      (createSession (plainCreation r))
  rw [hcreate] at hfirst hsecond
  rw [hc] at hfirst
  simp only [reuse, RuntimeStartCall.program, Prog.exec_map, hk, Prog.ret_bind] at hsecond
  exact ⟨hfirst, _, _, _, hsecond⟩

end Eag.GovernedApproval
