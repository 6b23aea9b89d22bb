/-
  Eag.GovernedPresentation.OneConstruction

  **What one submission does**, whatever is answered: it constructs at most once, after
  everything was accepted, and closes the handle it was handed (`submission_meets`).
-/

import Eag.GovernedPresentation.FixedProfile
import Eag.GovernedWorkspace.Handoff

namespace Eag.GovernedPresentation

open Eag.Foundation Eag.GovernedWorkspace

variable {owners : Owners}

/-! ## Events -/

/-- The call of `construct`. -/
def isConstruct : Event owners → Bool
  | ⟨.construct _ _, _⟩ => true
  | _ => false

/-- A call of the custody gate, as an event of the submission. -/
def custodyEvent (e : GovernedWorkspace.Event) : Event owners := ⟨.custody e.1, e.2⟩

/-- The calls of the custody gate among those of a submission. -/
def custodyCalls (calls : List (Event owners)) : List GovernedWorkspace.Event :=
  calls.filterMap fun
    | ⟨.custody op, reply⟩ => some ⟨op, reply⟩
    | _ => none

@[simp] theorem custodyCalls_append (calls later : List (Event owners)) :
    custodyCalls (calls ++ later) = custodyCalls calls ++ custodyCalls later :=
  List.filterMap_append

@[simp] theorem custodyCalls_custodyEvent (all : List GovernedWorkspace.Event) :
    custodyCalls (all.map (@custodyEvent owners)) = all := by
  rw [custodyCalls, List.filterMap_map]
  exact List.filterMap_some

theorem prefix_custodyCalls {calls later : List (Event owners)} (h : calls <+: later) :
    custodyCalls calls <+: custodyCalls later :=
  h.filterMap _

/-- The claim of an attestation was answered `CLAIMED`. -/
def claimedEvent (attestation : WorkspaceCustodyAttestation) : Event owners :=
  custodyEvent ⟨.claim attestation, .ok .claimed⟩

/-- The intent, the claim of the own attestation and the descriptor of the own workspace root
    were accepted. -/
structure HandoffAccepted (submission : FixedProfilePresentationSubmission)
    (calls : List (Event owners)) (intent : owners.Intent)
    (intentAssessment : owners.IntentAssessment) (attestation : WorkspaceCustodyAttestation)
    (handle : WorkspaceCustodyRootHandle) : Prop where
  issued : (⟨.issueIntent (submission.name "-intent") submission.selectedProfileToken
    submission.requestedAt, .ok intent⟩ : Event owners) ∈ calls
  assessed : (⟨.assessIntent (submission.name "-intent-assessment") intent
    submission.requestedAt, .ok intentAssessment⟩ : Event owners) ∈ calls
  attested : owners.intentAttested intentAssessment = true
  attestationId : attestation.attestationId = submission.custodyRequest.attestationId
  claimed : claimedEvent attestation ∈ calls
  opened : custodyEvent (openedRoot submission.custodyRequest .workspace handle.descriptor)
    ∈ calls

/-- The work order issued from these terms was accepted. -/
structure WorkOrderAccepted (submission : FixedProfilePresentationSubmission)
    (calls : List (Event owners)) (terms : WorkOrderTerms owners) (workOrder : owners.WorkOrder)
    (request : owners.WorkOrderRequest) (assessment : owners.WorkOrderAssessment) : Prop where
  issued : (⟨.issueWorkOrder terms, .ok workOrder⟩ : Event owners) ∈ calls
  requested : (⟨.requestAssessment (submission.name "-work-order-request") terms workOrder,
    .ok request⟩ : Event owners) ∈ calls
  assessed : (⟨.assessWorkOrder (submission.name "-work-order-assessment") request,
    .ok assessment⟩ : Event owners) ∈ calls
  attested : owners.workOrderAttested assessment = true

/-- What a submission had accepted before it constructs: the intent, the claim and the
    descriptor of its own custody request, the work order and the authorization, each issued
    from the ones before. -/
def Accepted (submission : FixedProfilePresentationSubmission) (calls : List (Event owners))
    (authorization : owners.Authorization) (handle : WorkspaceCustodyRootHandle) : Prop :=
  ∃ (terms : WorkOrderTerms owners) (workOrder : owners.WorkOrder)
    (request : owners.WorkOrderRequest) (assessment : owners.WorkOrderAssessment)
    (authorizationTerms : AuthorizationTerms owners),
    HandoffAccepted submission calls terms.intent terms.assessment terms.attestation handle ∧
    WorkOrderAccepted submission calls terms workOrder request assessment ∧
    authorizationTerms.attestation = terms.attestation ∧
    authorizationTerms.intent = terms.intent ∧
    authorizationTerms.workOrderRequest = request ∧
    authorizationTerms.workOrderAssessment = assessment ∧
    (⟨.issueAuthorization authorizationTerms, .ok authorization⟩ : Event owners) ∈ calls

theorem HandoffAccepted.mono {submission : FixedProfilePresentationSubmission}
    {calls later : List (Event owners)} {intent : owners.Intent}
    {intentAssessment : owners.IntentAssessment} {attestation : WorkspaceCustodyAttestation}
    {handle : WorkspaceCustodyRootHandle}
    (h : HandoffAccepted submission calls intent intentAssessment attestation handle)
    (hsub : calls ⊆ later) :
    HandoffAccepted submission later intent intentAssessment attestation handle :=
  ⟨hsub h.issued, hsub h.assessed, h.attested, h.attestationId, hsub h.claimed, hsub h.opened⟩

theorem WorkOrderAccepted.mono {submission : FixedProfilePresentationSubmission}
    {calls later : List (Event owners)} {terms : WorkOrderTerms owners}
    {workOrder : owners.WorkOrder} {request : owners.WorkOrderRequest}
    {assessment : owners.WorkOrderAssessment}
    (h : WorkOrderAccepted submission calls terms workOrder request assessment)
    (hsub : calls ⊆ later) :
    WorkOrderAccepted submission later terms workOrder request assessment :=
  ⟨hsub h.issued, hsub h.requested, hsub h.assessed, h.attested⟩

/-- A handle was closed, by its `with` block or by the constructor. -/
def Closed (descriptor : Descriptor) (calls : List (Event owners)) : Prop :=
  (⟨.closeHandle descriptor, ()⟩ : Event owners) ∈ calls ∨
    ∃ authorization handle outcome, handle.descriptor = descriptor ∧
      (⟨.construct authorization handle, (outcome, true)⟩ : Event owners) ∈ calls

/-- What each operation of a submission satisfies: a construction is its first, and everything
    was accepted before. -/
def Justified (submission : FixedProfilePresentationSubmission) (calls : List (Event owners)) :
    Event owners → Prop
  | ⟨.construct authorization handle, _⟩ =>
      Accepted submission calls authorization handle ∧ ∀ e ∈ calls, isConstruct e = false
  | _ => True

/-- The handoff of the submission has succeeded: on what the custody gate called so far, it
    returned this handle. -/
def HandedOver (submission : FixedProfilePresentationSubmission) (steps : Nat)
    (calls : List (Event owners)) (handle : WorkspaceCustodyRootHandle) : Prop :=
  ∃ before attestation binding, before <+: calls ∧
    (submission.custodyGate.attestAndAcquireRootHandoff steps submission.custodyRequest).run.Path
      (custodyCalls before) (.ret (.ok (.acquired attestation binding handle)))

/-- Whatever handle was handed over is entered. -/
def HandleEntered (submission : FixedProfilePresentationSubmission) (steps : Nat)
    (calls : List (Event owners)) : Prop :=
  ∀ handle, HandedOver submission steps calls handle →
    (⟨.enterHandle handle.descriptor, ()⟩ : Event owners) ∈ calls

/-- How a submission ends: a receipt view shows the receipt of a construction, and a handle
    that was entered is closed. -/
def Concluded (calls : List (Event owners))
    (result : Except SubmissionError (FixedProfileTerminalView owners)) : Prop :=
  (∀ intent intentAssessment workOrder assessment authorization receipt,
    result = .ok (.receiptAvailable intent intentAssessment workOrder assessment authorization
      receipt) →
    ∃ handle closed,
      (⟨.construct authorization handle, (.ok receipt, closed)⟩ : Event owners) ∈ calls) ∧
  ∀ descriptor, (⟨.enterHandle descriptor, ()⟩ : Event owners) ∈ calls → Closed descriptor calls

/-! ## Before a construction -/

/-- Nothing was constructed, and only this handle, if any, was entered. -/
def Quiet (entered : Option Descriptor) (calls : List (Event owners)) : Prop :=
  ∀ e ∈ calls, isConstruct e = false ∧
    ∀ descriptor, e = ⟨.enterHandle descriptor, ()⟩ → entered = some descriptor

theorem Quiet.snoc {entered : Option Descriptor} {calls : List (Event owners)} {e : Event owners}
    (h : Quiet entered calls) (hconstruct : isConstruct e = false)
    (henter : ∀ descriptor, e ≠ ⟨.enterHandle descriptor, ()⟩) : Quiet entered (calls ++ [e]) := by
  intro x hx
  rcases List.mem_append.mp hx with hx | hx
  · exact h x hx
  · rw [List.mem_singleton.mp hx]
    exact ⟨hconstruct, fun descriptor heq => absurd heq (henter descriptor)⟩

/-- A submission that entered no handle may end with anything but a receipt. -/
theorem Quiet.concluded {calls : List (Event owners)} (h : Quiet none calls)
    {result : Except SubmissionError (FixedProfileTerminalView owners)}
    (hresult : ∀ a b c d e f, result ≠ .ok (.receiptAvailable a b c d e f)) :
    Concluded calls result := by
  refine ⟨fun a b c d e f heq => absurd heq (hresult a b c d e f), fun descriptor hmem => ?_⟩
  cases (h _ hmem).2 descriptor rfl

theorem quiet_custody {calls : List (Event owners)} (h : Quiet none calls)
    (all : List GovernedWorkspace.Event) : Quiet none (calls ++ all.map custodyEvent) := by
  intro e he
  rcases List.mem_append.mp he with he | he
  · exact h e he
  · obtain ⟨x, -, rfl⟩ := List.mem_map.mp he
    exact ⟨rfl, fun descriptor heq => nomatch heq⟩

/-- A program of the gate inside a submission. -/
theorem meets_custody {α : Type} {calls : List (Event owners)}
    {Q : List (Event owners) → Event owners → Prop} {R : List GovernedWorkspace.Event → α → Prop}
    (hQ : ∀ calls e, Q calls (custodyEvent e)) (p : Calls α)
    (hp : p.Meets (fun _ _ => True) R []) :
    (custody p).Meets Q
      (fun later a => ∃ all, later = calls ++ all.map custodyEvent ∧ R all a) calls := by
  suffices hown : ∀ own, p.Meets (fun _ _ => True) R own →
      (custody p).Meets Q
        (fun later a => ∃ all, later = calls ++ all.map custodyEvent ∧ R all a)
        (calls ++ own.map custodyEvent) by
    have hstart := hown [] hp
    rwa [List.map_nil, List.append_nil] at hstart
  clear hp
  induction p with
  | ret a => exact fun own hp => ⟨own, rfl, hp⟩
  | call op next ih =>
      intro own hp reply
      refine ⟨hQ _ ⟨op, reply⟩, ?_⟩
      have hnext := ih reply _ (hp reply).2
      rw [List.map_append, ← List.append_assoc] at hnext
      exact hnext

/-! ## The `with` block -/

/-- How the body of the `with` block ends. -/
def BodyEnd (descriptor : Descriptor) (calls : List (Event owners))
    (result : Except SubmissionError (FixedProfileTerminalView owners) × Bool) : Prop :=
  (∀ entered, (⟨.enterHandle entered, ()⟩ : Event owners) ∈ calls → entered = descriptor) ∧
  (result.2 = true → Closed descriptor calls) ∧
  ∀ intent intentAssessment workOrder assessment authorization receipt,
    result.1 = .ok (.receiptAvailable intent intentAssessment workOrder assessment authorization
      receipt) →
    ∃ handle closed,
      (⟨.construct authorization handle, (.ok receipt, closed)⟩ : Event owners) ∈ calls

/-- The body leaves without a construction. -/
theorem bodyEnd_leaving {descriptor : Descriptor} {calls : List (Event owners)}
    (h : Quiet (some descriptor) calls)
    {result : Except SubmissionError (FixedProfileTerminalView owners)}
    (hresult : ∀ a b c d e f, result ≠ .ok (.receiptAvailable a b c d e f)) :
    BodyEnd descriptor calls (result, false) := by
  refine ⟨fun entered hmem => ?_, fun hfalse => (nomatch hfalse),
    fun a b c d e f heq => absurd heq (hresult a b c d e f)⟩
  exact (Option.some.inj ((h _ hmem).2 entered rfl)).symm

theorem mem_snoc_self (calls : List (Event owners)) (e : Event owners) : e ∈ calls ++ [e] :=
  List.mem_append_right _ (List.mem_singleton.mpr rfl)

section Body

variable {submission : FixedProfilePresentationSubmission} {calls : List (Event owners)}
  {terms : WorkOrderTerms owners} {handle : WorkspaceCustodyRootHandle}

/-- **The construction.** -/
theorem constructReceipt_meets {workOrder : owners.WorkOrder}
    {assessment : owners.WorkOrderAssessment} {authorization : owners.Authorization}
    (hquiet : Quiet (some handle.descriptor) calls)
    (haccepted : Accepted submission calls authorization handle) :
    (constructReceipt terms.intent terms.assessment workOrder assessment authorization
      handle).Meets (Justified submission) (BodyEnd handle.descriptor) calls := by
  rintro ⟨outcome, closed⟩
  refine ⟨⟨haccepted, fun e he => (hquiet e he).1⟩, ?_⟩
  have hmem := mem_snoc_self calls ⟨.construct authorization handle, (outcome, closed)⟩
  have hentered : ∀ entered, (⟨.enterHandle entered, ()⟩ : Event owners) ∈
      calls ++ [⟨.construct authorization handle, (outcome, closed)⟩] →
      entered = handle.descriptor := by
    intro entered hentered
    rcases List.mem_append.mp hentered with hentered | hentered
    · exact (Option.some.inj ((hquiet _ hentered).2 entered rfl)).symm
    · cases List.mem_singleton.mp hentered
  have hclosed : closed = true → Closed handle.descriptor
      (calls ++ [⟨.construct authorization handle, (outcome, closed)⟩]) := by
    rintro rfl
    exact Or.inr ⟨authorization, handle, outcome, rfl, hmem⟩
  cases outcome with
  | error error => exact ⟨hentered, hclosed, fun _ _ _ _ _ _ h => nomatch h⟩
  | ok receipt =>
      refine ⟨hentered, hclosed, fun a b c d e f h => ?_⟩
      obtain ⟨-, -, -, -, rfl, rfl⟩ := FixedProfileTerminalView.receiptAvailable.inj
        (Except.ok.inj h)
      exact ⟨handle, closed, hmem⟩

/-- The authorization and what follows it. -/
theorem authorizeConstruction_meets {workOrder : owners.WorkOrder}
    {request : owners.WorkOrderRequest} {assessment : owners.WorkOrderAssessment}
    (binding : WorkspaceCustodyRootBinding) (hquiet : Quiet (some handle.descriptor) calls)
    (hhandoff : HandoffAccepted submission calls terms.intent terms.assessment terms.attestation
      handle)
    (hworkOrder : WorkOrderAccepted submission calls terms workOrder request assessment) :
    (authorizeConstruction submission terms.intent terms.assessment workOrder request assessment
      terms.attestation binding handle).Meets (Justified submission)
        (BodyEnd handle.descriptor) calls := by
  intro (reply : Except SubmissionError owners.Authorization)
  refine ⟨trivial, ?_⟩
  have hquiet' : ∀ reply, Quiet (some handle.descriptor)
      (calls ++ [(⟨.issueAuthorization
        ⟨submission.name "-authorization", terms.intent, terms.assessment, request, assessment,
          submission.custodyRequest, terms.attestation, binding,
          terms.attestation.occurredAt.val⟩, reply⟩ : Event owners)]) :=
    fun reply => hquiet.snoc rfl fun descriptor h => nomatch h
  cases reply with
  | error error =>
      cases error with
      | _ => exact bodyEnd_leaving (hquiet' _) fun _ _ _ _ _ _ h => nomatch h
  | ok authorization =>
      have hsub := List.subset_append_left calls [(⟨.issueAuthorization
        ⟨submission.name "-authorization", terms.intent, terms.assessment, request, assessment,
          submission.custodyRequest, terms.attestation, binding,
          terms.attestation.occurredAt.val⟩, .ok authorization⟩ : Event owners)]
      refine constructReceipt_meets (hquiet' _) ?_
      exact ⟨terms, workOrder, request, assessment, _, hhandoff.mono hsub, hworkOrder.mono hsub,
        rfl, rfl, rfl, rfl, mem_snoc_self _ _⟩

/-- The assessment of the work order and what follows it. -/
theorem assessWorkOrder_meets {workOrder : owners.WorkOrder}
    (binding : WorkspaceCustodyRootBinding) (hquiet : Quiet (some handle.descriptor) calls)
    (hhandoff : HandoffAccepted submission calls terms.intent terms.assessment terms.attestation
      handle)
    (hissued : (⟨.issueWorkOrder terms, .ok workOrder⟩ : Event owners) ∈ calls) :
    (assessWorkOrder submission terms workOrder binding handle).Meets (Justified submission)
      (BodyEnd handle.descriptor) calls := by
  intro (reply : Except SubmissionError owners.WorkOrderRequest)
  refine ⟨trivial, ?_⟩
  have hquiet1 : Quiet (some handle.descriptor) (calls ++ [(⟨.requestAssessment
      (submission.name "-work-order-request") terms workOrder, reply⟩ : Event owners)]) :=
    hquiet.snoc rfl fun descriptor h => nomatch h
  cases reply with
  | error error => exact bodyEnd_leaving hquiet1 fun _ _ _ _ _ _ h => nomatch h
  | ok request =>
      have hsub := List.subset_append_left calls [(⟨.requestAssessment
        (submission.name "-work-order-request") terms workOrder, .ok request⟩ : Event owners)]
      have hrequested := mem_snoc_self calls ⟨.requestAssessment
        (submission.name "-work-order-request") terms workOrder, .ok request⟩
      generalize calls ++ [(⟨.requestAssessment (submission.name "-work-order-request") terms
        workOrder, .ok request⟩ : Event owners)] = before at hquiet1 hsub hrequested ⊢
      intro (reply : Except SubmissionError owners.WorkOrderAssessment)
      refine ⟨trivial, ?_⟩
      have hquiet2 : Quiet (some handle.descriptor) (before ++ [(⟨.assessWorkOrder
          (submission.name "-work-order-assessment") request, reply⟩ : Event owners)]) :=
        hquiet1.snoc rfl fun descriptor h => nomatch h
      have hsub2 := List.subset_append_left before [(⟨.assessWorkOrder
        (submission.name "-work-order-assessment") request, reply⟩ : Event owners)]
      have hassessed := mem_snoc_self before ⟨.assessWorkOrder
        (submission.name "-work-order-assessment") request, reply⟩
      cases reply with
      | error error => exact bodyEnd_leaving hquiet2 fun _ _ _ _ _ _ h => nomatch h
      | ok assessment =>
          show Prog.Meets _ _ _ (if owners.workOrderAttested assessment = false then _ else _)
          by_cases hattested : owners.workOrderAttested assessment = false
          · rw [if_pos hattested]
            exact bodyEnd_leaving hquiet2 fun _ _ _ _ _ _ h => nomatch h
          · rw [if_neg hattested]
            refine authorizeConstruction_meets binding hquiet2
              (hhandoff.mono (List.Subset.trans hsub hsub2)) ?_
            exact ⟨hsub2 (hsub hissued), hsub2 hrequested, hassessed,
              Bool.eq_true_of_not_eq_false hattested⟩

/-- The body of the `with` block. -/
theorem handoffBody_meets {intent : owners.Intent} {intentAssessment : owners.IntentAssessment}
    {attestation : WorkspaceCustodyAttestation} (binding : WorkspaceCustodyRootBinding)
    (hquiet : Quiet (some handle.descriptor) calls)
    (hhandoff : HandoffAccepted submission calls intent intentAssessment attestation handle) :
    (handoffBody submission intent intentAssessment attestation binding handle).Meets
      (Justified submission) (BodyEnd handle.descriptor) calls := by
  intro (reply : Except SubmissionError owners.WorkOrder)
  refine ⟨trivial, ?_⟩
  have hquiet1 : ∀ (terms : WorkOrderTerms owners) reply, Quiet (some handle.descriptor)
      (calls ++ [(⟨.issueWorkOrder terms, reply⟩ : Event owners)]) :=
    fun terms reply => hquiet.snoc rfl fun descriptor h => nomatch h
  cases reply with
  | error error =>
      cases error with
      | _ => exact bodyEnd_leaving (hquiet1 _ _) fun _ _ _ _ _ _ h => nomatch h
  | ok workOrder =>
      refine assessWorkOrder_meets binding (hquiet1 _ _) ?_ (mem_snoc_self _ _)
      exact hhandoff.mono (List.subset_append_left _ _)

/-- **The `with` block** closes the handle on every exit. -/
theorem continue_meets {intent : owners.Intent} {intentAssessment : owners.IntentAssessment}
    {attestation : WorkspaceCustodyAttestation} (binding : WorkspaceCustodyRootBinding)
    (hquiet : Quiet none calls)
    (hhandoff : HandoffAccepted submission calls intent intentAssessment attestation handle) :
    (continueFixedProfileAfterHandoff submission intent intentAssessment attestation binding
      handle).Meets (Justified submission) Concluded calls := by
  intro reply
  refine ⟨trivial, ?_⟩
  have hquiet1 : Quiet (some handle.descriptor)
      (calls ++ [(⟨.enterHandle handle.descriptor, reply⟩ : Event owners)]) := by
    intro e he
    rcases List.mem_append.mp he with he | he
    · refine ⟨(hquiet e he).1, fun descriptor heq => ?_⟩
      cases (hquiet e he).2 descriptor heq
    · rw [List.mem_singleton.mp he]
      refine ⟨rfl, fun descriptor heq => ?_⟩
      have hop := congrArg Sigma.fst heq
      exact congrArg some (Operation.enterHandle.inj hop)
  refine Prog.Meets.bind
    (p := handoffBody submission intent intentAssessment attestation binding handle)
    (handoffBody_meets binding hquiet1 (hhandoff.mono (List.subset_append_left _ _))) ?_
  rintro later ⟨result, closed⟩ ⟨hentered, hclosed, hreceipt⟩
  cases closed with
  | true =>
      refine ⟨hreceipt, fun descriptor hmem => ?_⟩
      rw [hentered descriptor hmem]
      exact hclosed rfl
  | false =>
      intro reply
      refine ⟨trivial, fun a b c d e f heq => ?_, fun descriptor hmem => ?_⟩
      · obtain ⟨h, closed, hconstruct⟩ := hreceipt a b c d e f heq
        exact ⟨h, closed, List.mem_append_left _ hconstruct⟩
      · rcases List.mem_append.mp hmem with hmem | hmem
        · rw [hentered descriptor hmem]
          exact Or.inl (mem_snoc_self _ _)
        · cases List.mem_singleton.mp hmem

end Body

/-! ## The handoff -/

/-- What the gate returned where it has returned. -/
theorem handedOver_result {submission : FixedProfilePresentationSubmission} {steps : Nat}
    {calls : List (Event owners)} {handle : WorkspaceCustodyRootHandle}
    {result : Except Raised WorkspaceCustodyRootHandoff} {earlier : List (Event owners)}
    (hreturned : (submission.custodyGate.attestAndAcquireRootHandoff steps
      submission.custodyRequest).run.Path (custodyCalls earlier) (.ret result))
    (hle : earlier <+: calls) (h : HandedOver submission steps calls handle) :
    ∃ attestation binding, result = .ok (.acquired attestation binding handle) := by
  obtain ⟨before, attestation, binding, hbefore, hpath⟩ := h
  refine ⟨attestation, binding, ?_⟩
  exact hreturned.ret_eq hpath (prefix_custodyCalls hle) (prefix_custodyCalls hbefore)

/-- Without a call of the gate nothing was handed over. -/
theorem handleEntered_of_none {submission : FixedProfilePresentationSubmission} {steps : Nat}
    {calls : List (Event owners)} (hnone : custodyCalls calls = []) :
    HandleEntered submission steps calls := by
  rintro handle ⟨before, attestation, binding, hbefore, hpath⟩
  have hempty : custodyCalls before = [] := by
    have hle := prefix_custodyCalls hbefore
    rw [hnone] at hle
    exact List.prefix_nil.mp hle
  rw [hempty] at hpath
  have hcalls := (@handoff_calls _ [] submission.custodyGate steps).path hpath
  obtain ⟨-, hclaimed, -⟩ := hcalls attestation binding handle rfl
  cases hclaimed

/-- **Whatever handle was handed over is entered.** -/
theorem handle_entered (submission : FixedProfilePresentationSubmission) (steps : Nat) :
    (submitFixedProfileConstruction submission steps :
      Steps owners (Except SubmissionError (FixedProfileTerminalView owners))).Meets
        (fun _ _ => True) (fun calls _ => HandleEntered submission steps calls) [] := by
  intro (reply : Except SubmissionError owners.Intent)
  refine ⟨trivial, ?_⟩
  cases reply with
  | error error =>
      cases error with
      | _ => exact handleEntered_of_none rfl
  | ok intent =>
      intro (reply : Except SubmissionError owners.IntentAssessment)
      refine ⟨trivial, ?_⟩
      cases reply with
      | error error => exact handleEntered_of_none rfl
      | ok intentAssessment =>
          show Prog.Meets _ _ _ (if owners.intentAttested intentAssessment = false then _ else _)
          by_cases hattested : owners.intentAttested intentAssessment = false
          · rw [if_pos hattested]
            exact handleEntered_of_none rfl
          · rw [if_neg hattested]
            refine Prog.Meets.bind (meets_custody (fun _ _ => trivial) _ (Prog.meets_path (.refl _))) ?_
            rintro later result ⟨all, rfl, hreturned⟩
            -- the calls of the gate are those of the handoff
            generalize hbefore : ([] ++ [_] ++ [_] ++ all.map custodyEvent :
              List (Event owners)) = before
            have hgate : custodyCalls before = all := by
              rw [← hbefore, custodyCalls_append, custodyCalls_custodyEvent]
              rfl
            rw [← hgate] at hreturned
            cases result with
            | error error =>
                intro handle hhanded
                obtain ⟨_, _, h⟩ := handedOver_result hreturned (List.prefix_refl _) hhanded
                cases h
            | ok handoff =>
                cases handoff with
                | rejected reason =>
                    intro handle hhanded
                    obtain ⟨_, _, h⟩ := handedOver_result hreturned (List.prefix_refl _) hhanded
                    cases h
                | acquired attestation binding handle =>
                    intro reply
                    refine ⟨trivial, (Prog.meets_prefix _).imp fun later result hle => ?_⟩
                    intro other hhanded
                    obtain ⟨_, _, h⟩ := handedOver_result hreturned
                      ((List.prefix_append _ _).trans hle) hhanded
                    obtain ⟨-, -, rfl⟩ := WorkspaceCustodyRootHandoff.acquired.inj
                      (Except.ok.inj h)
                    exact hle.subset (mem_snoc_self _ _)

/-! ## A whole submission -/

/-- **The operations of one submission.** -/
theorem submission_meets (submission : FixedProfilePresentationSubmission) (steps : Nat) :
    (submitFixedProfileConstruction submission steps :
      Steps owners (Except SubmissionError (FixedProfileTerminalView owners))).Meets
        (Justified submission) Concluded [] := by
  have hnone : @Quiet owners none [] := fun _ h => nomatch h
  intro (reply : Except SubmissionError owners.Intent)
  refine ⟨trivial, ?_⟩
  have hquiet1 := hnone.snoc
    (e := ⟨.issueIntent (submission.name "-intent") submission.selectedProfileToken
      submission.requestedAt, reply⟩) rfl fun descriptor h => nomatch h
  cases reply with
  | error error =>
      cases error with
      | _ => exact hquiet1.concluded fun _ _ _ _ _ _ h => nomatch h
  | ok intent =>
      have hissued := @mem_snoc_self owners [] ⟨.issueIntent
        (submission.name "-intent") submission.selectedProfileToken submission.requestedAt,
        .ok intent⟩
      intro (reply : Except SubmissionError owners.IntentAssessment)
      refine ⟨trivial, ?_⟩
      have hquiet2 := hquiet1.snoc
        (e := ⟨.assessIntent (submission.name "-intent-assessment") intent
          submission.requestedAt, reply⟩) rfl fun descriptor h => nomatch h
      cases reply with
      | error error => exact hquiet2.concluded fun _ _ _ _ _ _ h => nomatch h
      | ok intentAssessment =>
          show Prog.Meets _ _ _ (if owners.intentAttested intentAssessment = false then _ else _)
          by_cases hattested : owners.intentAttested intentAssessment = false
          · rw [if_pos hattested]
            exact hquiet2.concluded fun _ _ _ _ _ _ h => nomatch h
          · rw [if_neg hattested]
            refine Prog.Meets.bind (meets_custody (fun _ _ => trivial) _
              (handoff_calls submission.custodyGate steps)) ?_
            rintro later result ⟨all, rfl, hhanded⟩
            have hquiet3 := quiet_custody hquiet2 all
            cases result with
            | error error => exact hquiet3.concluded fun _ _ _ _ _ _ h => nomatch h
            | ok handoff =>
                cases handoff with
                | rejected reason => exact hquiet3.concluded fun _ _ _ _ _ _ h => nomatch h
                | acquired attestation binding handle =>
                    obtain ⟨hid, hclaimed, hopened⟩ := hhanded attestation binding handle rfl
                    refine continue_meets binding hquiet3 ⟨?_, ?_, ?_, hid, ?_, ?_⟩
                    · exact List.mem_append_left _ (List.mem_append_left _ hissued)
                    · exact List.mem_append_left _ (mem_snoc_self _ _)
                    · exact Bool.eq_true_of_not_eq_false hattested
                    · exact List.mem_append_right _ (List.mem_map_of_mem hclaimed)
                    · exact List.mem_append_right _ (List.mem_map_of_mem hopened)

end Eag.GovernedPresentation
