/-
  Eag.Autonomous.ApprovalRuns

  Sequences of calls on one approval runtime: `request_approval`, `approve`,
  `reject` and the `resume` of a paused loop, in any order.

  Neither `approve` nor `reject` looks at the state of the request it replaces, and
  `resume` does not ask whether the request was decided. `decided_once_iff`: a
  history decides each request once exactly when no call decides against a decision
  that stands.
-/

import Eag.Autonomous.Runtime
import Eag.Foundation.Runs

namespace Eag.Autonomous

open Eag.Foundation

/-! ## Calls -/

/-- A call on the approval runtime, or on the loop that shares it. -/
inductive ApprovalCall where
  | request (id loopId : String) (iteration : Nat) (reason : String)
  | approve (requestId reviewer : String)
  | reject (requestId reviewer comments : String)
  | resume (loopResult : LoopResult) (approved : Bool) (reviewer : String)

namespace ApprovalCall

/-- The identity a call draws for a new request. -/
def requested? : ApprovalCall → Option String
  | .request id _ _ _ => some id
  | _ => none

/-- The request a call decides, and how. -/
def decision? : ApprovalCall → Option (String × ApprovalState)
  | .request .. => none
  | .approve requestId _ => some (requestId, .approved)
  | .reject requestId _ _ => some (requestId, .rejected)
  | .resume loopResult approved _ =>
      if loopResult.state = .waitingApproval then
        loopResult.pendingApprovalId.map fun id =>
          (id, if approved then .approved else .rejected)
      else none

/-- The approvals after a call that raised or returned them. -/
def settle (approvals : Approvals) : Except String Approvals → Approvals
  | .error _ => approvals
  | .ok after => after

/-- The approvals after a call. -/
def apply (approvals : Approvals) : ApprovalCall → Approvals
  | .request id loopId iteration reason =>
      approvals.requestApproval id loopId iteration reason
  | .approve requestId reviewer => settle approvals (approvals.approve requestId reviewer)
  | .reject requestId reviewer comments =>
      settle approvals (approvals.reject requestId reviewer comments)
  | .resume loopResult approved reviewer =>
      settle approvals ((Autonomous.resume approvals loopResult approved reviewer).map (·.1))

end ApprovalCall

/-- No identity is drawn twice, as `uuid4` promises. -/
abbrev FreshIds (calls : List ApprovalCall) : Prop :=
  (calls.filterMap ApprovalCall.requested?).Nodup

/-- The approvals of a new runtime after the first `n` of the calls. -/
def approvalsAfter (calls : List ApprovalCall) (n : Nat) : Approvals :=
  runFrom ApprovalCall.apply (fun _ => none) (calls.take n)

/-- The state of a request after the first `n` calls. -/
def stateAfter (calls : List ApprovalCall) (n : Nat) (id : String) : Option ApprovalState :=
  (approvalsAfter calls n).stateOf id

/-! ## What a call does -/

theorem stateOf_store (approvals : Approvals) (request : ApprovalRequest) (id : String) :
    (approvals.store request).stateOf id
      = if id = request.id then some request.state else approvals.stateOf id := by
  unfold Approvals.stateOf Approvals.store
  by_cases h : id = request.id
  · rw [if_pos h, h, Function.update_self]
    rfl
  · rw [if_neg h, Function.update_of_ne h]

/-- The requests are filed under their own identities. -/
def Filed (approvals : Approvals) : Prop :=
  ∀ id request, approvals id = some request → request.id = id

theorem filed_store {approvals : Approvals} (h : Filed approvals) (request : ApprovalRequest) :
    Filed (approvals.store request) := by
  intro id stored hstored
  unfold Approvals.store at hstored
  by_cases hid : id = request.id
  · rw [hid, Function.update_self] at hstored
    rw [hid, ← Option.some.inj hstored]
  · rw [Function.update_of_ne hid] at hstored
    exact h id stored hstored

/-- `approve` and `reject` overwrite the state of a stored request and touch no other. -/
theorem resolve_stateOf {approvals : Approvals} (hfiled : Filed approvals) (requestId : String)
    (state : ApprovalState) (reviewer : String) (comments : ApprovalRequest → String)
    (id : String) :
    (ApprovalCall.settle approvals
        (approvals.resolve requestId state reviewer comments)).stateOf id
      = if id = requestId ∧ approvals.stateOf id ≠ none then some state
        else approvals.stateOf id := by
  unfold Approvals.resolve
  cases hfound : approvals requestId with
  | none =>
      have hnone : approvals.stateOf requestId = none := by
        rw [Approvals.stateOf, hfound]
        rfl
      rw [if_neg]
      · rfl
      · rintro ⟨rfl, hsome⟩
        exact hsome hnone
  | some request =>
      have hid : request.id = requestId := hfiled requestId request hfound
      have hsome : approvals.stateOf requestId ≠ none := by
        rw [Approvals.stateOf, hfound]
        exact Option.some_ne_none _
      show Approvals.stateOf (approvals.store _) id = _
      rw [stateOf_store]
      by_cases h : id = requestId
      · subst h
        rw [if_pos hid.symm, if_pos ⟨rfl, hsome⟩]
      · rw [if_neg (fun heq => h (heq.trans hid)), if_neg (fun hboth => h hboth.1)]

theorem resolve_filed {approvals : Approvals} (hfiled : Filed approvals) (requestId : String)
    (state : ApprovalState) (reviewer : String) (comments : ApprovalRequest → String) :
    Filed (ApprovalCall.settle approvals
      (approvals.resolve requestId state reviewer comments)) := by
  unfold Approvals.resolve
  cases approvals requestId with
  | none => exact hfiled
  | some request => exact filed_store hfiled _

/-- A `resume` leaves the approvals as its decision does. -/
theorem apply_resume (approvals : Approvals) (loopResult : LoopResult) (approved : Bool)
    (reviewer : String) :
    ApprovalCall.apply approvals (.resume loopResult approved reviewer)
      = match (ApprovalCall.resume loopResult approved reviewer).decision? with
        | none => approvals
        | some (id, _) =>
            ApprovalCall.settle approvals (approvals.recordDecision id approved reviewer) := by
  simp only [ApprovalCall.apply, ApprovalCall.decision?, resume]
  by_cases hwaiting : loopResult.state = .waitingApproval
  · rw [if_neg (not_not_intro hwaiting), if_pos hwaiting]
    cases loopResult.pendingApprovalId with
    | none => rfl
    | some id =>
        dsimp only [Option.map]
        cases approvals.recordDecision id approved reviewer <;> rfl
  · rw [if_pos hwaiting, if_neg hwaiting]
    rfl

/-- A decision on a request that is there sets its state. -/
theorem apply_decision {approvals : Approvals} (hfiled : Filed approvals) {call : ApprovalCall}
    {requestId : String} {state : ApprovalState}
    (hdecision : call.decision? = some (requestId, state)) (id : String) :
    (ApprovalCall.apply approvals call).stateOf id
      = if id = requestId ∧ approvals.stateOf id ≠ none then some state
        else approvals.stateOf id := by
  cases call with
  | request => exact absurd hdecision (by simp [ApprovalCall.decision?])
  | approve =>
      obtain ⟨rfl, rfl⟩ := Prod.mk.inj (Option.some.inj hdecision)
      exact resolve_stateOf hfiled _ _ _ _ id
  | reject =>
      obtain ⟨rfl, rfl⟩ := Prod.mk.inj (Option.some.inj hdecision)
      exact resolve_stateOf hfiled _ _ _ _ id
  | resume loopResult approved reviewer =>
      rw [apply_resume, hdecision]
      simp only [ApprovalCall.decision?] at hdecision
      split at hdecision
      · obtain ⟨_, _, heq⟩ := Option.map_eq_some_iff.mp hdecision
        obtain ⟨rfl, rfl⟩ := Prod.mk.inj heq
        cases approved <;> exact resolve_stateOf hfiled _ _ _ _ id
      · exact absurd hdecision (by simp)

/-- A call that decides nothing and asks for nothing changes nothing. -/
theorem apply_idle (approvals : Approvals) {call : ApprovalCall}
    (hrequested : call.requested? = none) (hdecision : call.decision? = none) :
    ApprovalCall.apply approvals call = approvals := by
  cases call with
  | request => exact absurd hrequested (by simp [ApprovalCall.requested?])
  | approve => exact absurd hdecision (by simp [ApprovalCall.decision?])
  | reject => exact absurd hdecision (by simp [ApprovalCall.decision?])
  | resume => rw [apply_resume, hdecision]

/-- **What a call does to the state of a request**: it asks for the request, it decides the
    request, or it leaves the request as it was. -/
theorem apply_stateOf {approvals : Approvals} (hfiled : Filed approvals) (call : ApprovalCall)
    (id : String) :
    (call.requested? = some id ∧
        (ApprovalCall.apply approvals call).stateOf id = some .pending) ∨
    (∃ state, call.decision? = some (id, state) ∧ approvals.stateOf id ≠ none ∧
        (ApprovalCall.apply approvals call).stateOf id = some state) ∨
    ((ApprovalCall.apply approvals call).stateOf id = approvals.stateOf id) := by
  cases hdecision : call.decision? with
  | some decided =>
      obtain ⟨requestId, state⟩ := decided
      have hafter := apply_decision hfiled hdecision id
      by_cases h : id = requestId ∧ approvals.stateOf id ≠ none
      · rw [if_pos h] at hafter
        exact .inr (.inl ⟨state, by rw [h.1], h.2, hafter⟩)
      · rw [if_neg h] at hafter
        exact .inr (.inr hafter)
  | none =>
      cases hrequested : call.requested? with
      | none => exact .inr (.inr (by rw [apply_idle approvals hrequested hdecision]))
      | some requestId =>
          cases call with
          | request drawn loopId iteration reason =>
              obtain rfl : drawn = requestId := Option.some.inj hrequested
              have hafter := stateOf_store approvals
                ⟨drawn, loopId, iteration, reason, .pending, none, ""⟩ id
              by_cases h : id = drawn
              · rw [if_pos h] at hafter
                exact .inl ⟨by rw [h], hafter⟩
              · rw [if_neg h] at hafter
                exact .inr (.inr hafter)
          | approve => exact absurd hrequested (by simp [ApprovalCall.requested?])
          | reject => exact absurd hrequested (by simp [ApprovalCall.requested?])
          | resume => exact absurd hrequested (by simp [ApprovalCall.requested?])

theorem apply_filed {approvals : Approvals} (hfiled : Filed approvals) (call : ApprovalCall) :
    Filed (ApprovalCall.apply approvals call) := by
  cases call with
  | request id loopId iteration reason => exact filed_store hfiled _
  | approve requestId reviewer => exact resolve_filed hfiled _ _ _ _
  | reject requestId reviewer comments => exact resolve_filed hfiled _ _ _ _
  | resume loopResult approved reviewer =>
      rw [apply_resume]
      cases (ApprovalCall.resume loopResult approved reviewer).decision? with
      | none => exact hfiled
      | some decided => cases approved <;> exact resolve_filed hfiled _ _ _ _

/-- A resumed loop has the iterations of the paused one. -/
theorem resume_iterations {approvals after : Approvals} {loopResult result : LoopResult}
    {approved : Bool} {reviewer : String}
    (h : resume approvals loopResult approved reviewer = .ok (after, result)) :
    result.iterations = loopResult.iterations := by
  unfold resume at h
  split at h
  · exact absurd h (by simp)
  · cases hid : loopResult.pendingApprovalId with
    | none => simp [hid] at h
    | some id =>
        simp only [hid] at h
        cases hrecorded : approvals.recordDecision id approved reviewer with
        | error text => simp [hrecorded, bind, Except.bind] at h
        | ok recorded =>
            simp only [hrecorded, bind, Except.bind, Except.ok.injEq, Prod.mk.injEq] at h
            rw [← h.2]

/-! ## Histories -/

section History

variable {calls : List ApprovalCall}

theorem approvalsAfter_succ {n : Nat} {call : ApprovalCall} (h : calls[n]? = some call) :
    approvalsAfter calls (n + 1) = ApprovalCall.apply (approvalsAfter calls n) call := by
  unfold approvalsAfter
  rw [List.take_add_one, h, runFrom_append]
  rfl

theorem approvalsAfter_end {n : Nat} (h : calls[n]? = none) :
    approvalsAfter calls (n + 1) = approvalsAfter calls n := by
  unfold approvalsAfter
  rw [List.take_add_one, h, Option.toList_none, List.append_nil]

theorem approvalsAfter_filed (calls : List ApprovalCall) (n : Nat) :
    Filed (approvalsAfter calls n) := by
  refine runFrom_invariant (P := Filed) ApprovalCall.apply
    (fun _ call h => apply_filed h call) _ ?_
  intro id request h
  exact absurd h.symm (Option.some_ne_none request)

/-- What the call at a position does to the state of a request. -/
theorem stateAfter_succ (calls : List ApprovalCall) (n : Nat) (id : String) :
    (∃ call, calls[n]? = some call ∧ call.requested? = some id ∧
        stateAfter calls (n + 1) id = some .pending) ∨
    (∃ call state, calls[n]? = some call ∧ call.decision? = some (id, state) ∧
        stateAfter calls n id ≠ none ∧ stateAfter calls (n + 1) id = some state) ∨
    stateAfter calls (n + 1) id = stateAfter calls n id := by
  unfold stateAfter
  cases hcall : calls[n]? with
  | none => exact .inr (.inr (by rw [approvalsAfter_end hcall]))
  | some call =>
      rw [approvalsAfter_succ hcall]
      rcases apply_stateOf (approvalsAfter_filed calls n) call id with
        ⟨hrequest, hstate⟩ | ⟨state, hdecision, hfound, hstate⟩ | hsame
      · exact .inl ⟨call, rfl, hrequest, hstate⟩
      · exact .inr (.inl ⟨call, state, rfl, hdecision, hfound, hstate⟩)
      · exact .inr (.inr hsame)

/-- A request that is there was drawn by an earlier call. -/
theorem requested_of_stateAfter {n : Nat} {id : String} (h : stateAfter calls n id ≠ none) :
    ∃ m < n, ∃ call, calls[m]? = some call ∧ call.requested? = some id := by
  induction n with
  | zero => exact absurd rfl h
  | succ n ih =>
      have hearlier : stateAfter calls n id ≠ none →
          ∃ m < n + 1, ∃ call, calls[m]? = some call ∧ call.requested? = some id := by
        intro hstate
        obtain ⟨m, hm, hcall⟩ := ih hstate
        exact ⟨m, hm.trans n.lt_succ_self, hcall⟩
      rcases stateAfter_succ calls n id with ⟨call, hcall, hid, _⟩ | ⟨_, _, _, _, hfound, _⟩ | hsame
      · exact ⟨n, n.lt_succ_self, call, hcall, hid⟩
      · exact hearlier hfound
      · exact hearlier (hsame ▸ h)

/-- Two calls of a history with fresh identities draw different ones. -/
theorem requested_unique (hfresh : FreshIds calls) {m n : Nat} {c d : ApprovalCall} {id : String}
    (hm : calls[m]? = some c) (hn : calls[n]? = some d) (hc : c.requested? = some id)
    (hd : d.requested? = some id) : m = n := by
  by_contra hne
  -- say the first of the two positions is `m`; its identity is drawn again after it
  wlog hlt : m < n generalizing m n c d
  · exact this hn hm hd hc (Ne.symm hne) (by omega)
  have hlen : m < calls.length := (List.getElem?_eq_some_iff.mp hm).1
  have hsplit : calls = calls.take (m + 1) ++ calls.drop (m + 1) := (List.take_append_drop _ _).symm
  unfold FreshIds at hfresh
  rw [hsplit, List.filterMap_append] at hfresh
  have hbefore : id ∈ (calls.take (m + 1)).filterMap ApprovalCall.requested? := by
    refine List.mem_filterMap.mpr ⟨c, ?_, hc⟩
    refine List.mem_of_getElem? (?_ : (calls.take (m + 1))[m]? = some c)
    rw [List.getElem?_take_of_lt m.lt_succ_self]
    exact hm
  have hafter : id ∈ (calls.drop (m + 1)).filterMap ApprovalCall.requested? := by
    refine List.mem_filterMap.mpr ⟨d, ?_, hd⟩
    refine List.mem_of_getElem? (?_ : (calls.drop (m + 1))[n - (m + 1)]? = some d)
    rw [List.getElem?_drop, Nat.add_sub_cancel' hlt]
    exact hn
  exact (List.nodup_append.mp hfresh).2.2 id hbefore id hafter rfl

/-- With fresh identities, only a decision changes the state of a request that is there. -/
theorem stateAfter_step (hfresh : FreshIds calls) {n : Nat} {id : String}
    (h : stateAfter calls n id ≠ none) :
    (∃ call state, calls[n]? = some call ∧ call.decision? = some (id, state) ∧
        stateAfter calls (n + 1) id = some state) ∨
    stateAfter calls (n + 1) id = stateAfter calls n id := by
  rcases stateAfter_succ calls n id with ⟨call, hcall, hid, _⟩ | ⟨call, state, hcall, hd, _, hs⟩ |
    hsame
  · obtain ⟨m, hm, earlier, hearlier, hdrawn⟩ := requested_of_stateAfter h
    exact absurd (requested_unique hfresh hearlier hcall hdrawn hid) (by omega)
  · exact .inl ⟨call, state, hcall, hd, hs⟩
  · exact .inr hsame

end History

/-! ## Decided once -/

/-- The `n`-th call moves the request out of PENDING. -/
def LeavesPending (calls : List ApprovalCall) (id : String) (n : Nat) : Prop :=
  stateAfter calls n id = some .pending ∧ stateAfter calls (n + 1) id ≠ some .pending

/-- **An approval is decided once**: over the whole history, no request leaves PENDING twice,
    a rejected one is never approved later nor an approved one rejected, and no `resume`
    runs an iteration. -/
structure DecidedOnce (calls : List ApprovalCall) : Prop where
  leaves_once : ∀ id m n, LeavesPending calls id m → LeavesPending calls id n → m = n
  rejected_final : ∀ id m n, m ≤ n → stateAfter calls m id = some .rejected →
    stateAfter calls n id ≠ some .approved
  approved_final : ∀ id m n, m ≤ n → stateAfter calls m id = some .approved →
    stateAfter calls n id ≠ some .rejected
  no_iteration : ∀ n loopResult approved reviewer after result,
    calls[n]? = some (.resume loopResult approved reviewer) →
    resume (approvalsAfter calls n) loopResult approved reviewer = .ok (after, result) →
    result.iterations = loopResult.iterations

/-- The states a decision must not meet. -/
def Opposed (state other : ApprovalState) : Prop :=
  (state = .approved ∧ other = .rejected) ∨ (state = .rejected ∧ other = .approved)

/-- No call decides a request against the decision that stands. -/
def KeepsDecisions (calls : List ApprovalCall) : Prop :=
  ∀ (n : Nat) (call : ApprovalCall) (id : String) (state standing : ApprovalState),
    calls[n]? = some call → call.decision? = some (id, state) →
    stateAfter calls n id = some standing → ¬ Opposed state standing

theorem decision_state {call : ApprovalCall} {id : String} {state : ApprovalState}
    (h : call.decision? = some (id, state)) : state = .approved ∨ state = .rejected := by
  cases call with
  | request => exact absurd h (by simp [ApprovalCall.decision?])
  | approve => exact .inl (Prod.mk.inj (Option.some.inj h)).2.symm
  | reject => exact .inr (Prod.mk.inj (Option.some.inj h)).2.symm
  | resume loopResult approved reviewer =>
      simp only [ApprovalCall.decision?] at h
      split at h
      · obtain ⟨_, _, heq⟩ := Option.map_eq_some_iff.mp h
        rw [← (Prod.mk.inj heq).2]
        cases approved
        · exact .inr rfl
        · exact .inl rfl
      · exact absurd h (by simp)

section

variable {calls : List ApprovalCall}

/-- A decision stands to the end when no call decides against it. -/
theorem decision_stands (hfresh : FreshIds calls) (hkeeps : KeepsDecisions calls) {id : String}
    {state : ApprovalState} (hdecided : state = .approved ∨ state = .rejected) {m n : Nat}
    (hle : m ≤ n) (h : stateAfter calls m id = some state) :
    stateAfter calls n id = some state := by
  induction n, hle using Nat.le_induction with
  | base => exact h
  | succ n _ ih =>
      have hfound : stateAfter calls n id ≠ none := by
        rw [ih]
        exact Option.some_ne_none _
      rcases stateAfter_step hfresh hfound with
        ⟨call, other, hcall, hdecision, hafter⟩ | hsame
      · -- the call decides the request again; only the same way is not opposed
        have hopposed := hkeeps n call id other state hcall hdecision ih
        have hother := decision_state hdecision
        have heq : other = state := by
          rcases hdecided with rfl | rfl <;> rcases hother with rfl | rfl
          · rfl
          · exact absurd (.inr ⟨rfl, rfl⟩) hopposed
          · exact absurd (.inl ⟨rfl, rfl⟩) hopposed
          · rfl
        rw [hafter, heq]
      · rw [hsame, ih]

/-- A request that leaves PENDING is decided from then on. -/
theorem leavesPending_decided (hfresh : FreshIds calls) (hkeeps : KeepsDecisions calls)
    {id : String} {m n : Nat} (hleaves : LeavesPending calls id m) (hlt : m < n) :
    stateAfter calls n id ≠ some .pending := by
  obtain ⟨hpending, hleft⟩ := hleaves
  have hfound : stateAfter calls m id ≠ none := by
    rw [hpending]
    exact Option.some_ne_none _
  rcases stateAfter_step hfresh hfound with
    ⟨_, state, _, hdecision, hafter⟩ | hsame
  · have hdecided := decision_state hdecision
    rw [decision_stands hfresh hkeeps hdecided hlt hafter]
    rcases hdecided with rfl | rfl <;> simp
  · exact absurd (hsame.trans hpending) hleft

theorem decidedOnce_of_keepsDecisions (hfresh : FreshIds calls)
    (hkeeps : KeepsDecisions calls) : DecidedOnce calls where
  leaves_once := by
    intro id m n hm hn
    by_contra hne
    rcases Nat.lt_or_gt_of_ne hne with hlt | hlt
    · exact leavesPending_decided hfresh hkeeps hm hlt hn.1
    · exact leavesPending_decided hfresh hkeeps hn hlt hm.1
  rejected_final := by
    intro id m n hle h
    rw [decision_stands hfresh hkeeps (.inr rfl) hle h]
    simp
  approved_final := by
    intro id m n hle h
    rw [decision_stands hfresh hkeeps (.inl rfl) hle h]
    simp
  no_iteration := by
    intro n loopResult approved reviewer after result _ hresume
    exact resume_iterations hresume

/-- The call that decides a request sets its state. -/
theorem stateAfter_decision {n : Nat} {call : ApprovalCall} {id : String}
    {state : ApprovalState} (hcall : calls[n]? = some call)
    (hdecision : call.decision? = some (id, state)) (hfound : stateAfter calls n id ≠ none) :
    stateAfter calls (n + 1) id = some state := by
  unfold stateAfter
  rw [approvalsAfter_succ hcall, apply_decision (approvalsAfter_filed calls n) hdecision,
    if_pos ⟨rfl, hfound⟩]

/-- **When approvals are decided once**: exactly when no call decides a request against the
    decision that stands. -/
theorem decided_once_iff (hfresh : FreshIds calls) :
    DecidedOnce calls ↔ KeepsDecisions calls := by
  constructor
  · intro honce n call id state standing hcall hdecision hstanding hopposed
    have hafter : stateAfter calls (n + 1) id = some state :=
      stateAfter_decision hcall hdecision (by rw [hstanding]; exact Option.some_ne_none _)
    rcases hopposed with ⟨rfl, rfl⟩ | ⟨rfl, rfl⟩
    · exact honce.rejected_final id n (n + 1) n.le_succ hstanding hafter
    · exact honce.approved_final id n (n + 1) n.le_succ hstanding hafter
  · exact decidedOnce_of_keepsDecisions hfresh

end

/-- A rejected request is approved afterwards. -/
def approvedAfterRejection : List ApprovalCall :=
  [.request "r1" "loop" 1 "Critical change", .reject "r1" "human" "", .approve "r1" "human"]

theorem not_decidedOnce_approvedAfterRejection :
    FreshIds approvedAfterRejection ∧ ¬ DecidedOnce approvedAfterRejection := by
  refine ⟨by decide, fun honce => ?_⟩
  exact honce.rejected_final "r1" 2 3 (by decide) rfl rfl

/-- A request is approved, and the paused loop resumed on it. -/
def approvedThenResumed : List ApprovalCall :=
  [.request "r1" "loop" 1 "Critical change", .approve "r1" "human",
    .resume (loopPaused "loop" [] exhaustionDecision "r1") true "human"]

theorem decidedOnce_approvedThenResumed : DecidedOnce approvedThenResumed := by
  refine (@decided_once_iff approvedThenResumed (by decide)).mpr ?_
  intro n call id state standing hcall hdecision hstanding hopposed
  -- both decisions approve, and nothing was rejected before
  have hrejected : ∀ n < 3, stateAfter approvedThenResumed n "r1" ≠ some .rejected := by
    decide
  have hdecided : state = .approved ∧ id = "r1" ∧ n < 3 := by
    match n, hcall with
    | 0, rfl => exact absurd hdecision (by simp [ApprovalCall.decision?])
    | 1, rfl =>
        obtain ⟨rfl, rfl⟩ := Prod.mk.inj (Option.some.inj hdecision)
        exact ⟨rfl, rfl, by decide⟩
    | 2, rfl =>
        obtain ⟨rfl, rfl⟩ := Prod.mk.inj (Option.some.inj hdecision)
        exact ⟨rfl, rfl, by decide⟩
  obtain ⟨rfl, rfl, hn⟩ := hdecided
  rcases hopposed with ⟨_, rfl⟩ | ⟨hstate, _⟩
  · exact hrejected n hn hstanding
  · exact absurd hstate (by decide)

end Eag.Autonomous
