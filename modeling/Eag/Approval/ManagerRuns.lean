/-
  Eag.Approval.ManagerRuns

  Calls of any number of managers on one approval store, interleaved at its atomic
  operations.

  `reserve`, `release` and `consume` move a status only from the one they expect.
  The other calls save the request they read before, whatever has become of it
  since; and a `reserve` that reads a reserved request does not ask whether it is
  due. `approvals_safe_iff` says that these are the only ways in which an approval
  can be used twice, late, or after it was settled.
-/

import Eag.Approval.Manager

namespace Eag.Approval

open Eag.Foundation

variable {Command : Type}

/-! ## Calls and histories -/

/-- A call on a manager, with the time it takes for the present. -/
inductive ManagerCall (Command : Type) where
  | create (id : String) (command : Command) (policyOutcome : PolicyOutcome)
      (expiresAt : Option DateTime) (now : DateTime)
  | approve (approvalId : String) (reason : Option String) (now : DateTime)
  | reject (approvalId : String) (reason : Option String) (now : DateTime)
  | expire (approvalId : String) (now : DateTime)
  | reserve (approvalId : String) (command : Command) (now : DateTime)
  | release (approvalId : String)
  | consume (approvalId : String) (command : Command) (now : DateTime)

namespace ManagerCall

/-- The program of a call. -/
def prog [DecidableEq Command] :
    ManagerCall Command → Manager Command (ApprovalRequest Command)
  | .create id command policyOutcome expiresAt now =>
      Approval.create id command policyOutcome expiresAt now
  | .approve approvalId reason now => Approval.approve approvalId reason now
  | .reject approvalId reason now => Approval.reject approvalId reason now
  | .expire approvalId now => Approval.expire approvalId now
  | .reserve approvalId command now => Approval.reserve approvalId command now
  | .release approvalId => Approval.release approvalId
  | .consume approvalId command now => Approval.consume approvalId command now

end ManagerCall

/-- An operation with what it answered. -/
abbrev StoreEvent (Command : Type) : Type := Sigma (@StoreReply Command)

variable {ι : Type}

/-- The store after a history that began with an empty one. -/
def storeAfter (h : List (ι × StoreEvent Command)) : ApprovalStore Command :=
  replay storeStep (fun _ => none) h

/-- The status of an approval after a history. -/
def statusAfter (h : List (ι × StoreEvent Command)) (id : String) : Option ApprovalStatus :=
  (storeAfter h id).map (·.status)

/-- The operation moved the approval to RESERVED. -/
def Reserves (id : String) (e : StoreEvent Command) : Prop :=
  ∃ replacement, e = ⟨.transition id .approved replacement, .ok true⟩ ∧
    replacement.status = .reserved

/-- The operation moved the approval to CONSUMED. -/
def Consumes (id : String) (e : StoreEvent Command) : Prop :=
  ∃ replacement, e = ⟨.transition id .reserved replacement, .ok true⟩ ∧
    replacement.status = .consumed

/-! ## Safety -/

/-- **Approvals are used safely** over a history: a terminal status is never left, a rejected
    approval is never approved or reserved later, each approval is consumed at most once and
    only after a reservation of it for an equal command, and no reservation succeeds at or
    after the expiry. -/
structure ApprovalsSafe (calls : ι → ManagerCall Command) (h : List (ι × StoreEvent Command)) :
    Prop where
  terminal_kept : ∀ earlier later, earlier <+: later → later <+: h → ∀ id status,
    status.IsTerminal → statusAfter earlier id = some status →
    statusAfter later id = some status
  rejected_final : ∀ earlier later, earlier <+: later → later <+: h → ∀ id,
    statusAfter earlier id = some .rejected →
    statusAfter later id ≠ some .approved ∧ statusAfter later id ≠ some .reserved
  consumed_once : ∀ before e middle e' after, h = before ++ e :: (middle ++ e' :: after) →
    ∀ id, Consumes id e.2 → ¬ Consumes id e'.2
  consumed_reserved : AtEach (fun before e => ∀ id, Consumes id e.2 →
    ∃ reservation ∈ before, Reserves id reservation.2 ∧ ∃ command now now',
      calls reservation.1 = .reserve id command now ∧ calls e.1 = .consume id command now') h
  reserved_unexpired : AtEach (fun before e => ∀ id, Reserves id e.2 →
    ∃ command now request, calls e.1 = .reserve id command now ∧
      storeAfter before id = some request ∧ ¬ request.Expired now) h

/-- At every save, no other call has settled the approval to another status since it was
    read. -/
def SavesUnsettled (h : List (ι × StoreEvent Command)) : Prop :=
  AtEach (fun before e => ∀ request reply, e.2 = ⟨.save request, reply⟩ →
    ∀ stored, storeAfter before request.id = some stored → stored.status.IsTerminal →
      stored.status = request.status) h

/-- When a `reserve` finds the approval approved, it had read it as pending or approved, so
    that it had asked whether it is due, or it is not due. -/
def ReservesUnexpired (calls : ι → ManagerCall Command) (h : List (ι × StoreEvent Command)) :
    Prop :=
  AtEach (fun before e => ∀ id command now replacement reply,
    calls e.1 = .reserve id command now →
    e.2 = ⟨.transition id .approved replacement, reply⟩ →
    statusAfter before id = some .approved →
    ∀ read, (e.1, ⟨.get id, .ok read⟩) ∈ before →
      read.status = .pending ∨ read.status = .approved ∨ ¬ read.Expired now) h

/-! ## What a call does -/

/-- The request kept what an approval is about: its identity, its command and its expiry. -/
def SameTerms (request renewed : ApprovalRequest Command) : Prop :=
  renewed.id = request.id ∧ renewed.command = request.command ∧
  renewed.expiresAt = request.expiresAt

/-- The moves of a status by compare and set. -/
def Moves (call : ManagerCall Command) (id : String) (read : ApprovalRequest Command)
    (expected status : ApprovalStatus) : Prop :=
  (∃ now, call = .reserve id read.command now ∧ expected = .approved ∧ status = .reserved ∧
    (read.status = .pending ∨ read.status = .approved → ¬ read.Expired now)) ∨
  (expected = .reserved ∧ status = .approved) ∨
  (∃ now, call = .consume id read.command now ∧ expected = .reserved ∧ status = .consumed)

/-- What an operation of a call may be, given those it performed before. -/
def Permitted (call : ManagerCall Command) (mine : List (StoreEvent Command)) :
    StoreEvent Command → Prop
  | ⟨.add request, _⟩ => request.status = .pending
  | ⟨.get _, _⟩ => True
  | ⟨.save request, _⟩ => ∃ id read, ⟨.get id, .ok read⟩ ∈ mine ∧ SameTerms read request ∧
      (request.status = .approved ∨ request.status = .rejected ∨ request.status = .expired)
  | ⟨.transition id expected replacement, _⟩ => ∃ read, ⟨.get id, .ok read⟩ ∈ mine ∧
      SameTerms read replacement ∧ Moves call id read expected replacement.status

/-- What a call that returned has done. -/
def Effective (call : ManagerCall Command) (mine : List (StoreEvent Command))
    (result : Except ApprovalError (ApprovalRequest Command)) : Prop :=
  ∀ request, result = .ok request → ∀ id command now,
    (call = .reserve id command now → ∃ e ∈ mine, Reserves id e) ∧
    (call = .consume id command now → ∃ e ∈ mine, Consumes id e)

section Meets

variable {call : ManagerCall Command} {mine : List (StoreEvent Command)}

theorem effective_error (error : ApprovalError) : Effective call mine (.error error) := by
  intro request h
  cases h

/-- A request that is read is expired when it is due, or is as it was read. -/
theorem expireIfNeeded_meets {id : String} {request : ApprovalRequest Command} {now : DateTime}
    (hread : ⟨.get id, .ok request⟩ ∈ mine) :
    (expireIfNeeded request now).run.Meets (Permitted call)
      (fun later result => ∀ r, result = .ok r → r.status = .expired ∨
        (r = request ∧ ⟨.get id, .ok request⟩ ∈ later ∧
          (request.status = .pending ∨ request.status = .approved → ¬ request.Expired now)))
      mine := by
  unfold expireIfNeeded
  split
  · cases hpast : request.isExpired now with
    | error error =>
        intro r h
        cases h
    | ok past =>
        cases past with
        | false =>
            rintro r ⟨⟩
            refine .inr ⟨rfl, hread, fun _ hexpired => ?_⟩
            rw [ApprovalRequest.Expired, hpast] at hexpired
            cases hexpired
        | true =>
            refine Prog.meets_ask (fun error => ⟨?_, ?_⟩) fun _ => ⟨?_, ?_⟩
            · exact ⟨id, request, hread, ⟨rfl, rfl, rfl⟩, .inr (.inr rfl)⟩
            · intro r h
              cases h
            · exact ⟨id, request, hread, ⟨rfl, rfl, rfl⟩, .inr (.inr rfl)⟩
            · rintro r ⟨⟩
              exact .inl rfl
  · rename_i hstatus
    rintro r ⟨⟩
    exact .inr ⟨rfl, hread, fun h => absurd h hstatus⟩

/-- What a call begins with is a request that it read, and that it knows not to be due when it
    is pending or approved. -/
theorem unexpired_meets (id : String) (now : DateTime) :
    (@unexpired Command id now).run.Meets (Permitted call)
      (fun later result => ∀ r, result = .ok r → ⟨.get id, .ok r⟩ ∈ later ∧
        (r.status = .pending ∨ r.status = .approved → ¬ r.Expired now))
      mine := by
  unfold unexpired
  refine Prog.meets_ask (fun error => ⟨trivial, ?_⟩) fun request => ⟨trivial, ?_⟩
  · intro r h
    cases h
  · have hread : (⟨.get id, .ok request⟩ : StoreEvent Command)
        ∈ mine ++ [⟨.get id, .ok request⟩] := List.mem_append_right _ List.mem_cons_self
    refine Prog.meets_bind (expireIfNeeded_meets hread) ?_ ?_
    · intro later error _ r h
      cases h
    · intro later r hr
      split
      · intro r' h
        cases h
      · rename_i hstatus
        rintro r' ⟨⟩
        rcases hr r rfl with hexpired | ⟨rfl, hlater, hdue⟩
        · exact absurd hexpired hstatus
        · exact ⟨hlater, hdue⟩

/-- The transition of a status, and the error when another call moved it first. -/
theorem moveStatus_meets {id : String} {expected : ApprovalStatus}
    {read replacement : ApprovalRequest Command} (action : String)
    (hread : ⟨.get id, .ok read⟩ ∈ mine) (hterms : SameTerms read replacement)
    (hmoves : Moves call id read expected replacement.status) :
    (moveStatus id expected replacement action).run.Meets (Permitted call)
      (fun later result => ∀ r, result = .ok r →
        ⟨.transition id expected replacement, .ok true⟩ ∈ later) mine := by
  unfold moveStatus
  refine Prog.meets_ask (fun error => ⟨⟨read, hread, hterms, hmoves⟩, ?_⟩)
    fun transitioned => ⟨⟨read, hread, hterms, hmoves⟩, ?_⟩
  · intro r h
    cases h
  · cases transitioned with
    | true =>
        rintro r ⟨⟩
        exact List.mem_append_right _ List.mem_cons_self
    | false =>
        refine Prog.meets_ask (fun error => ⟨trivial, ?_⟩) fun current => ⟨trivial, ?_⟩
        all_goals
          intro r h
          cases h

/-- `approve` and `reject` save what they read with another status. -/
theorem save_meets {id action : String} {now : DateTime}
    (decided : ApprovalRequest Command → ApprovalRequest Command)
    (hterms : ∀ request, SameTerms request (decided request))
    (hstatus : ∀ request, (decided request).status = .approved ∨
      (decided request).status = .rejected) :
    (do
      let request ← unexpired id now
      requireStatus request .pending action
      ask (.save (decided request))
      return decided request : Manager Command (ApprovalRequest Command)).run.Meets
      (Permitted call) (fun _ _ => True) mine := by
  refine Prog.meets_bind (unexpired_meets id now) (fun _ _ _ => trivial) ?_
  intro later request hrequest
  unfold requireStatus
  split
  · have hpermitted : ∀ reply, Permitted call later ⟨.save (decided request), reply⟩ :=
      fun reply => ⟨id, request, (hrequest request rfl).1, hterms request,
        (hstatus request).imp_right Or.inl⟩
    exact Prog.meets_ask (fun error => ⟨hpermitted _, trivial⟩) fun _ => ⟨hpermitted _, trivial⟩
  · exact trivial

theorem expire_meets (id : String) (now : DateTime) :
    (@expire Command id now).run.Meets (Permitted call) (fun _ _ => True) mine := by
  unfold expire
  refine Prog.meets_ask (fun error => ⟨trivial, trivial⟩) fun request => ⟨trivial, ?_⟩
  split
  · exact trivial
  · cases request.isExpired now with
    | error error => exact trivial
    | ok past =>
        cases past with
        | false => exact trivial
        | true =>
            have hpermitted : ∀ reply, Permitted call (mine ++ [⟨.get id, .ok request⟩])
                ⟨.save { request with status := .expired }, reply⟩ :=
              fun reply => ⟨id, request, List.mem_append_right _ List.mem_cons_self,
                ⟨rfl, rfl, rfl⟩, .inr (.inr rfl)⟩
            exact Prog.meets_ask (fun error => ⟨hpermitted _, trivial⟩)
              fun _ => ⟨hpermitted _, trivial⟩

theorem release_meets (id : String) :
    (@release Command id).run.Meets (Permitted call) (fun _ _ => True) mine := by
  unfold release
  refine Prog.meets_ask (fun error => ⟨trivial, trivial⟩) fun request => ⟨trivial, ?_⟩
  refine Prog.Meets.imp (moveStatus_meets "release"
    (List.mem_append_right _ List.mem_cons_self) ?_ ?_) fun _ _ _ => trivial
  · exact ⟨rfl, rfl, rfl⟩
  · exact .inr (.inl ⟨rfl, rfl⟩)

theorem create_meets (id : String) (command : Command) (policyOutcome : PolicyOutcome)
    (expiresAt : Option DateTime) (now : DateTime) :
    (create id command policyOutcome expiresAt now).run.Meets (Permitted call)
      (fun _ _ => True) mine := by
  unfold create
  cases hnew : newApprovalRequest id command policyOutcome expiresAt now with
  | error error => exact trivial
  | ok request =>
      have hpending : request.status = .pending := newApprovalRequest_pending hnew
      exact Prog.meets_ask (fun error => ⟨hpending, trivial⟩) fun _ => ⟨hpending, trivial⟩

variable [DecidableEq Command]

theorem reserve_meets (id : String) (command : Command) (now : DateTime) :
    (reserve id command now).run.Meets (Permitted (.reserve id command now))
      (Effective (.reserve id command now)) mine := by
  unfold reserve
  refine Prog.meets_bind (unexpired_meets id now) (fun _ error _ => effective_error error) ?_
  intro later request hrequest
  obtain ⟨hread, hdue⟩ := hrequest request rfl
  split
  · exact effective_error _
  · rename_i hcommand
    rw [not_not] at hcommand
    subst hcommand
    refine Prog.Meets.imp (moveStatus_meets "reserve" hread ?_ ?_) fun last result hmoved => ?_
    · exact ⟨rfl, rfl, rfl⟩
    · exact .inl ⟨now, rfl, rfl, rfl, hdue⟩
    · intro r hr id' command' now'
      refine ⟨?_, fun h => by cases h⟩
      rintro ⟨⟩
      exact ⟨_, hmoved r hr, _, rfl, rfl⟩

theorem consume_meets (id : String) (command : Command) (now : DateTime) :
    (consume id command now).run.Meets (Permitted (.consume id command now))
      (Effective (.consume id command now)) mine := by
  unfold consume
  refine Prog.meets_bind (unexpired_meets id now) (fun _ error _ => effective_error error) ?_
  intro later request hrequest
  obtain ⟨hread, -⟩ := hrequest request rfl
  unfold requireStatus
  split
  · change Prog.Meets _ _ later (ExceptT.run (if request.command ≠ command then _ else _))
    split
    · -- the reservation is released, and the call fails
      refine Prog.meets_bind (release_meets id) (fun _ error _ => effective_error error) ?_
      exact fun _ _ _ => effective_error _
    · rename_i hcommand
      rw [not_not] at hcommand
      subst hcommand
      refine Prog.Meets.imp (moveStatus_meets "consume" hread ?_ ?_) fun last result hmoved => ?_
      · exact ⟨rfl, rfl, rfl⟩
      · exact .inr (.inr ⟨now, rfl, rfl, rfl⟩)
      · intro r hr id' command' now'
        refine ⟨fun h => (by cases h), ?_⟩
        rintro ⟨⟩
        exact ⟨_, hmoved r hr, _, rfl, rfl⟩
  · exact effective_error _

/-- **Every operation of a call is one that is permitted to it.** -/
theorem call_meets (call : ManagerCall Command) :
    call.prog.run.Meets (Permitted call) (Effective call) [] := by
  -- a call that neither reserves nor consumes has nothing to show for its result
  have hother : ∀ {p : Manager Command (ApprovalRequest Command)},
      (∀ id command now, call ≠ .reserve id command now ∧ call ≠ .consume id command now) →
      p.run.Meets (Permitted call) (fun _ _ => True) [] →
      p.run.Meets (Permitted call) (Effective call) [] := by
    intro p hcall hp
    refine hp.imp fun later result _ r _ id command now => ?_
    exact ⟨fun h => absurd h (hcall id command now).1, fun h => absurd h (hcall id command now).2⟩
  cases call with
  | create id command policyOutcome expiresAt now =>
      exact hother (by simp) (create_meets id command policyOutcome expiresAt now)
  | approve id reason now =>
      exact hother (by simp) (save_meets _ (fun _ => ⟨rfl, rfl, rfl⟩) fun _ => .inl rfl)
  | reject id reason now =>
      exact hother (by simp) (save_meets _ (fun _ => ⟨rfl, rfl, rfl⟩) fun _ => .inr rfl)
  | expire id now => exact hother (by simp) (expire_meets id now)
  | reserve id command now => exact reserve_meets id command now
  | release id => exact hother (by simp) (release_meets id)
  | consume id command now => exact consume_meets id command now

end Meets

/-! ## Histories of calls -/

section Histories

variable [DecidableEq ι] (calls : ι → ManagerCall Command)

/-- Each operation of the history got its reply from the store, and is permitted to its call. -/
def Valid (h : List (ι × StoreEvent Command)) : Prop :=
  AtEach (fun before e => e.2.2 = (storeStep (storeAfter before) () e.2.1).2 ∧
    Permitted (calls e.1) (projection e.1 before) e.2) h

/-- The histories of interleaved calls are valid. -/
theorem valid_run [DecidableEq Command] (schedule : List (ι × Unit)) :
    Valid calls ((Config.start (fun _ => none) fun i => (calls i).prog.run).run storeStep
      schedule).history := by
  obtain ⟨-, hreplies⟩ := Config.run_replay storeStep (fun _ => none)
    (fun i => (calls i).prog.run) schedule
  intro before e after heq
  exact ⟨hreplies before e after heq,
    Config.run_meets storeStep _ (fun i => call_meets (calls i)) schedule heq⟩

/-- What the store says of each approval, and what is known of the requests read before. -/
structure Sound (h : List (ι × StoreEvent Command)) : Prop where
  filed : ∀ id request, storeAfter h id = some request → request.id = id
  kept : ∀ i id read, (i, ⟨.get id, .ok read⟩) ∈ h →
    ∃ stored, storeAfter h id = some stored ∧ SameTerms read stored
  reserved : ∀ id stored, storeAfter h id = some stored → stored.status = .reserved →
    ∃ e ∈ h, Reserves id e.2 ∧ ∃ now, calls e.1 = .reserve id stored.command now

variable {calls}

omit [DecidableEq ι] in
theorem storeAfter_snoc (h : List (ι × StoreEvent Command)) (e : ι × StoreEvent Command) :
    storeAfter (h ++ [e]) = (storeStep (storeAfter h) () e.2.1).1 :=
  replay_snoc storeStep _ h e

theorem put_self (store : ApprovalStore Command) (request : ApprovalRequest Command) :
    store.put request request.id = some request :=
  Function.update_self ..

theorem put_of_ne {store : ApprovalStore Command} {request : ApprovalRequest Command}
    {id : String} (h : id ≠ request.id) : store.put request id = store id :=
  Function.update_of_ne h ..

theorem SameTerms.of_read {read stored renewed : ApprovalRequest Command}
    (hstored : SameTerms read stored) (hrenewed : SameTerms read renewed) :
    SameTerms stored renewed :=
  ⟨hrenewed.1.trans hstored.1.symm, hrenewed.2.1.trans hstored.2.1.symm,
    hrenewed.2.2.trans hstored.2.2.symm⟩

/-- What an operation did to an approval. -/
inductive Effect (calls : ι → ManagerCall Command) (h : List (ι × StoreEvent Command))
    (e : ι × StoreEvent Command) (id : String) : Prop where
  | unchanged (hsame : storeAfter (h ++ [e]) id = storeAfter h id)
  | created (request : ApprovalRequest Command) (hnone : storeAfter h id = none)
      (hafter : storeAfter (h ++ [e]) id = some request) (hid : request.id = id)
      (hpending : request.status = .pending)
  | saved (stored request : ApprovalRequest Command)
      (hstored : storeAfter h id = some stored) (hterms : SameTerms stored request)
      (hsave : ∃ reply, e.2 = ⟨.save request, reply⟩)
      (hafter : storeAfter (h ++ [e]) id = some request)
      (hstatus : request.status = .approved ∨ request.status = .rejected ∨
        request.status = .expired)
  | moved (stored replacement read : ApprovalRequest Command) (expected : ApprovalStatus)
      (hstored : storeAfter h id = some stored) (hterms : SameTerms stored replacement)
      (hexpected : stored.status = expected)
      (hmove : e.2 = ⟨.transition id expected replacement, .ok true⟩)
      (hafter : storeAfter (h ++ [e]) id = some replacement)
      (hread : (e.1, ⟨.get id, .ok read⟩) ∈ h) (hreadTerms : SameTerms read stored)
      (hmoves : Moves (calls e.1) id read expected replacement.status)

/-- **Step lemma.** What an operation does to an approval. -/
theorem effect_of_valid {h : List (ι × StoreEvent Command)} {e : ι × StoreEvent Command}
    (hvalid : Valid calls (h ++ [e])) (hsound : Sound calls h) (id : String) :
    Effect calls h e id := by
  obtain ⟨-, hreply, hpermitted⟩ := hvalid.of_snoc
  have hafter := storeAfter_snoc h e
  obtain ⟨i, op, reply⟩ := e
  dsimp only at hreply hpermitted hafter
  cases op with
  | add request =>
      cases hfree : storeAfter h request.id with
      | some stored => exact .unchanged (by rw [hafter, storeStep, hfree])
      | none =>
          rw [storeStep, hfree] at hafter
          by_cases hid : id = request.id
          · subst hid
            exact .created request hfree (by rw [hafter]; exact put_self ..) rfl hpermitted
          · exact .unchanged (by rw [hafter]; exact put_of_ne hid)
  | get approvalId =>
      refine .unchanged ?_
      rw [hafter, storeStep]
      cases storeAfter h approvalId <;> rfl
  | save request =>
      obtain ⟨readId, read, hmem, hterms, hstatus⟩ := hpermitted
      obtain ⟨stored, hstored, hreadTerms⟩ := hsound.kept i readId read (mem_projection.mp hmem)
      have hid : request.id = readId := by
        rw [hterms.1, ← hreadTerms.1]
        exact hsound.filed readId stored hstored
      subst hid
      rw [storeStep, hstored] at hafter
      by_cases hid : id = request.id
      · subst hid
        exact .saved stored request hstored (hreadTerms.of_read hterms) ⟨reply, rfl⟩
          (by rw [hafter]; exact put_self ..) hstatus
      · exact .unchanged (by rw [hafter]; exact put_of_ne hid)
  | transition approvalId expected replacement =>
      obtain ⟨read, hmem, hterms, hmoves⟩ := hpermitted
      have hread := mem_projection.mp hmem
      obtain ⟨stored, hstored, hreadTerms⟩ := hsound.kept i approvalId read hread
      have hid : replacement.id = approvalId := by
        rw [hterms.1, ← hreadTerms.1]
        exact hsound.filed approvalId stored hstored
      subst hid
      simp only [storeStep, hstored, ne_eq, not_true_eq_false, if_false] at hafter hreply
      by_cases hexpected : stored.status = expected
      · rw [if_neg (not_not_intro hexpected)] at hafter hreply
        by_cases hid : id = replacement.id
        · subst hid
          refine .moved stored replacement read expected hstored (hreadTerms.of_read hterms)
            hexpected ?_ (by rw [hafter]; exact put_self ..) hread hreadTerms hmoves
          rw [hreply]
        · exact .unchanged (by rw [hafter]; exact put_of_ne hid)
      · rw [if_pos hexpected] at hafter
        exact .unchanged (by rw [hafter])

theorem SameTerms.trans {a b c : ApprovalRequest Command} (hab : SameTerms a b)
    (hbc : SameTerms b c) : SameTerms a c :=
  ⟨hbc.1.trans hab.1, hbc.2.1.trans hab.2.1, hbc.2.2.trans hab.2.2⟩

theorem SameTerms.refl (a : ApprovalRequest Command) : SameTerms a a := ⟨rfl, rfl, rfl⟩

omit [DecidableEq ι] in
/-- An approval that is there stays there, on the same terms. -/
theorem Effect.kept {h : List (ι × StoreEvent Command)} {e : ι × StoreEvent Command}
    {id : String} (heffect : Effect calls h e id) {stored : ApprovalRequest Command}
    (hstored : storeAfter h id = some stored) :
    ∃ after, storeAfter (h ++ [e]) id = some after ∧ SameTerms stored after := by
  cases heffect with
  | unchanged hsame => exact ⟨stored, hsame.trans hstored, .refl stored⟩
  | created _ hnone => exact absurd (hnone.symm.trans hstored) (by simp)
  | saved stored' request hstored' hterms _ hafter =>
      obtain rfl : stored' = stored := Option.some.inj (hstored'.symm.trans hstored)
      exact ⟨request, hafter, hterms⟩
  | moved stored' replacement _ _ hstored' hterms _ _ hafter =>
      obtain rfl : stored' = stored := Option.some.inj (hstored'.symm.trans hstored)
      exact ⟨replacement, hafter, hterms⟩

theorem Sound.snoc {h : List (ι × StoreEvent Command)} {e : ι × StoreEvent Command}
    (hsound : Sound calls h) (hvalid : Valid calls (h ++ [e])) : Sound calls (h ++ [e]) where
  filed := by
    intro id request hrequest
    cases effect_of_valid hvalid hsound id with
    | unchanged hsame => exact hsound.filed id request (hsame ▸ hrequest)
    | created created _ hafter hid =>
        rwa [← Option.some.inj (hafter.symm.trans hrequest)]
    | saved stored saved hstored hterms _ hafter =>
        rw [← Option.some.inj (hafter.symm.trans hrequest), hterms.1]
        exact hsound.filed id stored hstored
    | moved stored replacement _ _ hstored hterms _ _ hafter =>
        rw [← Option.some.inj (hafter.symm.trans hrequest), hterms.1]
        exact hsound.filed id stored hstored
  kept := by
    intro i id read hmem
    have heffect := effect_of_valid hvalid hsound id
    rcases List.mem_append.mp hmem with hbefore | hlast
    · obtain ⟨stored, hstored, hterms⟩ := hsound.kept i id read hbefore
      obtain ⟨after, hafter, hkept⟩ := heffect.kept hstored
      exact ⟨after, hafter, hterms.trans hkept⟩
    · -- the read itself returned what is stored
      obtain rfl := List.mem_singleton.mp hlast
      obtain ⟨-, hreply, -⟩ := hvalid.of_snoc
      dsimp only [storeStep] at hreply
      cases hstored : storeAfter h id with
      | none =>
          rw [hstored] at hreply
          exact absurd hreply (by simp)
      | some stored =>
          rw [hstored] at hreply
          obtain rfl : read = stored := Except.ok.inj hreply
          exact heffect.kept hstored
  reserved := by
    intro id request hrequest hstatus
    cases effect_of_valid hvalid hsound id with
    | unchanged hsame =>
        obtain ⟨reservation, hmem, hreserves⟩ :=
          hsound.reserved id request (hsame ▸ hrequest) hstatus
        exact ⟨reservation, List.mem_append_left _ hmem, hreserves⟩
    | created created _ hafter _ hpending =>
        rw [← Option.some.inj (hafter.symm.trans hrequest), hpending] at hstatus
        cases hstatus
    | saved stored saved _ _ _ hafter hsaved =>
        rw [← Option.some.inj (hafter.symm.trans hrequest)] at hstatus
        rw [hstatus] at hsaved
        exact absurd hsaved (by decide)
    | moved stored replacement read expected hstored hterms _ hmove hafter _ hread hmoves =>
        obtain rfl : replacement = request := Option.some.inj (hafter.symm.trans hrequest)
        rw [hstatus] at hmoves
        rcases hmoves with ⟨now, hcall, rfl, -⟩ | ⟨-, hno⟩ | ⟨_, _, _, hno⟩
        · refine ⟨e, List.mem_append_right _ List.mem_cons_self, ⟨_, hmove, hstatus⟩, now, ?_⟩
          rw [hterms.2.1, hread.2.1, hcall]
        · cases hno
        · cases hno

/-- **Run lemma.** -/
theorem sound_of_valid {h : List (ι × StoreEvent Command)} (hvalid : Valid calls h) :
    Sound calls h := by
  induction h using List.reverseRecOn with
  | nil =>
      exact {
        filed := fun id request hrequest => by cases hrequest
        kept := fun i id read hmem => by cases hmem
        reserved := fun id stored hstored => by cases hstored }
  | append_singleton h e ih => exact (ih hvalid.of_snoc.1).snoc hvalid

/-! ## Approvals are used safely -/

/-- **Step lemma.** An operation that saves no approval another call has settled leaves no
    terminal status. -/
theorem terminal_step {h : List (ι × StoreEvent Command)} {e : ι × StoreEvent Command}
    (hvalid : Valid calls (h ++ [e])) (hsaves : SavesUnsettled (h ++ [e])) {id : String}
    {status : ApprovalStatus} (hterminal : status.IsTerminal)
    (hstatus : statusAfter h id = some status) : statusAfter (h ++ [e]) id = some status := by
  have hsound := sound_of_valid hvalid.of_snoc.1
  obtain ⟨stored, hstored, rfl⟩ := Option.map_eq_some_iff.mp hstatus
  unfold statusAfter
  cases effect_of_valid hvalid hsound id with
  | unchanged hsame => rw [hsame, hstored]; rfl
  | created _ hnone => exact absurd (hnone.symm.trans hstored) (by simp)
  | saved stored' request hstored' hterms hsave hafter =>
      obtain rfl : stored' = stored := Option.some.inj (hstored'.symm.trans hstored)
      obtain ⟨reply, hsave⟩ := hsave
      have hid : request.id = id := hterms.1.trans (hsound.filed id stored' hstored)
      have hsame := hsaves.of_snoc.2 request reply hsave stored' (hid ▸ hstored) hterminal
      rw [hafter, hsame]
      rfl
  | moved stored' replacement read expected hstored' _ hexpected _ _ _ _ hmoves =>
      obtain rfl : stored' = stored := Option.some.inj (hstored'.symm.trans hstored)
      -- a status is moved from APPROVED or from RESERVED only
      rw [hexpected] at hterminal
      rcases hmoves with ⟨_, _, rfl, _⟩ | ⟨rfl, _⟩ | ⟨_, _, rfl, _⟩
      · exact absurd hterminal (by decide)
      · exact absurd hterminal (by decide)
      · exact absurd hterminal (by decide)

/-- **Run lemma.** A terminal status is kept to the end of the history. -/
theorem terminal_run {earlier h : List (ι × StoreEvent Command)} (hle : earlier <+: h)
    (hvalid : Valid calls h) (hsaves : SavesUnsettled h) {id : String}
    {status : ApprovalStatus} (hterminal : status.IsTerminal)
    (hstatus : statusAfter earlier id = some status) : statusAfter h id = some status := by
  obtain ⟨rest, rfl⟩ := hle
  induction rest using List.reverseRecOn with
  | nil => rwa [List.append_nil]
  | append_singleton rest e ih =>
      rw [← List.append_assoc] at hvalid hsaves ⊢
      exact terminal_step hvalid hsaves hterminal (ih hvalid.of_snoc.1 hsaves.of_snoc.1)

/-- A move that took effect was one from the status it expected to its own. -/
theorem moved_of_valid {h : List (ι × StoreEvent Command)} {e : ι × StoreEvent Command}
    {id : String} {expected : ApprovalStatus} {replacement : ApprovalRequest Command}
    (hvalid : Valid calls (h ++ [e]))
    (hmove : e.2 = ⟨.transition id expected replacement, .ok true⟩) :
    ∃ stored read, storeAfter h id = some stored ∧ stored.status = expected ∧
      statusAfter (h ++ [e]) id = some replacement.status ∧
      (e.1, ⟨.get id, .ok read⟩) ∈ h ∧ SameTerms read stored ∧
      Moves (calls e.1) id read expected replacement.status := by
  have hsound := sound_of_valid hvalid.of_snoc.1
  obtain ⟨-, hreply, hpermitted⟩ := hvalid.of_snoc
  have hafter := storeAfter_snoc h e
  rw [hmove] at hpermitted hafter
  obtain ⟨read, hmem, hterms, hmoves⟩ := hpermitted
  have hread := mem_projection.mp hmem
  obtain ⟨stored, hstored, hreadTerms⟩ := hsound.kept e.1 id read hread
  have hid : replacement.id = id := by
    rw [hterms.1, ← hreadTerms.1]
    exact hsound.filed id stored hstored
  subst hid
  obtain ⟨i, op, reply⟩ := e
  cases hmove
  simp only [storeStep, hstored, ne_eq, not_true_eq_false, if_false] at hafter hreply
  by_cases hexpected : stored.status = expected
  · rw [if_neg (not_not_intro hexpected)] at hafter
    refine ⟨stored, read, hstored, hexpected, ?_, hread, hreadTerms, hmoves⟩
    rw [statusAfter, hafter]
    show ((storeAfter h).put replacement replacement.id).map _ = _
    rw [put_self]
    rfl
  · rw [if_pos hexpected] at hreply
    exact absurd hreply (by simp)

theorem Valid.at {h before after : List (ι × StoreEvent Command)} {e : ι × StoreEvent Command}
    (hvalid : Valid calls h) (heq : h = before ++ e :: after) : Valid calls (before ++ [e]) := by
  refine hvalid.of_prefix ⟨after, ?_⟩
  rw [heq, List.append_assoc, List.singleton_append]

omit [DecidableEq ι] in
theorem expired_congr {request renewed : ApprovalRequest Command}
    (h : SameTerms request renewed) (now : DateTime) :
    renewed.Expired now ↔ request.Expired now := by
  unfold ApprovalRequest.Expired ApprovalRequest.isExpired
  rw [h.2.2]

theorem consumed_once_of_saves {h : List (ι × StoreEvent Command)} (hvalid : Valid calls h)
    (hsaves : SavesUnsettled h) {before middle after : List (ι × StoreEvent Command)}
    {e e' : ι × StoreEvent Command} (heq : h = before ++ e :: (middle ++ e' :: after))
    {id : String} (hfirst : Consumes id e.2) : ¬ Consumes id e'.2 := by
  rintro ⟨replacement', hmove', hstatus'⟩
  obtain ⟨replacement, hmove, hstatus⟩ := hfirst
  obtain ⟨-, -, -, -, hconsumed, -⟩ := moved_of_valid (hvalid.at heq) hmove
  rw [hstatus] at hconsumed
  -- the approval is still CONSUMED when it is moved again
  have heq' : h = (before ++ e :: middle) ++ e' :: after := by simp [heq]
  have hearlier : before ++ [e] <+: before ++ e :: middle := ⟨middle, by simp⟩
  have hbefore : before ++ e :: middle <+: h := ⟨e' :: after, heq'.symm⟩
  have hkept := terminal_run hearlier (hvalid.of_prefix hbefore)
    (AtEach.of_prefix hsaves hbefore) (.inr (.inl rfl)) hconsumed
  obtain ⟨stored, -, hstored, hreserved, -⟩ := moved_of_valid (hvalid.at heq') hmove'
  rw [statusAfter, hstored, Option.map_some, hreserved] at hkept
  cases hkept

theorem consumed_reserved_of_valid {h before after : List (ι × StoreEvent Command)}
    {e : ι × StoreEvent Command} (hvalid : Valid calls h) (heq : h = before ++ e :: after)
    {id : String} (hconsumes : Consumes id e.2) :
    ∃ reservation ∈ before, Reserves id reservation.2 ∧ ∃ command now now',
      calls reservation.1 = .reserve id command now ∧ calls e.1 = .consume id command now' := by
  obtain ⟨replacement, hmove, hstatus⟩ := hconsumes
  obtain ⟨stored, read, hstored, hreserved, -, -, hterms, hmoves⟩ :=
    moved_of_valid (hvalid.at heq) hmove
  obtain ⟨reservation, hmem, hreserves, now, hcall⟩ :=
    (sound_of_valid (hvalid.at heq).of_snoc.1).reserved id stored hstored hreserved
  rw [hstatus] at hmoves
  rcases hmoves with ⟨_, _, hno, _⟩ | ⟨_, hno⟩ | ⟨now', hconsume, _, _⟩
  · cases hno
  · cases hno
  · exact ⟨reservation, hmem, hreserves, stored.command, now, now', hcall,
      hterms.2.1 ▸ hconsume⟩

theorem reserved_unexpired_of_reserves {h before after : List (ι × StoreEvent Command)}
    {e : ι × StoreEvent Command} (hvalid : Valid calls h)
    (hreserves : ReservesUnexpired calls h) (heq : h = before ++ e :: after) {id : String}
    (hreserve : Reserves id e.2) :
    ∃ command now request, calls e.1 = .reserve id command now ∧
      storeAfter before id = some request ∧ ¬ request.Expired now := by
  obtain ⟨replacement, hmove, hstatus⟩ := hreserve
  obtain ⟨stored, read, hstored, happroved, -, hread, hterms, hmoves⟩ :=
    moved_of_valid (hvalid.at heq) hmove
  rw [hstatus] at hmoves
  rcases hmoves with ⟨now, hcall, _, _, hasked⟩ | ⟨hno, _⟩ | ⟨_, _, hno, _⟩
  · refine ⟨read.command, now, stored, hcall, hstored, ?_⟩
    rw [expired_congr hterms]
    have hbefore : statusAfter before id = some .approved := by
      rw [statusAfter, hstored, Option.map_some, happroved]
    rcases hreserves before e after heq id read.command now replacement _ hcall hmove hbefore
      read hread with hpending | happroved | hunexpired
    · exact hasked (.inl hpending)
    · exact hasked (.inr happroved)
    · exact hunexpired
  · cases hno
  · cases hno

/-- The conditions are enough. -/
theorem approvalsSafe_of_conditions {h : List (ι × StoreEvent Command)}
    (hvalid : Valid calls h) (hsaves : SavesUnsettled h)
    (hreserves : ReservesUnexpired calls h) : ApprovalsSafe calls h where
  terminal_kept := by
    intro earlier later hle hlater id status hterminal hstatus
    exact terminal_run hle (hvalid.of_prefix hlater) (AtEach.of_prefix hsaves hlater) hterminal
      hstatus
  rejected_final := by
    intro earlier later hle hlater id hstatus
    rw [terminal_run hle (hvalid.of_prefix hlater) (AtEach.of_prefix hsaves hlater) (.inl rfl)
      hstatus]
    decide
  consumed_once := fun _ _ _ _ _ heq _ => consumed_once_of_saves hvalid hsaves heq
  consumed_reserved := fun _ _ _ heq _ => consumed_reserved_of_valid hvalid heq
  reserved_unexpired := fun _ _ _ heq _ =>
    reserved_unexpired_of_reserves hvalid hreserves heq

omit [DecidableEq ι] in
/-- A save over another call's decision breaks the first promise at once. -/
theorem savesUnsettled_of_safe {h : List (ι × StoreEvent Command)}
    (hsafe : ApprovalsSafe calls h) : SavesUnsettled h := by
  intro before e after heq request reply hsave stored hstored hterminal
  have hle : before ++ [e] <+: h := ⟨after, by rw [heq, List.append_assoc]; rfl⟩
  have hkept := hsafe.terminal_kept before (before ++ [e]) ⟨[e], rfl⟩ hle request.id
    stored.status hterminal (by rw [statusAfter, hstored]; rfl)
  have hafter := storeAfter_snoc before e
  rw [hsave, storeStep, hstored] at hafter
  rw [statusAfter, hafter] at hkept
  dsimp only at hkept
  rw [put_self] at hkept
  exact (Option.some.inj hkept).symm

/-- A `reserve` that finds the approval approved takes effect. -/
theorem reservesUnexpired_of_safe {h : List (ι × StoreEvent Command)} (hvalid : Valid calls h)
    (hsafe : ApprovalsSafe calls h) : ReservesUnexpired calls h := by
  intro before e after heq id command now replacement reply hcall hmove hbefore read hread
  have hat := hvalid.at heq
  have hsound := sound_of_valid hat.of_snoc.1
  obtain ⟨-, hreply, hpermitted⟩ := hat.of_snoc
  obtain ⟨stored, hstored, happroved⟩ := Option.map_eq_some_iff.mp hbefore
  rw [hmove] at hpermitted
  obtain ⟨read', hmem', hterms', hmoves⟩ := hpermitted
  obtain ⟨stored', hstored', hreadTerms'⟩ := hsound.kept e.1 id read' (mem_projection.mp hmem')
  have hid : replacement.id = id := by
    rw [hterms'.1, ← hreadTerms'.1]
    exact hsound.filed id stored' hstored'
  have hreserves : Reserves id e.2 := by
    obtain ⟨i, op, answer⟩ := e
    cases hmove
    subst hid
    simp only [storeStep, hstored, happroved, ne_eq, not_true_eq_false, if_false] at hreply
    refine ⟨replacement, by rw [hreply], ?_⟩
    rcases hmoves with ⟨_, _, _, hreserved, _⟩ | ⟨hno, _⟩ | ⟨_, _, hno, _⟩
    · exact hreserved
    · cases hno
    · cases hno
  obtain ⟨command', now', request, hcall', hrequest, hunexpired⟩ :=
    hsafe.reserved_unexpired before e after heq id hreserves
  obtain ⟨-, -, rfl⟩ := ManagerCall.reserve.inj (hcall.symm.trans hcall')
  obtain ⟨current, hcurrent, hterms⟩ := hsound.kept e.1 id read hread
  obtain rfl : current = request := Option.some.inj (hcurrent.symm.trans hrequest)
  exact .inr (.inr ((expired_congr hterms now).not.mp hunexpired))

end Histories

/-- **When approvals are used safely** in a run of interleaved calls: exactly when no call saves
    an approval that another one has settled since it was read, and no `reserve` that has not
    asked whether an approval is due finds it approved when it is. -/
theorem approvals_safe_iff [DecidableEq ι] [DecidableEq Command]
    (calls : ι → ManagerCall Command) (schedule : List (ι × Unit)) :
    let h := ((Config.start (fun _ => none) fun i => (calls i).prog.run).run storeStep
      schedule).history
    ApprovalsSafe calls h ↔ SavesUnsettled h ∧ ReservesUnexpired calls h := by
  intro h
  have hvalid : Valid calls h := valid_run calls schedule
  refine ⟨fun hsafe => ⟨savesUnsettled_of_safe hsafe, reservesUnexpired_of_safe hvalid hsafe⟩, ?_⟩
  rintro ⟨hsaves, hreserves⟩
  exact approvalsSafe_of_conditions hvalid hsaves hreserves

/-! ## Two managers decide one approval -/

/-- A request, its approval and its rejection. -/
def rivalCalls : Nat → ManagerCall String
  | 0 => .create "a1" "make" .requireApproval none ⟨0, some 0⟩
  | 1 => .approve "a1" none ⟨1, some 0⟩
  | _ => .reject "a1" none ⟨1, some 0⟩

/-- The approval is read, rejected by another manager, and saved as approved. -/
def rivalHistory : List (Nat × StoreEvent String) :=
  ((Config.start (fun _ => none) fun i => (rivalCalls i).prog.run).run storeStep
    [(0, ()), (1, ()), (2, ()), (2, ()), (1, ())]).history

theorem not_approvalsSafe_rivalCalls : ¬ ApprovalsSafe rivalCalls rivalHistory := by
  intro hsafe
  have hfinal := hsafe.rejected_final (rivalHistory.take 4) rivalHistory
    (List.take_prefix 4 _) (List.prefix_refl _) "a1" rfl
  exact hfinal.1 rfl

end Eag.Approval
