/-
  Eag.CommandExecution.Stranding

  Whether an execution leaves its approval and its events in order, whatever its
  policy, its approval, its process and its handlers do.

  `execute` gives a reserved approval back, or uses it up, in two clauses of one
  `try`. Any other exception between the reservation and the terminal event leaves the
  approval RESERVED, or the request without a terminal event; so does an error of the
  approval manager itself. `execute_notStranded_iff` says exactly when this does not
  happen.
-/

import Eag.CommandExecution.Executor

namespace Eag.CommandExecution

open Eag.Foundation
open Eag.Approval (ApprovalStore ApprovalRequest ApprovalStatus storeStep hasExpired
  commandMismatch)

/-! ## Calls of the manager -/

section Manager

variable {store : ApprovalStore CommandRequest} {approvalId : String}
  {approval : ApprovalRequest CommandRequest} {command : CommandRequest} {now : DateTime}

theorem put_apply (store : ApprovalStore CommandRequest)
    (approval : ApprovalRequest CommandRequest) (id : String) :
    store.put approval id = if id = approval.id then some approval else store id := by
  unfold ApprovalStore.put
  by_cases h : id = approval.id
  · rw [if_pos h, h, Function.update_self]
  · rw [if_neg h, Function.update_of_ne h]

/-- An approval that is neither pending nor approved is taken as it is read. -/
theorem settle_unexpired_of_ne (hfound : store approvalId = some approval)
    (hpending : approval.status ≠ .pending) (happroved : approval.status ≠ .approved) :
    Prog.settle storeStep () store (Approval.unexpired approvalId now) =
      if approval.status = .expired then (.error (hasExpired approvalId), store)
      else (.ok approval, store) := by
  unfold Approval.unexpired Approval.expireIfNeeded
  rw [Prog.settle_bind, Approval.ask, Prog.settle_ask]
  simp only [storeStep, hfound, hpending, happroved, or_self, if_false, Prog.settle_bind,
    Prog.settle_pure]
  split <;> rfl

/-- An approved approval is expired when it is due. -/
theorem settle_unexpired_of_approved (hfound : store approvalId = some approval)
    (hfiled : approval.id = approvalId) (happroved : approval.status = .approved) :
    Prog.settle storeStep () store (Approval.unexpired approvalId now) =
      match approval.isExpired now with
      | .error error => (.error error, store)
      | .ok true => (.error (hasExpired approvalId),
          store.put { approval with status := .expired })
      | .ok false => (.ok approval, store) := by
  unfold Approval.unexpired Approval.expireIfNeeded
  rw [Prog.settle_bind, Approval.ask, Prog.settle_ask]
  simp only [storeStep, hfound, happroved, or_true, if_true, Prog.settle_bind,
    Prog.settle_ret]
  cases approval.isExpired now with
  | error error => rfl
  | ok past =>
      cases past with
      | false =>
          simp only [Bool.false_eq_true, if_false, Prog.settle_pure, happroved, reduceCtorEq]
      | true =>
          simp only [if_true, Prog.settle_bind, Approval.ask, Prog.settle_ask, storeStep, hfiled,
            hfound, Prog.settle_pure]
          rfl

/-- A move of the status from the one that the approval has. -/
theorem settle_moveStatus (hfound : store approvalId = some approval)
    (hfiled : approval.id = approvalId) {expected : ApprovalStatus}
    (hstatus : approval.status = expected) {replacement : ApprovalRequest CommandRequest}
    (hreplacement : replacement.id = approval.id) (action : String) :
    Prog.settle storeStep () store
        (Approval.moveStatus approvalId expected replacement action) =
      (.ok replacement, store.put replacement) := by
  unfold Approval.moveStatus
  rw [Prog.settle_bind, Approval.ask, Prog.settle_ask]
  simp only [storeStep, hfound, hreplacement, hfiled, hstatus, ne_eq, not_true_eq_false,
    if_false, if_true, Prog.settle_pure]

/-- **`reserve`** of an approved approval for the command. -/
theorem settle_reserve_of_approved (hfound : store approvalId = some approval)
    (hfiled : approval.id = approvalId) (happroved : approval.status = .approved) :
    Prog.settle storeStep () store (Approval.reserve approvalId command now) =
      match approval.isExpired now with
      | .error error => (.error error, store)
      | .ok true => (.error (hasExpired approvalId),
          store.put { approval with status := .expired })
      | .ok false =>
          if approval.command = command then
            (.ok { approval with status := .reserved },
              store.put { approval with status := .reserved })
          else (.error (commandMismatch approvalId), store) := by
  unfold Approval.reserve
  rw [Prog.settle_bind, settle_unexpired_of_approved hfound hfiled happroved]
  cases approval.isExpired now with
  | error error => rfl
  | ok past =>
      cases past with
      | true => rfl
      | false =>
          dsimp only
          by_cases hcommand : approval.command = command
          · rw [if_pos hcommand, if_neg (not_not_intro hcommand)]
            refine settle_moveStatus hfound hfiled happroved ?_ _
            rfl
          · rw [if_neg hcommand, if_pos hcommand]
            rfl

/-- **`reserve`** of an expired approval. -/
theorem settle_reserve_of_expired (hfound : store approvalId = some approval)
    (hexpired : approval.status = .expired) :
    Prog.settle storeStep () store (Approval.reserve approvalId command now) =
      (.error (hasExpired approvalId), store) := by
  unfold Approval.reserve
  rw [Prog.settle_bind, settle_unexpired_of_ne hfound (by rw [hexpired]; decide)
    (by rw [hexpired]; decide), if_pos hexpired]

/-- **`consume`** of a reserved approval of the command. -/
theorem settle_consume_of_reserved (hfound : store approvalId = some approval)
    (hfiled : approval.id = approvalId) (hreserved : approval.status = .reserved)
    (hcommand : approval.command = command) :
    Prog.settle storeStep () store (Approval.consume approvalId command now) =
      (.ok { approval with status := .consumed, consumedAt := some now },
        store.put { approval with status := .consumed, consumedAt := some now }) := by
  unfold Approval.consume Approval.requireStatus
  rw [Prog.settle_bind, settle_unexpired_of_ne hfound (by rw [hreserved]; decide)
    (by rw [hreserved]; decide), if_neg (by rw [hreserved]; decide)]
  dsimp only
  rw [if_pos hreserved, Prog.settle_bind, Prog.settle_pure]
  dsimp only
  rw [if_neg (not_not_intro hcommand)]
  refine settle_moveStatus hfound hfiled hreserved ?_ _
  rfl

/-- **`release`** of a reserved approval. -/
theorem settle_release_of_reserved (hfound : store approvalId = some approval)
    (hfiled : approval.id = approvalId) (hreserved : approval.status = .reserved) :
    Prog.settle storeStep () store (Approval.release approvalId) =
      (.ok { approval with status := .approved },
        store.put { approval with status := .approved }) := by
  unfold Approval.release
  rw [Prog.settle_bind, Approval.ask, Prog.settle_ask]
  simp only [storeStep, hfound]
  refine settle_moveStatus hfound hfiled hreserved ?_ _
  rfl

end Manager

/-! ## The property and the condition -/

/-- The approvals that an execution begins with: each is filed under its own identity. -/
structure ApprovalRecords where
  store : ApprovalStore CommandRequest
  filed : ∀ id approval, store id = some approval → approval.id = id

/-- The status of an approval. -/
def statusOf (store : ApprovalStore CommandRequest) (id : String) : Option ApprovalStatus :=
  (store id).map (·.status)

/-- The session that an execution begins with. -/
def Session.start (store : ApprovalStore CommandRequest) : Session := ⟨store, [], false, false⟩

/-- **No approval is stranded**: the session after a call, for the approval it was given. -/
structure NotStranded (surroundings : Surroundings) (approvalId : Option String)
    (store : ApprovalStore CommandRequest) (after : Session) : Prop where
  consumed_iff : after.reserved = true → ∀ id, approvalId = some id →
    (statusOf after.store id = some .consumed ↔ after.started = true)
  otherwise_kept : ∀ id,
    ¬ (after.reserved = true ∧ after.started = true ∧ approvalId = some id) →
    statusOf after.store id = statusOf store id ∨
      (statusOf after.store id = some .expired ∧
        ∃ approval, store id = some approval ∧ approval.Expired surroundings.now)
  terminal_once : after.events.countP (·.isTerminal) = 1

section Condition

variable (surroundings : Surroundings) (request : CommandRequest)

/-- From the working directory on, nothing raises but a process that could not be started. -/
def ProcessEndsClean (approval : Option String) (executable : String) : Prop :=
  ∃ workingDirectory,
    surroundings.resolveWorkingDirectory request.workingDirectory = .ok workingDirectory ∧
    surroundings.onStarted = none ∧
    match surroundings.run (executable :: request.arguments) workingDirectory with
    | .completed .. | .timedOut .. =>
        approval.isSome = true → surroundings.onApproval .consumed = none
    | .raised started error => error.errorClass = .os ∧
        (approval.isSome = true → started = false ∧ surroundings.onApproval .released = none)

/-- The approval is turned down by its status, or it is approved for the request and not due, and
    the rest ends clean. A due approval ends clean only when the handler of its expiry raises
    what is itself a policy error. -/
def ApprovalEndsClean (approval : ApprovalRequest CommandRequest) (executable : String) : Prop :=
  match approval.status with
  | .pending | .rejected | .consumed | .reserved => True
  | .expired => False
  | .approved =>
      match approval.isExpired surroundings.now with
      | .error _ => False
      | .ok true => ∃ raised, surroundings.onApproval .expired = some raised ∧
          raised.errorClass = .executionPolicy
      | .ok false => approval.command = request ∧ surroundings.onApproval .reserved = none ∧
          ProcessEndsClean surroundings request (some approval.id) executable

/-- The condition under which an execution strands nothing. -/
def EndsClean (approvalId : Option String) (store : ApprovalStore CommandRequest) : Prop :=
  ∀ executable, surroundings.which request.executable = some executable →
    match surroundings.evaluate request with
    | .error raised => raised.errorClass = .executionPolicy
    | .ok decision =>
        match decision.outcome with
        | .deny => True
        | .allow => ProcessEndsClean surroundings request none executable
        | .requireApproval => ∀ id, approvalId = some id → surroundings.hasManager = true →
            ∃ approval, store id = some approval ∧
              ApprovalEndsClean surroundings request approval executable

end Condition

/-! ## What each part leaves -/

section Parts

variable {surroundings : Surroundings} {request : CommandRequest} {approvalId : Option String}
  {store : ApprovalStore CommandRequest}

theorem statusOf_put (store : ApprovalStore CommandRequest)
    (approval : ApprovalRequest CommandRequest) (id : String) :
    statusOf (store.put approval) id
      = if id = approval.id then some approval.status else statusOf store id := by
  unfold statusOf
  rw [put_apply]
  split <;> rfl

theorem publish_session (event : CommandEvent) (session : Session) :
    (publish surroundings event session).2
      = { session with events := session.events ++ [event] } := by
  unfold publish
  dsimp only
  split <;> rfl

/-- A rejection publishes one event and changes nothing else, whatever its handlers raise. -/
theorem rejectWith_session {α : Type} (raised : Raised) (session : Session) :
    (rejectWith surroundings request raised session : Except Raised α × Session).2
      = { session with events := session.events ++
          [.rejected request raised.typeName raised.message] } := by
  have hpublish := @publish_session surroundings
    (.rejected request raised.typeName raised.message) session
  unfold rejectWith
  split <;> rename_i heq <;> rw [heq] at hpublish <;> exact hpublish

/-- Nothing is stranded where nothing was reserved, no status changed, and one terminal event
    was published. -/
theorem notStranded_of_unreserved {after : Session} (hstore : after.store = store)
    (hreserved : after.reserved = false)
    (hevents : after.events.countP (·.isTerminal) = 1) :
    NotStranded surroundings approvalId store after where
  consumed_iff := fun h => absurd (h.symm.trans hreserved) Bool.noConfusion
  otherwise_kept := fun id _ => .inl (by rw [hstore])
  terminal_once := hevents

/-- Without a terminal event the request is left open. -/
theorem not_notStranded_of_events {after : Session}
    (hevents : after.events.countP (·.isTerminal) ≠ 1) :
    ¬ NotStranded surroundings approvalId store after :=
  fun h => hevents h.terminal_once

/-! ### From the working directory on -/

/-- The outcome of a call of the manager that moves the status, when there is an approval. -/
def moveOutcome (surroundings : Surroundings) (approval : Option String) (event : ApprovalEvent) :
    Except Raised Unit :=
  if approval.isSome then afterEvent surroundings event (.ok ()) else .ok ()

theorem moveOutcome_eq_ok {approval : Option String} {event : ApprovalEvent} :
    moveOutcome surroundings approval event = .ok () ↔
      (approval.isSome = true → surroundings.onApproval event = none) := by
  unfold moveOutcome afterEvent
  by_cases hsome : approval.isSome = true
  · rw [if_pos hsome]
    cases surroundings.onApproval event with
    | none => exact iff_of_true rfl fun _ => rfl
    | some raised => exact iff_of_false (fun h => nomatch h) fun h => nomatch h hsome
  · rw [if_neg hsome]
    exact iff_of_true rfl fun h => absurd h hsome

section Launch

variable {approval : Option String} {session : Session}
  {consumed released : ApprovalStore CommandRequest}

/-- A process that was started: its approval is consumed, and its one terminal event published
    unless a handler of the consumption raised. -/
theorem finish_iff
    (hconsume : consumeReserved surroundings request approval session
      = (moveOutcome surroundings approval .consumed, { session with store := consumed }))
    (hconsumed : ∀ events : List CommandEvent, events.countP (·.isTerminal) = 1 →
      NotStranded surroundings approvalId store
        ⟨consumed, events, session.reserved, session.started⟩)
    (hevents : session.events.countP (·.isTerminal) = 0) (result : CommandResult)
    {event : CommandEvent} (hterminal : event.isTerminal = true) :
    NotStranded surroundings approvalId store
        (finish surroundings request approval result event session).2 ↔
      (approval.isSome = true → surroundings.onApproval .consumed = none) := by
  rw [← moveOutcome_eq_ok]
  unfold finish
  rw [hconsume]
  cases moveOutcome surroundings approval .consumed with
  | error raised =>
      refine iff_of_false (not_notStranded_of_events ?_) (fun h => by cases h)
      dsimp only
      omega
  | ok =>
      have hpublish := @publish_session surroundings event
        { session with store := consumed }
      refine iff_of_true ?_ rfl
      have hholds := hconsumed (session.events ++ [event])
        (by rw [List.countP_append, hevents]; simp [hterminal])
      dsimp only
      generalize publish surroundings event _ = answer at hpublish ⊢
      obtain ⟨outcome, after⟩ := answer
      obtain rfl : after = _ := hpublish
      cases outcome <;> exact hholds

/-- **`launch`**, given what the calls of the manager leave. -/
theorem launch_iff (hevents : session.events = [])
    (hconsume : ∀ later : Session, later.store = session.store →
      consumeReserved surroundings request approval later
        = (moveOutcome surroundings approval .consumed, { later with store := consumed }))
    (hrelease : ∀ later : Session, later.store = session.store →
      releaseReserved surroundings approval later
        = (moveOutcome surroundings approval .released, { later with store := released }))
    (hconsumed : ∀ events : List CommandEvent, events.countP (·.isTerminal) = 1 →
      NotStranded surroundings approvalId store ⟨consumed, events, session.reserved, true⟩)
    (hreleased : ∀ (events : List CommandEvent) (started : Bool),
      events.countP (·.isTerminal) = 1 →
      (NotStranded surroundings approvalId store ⟨released, events, session.reserved, started⟩ ↔
        (approval.isSome = true → started = false)))
    (executable : String) :
    NotStranded surroundings approvalId store
        (launch surroundings request approval executable session).2
      ↔ ProcessEndsClean surroundings request approval executable := by
  unfold launch ProcessEndsClean
  cases hresolve : surroundings.resolveWorkingDirectory request.workingDirectory with
  | error raised =>
      refine iff_of_false (not_notStranded_of_events (by rw [hevents]; simp)) ?_
      rintro ⟨workingDirectory, h, -⟩
      cases h
  | ok workingDirectory =>
      simp only [Except.ok.injEq, exists_eq_left']
      obtain ⟨before, events, reserved, started⟩ := session
      obtain rfl : events = [] := hevents
      cases hstarted : surroundings.onStarted with
      | some raised =>
          have hpublish : publish surroundings (.started request) ⟨before, [], reserved, started⟩
              = (.error raised, ⟨before, [.started request], reserved, started⟩) := by
            simp [publish, Surroundings.handlers, hstarted]
          rw [hpublish]
          exact iff_of_false
            (not_notStranded_of_events (by simp [CommandEvent.isTerminal]))
            (fun h => nomatch h.1)
      | none =>
          have hpublish : publish surroundings (.started request) ⟨before, [], reserved, started⟩
              = (.ok (), ⟨before, [.started request], reserved, started⟩) := by
            simp [publish, Surroundings.handlers, hstarted]
          rw [hpublish]
          have hopen : [CommandEvent.started request].countP (·.isTerminal) = 0 := by
            simp [CommandEvent.isTerminal]
          simp only [true_and]
          unfold runProcess
          generalize surroundings.run (executable :: request.arguments) workingDirectory = outcome
          cases outcome with
          | completed exitCode stdout stderr =>
              have hmoved := hconsume ⟨before, [.started request], reserved, true⟩ rfl
              exact finish_iff hmoved hconsumed hopen (resultOf request (some exitCode) stdout
                stderr false) (@rfl _ (CommandEvent.isTerminal (.completed _)))
          | timedOut stdout stderr =>
              have hmoved := hconsume ⟨before, [.started request], reserved, true⟩ rfl
              exact finish_iff hmoved hconsumed hopen (resultOf request none stdout stderr true)
                (@rfl _ (CommandEvent.isTerminal (.timedOut _)))
          | raised begun error =>
              dsimp only [ProcessOutcome.started]
              by_cases hos : error.errorClass = .os
              · rw [if_pos hos, hrelease ⟨before, [.started request], reserved, begun⟩ rfl]
                cases houtcome : moveOutcome surroundings approval .released with
                | error raised =>
                    refine iff_of_false (not_notStranded_of_events (by rw [hopen]; decide)) ?_
                    rintro ⟨-, hclean⟩
                    rw [moveOutcome_eq_ok.mpr fun hsome => (hclean hsome).2] at houtcome
                    cases houtcome
                | ok =>
                    dsimp only
                    rw [rejectWith_session]
                    have hnone := moveOutcome_eq_ok.mp houtcome
                    have hspec := hreleased ([.started request] ++ [.rejected request
                      "CommandStartError" ("Failed to start executable '" ++ request.executable
                        ++ "': " ++ error.message)]) begun rfl
                    refine hspec.trans ⟨fun h => ⟨hos, fun hsome => ⟨h hsome, hnone hsome⟩⟩,
                      fun h hsome => (h.2 hsome).1⟩
              · rw [if_neg hos]
                exact iff_of_false (not_notStranded_of_events (by rw [hopen]; decide))
                  (fun h => hos h.1)

/-- A request that needs no approval. -/
theorem launch_unreserved (executable : String) :
    NotStranded surroundings approvalId store
        (launch surroundings request none executable (.start store)).2
      ↔ ProcessEndsClean surroundings request none executable := by
  have hkept : ∀ (events : List CommandEvent) (started : Bool),
      events.countP (·.isTerminal) = 1 →
      NotStranded surroundings approvalId store ⟨store, events, false, started⟩ :=
    fun events started hevents => notStranded_of_unreserved rfl rfl hevents
  refine @launch_iff surroundings request approvalId store none (.start store) store store rfl
    (fun later hlater => ?_) (fun later hlater => ?_) (fun events h => hkept events true h)
    (fun events started h => iff_of_true (hkept events started h) fun hsome => nomatch hsome)
    executable
  · obtain rfl : later.store = store := hlater
    rfl
  · obtain rfl : later.store = store := hlater
    rfl

variable {id : String} {reserved : ApprovalRequest CommandRequest}

theorem consume_reserved {later : Session} (hfound : later.store id = some reserved)
    (hfiled : reserved.id = id) (hstatus : reserved.status = .reserved)
    (hcommand : reserved.command = request) :
    consume surroundings id request later
      = (moveOutcome surroundings (some id) .consumed, { later with
          store := later.store.put { reserved with
            status := .consumed, consumedAt := some surroundings.now } }) := by
  unfold consume managed
  rw [settle_consume_of_reserved hfound hfiled hstatus hcommand]
  dsimp only
  unfold moveOutcome afterEvent
  cases surroundings.onApproval .consumed <;> rfl

theorem release_reserved {later : Session} (hfound : later.store id = some reserved)
    (hfiled : reserved.id = id) (hstatus : reserved.status = .reserved) :
    release surroundings id later
      = (moveOutcome surroundings (some id) .released, { later with
          store := later.store.put { reserved with status := .approved } }) := by
  unfold release
  rw [settle_release_of_reserved hfound hfiled hstatus]
  rfl

/-- A request whose approval was reserved. -/
theorem launch_reserved {granted : ApprovalRequest CommandRequest}
    (hfound : store granted.id = some granted) (happroved : granted.status = .approved)
    (hcommand : granted.command = request) (executable : String) :
    NotStranded surroundings (some granted.id) store
        (launch surroundings request (some granted.id) executable
          ⟨store.put { granted with status := .reserved }, [], true, false⟩).2
      ↔ ProcessEndsClean surroundings request (some granted.id) executable := by
  have hreserved : store.put { granted with status := .reserved } granted.id
      = some { granted with status := .reserved } := by
    rw [put_apply, if_pos rfl]
  have hbefore : statusOf store granted.id = some .approved := by
    rw [statusOf, hfound, Option.map_some, happroved]
  -- whatever the last status, the other approvals are as they were
  have hother : ∀ (last : ApprovalRequest CommandRequest) (id : String), last.id = granted.id →
      id ≠ granted.id →
      statusOf ((store.put { granted with status := .reserved }).put last) id
        = statusOf store id := by
    intro last id hlast hne
    rw [statusOf_put, if_neg (by rw [hlast]; exact hne), statusOf_put, if_neg hne]
  refine @launch_iff surroundings request (some granted.id) store (some granted.id)
    ⟨store.put { granted with status := .reserved }, [], true, false⟩
    ((store.put { granted with status := .reserved }).put
      { granted with status := .consumed, consumedAt := some surroundings.now })
    ((store.put { granted with status := .reserved }).put
      { granted with status := .approved }) rfl
    (fun later hlater => ?_) (fun later hlater => ?_) (fun events hevents => ?_)
    (fun events started hevents => ?_) executable
  · exact (@consume_reserved surroundings request granted.id { granted with status := .reserved }
      later (by rw [hlater]; exact hreserved) rfl rfl hcommand).trans (by rw [hlater])
  · exact (@release_reserved surroundings granted.id { granted with status := .reserved }
      later (by rw [hlater]; exact hreserved) rfl rfl).trans (by rw [hlater])
  · refine ⟨fun _ id hid => ?_, fun id hnot => ?_, hevents⟩
    · rw [← Option.some.inj hid, statusOf_put, if_pos rfl]
      exact iff_of_true rfl rfl
    · have hne : id ≠ granted.id := fun heq => hnot ⟨rfl, rfl, by rw [heq]⟩
      exact .inl (hother _ id rfl hne)
  · constructor
    · intro hholds _
      have hiff := hholds.consumed_iff rfl granted.id rfl
      rw [statusOf_put, if_pos rfl] at hiff
      exact Bool.eq_false_iff.mpr fun hstarted => nomatch hiff.mpr hstarted
    · intro hstarted
      obtain rfl := hstarted rfl
      refine ⟨fun _ id hid => ?_, fun id _ => .inl ?_, hevents⟩
      · rw [← Option.some.inj hid, statusOf_put, if_pos rfl]
        exact iff_of_false (fun h => nomatch h) Bool.false_ne_true
      · by_cases hne : id = granted.id
        · rw [hne, statusOf_put, if_pos rfl, hbefore]
        · exact hother _ id rfl hne

end Launch

/-! ### The reservation -/

section Reserve

variable {approval : ApprovalRequest CommandRequest} {session : Session}

/-- What `reserve` leaves of an approval that is approved. -/
theorem reserve_of_approved (hfound : session.store approval.id = some approval)
    (happroved : approval.status = .approved) :
    reserve surroundings approval.id request session =
      match approval.isExpired surroundings.now with
      | .error error => (.error (ofApprovalError error), { session with reserved := false })
      | .ok true =>
          (afterEvent surroundings .expired
              (.error (ofApprovalError (hasExpired approval.id))),
            { session with
              store := session.store.put { approval with status := .expired }
              reserved := false })
      | .ok false =>
          if approval.command = request then
            (afterEvent surroundings .reserved (.ok ()),
              { session with
                store := session.store.put { approval with status := .reserved }
                reserved := true })
          else (.error (ofApprovalError (commandMismatch approval.id)),
            { session with reserved := false }) := by
  have hdue : expiresNow surroundings session.store approval.id = true ↔
      approval.isExpired surroundings.now = .ok true := by
    unfold expiresNow
    rw [hfound, Option.any_some]
    simp only [happroved, or_true, true_and, decide_eq_true_eq, ApprovalRequest.Expired]
  unfold reserve managed
  dsimp only
  rw [settle_reserve_of_approved hfound rfl happroved]
  cases hexpired : approval.isExpired surroundings.now with
  | error error =>
      dsimp only
      rw [if_neg (fun h => nomatch (hdue.mp h).symm.trans hexpired)]
      rfl
  | ok past =>
      cases past with
      | true =>
          dsimp only
          rw [if_pos (hdue.mpr hexpired)]
          unfold afterEvent
          cases surroundings.onApproval .expired <;> rfl
      | false =>
          dsimp only
          by_cases hcommand : approval.command = request
          · rw [if_pos hcommand, if_pos hcommand]
            unfold afterEvent
            cases surroundings.onApproval .reserved <;> rfl
          · rw [if_neg hcommand, if_neg hcommand]
            dsimp only
            rw [if_neg (fun h => nomatch (hdue.mp h).symm.trans hexpired)]
            rfl

/-- What `reserve` leaves of an approval that has expired. -/
theorem reserve_of_expired (hfound : session.store approval.id = some approval)
    (hexpired : approval.status = .expired) :
    reserve surroundings approval.id request session
      = (.error (ofApprovalError (hasExpired approval.id)), { session with reserved := false }) := by
  have hdue : expiresNow surroundings session.store approval.id = false := by
    unfold expiresNow
    rw [hfound, Option.any_some]
    simp [hexpired]
  unfold reserve managed
  dsimp only
  rw [settle_reserve_of_expired hfound hexpired]
  dsimp only
  rw [hdue]
  rfl

end Reserve

end Parts

/-! ## Whole executions -/

section

variable {surroundings : Surroundings} {request : CommandRequest} {approvalId : Option String}
  {store : ApprovalStore CommandRequest}

/-- No error of the approval manager is a policy error. -/
theorem ofApprovalError_class (error : Approval.ApprovalError) :
    (ofApprovalError error).errorClass ≠ .executionPolicy := by
  cases error <;> exact fun h => nomatch h

/-- What `execute` does with the outcome of the first `try`. -/
def proceed (surroundings : Surroundings) (request : CommandRequest) (executable : String)
    (authorized : Except Raised (Option String) × Session) :
    Except Raised CommandResult × Session :=
  match authorized with
  | (.error raised, session) =>
      if raised.errorClass = .executionPolicy then rejectWith surroundings request raised session
      else (.error raised, session)
  | (.ok approval, session) => launch surroundings request approval executable session

/-- A policy error is published, and nothing is stranded when it changed no status but that of
    an approval that was due. -/
theorem proceed_rejected {raised : Raised} (hclass : raised.errorClass = .executionPolicy)
    {after : ApprovalStore CommandRequest}
    (hkept : ∀ id, statusOf after id = statusOf store id ∨
      (statusOf after id = some .expired ∧
        ∃ approval, store id = some approval ∧ approval.Expired surroundings.now))
    (executable : String) :
    NotStranded surroundings approvalId store
      (proceed surroundings request executable (.error raised, .start after)).2 := by
  unfold proceed
  dsimp only
  rw [if_pos hclass, rejectWith_session]
  exact ⟨fun h => (nomatch h), fun id _ => hkept id, rfl⟩

/-- Any other error leaves the request open. -/
theorem proceed_failed {raised : Raised} (hclass : raised.errorClass ≠ .executionPolicy)
    {session : Session} (hevents : session.events = []) (executable : String) :
    ¬ NotStranded surroundings approvalId store
      (proceed surroundings request executable (.error raised, session)).2 := by
  unfold proceed
  dsimp only
  rw [if_neg hclass]
  refine not_notStranded_of_events ?_
  dsimp only
  rw [hevents]
  decide

/-- An approval that was reserved while a handler raised is stranded. -/
theorem proceed_reserved_raised {raised : Raised} {id : String}
    {approval : ApprovalRequest CommandRequest} (hfiled : approval.id = id)
    (hfound : store id = some approval) (happroved : approval.status = .approved)
    (executable : String) :
    ¬ NotStranded surroundings (some id) store
      (proceed surroundings request executable
        (.error raised, ⟨store.put { approval with status := .reserved }, [], true, false⟩)).2 := by
  intro hholds
  have hstore : (proceed surroundings request executable (.error raised,
      ⟨store.put { approval with status := .reserved }, [], true, false⟩)).2.store
        = store.put { approval with status := .reserved } := by
    unfold proceed
    dsimp only
    split
    · rw [rejectWith_session]
    · rfl
  have hstarted : (proceed surroundings request executable (.error raised,
      ⟨store.put { approval with status := .reserved }, [], true, false⟩)).2.started = false := by
    unfold proceed
    dsimp only
    split
    · rw [rejectWith_session]
    · rfl
  have hkept := hholds.otherwise_kept id (fun h => nomatch hstarted.symm.trans h.2.1)
  rw [hstore, statusOf_put, if_pos hfiled.symm, statusOf, hfound, Option.map_some,
    happroved] at hkept
  rcases hkept with hkept | ⟨hkept, -⟩ <;> cases hkept

theorem execute_eq_proceed (surroundings : Surroundings) (request : CommandRequest)
    (approvalId : Option String) {executable : String}
    (hwhich : surroundings.which request.executable = some executable) (session : Session) :
    execute surroundings request approvalId session
      = proceed surroundings request executable
          (authorize surroundings request approvalId session) := by
  unfold execute proceed
  rewrite [hwhich]
  rfl

/-- The statuses are as they were. -/
theorem statuses_kept (store : ApprovalStore CommandRequest) (now : DateTime) (id : String) :
    statusOf store id = statusOf store id ∨ (statusOf store id = some .expired ∧
      ∃ approval, store id = some approval ∧ approval.Expired now) :=
  .inl rfl

/-- The part of `authorize` that looks at the approval. -/
theorem proceed_approval {id : String} {approval : ApprovalRequest CommandRequest}
    (hfound : store id = some approval) (hfiled : approval.id = id) (decision : PolicyDecision)
    (executable : String) :
    NotStranded surroundings (some id) store
        (proceed surroundings request executable
          (match approval.status with
          | .pending | .consumed | .reserved => (.error (approvalRequired decision), .start store)
          | .rejected => (.error (commandDenied decision), .start store)
          | .approved | .expired =>
              match reserve surroundings id request (.start store) with
              | (.error raised, session) => (.error raised, session)
              | (.ok (), session) => (.ok (some id), session))).2
      ↔ ApprovalEndsClean surroundings request approval executable := by
  subst hfiled
  have hkept := statuses_kept store surroundings.now
  unfold ApprovalEndsClean
  cases hstatus : approval.status with
  | pending => exact iff_of_true (proceed_rejected rfl hkept executable) trivial
  | consumed => exact iff_of_true (proceed_rejected rfl hkept executable) trivial
  | reserved => exact iff_of_true (proceed_rejected rfl hkept executable) trivial
  | rejected => exact iff_of_true (proceed_rejected rfl hkept executable) trivial
  | expired =>
      dsimp only
      rw [@reserve_of_expired surroundings request approval (.start store) hfound hstatus]
      exact iff_of_false (proceed_failed (ofApprovalError_class _) rfl executable) id
  | approved =>
      dsimp only
      rw [@reserve_of_approved surroundings request approval (.start store) hfound hstatus]
      cases hexpired : approval.isExpired surroundings.now with
      | error error =>
          exact iff_of_false (proceed_failed (ofApprovalError_class _) rfl executable) id
      | ok past =>
          cases past with
          | true =>
              -- the expiry is saved before its event is published
              have hdue : ∀ other, statusOf (store.put { approval with status := .expired }) other
                    = statusOf store other ∨
                  (statusOf (store.put { approval with status := .expired }) other
                      = some .expired ∧
                    ∃ found, store other = some found ∧ found.Expired surroundings.now) := by
                intro other
                rw [statusOf_put]
                split
                · next heq => exact .inr ⟨rfl, approval, by rw [heq]; exact hfound, hexpired⟩
                · exact .inl rfl
              dsimp only
              unfold afterEvent
              cases surroundings.onApproval .expired with
              | none =>
                  refine iff_of_false (proceed_failed (ofApprovalError_class _) rfl executable) ?_
                  rintro ⟨raised, h, -⟩
                  cases h
              | some raised =>
                  by_cases hclass : raised.errorClass = .executionPolicy
                  · exact iff_of_true (proceed_rejected hclass hdue executable)
                      ⟨raised, rfl, hclass⟩
                  · refine iff_of_false (proceed_failed hclass rfl executable) ?_
                    rintro ⟨other, h, hother⟩
                    obtain rfl := Option.some.inj h
                    exact hclass hother
          | false =>
              dsimp only
              by_cases hcommand : approval.command = request
              · rw [if_pos hcommand]
                unfold afterEvent
                cases surroundings.onApproval .reserved with
                | some raised =>
                    exact iff_of_false (proceed_reserved_raised rfl hfound hstatus executable)
                      (fun h => nomatch h.2.1)
                | none =>
                    have hspec := @launch_reserved surroundings request store approval hfound
                      hstatus hcommand executable
                    exact hspec.trans ⟨fun h => ⟨hcommand, rfl, h⟩, fun h => h.2.2⟩
              · rw [if_neg hcommand]
                exact iff_of_false (proceed_failed (ofApprovalError_class _) rfl executable)
                  (fun h => hcommand h.1)

/-- **When an execution strands nothing**: exactly when it ends clean. -/
theorem execute_notStranded_iff (surroundings : Surroundings) (request : CommandRequest)
    (approvalId : Option String) (records : ApprovalRecords) :
    NotStranded surroundings approvalId records.store
        (execute surroundings request approvalId (.start records.store)).2
      ↔ EndsClean surroundings request approvalId records.store := by
  obtain ⟨store, hfiled⟩ := records
  dsimp only
  have hkept := statuses_kept store surroundings.now
  unfold EndsClean
  cases hwhich : surroundings.which request.executable with
  | none =>
      refine iff_of_true ?_ (fun executable h => nomatch h)
      unfold execute
      rw [hwhich]
      dsimp only
      rw [rejectWith_session]
      exact notStranded_of_unreserved rfl rfl rfl
  | some executable =>
      rw [execute_eq_proceed surroundings request approvalId hwhich]
      simp only [Option.some.injEq, forall_eq']
      unfold authorize
      cases surroundings.evaluate request with
      | error raised =>
          by_cases hclass : raised.errorClass = .executionPolicy
          · exact iff_of_true (proceed_rejected hclass hkept executable) hclass
          · exact iff_of_false (proceed_failed hclass rfl executable) hclass
      | ok decision =>
          dsimp only
          cases decision.outcome with
          | deny => exact iff_of_true (proceed_rejected rfl hkept executable) trivial
          | allow => exact launch_unreserved executable
          | requireApproval =>
              cases approvalId with
              | none =>
                  exact iff_of_true (proceed_rejected rfl hkept executable)
                    (fun id h => nomatch h)
              | some id =>
                  simp only [Option.some.injEq, forall_eq']
                  cases surroundings.hasManager with
                  | false =>
                      exact iff_of_true (proceed_rejected rfl hkept executable)
                        (fun h => nomatch h)
                  | true =>
                      simp only [forall_const, Bool.true_eq_false, if_false]
                      cases hfound : store id with
                      | none =>
                          refine iff_of_false ?_ ?_
                          · dsimp only [Session.start]
                            rw [hfound]
                            exact proceed_failed (ofApprovalError_class _) rfl executable
                          · rintro ⟨approval, h, -⟩
                            cases h
                      | some approval =>
                          simp only [Option.some.injEq, exists_eq_left']
                          have hspec := @proceed_approval surroundings request store id approval
                            hfound (hfiled id approval hfound) decision executable
                          rw [← hspec]
                          dsimp only [Session.start]
                          rewrite [hfound]
                          exact Iff.rfl

end

/-! ## An argument with a NUL -/

/-- A request whose argument has a NUL in it. -/
def nulRequest : CommandRequest :=
  ⟨"tool", ["\x00"], none, 60, [], 1000, by decide⟩

/-- The approved approval of the request. -/
def nulApproval : ApprovalRequest CommandRequest where
  id := "approval"
  command := nulRequest
  policyOutcome := .requireApproval
  status := .approved
  createdAt := ⟨0, some 0⟩
  expiresAt := none
  decidedAt := some ⟨1, some 0⟩
  consumedAt := none
  decisionReason := none

/-- Surroundings in which the policy asks for an approval, no handler raises, and a process is
    started unless an argument has a NUL. -/
def plainSurroundings : Surroundings where
  which := fun executable => some executable
  evaluate := fun _ => .ok ⟨.requireApproval, "No command policy rule matched the request."⟩
  resolveWorkingDirectory := fun _ => .ok "workspace"
  run := fun argv _ =>
    if argv.any (fun argument => '\x00' ∈ argument.toList) then
      .raised false ⟨.other, "ValueError", "embedded null byte"⟩
    else .completed 0 "" ""
  now := ⟨2, some 0⟩
  onStarted := none
  onTerminal := none
  onApproval := fun _ => none
  hasManager := true

/-- The records with one approval. -/
def recordsOf (approval : ApprovalRequest CommandRequest) : ApprovalRecords where
  store := fun id => if id = approval.id then some approval else none
  filed := by
    intro id found h
    split at h
    · next hid =>
        rw [← Option.some.inj h]
        exact hid.symm
    · cases h

/-- The `ValueError` of `subprocess.run` leaves the approval RESERVED and the request without a
    terminal event. -/
theorem stranded_by_nul :
    ¬ ∀ (surroundings : Surroundings) (request : CommandRequest) (approvalId : Option String)
      (records : ApprovalRecords),
      NotStranded surroundings approvalId records.store
        (execute surroundings request approvalId (.start records.store)).2 := by
  intro hclaim
  have hholds := hclaim plainSurroundings nulRequest (some "approval") (recordsOf nulApproval)
  have hstatus : statusOf (execute plainSurroundings nulRequest (some "approval")
      (.start (recordsOf nulApproval).store)).2.store "approval" = some .reserved := by decide
  have hstarted : (execute plainSurroundings nulRequest (some "approval")
      (.start (recordsOf nulApproval).store)).2.started = false := by decide
  have hbefore : statusOf (recordsOf nulApproval).store "approval" = some .approved := by decide
  rcases hholds.otherwise_kept "approval" (fun h => nomatch hstarted.symm.trans h.2.1) with
    hkept | ⟨hkept, -⟩
  · rw [hstatus, hbefore] at hkept
    cases hkept
  · rw [hstatus] at hkept
    cases hkept

end Eag.CommandExecution
