/-
  Eag.Events.Delivery

  To whom an event is delivered, while handlers change the subscriptions.

  `History` keeps beside the machine what the bus promises: who is subscribed, and who was when
  an event was published. `delivery_exact_iff`: every publish calls, one after another, whoever
  was subscribed at first and still is at its turn, exactly as long as no publish comes to a
  subscription that `clear` removed. `delivery_exact_of_idle_clears`: delivery is
  exact when the bus is cleared only while nothing that is subscribed waits.
-/

import Eag.Events.Bus
import Eag.Foundation.Runs

namespace Eag.Events

open Eag.Foundation

variable {EventType Handler : Type} [DecidableEq EventType] [DecidableEq Handler]

/-! ## What the bus promises -/

namespace EventBus

/-- What a subscription is for; it never changes. -/
def kind (bus : EventBus EventType Handler) (id : Nat) : Option (EventType × Handler) :=
  (bus.subscriptions[id]?).map fun subscription =>
    (subscription.eventType, subscription.callback)

/-- The subscription is for events of the type. -/
def isFor (bus : EventBus EventType Handler) (eventType : EventType) (id : Nat) : Bool :=
  (bus.kind id).any fun kind => kind.1 = eventType

end EventBus

/-- The machine with its history: who is subscribed now, in the order of subscription; for every
    publish, who was subscribed to the event then; for every turn, whether the subscription was
    there. -/
structure History (EventType Handler : Type) where
  machine : Machine EventType Handler
  subscribed : List Nat
  owed : List (List Nat)
  judged : List (Turn × Bool)

namespace History

/-- Nothing has happened. -/
def start : History EventType Handler := ⟨.init, [], [], []⟩

variable (h : History EventType Handler)

/-- Who is subscribed after an action. -/
def subscribedAfter : Action EventType Handler → List Nat
  | .subscribe _ _ => h.subscribed ++ [h.machine.bus.subscriptions.length]
  | .unsubscribe id => h.subscribed.filter (· ≠ id)
  | .unsubscribeHandler eventType handler =>
      match handler.bind fun handler =>
          h.subscribed.find? fun id => h.machine.bus.kind id = some (eventType, handler) with
      | none => h.subscribed
      | some id => h.subscribed.filter (· ≠ id)
  | .clear => []
  | .publish _ | .handlerReturns => h.subscribed

/-- The history after an action. -/
def step (a : Action EventType Handler) : History EventType Handler :=
  let after := h.machine.step a
  { machine := after
    subscribed := h.subscribedAfter a
    owed := match a with
      | .publish eventType =>
          h.owed ++ [h.subscribed.filter (h.machine.bus.isFor eventType)]
      | _ => h.owed
    judged := h.judged ++ (after.turns.drop h.machine.turns.length).map fun turn =>
      (turn, decide (turn.subscription ∈ h.subscribed)) }

/-- The subscriptions that came to their turn in a publish. -/
def served (publication : Nat) : List Nat :=
  (h.machine.turns.filter (·.publication = publication)).map (·.subscription)

/-- Delivery is exact: whoever comes to its turn is called if and only if it is still subscribed;
    in a publish those come to their turn who were subscribed when it began, each once, in the
    order of subscription, and all of them until the publish returns. -/
structure Exact : Prop where
  judged : h.judged.map Prod.fst = h.machine.turns
  called : ∀ turn wasSubscribed, (turn, wasSubscribed) ∈ h.judged → turn.called = wasSubscribed
  inOrder : ∀ publication owed, h.owed[publication]? = some owed →
    owed.Pairwise (· < ·) ∧ h.served publication <+: owed
  all : ∀ publication owed, h.owed[publication]? = some owed →
    (∀ frame ∈ h.machine.stack, frame.publication ≠ publication) → h.served publication = owed

/-- The publish that goes on does not come to a subscription that is active and no longer
    subscribed, which is one that `clear` removed. -/
def Harmless (a : Action EventType Handler) : Prop :=
  match a, h.machine.stack with
  | .handlerReturns, frame :: _ =>
      ∀ id, frame.pending.find? h.machine.bus.active = some id → id ∈ h.subscribed
  | _, _ => True

end History

/-! ## The operations of the bus -/

namespace EventBus

variable {bus : EventBus EventType Handler}

omit [DecidableEq EventType] [DecidableEq Handler] in
theorem lt_of_active {id : Nat} (h : bus.active id = true) : id < bus.subscriptions.length := by
  by_contra hge
  rw [active, List.getElem?_eq_none (Nat.le_of_not_lt hge)] at h
  exact nomatch h

omit [DecidableEq Handler] in
theorem kind_subscribe {eventType : EventType} {handler : Handler} {id : Nat}
    (hid : id < bus.subscriptions.length) :
    (bus.subscribe eventType handler).kind id = bus.kind id := by
  rw [kind, kind, subscribe, List.getElem?_append_left hid]

omit [DecidableEq Handler] in
theorem active_subscribe {eventType : EventType} {handler : Handler} {id : Nat} :
    (bus.subscribe eventType handler).active id =
      (bus.active id || id = bus.subscriptions.length) := by
  rw [active, active, subscribe]
  rcases Nat.lt_trichotomy id bus.subscriptions.length with hlt | heq | hgt
  · rw [List.getElem?_append_left hlt, decide_eq_false (Nat.ne_of_lt hlt), Bool.or_false]
  · rw [heq, List.getElem?_concat_length, decide_eq_true rfl, Bool.or_true]
    rfl
  · have hnone : bus.subscriptions[id]? = none := List.getElem?_eq_none (Nat.le_of_lt hgt)
    rw [List.getElem?_append_right (Nat.le_of_lt hgt), hnone,
      decide_eq_false (Nat.ne_of_gt hgt), List.getElem?_eq_none]
    · rfl
    · rw [List.length_singleton]
      omega

omit [DecidableEq Handler] in
/-- **What unsubscribing changes**: the subscription is no longer active, and no longer among the
    subscribers of its type if it was active. -/
theorem unsubscribe_spec (bus : EventBus EventType Handler) (id : Nat) :
    (∀ other, (bus.unsubscribe id).kind other = bus.kind other) ∧
      (bus.unsubscribe id).subscriptions.length = bus.subscriptions.length ∧
      (∀ other, (bus.unsubscribe id).active other = (bus.active other && other ≠ id)) ∧
      ∀ eventType, (bus.unsubscribe id).subscribers eventType =
        if bus.active id && bus.isFor eventType id then
          (bus.subscribers eventType).filter (· ≠ id)
        else bus.subscribers eventType := by
  unfold unsubscribe
  cases hget : bus.subscriptions[id]? with
  | none =>
      have hactive : bus.active id = false := by rw [active, hget]; rfl
      refine ⟨fun _ => rfl, rfl, fun other => ?_, fun eventType => ?_⟩
      · by_cases hother : other = id
        · rw [hother, hactive, Bool.false_and]
        · rw [decide_eq_true hother, Bool.and_true]
      · rw [hactive, Bool.false_and]
        rfl
  | some subscription =>
      have hactive : bus.active id = subscription.active := by rw [active, hget]; rfl
      have hfor : ∀ eventType,
          bus.isFor eventType id = decide (subscription.eventType = eventType) := by
        intro eventType
        rw [isFor, kind, hget]
        rfl
      dsimp only
      split
      · next hon =>
          have hlt : id < bus.subscriptions.length := (List.getElem?_eq_some_iff.mp hget).1
          refine ⟨fun other => ?_, ?_, fun other => ?_, fun eventType => ?_⟩
          · simp only [kind, removeSubscription, List.getElem?_set]
            split
            · next hid =>
                rw [← hid, hget]
                rfl
            · rfl
          · simp only [removeSubscription, List.length_set]
          · simp only [active, removeSubscription, List.getElem?_set]
            split
            · next hid =>
                rw [← hid, decide_eq_false (not_not_intro rfl), Bool.and_false]
                rfl
            · next hid => rw [decide_eq_true (Ne.symm hid), Bool.and_true]
          · rw [hactive, hon, Bool.true_and, hfor]
            by_cases htype : subscription.eventType = eventType
            · rw [decide_eq_true htype, if_pos rfl, ← htype]
              simp only [removeSubscription, Function.update_self]
            · rw [decide_eq_false htype, if_neg Bool.false_ne_true]
              simp only [removeSubscription, Function.update_of_ne (Ne.symm htype)]
      · next hoff =>
          refine ⟨fun _ => rfl, rfl, fun other => ?_, fun eventType => ?_⟩
          · by_cases hother : other = id
            · rw [hother, hactive, Bool.eq_false_iff.mpr hoff, Bool.false_and]
            · rw [decide_eq_true hother, Bool.and_true]
          · rw [hactive, Bool.eq_false_iff.mpr hoff, Bool.false_and]
            rfl

end EventBus

/-! ## The loop of a publish -/

open Machine (deliver)

omit [DecidableEq EventType] [DecidableEq Handler] in
/-- **One stretch of the loop**: those that wait come to their turn from the front, and are called
    if they are active; only the last of them is. -/
theorem deliver_spec (bus : EventBus EventType Handler) (publication : Nat) (pending : List Nat) :
    (deliver bus publication pending).1.map (·.subscription) ++
        (deliver bus publication pending).2.getD [] = pending ∧
      (∀ turn ∈ (deliver bus publication pending).1, turn.publication = publication ∧
        turn.called = bus.active turn.subscription ∧
        (turn.called = true → pending.find? bus.active = some turn.subscription)) ∧
      ∀ id, pending.find? bus.active = some id →
        ⟨publication, id, true⟩ ∈ (deliver bus publication pending).1 := by
  induction pending with
  | nil => exact ⟨rfl, nofun, nofun⟩
  | cons id rest ih =>
      obtain ⟨hmap, hturns, hnext⟩ := ih
      rw [deliver]
      by_cases hactive : bus.active id = true
      · rw [if_pos hactive, List.find?_cons_of_pos hactive]
        refine ⟨rfl, fun turn hturn => ?_, fun other hother => ?_⟩
        · rw [List.mem_singleton.mp hturn]
          exact ⟨rfl, hactive.symm, fun _ => rfl⟩
        · rw [← Option.some.inj hother]
          exact List.mem_singleton_self _
      · rw [if_neg hactive, List.find?_cons_of_neg hactive]
        refine ⟨congrArg (id :: ·) hmap, fun turn hturn => ?_, fun other hother => ?_⟩
        · rcases List.mem_cons.mp hturn with rfl | hturn
          · exact ⟨rfl, (Bool.eq_false_iff.mpr hactive).symm, fun hcalled => nomatch hcalled⟩
          · exact hturns turn hturn
        · exact List.mem_cons_of_mem _ (hnext other hother)

/-! ## The subscribers -/

namespace History

variable {h : History EventType Handler}

/-- The bus knows who is subscribed. -/
structure Registered (h : History EventType Handler) : Prop where
  ascending : h.subscribed.Pairwise (· < ·)
  active : ∀ id ∈ h.subscribed, h.machine.bus.active id = true
  table : ∀ eventType, h.machine.bus.subscribers eventType =
    h.subscribed.filter (h.machine.bus.isFor eventType)

omit [DecidableEq Handler] in
theorem registered_start : Registered (start : History EventType Handler) :=
  ⟨List.Pairwise.nil, nofun, fun _ => rfl⟩

theorem Registered.subscribe (hreg : Registered h) (eventType : EventType) (handler : Handler) :
    Registered (h.step (.subscribe eventType handler)) := by
  have hmade : ∀ id ∈ h.subscribed, id < h.machine.bus.subscriptions.length :=
    fun id hid => EventBus.lt_of_active (hreg.active id hid)
  refine ⟨?_, fun id hid => ?_, fun other => ?_⟩
  · refine List.pairwise_append.mpr ⟨hreg.ascending, List.pairwise_singleton _ _, ?_⟩
    intro id hid new hnew
    rw [List.mem_singleton.mp hnew]
    exact hmade id hid
  · show (h.machine.bus.subscribe eventType handler).active id = true
    rw [EventBus.active_subscribe]
    rcases List.mem_append.mp hid with hold | hnew
    · rw [hreg.active id hold, Bool.true_or]
    · rw [List.mem_singleton.mp hnew, decide_eq_true rfl, Bool.or_true]
  · show (h.machine.bus.subscribe eventType handler).subscribers other =
      (h.subscribed ++ [h.machine.bus.subscriptions.length]).filter
        ((h.machine.bus.subscribe eventType handler).isFor other)
    have hold : h.subscribed.filter ((h.machine.bus.subscribe eventType handler).isFor other) =
        h.machine.bus.subscribers other := by
      rw [hreg.table]
      refine List.filter_congr fun id hid => ?_
      rw [EventBus.isFor, EventBus.isFor, EventBus.kind_subscribe (hmade id hid)]
    have hnew : (h.machine.bus.subscribe eventType handler).isFor other
        h.machine.bus.subscriptions.length = decide (eventType = other) := by
      rw [EventBus.isFor, EventBus.kind, EventBus.subscribe, List.getElem?_concat_length]
      rfl
    rw [List.filter_append, hold, List.filter_singleton, hnew, EventBus.subscribe]
    by_cases htype : other = eventType
    · rw [htype, decide_eq_true rfl]
      exact Function.update_self _ _ _
    · rw [decide_eq_false (Ne.symm htype)]
      show Function.update h.machine.bus.subscribers eventType _ other = _ ++ []
      rw [Function.update_of_ne htype, List.append_nil]

omit [DecidableEq Handler] in
/-- A bus without a subscription, and who is then subscribed. -/
theorem Registered.without (hreg : Registered h) (id : Nat) (rest : History EventType Handler)
    (hbus : rest.machine.bus = h.machine.bus.unsubscribe id)
    (hsubscribed : rest.subscribed = h.subscribed.filter (· ≠ id)) : Registered rest := by
  obtain ⟨hkind, -, hactive, htable⟩ := h.machine.bus.unsubscribe_spec id
  refine ⟨?_, fun other hother => ?_, fun eventType => ?_⟩
  · rw [hsubscribed]
    exact hreg.ascending.filter _
  · rw [hsubscribed, List.mem_filter, decide_eq_true_eq] at hother
    rw [hbus, hactive, hreg.active other hother.1, decide_eq_true hother.2, Bool.and_true]
  · have hfor : rest.machine.bus.isFor eventType = h.machine.bus.isFor eventType := by
      funext other
      rw [EventBus.isFor, EventBus.isFor, hbus, hkind]
    rw [hfor, hsubscribed, hbus, htable, hreg.table, List.filter_filter, List.filter_filter]
    split
    · exact List.filter_congr fun other _ => Bool.and_comm _ _
    · next hnot =>
        refine List.filter_congr fun other hother => ?_
        by_cases hid : other = id
        · -- it is subscribed, so it is active, and not for this type
          have hon := hreg.active other hother
          rw [← hid, hon, Bool.true_and] at hnot
          rw [Bool.eq_false_iff.mpr hnot, Bool.false_and]
        · rw [decide_eq_true hid, Bool.and_true]

/-- The bus finds the subscription that a handler has. -/
theorem Registered.subscriberWith (hreg : Registered h) (eventType : EventType)
    (handler : Handler) : h.machine.bus.subscriberWith eventType handler =
      h.subscribed.find? fun id => h.machine.bus.kind id = some (eventType, handler) := by
  rw [EventBus.subscriberWith, hreg.table, List.find?_filter]
  congr 1
  funext id
  rw [EventBus.isFor, EventBus.kind]
  cases h.machine.bus.subscriptions[id]? with
  | none => rfl
  | some subscription => simp

/-- Unsubscribing a handler unsubscribes its first subscription, or nothing. -/
theorem Registered.unsubscribeHandler_cases (hreg : Registered h) (eventType : EventType)
    (handler : Option Handler) :
    let after := h.step (.unsubscribeHandler eventType handler)
    after.machine.bus = h.machine.bus ∧ after.subscribed = h.subscribed ∨
      ∃ id, after.machine.bus = h.machine.bus.unsubscribe id ∧
        after.subscribed = h.subscribed.filter (· ≠ id) := by
  have hfound : handler.bind (h.machine.bus.subscriberWith eventType) =
      handler.bind fun handler =>
        h.subscribed.find? fun id => h.machine.bus.kind id = some (eventType, handler) := by
    cases handler with
    | none => rfl
    | some handler => exact hreg.subscriberWith eventType handler
  show h.machine.bus.unsubscribeHandler eventType handler = _ ∧
      h.subscribedAfter (.unsubscribeHandler eventType handler) = _ ∨
    ∃ id, h.machine.bus.unsubscribeHandler eventType handler = _ ∧
      h.subscribedAfter (.unsubscribeHandler eventType handler) = _
  rw [EventBus.unsubscribeHandler, subscribedAfter, ← hfound]
  cases handler.bind (h.machine.bus.subscriberWith eventType) with
  | none => exact .inl ⟨rfl, rfl⟩
  | some id => exact .inr ⟨id, rfl, rfl⟩

theorem Registered.unsubscribeHandler (hreg : Registered h) (eventType : EventType)
    (handler : Option Handler) : Registered (h.step (.unsubscribeHandler eventType handler)) := by
  rcases hreg.unsubscribeHandler_cases eventType handler with
    ⟨hbus, hsubscribed⟩ | ⟨id, hbus, hsubscribed⟩
  · constructor
    · rw [hsubscribed]
      exact hreg.ascending
    · rw [hsubscribed, hbus]
      exact hreg.active
    · rw [hsubscribed, hbus]
      exact hreg.table
  · exact hreg.without id _ hbus hsubscribed

theorem step_bus_of_returns : (h.step .handlerReturns).machine.bus = h.machine.bus := by
  show (h.machine.step .handlerReturns).bus = _
  rw [Machine.step]
  split <;> rfl

/-- **Every action** keeps the bus in step with who is subscribed. -/
theorem Registered.step (hreg : Registered h) (a : Action EventType Handler) :
    Registered (h.step a) := by
  cases a with
  | subscribe eventType handler => exact hreg.subscribe eventType handler
  | unsubscribe id => exact hreg.without id _ rfl rfl
  | unsubscribeHandler eventType handler => exact hreg.unsubscribeHandler eventType handler
  | clear => exact ⟨List.Pairwise.nil, nofun, fun _ => rfl⟩
  | publish eventType => exact ⟨hreg.ascending, hreg.active, hreg.table⟩
  | handlerReturns =>
      have hbus := @step_bus_of_returns _ _ _ _ h
      constructor
      · exact hreg.ascending
      · rw [hbus]
        exact hreg.active
      · rw [hbus]
        exact hreg.table

/-! ## The publishes -/

/-- The publishes under way and those that returned: what came to its turn in a publish and what
    waits in it make up who was subscribed when it began. -/
structure Underway (h : History EventType Handler) : Prop where
  count : h.owed.length = h.machine.published
  ascending : ∀ owed ∈ h.owed, owed.Pairwise (· < ·)
  stacked : h.machine.stack.Pairwise fun inner outer => outer.publication < inner.publication
  stack_lt : ∀ frame ∈ h.machine.stack, frame.publication < h.machine.published
  turns_lt : ∀ turn ∈ h.machine.turns, turn.publication < h.machine.published
  waiting : ∀ frame ∈ h.machine.stack, ∀ owed, h.owed[frame.publication]? = some owed →
    h.served frame.publication ++ frame.pending = owed
  returned : ∀ publication owed, h.owed[publication]? = some owed →
    (∀ frame ∈ h.machine.stack, frame.publication ≠ publication) → h.served publication = owed
  judged : h.judged.map Prod.fst = h.machine.turns
  called : ∀ turn wasSubscribed, (turn, wasSubscribed) ∈ h.judged → turn.called = wasSubscribed

omit [DecidableEq EventType] [DecidableEq Handler] in
theorem underway_start : Underway (start : History EventType Handler) where
  count := rfl
  ascending := nofun
  stacked := List.Pairwise.nil
  stack_lt := nofun
  turns_lt := nofun
  waiting := nofun
  returned _ _ howed := nomatch howed
  judged := rfl
  called := nofun

omit [DecidableEq EventType] [DecidableEq Handler] in
theorem Underway.exact (hrun : Underway h) : h.Exact where
  judged := hrun.judged
  called := hrun.called
  inOrder publication owed howed := by
    refine ⟨hrun.ascending owed (List.mem_of_getElem? howed), ?_⟩
    by_cases hstack : ∃ frame ∈ h.machine.stack, frame.publication = publication
    · obtain ⟨frame, hframe, rfl⟩ := hstack
      exact ⟨frame.pending, hrun.waiting frame hframe owed howed⟩
    · have hnone : ∀ frame ∈ h.machine.stack, frame.publication ≠ publication :=
        fun frame hframe heq => hstack ⟨frame, hframe, heq⟩
      have hall := hrun.returned publication owed howed hnone
      exact ⟨[], by rw [List.append_nil, hall]⟩
  all := hrun.returned

/-- The history after the innermost publish went on. -/
def wentOn (h : History EventType Handler) (frame : Frame) (outer : List Frame) :
    History EventType Handler where
  machine := h.machine.goOn frame outer
  subscribed := h.subscribed
  owed := h.owed
  judged := h.judged ++ (deliver h.machine.bus frame.publication frame.pending).1.map fun turn =>
    (turn, decide (turn.subscription ∈ h.subscribed))

omit [DecidableEq EventType] [DecidableEq Handler] in
/-- The frames after the innermost publish went on: it is still there if something waits in it. -/
theorem stack_wentOn (frame : Frame) (outer : List Frame) :
    (h.wentOn frame outer).machine.stack =
      (deliver h.machine.bus frame.publication frame.pending).2.elim outer fun pending =>
        ⟨frame.publication, pending⟩ :: outer := by
  unfold wentOn Machine.goOn
  dsimp only
  cases (deliver h.machine.bus frame.publication frame.pending).2 with
  | none => rfl
  | some pending => rfl

omit [DecidableEq EventType] [DecidableEq Handler] in
/-- What came to its turn when the innermost publish went on. -/
theorem served_wentOn (frame : Frame) (outer : List Frame) (publication : Nat) :
    (h.wentOn frame outer).served publication = h.served publication ++
      if frame.publication = publication then
        (deliver h.machine.bus frame.publication frame.pending).1.map (·.subscription)
      else [] := by
  obtain ⟨-, hturns, -⟩ := deliver_spec h.machine.bus frame.publication frame.pending
  show ((h.machine.turns ++ (deliver h.machine.bus frame.publication frame.pending).1).filter
    (·.publication = publication)).map (·.subscription) = _
  rw [List.filter_append, List.map_append]
  congr 1
  split
  · next hsame =>
      rw [List.filter_eq_self.mpr fun turn hturn => decide_eq_true
        ((hturns turn hturn).1.trans hsame)]
  · next hother =>
      rw [List.filter_eq_nil_iff.mpr fun turn hturn htrue => hother
        ((hturns turn hturn).1.symm.trans (of_decide_eq_true htrue))]
      rfl

omit [DecidableEq EventType] [DecidableEq Handler] in
/-- **The innermost publish goes on**, to a subscription that is still there. -/
theorem Underway.wentOn (hrun : Underway h)
    (hactive : ∀ id ∈ h.subscribed, h.machine.bus.active id = true)
    {frame : Frame} {outer : List Frame} (hstack : h.machine.stack = frame :: outer)
    (hnext : ∀ id, frame.pending.find? h.machine.bus.active = some id → id ∈ h.subscribed) :
    Underway (h.wentOn frame outer) := by
  obtain ⟨hpending, hturns, -⟩ := deliver_spec h.machine.bus frame.publication frame.pending
  have hstacked := hrun.stacked
  rw [hstack, List.pairwise_cons] at hstacked
  have hframe : frame ∈ h.machine.stack := hstack ▸ List.mem_cons_self
  have houter : ∀ other ∈ outer, other ∈ h.machine.stack := fun other hother =>
    hstack ▸ List.mem_cons_of_mem frame hother
  have hserved := @served_wentOn _ _ h frame outer
  -- the frames after the stretch are those outside, and the innermost one if it still waits
  have hframes : ∀ other ∈ (h.wentOn frame outer).machine.stack, other ∈ outer ∨
      other.publication = frame.publication ∧
        (deliver h.machine.bus frame.publication frame.pending).2 = some other.pending := by
    intro other hother
    rw [stack_wentOn] at hother
    cases hrest : (deliver h.machine.bus frame.publication frame.pending).2 with
    | none =>
        rw [hrest] at hother
        exact .inl hother
    | some pending =>
        rw [hrest] at hother
        rcases List.mem_cons.mp hother with rfl | hold
        · exact .inr ⟨rfl, rfl⟩
        · exact .inl hold
  refine ⟨hrun.count, hrun.ascending, ?_, fun other hother => ?_, fun turn hturn => ?_,
    fun other hother owed howed => ?_, fun publication owed howed hnone => ?_, ?_,
    fun turn wasSubscribed hmem => ?_⟩
  · rw [stack_wentOn]
    cases (deliver h.machine.bus frame.publication frame.pending).2 with
    | none => exact hstacked.2
    | some pending => exact List.pairwise_cons.mpr hstacked
  · rcases hframes other hother with hold | ⟨hsame, -⟩
    · exact hrun.stack_lt other (houter other hold)
    · rw [hsame]
      exact hrun.stack_lt frame hframe
  · rcases List.mem_append.mp hturn with hold | hnew
    · exact hrun.turns_lt turn hold
    · rw [(hturns turn hnew).1]
      exact hrun.stack_lt frame hframe
  · rcases hframes other hother with hold | ⟨hsame, hsome⟩
    · have hne : frame.publication ≠ other.publication := Nat.ne_of_gt (hstacked.1 other hold)
      rw [hserved, if_neg hne, List.append_nil]
      exact hrun.waiting other (houter other hold) owed howed
    · rw [hsome, Option.getD_some] at hpending
      rw [hsame] at howed ⊢
      rw [hserved, if_pos rfl, List.append_assoc, hpending]
      exact hrun.waiting frame hframe owed howed
  · rw [hserved]
    by_cases hsame : frame.publication = publication
    · -- the innermost publish returned, so nothing waits in it
      have hdone : (deliver h.machine.bus frame.publication frame.pending).2 = none := by
        cases hrest : (deliver h.machine.bus frame.publication frame.pending).2 with
        | none => rfl
        | some pending =>
            refine absurd hsame (hnone ⟨frame.publication, pending⟩ ?_)
            rw [stack_wentOn, hrest]
            exact List.mem_cons_self
      rw [hdone, Option.getD_none, List.append_nil] at hpending
      rw [if_pos hsame, hpending, ← hsame]
      exact hrun.waiting frame hframe owed (hsame ▸ howed)
    · rw [if_neg hsame, List.append_nil]
      refine hrun.returned publication owed howed fun other hother => ?_
      rw [hstack] at hother
      rcases List.mem_cons.mp hother with rfl | hold
      · exact hsame
      · refine hnone other ?_
        rw [stack_wentOn]
        cases (deliver h.machine.bus frame.publication frame.pending).2 with
        | none => exact hold
        | some pending => exact List.mem_cons_of_mem _ hold
  · show (h.judged ++ _).map Prod.fst = h.machine.turns ++ _
    rw [List.map_append, List.map_map, hrun.judged]
    exact congrArg (h.machine.turns ++ ·) (List.map_id _)
  · rcases List.mem_append.mp hmem with hold | hnew
    · exact hrun.called turn wasSubscribed hold
    · obtain ⟨made, hmade, heq⟩ := List.mem_map.mp hnew
      obtain ⟨rfl, rfl⟩ := Prod.mk.inj heq
      obtain ⟨-, hcalled, hfirst⟩ := hturns made hmade
      cases hcase : made.called with
      | true => exact (decide_eq_true (hnext _ (hfirst hcase))).symm
      | false =>
          have hnot : made.subscription ∉ h.subscribed := by
            intro hmem
            rw [hactive _ hmem, hcase] at hcalled
            cases hcalled
          exact (decide_eq_false hnot).symm

/-- An action that makes no turn leaves the publishes alone. -/
theorem Underway.kept (hrun : Underway h) {a : Action EventType Handler}
    (hturns : (h.machine.step a).turns = h.machine.turns)
    (hstack : (h.machine.step a).stack = h.machine.stack)
    (hpublished : (h.machine.step a).published = h.machine.published)
    (howed : (h.step a).owed = h.owed) : Underway (h.step a) := by
  have hjudged : (h.step a).judged = h.judged := by
    show h.judged ++ ((h.machine.step a).turns.drop h.machine.turns.length).map _ = _
    rw [hturns, List.drop_length, List.map_nil, List.append_nil]
  have hserved : ∀ publication, (h.step a).served publication = h.served publication := by
    intro publication
    show ((h.machine.step a).turns.filter _).map _ = _
    rw [hturns]
    rfl
  constructor
  · rw [howed]
    exact hrun.count.trans hpublished.symm
  · rw [howed]
    exact hrun.ascending
  · exact hstack ▸ hrun.stacked
  · exact fun frame hframe => hpublished.symm ▸ hrun.stack_lt frame (hstack ▸ hframe)
  · exact fun turn hturn => hpublished.symm ▸ hrun.turns_lt turn (hturns ▸ hturn)
  · intro frame hframe owed hget
    rw [howed] at hget
    rw [hserved]
    exact hrun.waiting frame (hstack ▸ hframe) owed hget
  · intro publication owed hget hnone
    rw [howed] at hget
    rw [hserved]
    exact hrun.returned publication owed hget fun frame hframe =>
      hnone frame (hstack.symm ▸ hframe)
  · rw [hjudged]
    exact hrun.judged.trans hturns.symm
  · rw [hjudged]
    exact hrun.called

/-! ## Steps -/

/-- The history at the start of a publish, before anybody is called. -/
def publishing (h : History EventType Handler) (eventType : EventType) :
    History EventType Handler where
  machine := { h.machine with
    published := h.machine.published + 1
    stack := ⟨h.machine.published, h.machine.bus.subscribers eventType⟩ :: h.machine.stack }
  subscribed := h.subscribed
  owed := h.owed ++ [h.subscribed.filter (h.machine.bus.isFor eventType)]
  judged := h.judged

omit [DecidableEq Handler] in
theorem Underway.publishing (hrun : Underway h) (hreg : Registered h) (eventType : EventType) :
    Underway (h.publishing eventType) := by
  have hserved : h.served h.machine.published = [] := by
    rw [served, List.filter_eq_nil_iff.mpr fun turn hturn htrue =>
      Nat.ne_of_lt (hrun.turns_lt turn hturn) (of_decide_eq_true htrue)]
    rfl
  have hlast : (h.owed ++ [h.subscribed.filter (h.machine.bus.isFor eventType)])[
      h.machine.published]? = some (h.subscribed.filter (h.machine.bus.isFor eventType)) := by
    rw [← hrun.count]
    exact List.getElem?_concat_length
  -- the publishes before are the same
  have hbefore : ∀ {publication owed}, publication ≠ h.machine.published →
      (h.owed ++ [h.subscribed.filter (h.machine.bus.isFor eventType)])[publication]? =
        some owed → h.owed[publication]? = some owed := by
    intro publication owed hne hget
    have hlt := (List.getElem?_eq_some_iff.mp hget).1
    rw [List.length_append, List.length_singleton, hrun.count] at hlt
    rwa [List.getElem?_append_left (by rw [hrun.count]; omega)] at hget
  constructor
  · show (h.owed ++ _).length = h.machine.published + 1
    rw [List.length_append, hrun.count]
    rfl
  · intro owed howed
    rcases List.mem_append.mp howed with hold | hnew
    · exact hrun.ascending owed hold
    · rw [List.mem_singleton.mp hnew]
      exact hreg.ascending.filter _
  · exact List.pairwise_cons.mpr ⟨hrun.stack_lt, hrun.stacked⟩
  · intro frame hframe
    rcases List.mem_cons.mp hframe with rfl | hold
    · exact Nat.lt_succ_self _
    · exact Nat.lt_succ_of_lt (hrun.stack_lt frame hold)
  · exact fun turn hturn => Nat.lt_succ_of_lt (hrun.turns_lt turn hturn)
  · intro frame hframe owed hget
    rcases List.mem_cons.mp hframe with rfl | hold
    · show h.served h.machine.published ++ h.machine.bus.subscribers eventType = owed
      rw [hserved, List.nil_append, hreg.table]
      exact Option.some.inj (hlast.symm.trans hget)
    · exact hrun.waiting frame hold owed
        (hbefore (Nat.ne_of_lt (hrun.stack_lt frame hold)) hget)
  · intro publication owed hget hnone
    have hne : publication ≠ h.machine.published := fun heq =>
      hnone _ List.mem_cons_self heq.symm
    exact hrun.returned publication owed (hbefore hne hget) fun frame hframe =>
      hnone frame (List.mem_cons_of_mem _ hframe)
  · exact hrun.judged
  · exact hrun.called

theorem step_publish (h : History EventType Handler) (eventType : EventType) :
    h.step (.publish eventType) = (h.publishing eventType).wentOn
      ⟨h.machine.published, h.machine.bus.subscribers eventType⟩ h.machine.stack := by
  have hdrop := @List.drop_left _ h.machine.turns
    (deliver h.machine.bus h.machine.published (h.machine.bus.subscribers eventType)).1
  show History.mk _ _ _ (h.judged ++ ((h.machine.turns ++ _).drop _).map _) = _
  rw [hdrop]
  rfl

theorem step_returns {frame : Frame} {outer : List Frame}
    (hstack : h.machine.stack = frame :: outer) :
    h.step .handlerReturns = h.wentOn frame outer := by
  have hmachine : h.machine.step .handlerReturns = h.machine.goOn frame outer := by
    rw [Machine.step, hstack]
  have hdrop : (h.machine.goOn frame outer).turns.drop h.machine.turns.length =
      (deliver h.machine.bus frame.publication frame.pending).1 := List.drop_left
  show History.mk (h.machine.step .handlerReturns) _ _
    (h.judged ++ ((h.machine.step .handlerReturns).turns.drop _).map _) = _
  rw [hmachine, hdrop]
  rfl

/-- **Every harmless action** keeps delivery exact. -/
theorem Underway.step (hrun : Underway h) (hreg : Registered h) {a : Action EventType Handler}
    (hharmless : h.Harmless a) : Underway (h.step a) := by
  cases a with
  | subscribe eventType handler => exact hrun.kept rfl rfl rfl rfl
  | unsubscribe id => exact hrun.kept rfl rfl rfl rfl
  | unsubscribeHandler eventType handler => exact hrun.kept rfl rfl rfl rfl
  | clear => exact hrun.kept rfl rfl rfl rfl
  | publish eventType =>
      rw [step_publish]
      refine (hrun.publishing hreg eventType).wentOn hreg.active rfl fun id hid => ?_
      -- nobody has had the time to leave
      have hmem : id ∈ h.machine.bus.subscribers eventType := List.mem_of_find?_eq_some hid
      rw [hreg.table] at hmem
      exact List.mem_of_mem_filter hmem
  | handlerReturns =>
      cases hstack : h.machine.stack with
      | nil =>
          have hmachine : h.machine.step .handlerReturns = h.machine := by
            rw [Machine.step, hstack]
          exact hrun.kept (by rw [hmachine]) (by rw [hmachine]) (by rw [hmachine]) rfl
      | cons frame outer =>
          rw [step_returns hstack]
          unfold Harmless at hharmless
          rw [hstack] at hharmless
          exact hrun.wentOn hreg.active hstack hharmless

/-- An action after which delivery is exact was harmless. -/
theorem Exact.harmless {a : Action EventType Handler} (hexact : (h.step a).Exact) :
    h.Harmless a := by
  cases a with
  | handlerReturns =>
      unfold Harmless
      cases hstack : h.machine.stack with
      | nil => trivial
      | cons frame outer =>
          intro id hid
          obtain ⟨-, -, hcalled⟩ :=
            deliver_spec h.machine.bus frame.publication frame.pending
          rw [step_returns hstack] at hexact
          have hjudged : (⟨frame.publication, id, true⟩, decide (id ∈ h.subscribed)) ∈
              (h.wentOn frame outer).judged :=
            List.mem_append_right _ (List.mem_map_of_mem (hcalled id hid))
          exact of_decide_eq_true (hexact.called _ _ hjudged).symm
  | subscribe eventType handler => trivial
  | unsubscribe id => trivial
  | unsubscribeHandler eventType handler => trivial
  | clear => trivial
  | publish eventType => trivial

/-! ## Runs -/

/-- **Delivery is exact** in every state that a run passes exactly when every action of the run
    is harmless. -/
theorem delivery_exact_iff (actions : List (Action EventType Handler)) :
    Throughout History.step Exact start actions ↔
      EachStep History.step Harmless start actions := by
  refine throughout_iff_eachStep
    (I := fun h : History EventType Handler => Registered h ∧ Underway h) ?_ ?_ ?_
    ⟨registered_start, underway_start⟩
  · exact fun h a hinv hharmless => ⟨hinv.1.step a, hinv.2.step hinv.1 hharmless⟩
  · exact fun h hinv => hinv.2.exact
  · exact fun h a _ hexact => hexact.harmless

/-- Nothing that is subscribed waits in a publish when the bus is cleared. -/
def ClearsIdle (h : History EventType Handler) (a : Action EventType Handler) : Prop :=
  a = .clear → ∀ frame ∈ h.machine.stack, ∀ id ∈ frame.pending, id ∉ h.subscribed

/-- Whoever waits and is active is subscribed. -/
def WaitersSubscribed (h : History EventType Handler) : Prop :=
  ∀ frame ∈ h.machine.stack, ∀ id ∈ frame.pending, h.machine.bus.active id = true →
    id ∈ h.subscribed

omit [DecidableEq EventType] [DecidableEq Handler] in
theorem WaitersSubscribed.wentOn (hwait : WaitersSubscribed h) {frame : Frame}
    {outer : List Frame} (hstack : h.machine.stack = frame :: outer) :
    WaitersSubscribed (h.wentOn frame outer) := by
  obtain ⟨hpending, -, -⟩ := deliver_spec h.machine.bus frame.publication frame.pending
  rw [WaitersSubscribed, hstack, List.forall_mem_cons] at hwait
  intro other hother id hid hactive
  rw [stack_wentOn] at hother
  cases hrest : (deliver h.machine.bus frame.publication frame.pending).2 with
  | none =>
      rw [hrest] at hother
      exact hwait.2 other hother id hid hactive
  | some pending =>
      rw [hrest] at hother
      rcases List.mem_cons.mp hother with rfl | hold
      · rw [hrest, Option.getD_some] at hpending
        exact hwait.1 id (hpending ▸ List.mem_append_right _ hid) hactive
      · exact hwait.2 other hold id hid hactive

omit [DecidableEq Handler] in
theorem WaitersSubscribed.without (hwait : WaitersSubscribed h) (id : Nat)
    {rest : History EventType Handler} (hstack : rest.machine.stack = h.machine.stack)
    (hbus : rest.machine.bus = h.machine.bus.unsubscribe id)
    (hsubscribed : rest.subscribed = h.subscribed.filter (· ≠ id)) :
    WaitersSubscribed rest := by
  intro frame hframe other hother hactive
  rw [hbus, (h.machine.bus.unsubscribe_spec id).2.2.1, Bool.and_eq_true,
    decide_eq_true_eq] at hactive
  rw [hsubscribed, List.mem_filter, decide_eq_true_eq]
  exact ⟨hwait frame (hstack ▸ hframe) other hother hactive.1, hactive.2⟩

theorem WaitersSubscribed.step (hwait : WaitersSubscribed h) (hreg : Registered h)
    {a : Action EventType Handler} (hidle : ClearsIdle h a) : WaitersSubscribed (h.step a) := by
  cases a with
  | subscribe eventType handler =>
      intro frame hframe id hid hactive
      have hcases : (h.machine.bus.subscribe eventType handler).active id = true := hactive
      rw [EventBus.active_subscribe, Bool.or_eq_true, decide_eq_true_eq] at hcases
      rcases hcases with hold | hnew
      · exact List.mem_append_left _ (hwait frame hframe id hid hold)
      · exact List.mem_append_right _ (hnew ▸ List.mem_singleton_self _)
  | unsubscribe id => exact hwait.without id rfl rfl rfl
  | unsubscribeHandler eventType handler =>
      rcases hreg.unsubscribeHandler_cases eventType handler with
        ⟨hbus, hsubscribed⟩ | ⟨id, hbus, hsubscribed⟩
      · intro frame hframe id hid hactive
        rw [hbus] at hactive
        rw [hsubscribed]
        exact hwait frame hframe id hid hactive
      · exact hwait.without id rfl hbus hsubscribed
  | clear =>
      intro frame hframe id hid hactive
      exact absurd (hwait frame hframe id hid hactive) (hidle rfl frame hframe id hid)
  | publish eventType =>
      rw [step_publish]
      refine WaitersSubscribed.wentOn (fun frame hframe id hid hactive => ?_) rfl
      rcases List.mem_cons.mp hframe with rfl | hold
      · have hmem : id ∈ h.machine.bus.subscribers eventType := hid
        rw [hreg.table] at hmem
        exact List.mem_of_mem_filter hmem
      · exact hwait frame hold id hid hactive
  | handlerReturns =>
      cases hstack : h.machine.stack with
      | nil =>
          have hmachine : h.machine.step .handlerReturns = h.machine := by
            rw [Machine.step, hstack]
          intro frame hframe id hid hactive
          have hmem : frame ∈ (h.machine.step .handlerReturns).stack := hframe
          rw [hmachine, hstack] at hmem
          exact absurd hmem List.not_mem_nil
      | cons frame outer =>
          rw [step_returns hstack]
          exact hwait.wentOn hstack

/-- A run in which the bus is cleared only while nothing that is subscribed waits is harmless. -/
theorem harmless_of_idle_clears {actions : List (Action EventType Handler)}
    (hidle : EachStep History.step ClearsIdle start actions) :
    EachStep History.step Harmless start actions := by
  have hinv : Throughout History.step
      (fun h : History EventType Handler => Registered h ∧ WaitersSubscribed h) start actions :=
    throughout_of_eachStep (fun h a hinv hidle => ⟨hinv.1.step a, hinv.2.step hinv.1 hidle⟩)
      ⟨registered_start, nofun⟩ hidle
  intro before a hbefore
  obtain ⟨-, hwait⟩ := hinv before ((List.prefix_append before [a]).trans hbefore)
  cases a with
  | handlerReturns =>
      unfold Harmless
      cases hstack : (runFrom History.step start before).machine.stack with
      | nil => trivial
      | cons frame outer =>
          intro id hid
          exact hwait frame (hstack ▸ List.mem_cons_self) id (List.mem_of_find?_eq_some hid)
            (List.find?_some hid)
  | _ => trivial

/-- Two handlers are subscribed; the first one clears the bus, and the second is called all the
    same. -/
theorem cleared_handler_called : ¬Throughout History.step Exact (start : History Unit Bool)
    [.subscribe () false, .subscribe () true, .publish (), .clear, .handlerReturns] := by
  intro hexact
  have hafter := hexact _ (List.prefix_refl _)
  exact nomatch hafter.called ⟨0, 1, true⟩ false (by decide)

end History

end Eag.Events
