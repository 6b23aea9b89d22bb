/-
  Eag.Events.Bus

  The in-process event bus (`events/bus.py`), and the code that runs on it as a machine.

  A handler may do anything with the bus while an event is delivered to it. The stack of the
  machine holds the publishes under way, the innermost first, and an action is what the code
  that runs does next. So a list of actions is a run of any handlers, up to any depth.

  Subscriptions are numbered as they are made, which stands for their random ids.
-/

import Mathlib.Logic.Function.Basic

namespace Eag.Events

/-! ## The bus -/

section

variable {EventType Handler : Type} [DecidableEq EventType] [DecidableEq Handler]

/-- `Subscription`. -/
structure Subscription (EventType Handler : Type) where
  eventType : EventType
  callback : Handler
  active : Bool
  deriving DecidableEq, Repr

/-- `EventBus`, with all subscriptions that were ever made. -/
structure EventBus (EventType Handler : Type) where
  subscriptions : List (Subscription EventType Handler)
  subscribers : EventType → List Nat

namespace EventBus

/-- `__init__`. -/
def init : EventBus EventType Handler := ⟨[], fun _ => []⟩

variable (bus : EventBus EventType Handler)

/-- `sub.active`. -/
def active (id : Nat) : Bool := (bus.subscriptions[id]?).any (·.active)

/-- `subscribe`: the new subscription has the next number. -/
def subscribe (eventType : EventType) (handler : Handler) : EventBus EventType Handler where
  subscriptions := bus.subscriptions ++ [⟨eventType, handler, true⟩]
  subscribers := Function.update bus.subscribers eventType
    (bus.subscribers eventType ++ [bus.subscriptions.length])

/-- `_remove_subscription`. -/
def removeSubscription (eventType : EventType) (id : Nat) : EventBus EventType Handler :=
  { bus with
    subscribers := Function.update bus.subscribers eventType
      ((bus.subscribers eventType).filter (· ≠ id)) }

/-- `Subscription.unsubscribe`. -/
def unsubscribe (id : Nat) : EventBus EventType Handler :=
  match bus.subscriptions[id]? with
  | none => bus
  | some subscription =>
      if subscription.active then
        let removed := bus.removeSubscription subscription.eventType id
        { removed with
          subscriptions := removed.subscriptions.set id { subscription with active := false } }
      else bus

/-- The first subscriber of an event type with this callback. -/
def subscriberWith (eventType : EventType) (handler : Handler) : Option Nat :=
  (bus.subscribers eventType).find? fun id =>
    (bus.subscriptions[id]?).any fun subscription => subscription.callback = handler

/-- `unsubscribe` with an event type; nothing happens without a handler. -/
def unsubscribeHandler (eventType : EventType) (handler : Option Handler) :
    EventBus EventType Handler :=
  match handler.bind (bus.subscriberWith eventType) with
  | none => bus
  | some id => bus.unsubscribe id

/-- `clear`: the subscriptions stay active. -/
def clear : EventBus EventType Handler := { bus with subscribers := fun _ => [] }

end EventBus

/-! ## Delivery -/

/-- A subscription comes to its turn in a publish: it is called or passed over. -/
structure Turn where
  publication : Nat
  subscription : Nat
  called : Bool
  deriving DecidableEq, Repr

/-- A publish under way: its number, and the part of its copy of the subscribers that waits. -/
structure Frame where
  publication : Nat
  pending : List Nat
  deriving DecidableEq, Repr

/-- What the code that runs does next. -/
inductive Action (EventType Handler : Type) where
  | subscribe (eventType : EventType) (handler : Handler)
  | unsubscribe (id : Nat)
  | unsubscribeHandler (eventType : EventType) (handler : Option Handler)
  | clear
  | publish (eventType : EventType)
  /-- The handler returns to the publish that called it. -/
  | handlerReturns
  deriving DecidableEq, Repr

/-- A bus with the publishes under way, and the turns so far. -/
structure Machine (EventType Handler : Type) where
  bus : EventBus EventType Handler
  stack : List Frame
  published : Nat
  turns : List Turn

namespace Machine

/-- A new bus. -/
def init : Machine EventType Handler := ⟨.init, [], 0, []⟩

/-- The loop of `publish` up to its next call of a handler: the turns it comes to, and what then
    waits, or none when the publish returns. -/
def deliver (bus : EventBus EventType Handler) (publication : Nat) :
    List Nat → List Turn × Option (List Nat)
  | [] => ([], none)
  | id :: rest =>
      if bus.active id then ([⟨publication, id, true⟩], some rest)
      else
        let (turns, pending) := deliver bus publication rest
        (⟨publication, id, false⟩ :: turns, pending)

variable (m : Machine EventType Handler)

/-- The loop of the innermost publish goes on. -/
def goOn (frame : Frame) (outer : List Frame) : Machine EventType Handler :=
  let (turns, pending) := deliver m.bus frame.publication frame.pending
  { m with
    turns := m.turns ++ turns
    stack := match pending with
      | none => outer
      | some pending => ⟨frame.publication, pending⟩ :: outer }

/-- The machine after an action. -/
def step : Action EventType Handler → Machine EventType Handler
  | .subscribe eventType handler => { m with bus := m.bus.subscribe eventType handler }
  | .unsubscribe id => { m with bus := m.bus.unsubscribe id }
  | .unsubscribeHandler eventType handler =>
      { m with bus := m.bus.unsubscribeHandler eventType handler }
  | .clear => { m with bus := m.bus.clear }
  | .publish eventType =>
      { m with published := m.published + 1 }.goOn
        ⟨m.published, m.bus.subscribers eventType⟩ m.stack
  | .handlerReturns =>
      match m.stack with
      | [] => m
      | frame :: outer => m.goOn frame outer

end Machine

end

end Eag.Events
