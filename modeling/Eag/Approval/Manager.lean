/-
  Eag.Approval.Manager

  Command approvals (`approval/models.py`): their statuses and the immutable
  requests that a store keeps; the store (`approval/store.py`) with its atomic
  operations, and the calls of an `ApprovalManager` (`approval/manager.py`) as
  programs over them.

  What the manager asks of a command is only whether two are equal. The classification,
  the policy reason and the matched rule of a request are stored and never read, and
  are left out.

  A manager keeps no state of its own, so any number of managers on one store is
  any number of these programs on it. Events change nothing in the store and are
  left out.
-/

import Mathlib.Data.String.Basic
import Eag.Foundation.Calendar
import Eag.Foundation.Checks
import Eag.Foundation.Interleaving

namespace Eag.Approval

open Eag.Foundation

/-- `ApprovalStatus`. -/
inductive ApprovalStatus where
  | pending
  | approved
  | reserved
  | rejected
  | consumed
  | expired
  deriving DecidableEq, Repr

def ApprovalStatus.value : ApprovalStatus → String
  | .pending => "pending"
  | .approved => "approved"
  | .reserved => "reserved"
  | .rejected => "rejected"
  | .consumed => "consumed"
  | .expired => "expired"

/-- `is_terminal`: no further lifecycle action is valid. -/
def ApprovalStatus.IsTerminal (status : ApprovalStatus) : Prop :=
  status = .rejected ∨ status = .consumed ∨ status = .expired

instance (status : ApprovalStatus) : Decidable status.IsTerminal :=
  inferInstanceAs (Decidable (_ ∨ _ ∨ _))

/-- `PolicyOutcome`. -/
inductive PolicyOutcome where
  | allow
  | requireApproval
  | deny
  deriving DecidableEq, Repr

/-- The errors of the approval subsystem, and the two of the language. -/
inductive ApprovalError where
  | notFound (text : String)
  | alreadyExists (text : String)
  | invalidTransition (text : String)
  | expired (text : String)
  | commandMismatch (text : String)
  | valueError (text : String)
  | typeError (text : String)
  deriving DecidableEq, Repr

/-- `ApprovalRequest`. -/
structure ApprovalRequest (Command : Type) where
  id : String
  command : Command
  policyOutcome : PolicyOutcome
  status : ApprovalStatus
  createdAt : DateTime
  expiresAt : Option DateTime
  decidedAt : Option DateTime
  consumedAt : Option DateTime
  decisionReason : Option String
  deriving DecidableEq, Repr

/-- Comparing a date-time that has an offset with one that has none. -/
def incomparable : ApprovalError :=
  .typeError "can't compare offset-naive and offset-aware datetimes"

/-- `current_time >= expires_at`, when there is an expiry. -/
def reached (now : DateTime) : Option DateTime → Except ApprovalError Bool
  | none => .ok false
  | some expiresAt =>
      match now.ge? expiresAt with
      | some past => .ok past
      | none => .error incomparable

namespace ApprovalRequest

variable {Command : Type}

/-- `is_expired`. -/
def isExpired (request : ApprovalRequest Command) (now : DateTime) :
    Except ApprovalError Bool :=
  reached now request.expiresAt

/-- The request is past its expiry. -/
def Expired (request : ApprovalRequest Command) (now : DateTime) : Prop :=
  request.isExpired now = .ok true

instance (request : ApprovalRequest Command) (now : DateTime) :
    Decidable (request.Expired now) :=
  match h : request.isExpired now with
  | .ok true => isTrue h
  | .ok false => isFalse fun heq => by rw [Expired, h] at heq; cases heq
  | .error _ => isFalse fun heq => by rw [Expired, h] at heq; cases heq

end ApprovalRequest

/-- `new_approval_request`; the identity is the `uuid4` it draws. -/
def newApprovalRequest {Command : Type} (id : String) (command : Command)
    (policyOutcome : PolicyOutcome) (expiresAt : Option DateTime) (createdAt : DateTime) :
    Except ApprovalError (ApprovalRequest Command) := do
  let past ← reached createdAt expiresAt
  if past then .error (.valueError "Approval expiry must be later than creation time")
  else if policyOutcome ≠ .requireApproval then
    .error (.valueError "Approval requests require a require_approval policy outcome")
  else
    .ok {
      id := id
      command := command
      policyOutcome := policyOutcome
      status := .pending
      createdAt := createdAt
      expiresAt := expiresAt
      decidedAt := none
      consumedAt := none
      decisionReason := none }

theorem newApprovalRequest_pending {Command : Type} {id : String} {command : Command}
    {policyOutcome : PolicyOutcome} {expiresAt : Option DateTime} {createdAt : DateTime}
    {request : ApprovalRequest Command}
    (h : newApprovalRequest id command policyOutcome expiresAt createdAt = .ok request) :
    request.status = .pending := by
  unfold newApprovalRequest at h
  obtain ⟨past, -, h⟩ := (except_bind_eq_ok _ _ _).mp h
  split at h
  · cases h
  · split at h
    · cases h
    · cases h
      rfl

variable {Command : Type}

/-! ## Store -/

/-- The operations of an `ApprovalStore`, each atomic. -/
inductive StoreOp (Command : Type) where
  | add (request : ApprovalRequest Command)
  | get (approvalId : String)
  | save (request : ApprovalRequest Command)
  | transition (approvalId : String) (expected : ApprovalStatus)
      (replacement : ApprovalRequest Command)

/-- What an operation answers. -/
abbrev StoreAnswer : StoreOp Command → Type
  | .add _ => Unit
  | .get _ => ApprovalRequest Command
  | .save _ => Unit
  | .transition .. => Bool

abbrev StoreReply (op : StoreOp Command) : Type := Except ApprovalError (StoreAnswer op)

/-- The requests of an `InMemoryApprovalStore`. -/
abbrev ApprovalStore (Command : Type) : Type := String → Option (ApprovalRequest Command)

def notFound (approvalId : String) : ApprovalError :=
  .notFound ("Approval request not found: '" ++ approvalId ++ "'")

/-- The store with a request under its identity. -/
def ApprovalStore.put (store : ApprovalStore Command) (request : ApprovalRequest Command) :
    ApprovalStore Command :=
  Function.update store request.id (some request)

/-- One atomic operation. -/
def storeStep (store : ApprovalStore Command) (_ : Unit) :
    (op : StoreOp Command) → ApprovalStore Command × StoreReply op
  | .add request =>
      match store request.id with
      | some _ =>
          (store, .error (.alreadyExists
            ("Approval request already exists: '" ++ request.id ++ "'")))
      | none => (store.put request, .ok ())
  | .get approvalId =>
      match store approvalId with
      | some request => (store, .ok request)
      | none => (store, .error (notFound approvalId))
  | .save request =>
      match store request.id with
      | some _ => (store.put request, .ok ())
      | none => (store, .error (notFound request.id))
  | .transition approvalId expected replacement =>
      match store approvalId with
      | none => (store, .error (notFound approvalId))
      | some current =>
          if replacement.id ≠ approvalId then
            (store, .error (.valueError
              "Replacement approval ID must match transition target"))
          else if current.status ≠ expected then (store, .ok false)
          else (store.put replacement, .ok true)

/-! ## Manager -/

/-- A manager's call: a program over the store. -/
abbrev Manager (Command α : Type) : Type :=
  Prog.Fallible ApprovalError (StoreOp Command) StoreAnswer α

/-- One operation on the store. -/
abbrev ask (op : StoreOp Command) : Manager Command (StoreAnswer op) := Prog.ask op

def hasExpired (approvalId : String) : ApprovalError :=
  .expired ("Approval request has expired: '" ++ approvalId ++ "'")

def commandMismatch (approvalId : String) : ApprovalError :=
  .commandMismatch ("Execution request does not match approval '" ++ approvalId ++ "'")

/-- `create`. -/
def create (id : String) (command : Command) (policyOutcome : PolicyOutcome)
    (expiresAt : Option DateTime) (now : DateTime) :
    Manager Command (ApprovalRequest Command) := do
  let request ← ExceptT.mk (Prog.ret
    (newApprovalRequest id command policyOutcome expiresAt now))
  ask (.add request)
  return request

/-- `_require_status`. -/
def requireStatus (request : ApprovalRequest Command) (expected : ApprovalStatus)
    (action : String) : Manager Command Unit :=
  if request.status = expected then pure ()
  else throw (.invalidTransition ("Cannot " ++ action ++ " approval in state '" ++
    request.status.value ++ "'; expected '" ++ expected.value ++ "'"))

/-- `_expire_if_needed`. -/
def expireIfNeeded (request : ApprovalRequest Command) (now : DateTime) :
    Manager Command (ApprovalRequest Command) :=
  if request.status = .pending ∨ request.status = .approved then do
    let past ← ExceptT.mk (Prog.ret (request.isExpired now))
    if past then
      let expired := { request with status := ApprovalStatus.expired }
      ask (.save expired)
      return expired
    else return request
  else return request

/-- The request that a call begins with: read, and expired if it is due. -/
def unexpired (approvalId : String) (now : DateTime) :
    Manager Command (ApprovalRequest Command) := do
  let request ← ask (.get approvalId)
  let request ← expireIfNeeded request now
  if request.status = .expired then throw (hasExpired approvalId)
  else return request

/-- `approve`. -/
def approve (approvalId : String) (reason : Option String) (now : DateTime) :
    Manager Command (ApprovalRequest Command) := do
  let request ← unexpired approvalId now
  requireStatus request .pending "approve"
  let approved := { request with
    status := ApprovalStatus.approved, decidedAt := some now, decisionReason := reason }
  ask (.save approved)
  return approved

/-- `reject`. -/
def reject (approvalId : String) (reason : Option String) (now : DateTime) :
    Manager Command (ApprovalRequest Command) := do
  let request ← unexpired approvalId now
  requireStatus request .pending "reject"
  let rejected := { request with
    status := ApprovalStatus.rejected, decidedAt := some now, decisionReason := reason }
  ask (.save rejected)
  return rejected

/-- The end of `reserve`, `release` and `consume`: the transition, and the error when another
    call moved the status first. -/
def moveStatus (approvalId : String) (expected : ApprovalStatus)
    (replacement : ApprovalRequest Command) (action : String) :
    Manager Command (ApprovalRequest Command) := do
  let transitioned ← ask (.transition approvalId expected replacement)
  if transitioned then return replacement
  else
    let current ← ask (.get approvalId)
    throw (.invalidTransition ("Cannot " ++ action ++ " approval in state '" ++
      current.status.value ++ "'; expected '" ++ expected.value ++ "'"))

/-- `release`. -/
def release (approvalId : String) : Manager Command (ApprovalRequest Command) := do
  let request ← ask (.get approvalId)
  moveStatus approvalId .reserved { request with status := .approved } "release"

/-- `expire`. -/
def expire (approvalId : String) (now : DateTime) :
    Manager Command (ApprovalRequest Command) := do
  let request ← ask (.get approvalId)
  if ¬ (request.status = .pending ∨ request.status = .approved) then
    throw (.invalidTransition ("Cannot expire approval in state '" ++
      request.status.value ++ "'"))
  else
    let past ← ExceptT.mk (Prog.ret (request.isExpired now))
    if past then
      let expired := { request with status := ApprovalStatus.expired }
      ask (.save expired)
      return expired
    else throw (.invalidTransition ("Approval request is not expired: '" ++ approvalId ++ "'"))

section

variable [DecidableEq Command]

/-- `reserve`. -/
def reserve (approvalId : String) (command : Command) (now : DateTime) :
    Manager Command (ApprovalRequest Command) := do
  let request ← unexpired approvalId now
  if request.command ≠ command then throw (commandMismatch approvalId)
  else moveStatus approvalId .approved { request with status := .reserved } "reserve"

/-- `consume`. -/
def consume (approvalId : String) (command : Command) (now : DateTime) :
    Manager Command (ApprovalRequest Command) := do
  let request ← unexpired approvalId now
  requireStatus request .reserved "consume"
  if request.command ≠ command then
    -- the reservation is released before the error is raised
    let _ ← @release Command approvalId
    throw (commandMismatch approvalId)
  else
    moveStatus approvalId .reserved
      { request with status := .consumed, consumedAt := some now } "consume"

end

end Eag.Approval
