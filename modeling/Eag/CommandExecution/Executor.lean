/-
  Eag.CommandExecution.Executor

  `CommandExecutor.execute` (`execution/executor.py`), with the calls it makes to an
  `ApprovalManager`.

  What an execution meets is an input: the path of the executable, the policy, the
  working directory, the process, and what the handlers of each event raise. The calls
  of the manager are the programs of `Approval.Manager`, run alone.
-/

import Eag.CommandExecution.Classification

namespace Eag.CommandExecution

open Eag.Foundation
open Eag.Approval (ApprovalStore ApprovalRequest ApprovalStatus ApprovalError Manager storeStep)

/-! ## What an execution meets -/

/-- What becomes of `subprocess.run`: the process ran to its end or to the timeout, or the call
    raised, before or after the process was started. -/
inductive ProcessOutcome where
  | completed (exitCode : Int) (stdout stderr : String)
  | timedOut (stdout stderr : String)
  | raised (started : Bool) (error : Raised)

/-- The process was started. -/
def ProcessOutcome.started : ProcessOutcome → Bool
  | .completed .. => true
  | .timedOut .. => true
  | .raised started _ => started

/-- The surroundings of an execution. -/
structure Surroundings where
  which : String → Option String
  evaluate : CommandRequest → Except Raised PolicyDecision
  resolveWorkingDirectory : Option String → Except Raised String
  run : List String → String → ProcessOutcome
  now : DateTime
  onStarted : Option Raised
  onTerminal : Option Raised
  onApproval : ApprovalEvent → Option Raised
  hasManager : Bool

/-- What an execution changes: the approvals, the published events, whether it reserved an
    approval and whether it started a process. -/
structure Session where
  store : ApprovalStore CommandRequest
  events : List CommandEvent
  reserved : Bool
  started : Bool

/-- A step of an execution: what it returns or raises, and the session after it. -/
abbrev Step (α : Type) : Type := Session → Except Raised α × Session

/-! ## Events and the manager -/

section

variable (surroundings : Surroundings)

/-- What the handlers of an event raise. -/
def Surroundings.handlers : CommandEvent → Option Raised
  | .started _ => surroundings.onStarted
  | .completed _ | .timedOut _ | .rejected .. => surroundings.onTerminal

/-- `_publish`. -/
def publish (event : CommandEvent) : Step Unit := fun session =>
  let session := { session with events := session.events ++ [event] }
  match surroundings.handlers event with
  | some raised => (.error raised, session)
  | none => (.ok (), session)

/-- Publish `CommandExecutionRejected`, and raise. -/
def rejectWith {α : Type} (request : CommandRequest) (raised : Raised) : Step α := fun session =>
  match publish surroundings (.rejected request raised.typeName raised.message) session with
  | (.error handlers, session) => (.error handlers, session)
  | (.ok (), session) => (.error raised, session)

/-- The manager publishes an event, and the call goes on with its outcome. -/
def afterEvent {α : Type} (event : ApprovalEvent) (outcome : Except Raised α) :
    Except Raised α :=
  match surroundings.onApproval event with
  | some raised => .error raised
  | none => outcome

/-- A call of the manager finds that the approval is due. -/
def expiresNow (store : ApprovalStore CommandRequest) (approvalId : String) : Bool :=
  (store approvalId).any fun request =>
    (request.status = .pending ∨ request.status = .approved) ∧
      request.Expired surroundings.now

/-- A call of the manager that publishes the event when it returns, and the expiry when it finds
    the approval due. -/
def managed (approvalId : String) (event : ApprovalEvent)
    (call : Manager CommandRequest (ApprovalRequest CommandRequest)) :
    Step (ApprovalRequest CommandRequest) := fun session =>
  let (answer, store) := Prog.settle storeStep () session.store call
  let outcome : Except Raised (ApprovalRequest CommandRequest) :=
    match answer with
    | .ok request => afterEvent surroundings event (.ok request)
    | .error error =>
        if expiresNow surroundings session.store approvalId then
          afterEvent surroundings .expired (.error (ofApprovalError error))
        else .error (ofApprovalError error)
  (outcome, { session with store := store })

/-- `ApprovalManager.reserve`; an approval is reserved once it was moved, whatever the handlers
    of the event raise. -/
def reserve (approvalId : String) (request : CommandRequest) : Step Unit := fun session =>
  let call := Approval.reserve approvalId request surroundings.now
  let moved := (Prog.settle storeStep () session.store call).1.toBool
  let (outcome, session) := managed surroundings approvalId .reserved call session
  (outcome.map fun _ => (), { session with reserved := moved })

/-- `ApprovalManager.consume`. A mismatch, which releases the approval first, is not possible for
    an approval that `execute` reserved for the same request. -/
def consume (approvalId : String) (request : CommandRequest) : Step Unit := fun session =>
  let (outcome, session) := managed surroundings approvalId .consumed
    (Approval.consume approvalId request surroundings.now) session
  (outcome.map fun _ => (), session)

/-- `ApprovalManager.release`. -/
def release (approvalId : String) : Step Unit := fun session =>
  let (answer, store) := Prog.settle storeStep () session.store (Approval.release approvalId)
  let outcome : Except Raised Unit :=
    match answer with
    | .ok _ => afterEvent surroundings .released (.ok ())
    | .error error => .error (ofApprovalError error)
  (outcome, { session with store := store })

/-! ## Execute -/

/-- The first `try` of `execute`: the policy, and the reservation that it asks for. It returns
    the approval that was reserved. -/
def authorize (request : CommandRequest) (approvalId : Option String) :
    Step (Option String) := fun session =>
  match surroundings.evaluate request with
  | .error raised => (.error raised, session)
  | .ok decision =>
      match decision.outcome with
      | .deny => (.error (commandDenied decision), session)
      | .allow => (.ok none, session)
      | .requireApproval =>
          match approvalId with
          | none => (.error (approvalRequired decision), session)
          | some approvalId =>
              if surroundings.hasManager = false then
                (.error (approvalRequired decision), session)
              else
                match session.store approvalId with
                | none => (.error (ofApprovalError (Approval.notFound approvalId)), session)
                | some approval =>
                    match approval.status with
                    | .pending | .consumed | .reserved =>
                        (.error (approvalRequired decision), session)
                    | .rejected => (.error (commandDenied decision), session)
                    | .approved | .expired =>
                        match reserve surroundings approvalId request session with
                        | (.error raised, session) => (.error raised, session)
                        | (.ok (), session) => (.ok (some approvalId), session)

/-- `consume`, when an approval was reserved. -/
def consumeReserved (request : CommandRequest) : Option String → Step Unit
  | none => fun session => (.ok (), session)
  | some approvalId => consume surroundings approvalId request

/-- `release`, when an approval was reserved. -/
def releaseReserved : Option String → Step Unit
  | none => fun session => (.ok (), session)
  | some approvalId => release surroundings approvalId

/-- The result of a process that was started. -/
def resultOf (request : CommandRequest) (exitCode : Option Int) (stdout stderr : String)
    (timedOut : Bool) : CommandResult :=
  let (stdout, stdoutTruncated) := truncateOutput stdout request.maxOutputBytes
  let (stderr, stderrTruncated) := truncateOutput stderr request.maxOutputBytes
  ⟨request, exitCode, stdout, stderr, timedOut, stdoutTruncated, stderrTruncated⟩

/-- Consume the approval of a process that was started, then publish and return its result. -/
def finish (request : CommandRequest) (approval : Option String) (result : CommandResult)
    (event : CommandEvent) : Step CommandResult := fun session =>
  match consumeReserved surroundings request approval session with
  | (.error raised, session) => (.error raised, session)
  | (.ok (), session) =>
      match publish surroundings event session with
      | (.error raised, session) => (.error raised, session)
      | (.ok (), session) => (.ok result, session)

/-- `execute` from `subprocess.run` on. -/
def runProcess (request : CommandRequest) (approval : Option String) (executable : String)
    (workingDirectory : String) : Step CommandResult := fun session =>
  let outcome := surroundings.run (executable :: request.arguments) workingDirectory
  let session := { session with started := outcome.started }
  match outcome with
  | .timedOut stdout stderr =>
      let result := resultOf request none stdout stderr true
      finish surroundings request approval result (.timedOut result) session
  | .raised _ error =>
      if error.errorClass = .os then
        match releaseReserved surroundings approval session with
        | (.error raised, session) => (.error raised, session)
        | (.ok (), session) =>
            rejectWith surroundings request ⟨.other, "CommandStartError",
              "Failed to start executable '" ++ request.executable ++ "': " ++ error.message⟩
              session
      else (.error error, session)
  | .completed exitCode stdout stderr =>
      let result := resultOf request (some exitCode) stdout stderr false
      finish surroundings request approval result (.completed result) session

/-- `execute` after the policy let the request through. -/
def launch (request : CommandRequest) (approval : Option String) (executable : String) :
    Step CommandResult := fun session =>
  match surroundings.resolveWorkingDirectory request.workingDirectory with
  | .error raised => (.error raised, session)
  | .ok workingDirectory =>
      match publish surroundings (.started request) session with
      | (.error raised, session) => (.error raised, session)
      | (.ok (), session) =>
          runProcess surroundings request approval executable workingDirectory session

/-- `execute`. -/
def execute (request : CommandRequest) (approvalId : Option String) : Step CommandResult :=
  fun session =>
    match surroundings.which request.executable with
    | none =>
        rejectWith surroundings request ⟨.other, "ExecutableNotFoundError",
          "Executable not found: '" ++ request.executable ++ "'"⟩ session
    | some executable =>
        match authorize surroundings request approvalId session with
        | (.error raised, session) =>
            if raised.errorClass = .executionPolicy then
              rejectWith surroundings request raised session
            else (.error raised, session)
        | (.ok approval, session) =>
            launch surroundings request approval executable session

end

end Eag.CommandExecution
