/-
  Eag.ChangeSets.Recorder

  The recorder of change sets (`changeset/recorder.py`) and the builder it records into
  (`changeset/builder.py`), as far as commands go: the recorder records nothing else.

  `recorded_iff`: a change set lists the commands of a run with their durations exactly when
  every duration is zero. A time is a number of microseconds; identities and events are left
  out.
-/

import Mathlib.Data.Rat.Floor
import Mathlib.Tactic.NormNum
import Eag.CommandExecution.Classification

namespace Eag.ChangeSets

open Eag.CommandExecution (CommandRequest)

/-! ## What the executor publishes -/

/-- `CommandResult`, with its duration. -/
structure CommandResult extends CommandExecution.CommandResult where
  durationSeconds : Rat
  deriving DecidableEq

/-- The events of an execution. -/
inductive CommandEvent where
  | started (request : CommandRequest)
  | completed (result : CommandResult)
  | timedOut (result : CommandResult)
  | rejected (request : CommandRequest) (errorType errorMessage : String)
  deriving DecidableEq

/-- The value of an attribute. -/
inductive Attribute where
  | request (request : CommandRequest)
  | exitCode (code : Option Int)
  | text (text : String)
  | seconds (seconds : Rat)
  | flag (flag : Bool)
  | timedelta (microseconds : Int)
  | datetime (microseconds : Int)
  deriving DecidableEq

/-- `getattr(result, name)`: the fields and properties of `CommandResult`, which has slots and so
    no others. -/
def CommandResult.attribute (result : CommandResult) : String → Option Attribute
  | "request" => some (.request result.request)
  | "exit_code" => some (.exitCode result.exitCode)
  | "stdout" => some (.text result.stdout)
  | "stderr" => some (.text result.stderr)
  | "duration_seconds" => some (.seconds result.durationSeconds)
  | "timed_out" => some (.flag result.timedOut)
  | "stdout_truncated" => some (.flag result.stdoutTruncated)
  | "stderr_truncated" => some (.flag result.stderrTruncated)
  | "succeeded" => some (.flag (result.exitCode = some 0 ∧ result.timedOut = false))
  | "failed" => some (.flag (¬(result.exitCode = some 0 ∧ result.timedOut = false)))
  | _ => none

/-! ## Records -/

/-- `CommandRecord`. -/
structure CommandRecord where
  request : CommandRequest
  startedAt : Int
  completedAt : Int
  exitCode : Option Int
  duration : Int
  deriving DecidableEq

/-- What the handlers raise. -/
inductive Raised where
  | typeError (text : String)
  | valueError (text : String)
  | notAttached
  | finalized
  deriving DecidableEq, Repr

/-- `CommandRecord.__post_init__`. -/
def CommandRecord.make (record : CommandRecord) : Except Raised CommandRecord :=
  if record.duration < 0 then .error (.valueError "Duration cannot be negative.")
  else if record.completedAt - record.startedAt ≠ record.duration then
    .error (.valueError
      "Duration does not match the difference between completed_at and started_at.")
  else .ok record

/-- A time span that an attribute gives, or the default where there is none. -/
def timedeltaOr (default : Int) : Option Attribute → Except Raised Int
  | none => .ok default
  | some (.timedelta microseconds) => .ok microseconds
  | some _ => .error (.typeError "unsupported operand type")

/-- A point in time that an attribute gives, or the default. -/
def datetimeOr (default : Int) : Option Attribute → Except Raised Int
  | none => .ok default
  | some (.datetime microseconds) => .ok microseconds
  | some _ => .error (.typeError "unsupported operand type")

/-- An exit code that an attribute gives, or the default; the record takes any value. -/
def exitCodeOr (default : Int) : Option Attribute → Option Int
  | some (.exitCode code) => code
  | _ => some default

/-- `_create_command_record` for an event with a result. -/
def recordOfResult (now : Int) (result : CommandResult) : Except Raised CommandRecord := do
  let duration ← timedeltaOr 0 (result.attribute "duration")
  let exitCode := exitCodeOr 0 (result.attribute "exit_code")
  let startedAt ← datetimeOr (now - duration) (result.attribute "started_at")
  let completedAt ← datetimeOr now (result.attribute "completed_at")
  CommandRecord.make ⟨result.request, startedAt, completedAt, exitCode, duration⟩

/-- `_create_command_record` for a rejection. -/
def recordOfRejection (now : Int) (request : CommandRequest) : Except Raised CommandRecord :=
  CommandRecord.make ⟨request, now, now, some (-1), 0⟩

/-! ## The builder and the recorder -/

/-- `ExecutionMetrics`: the recorder sees no files and no tests. -/
structure ExecutionMetrics where
  commands : Nat
  duration : Int
  changedFiles : Nat := 0
  tests : Nat := 0
  warnings : Nat := 0
  errors : Nat := 0
  deriving DecidableEq, Repr

/-- `ChangeSet`. -/
structure ChangeSet where
  commands : List CommandRecord
  metrics : ExecutionMetrics
  deriving DecidableEq

/-- `ChangeSetRecorder`, with the state and the commands of its builder. -/
structure ChangeSetRecorder where
  attached : Bool := false
  finalized : Bool := false
  commands : List CommandRecord := []

namespace ChangeSetRecorder

/-- `attach`. -/
def attach (recorder : ChangeSetRecorder) : ChangeSetRecorder := { recorder with attached := true }

/-- `_record_command`: `ChangeSetFinalizedError` is suppressed. -/
def recordCommand (recorder : ChangeSetRecorder) (record : CommandRecord) : ChangeSetRecorder :=
  if recorder.finalized then recorder
  else { recorder with commands := recorder.commands ++ [record] }

/-- What becomes of an event that is published at a time; the start of a command has no
    subscriber. -/
def handle (recorder : ChangeSetRecorder) (published : Int × CommandEvent) :
    Except Raised ChangeSetRecorder :=
  if recorder.attached = false then .ok recorder
  else
    match published.2 with
    | .started _ => .ok recorder
    | .completed result | .timedOut result =>
        (recordOfResult published.1 result).map recorder.recordCommand
    | .rejected request _ _ =>
        (recordOfRejection published.1 request).map recorder.recordCommand

/-- `finalize`. -/
def finalize (recorder : ChangeSetRecorder) : Except Raised (ChangeSet × ChangeSetRecorder) :=
  if recorder.attached = false then .error .notAttached
  else if recorder.finalized then .error .finalized
  else
    let metrics : ExecutionMetrics :=
      { commands := recorder.commands.length
        duration := (recorder.commands.map CommandRecord.duration).sum }
    .ok (⟨recorder.commands, metrics⟩, { recorder with finalized := true })

/-- A new recorder is attached, the events are published, and it is finalized. -/
def record (events : List (Int × CommandEvent)) : Except Raised ChangeSet := do
  let recorder ← events.foldlM handle (attach {})
  let (changeset, _) ← recorder.finalize
  return changeset

end ChangeSetRecorder

/-! ## Statements -/

/-- `timedelta(seconds=...)`: the nearest number of microseconds, the even one of two. -/
def timedeltaOfSeconds (seconds : Rat) : Int :=
  let microseconds := seconds * 1000000
  let below := microseconds.floor
  let rest := microseconds - below
  if rest < 1 / 2 then below
  else if rest > 1 / 2 then below + 1
  else if below % 2 = 0 then below
  else below + 1

/-- The result an event carries. -/
def CommandEvent.result? : CommandEvent → Option CommandResult
  | .completed result | .timedOut result => some result
  | .started _ | .rejected .. => none

/-- The request an event is about. -/
def CommandEvent.request : CommandEvent → CommandRequest
  | .completed result | .timedOut result => result.request
  | .started request | .rejected request _ _ => request

/-- The event says how a command ended. -/
def CommandEvent.isFinished : CommandEvent → Bool
  | .started _ => false
  | .completed _ | .timedOut _ | .rejected .. => true

/-- A record of an event: its command, and the exit code and duration of its result. -/
structure Records (published : Int × CommandEvent) (record : CommandRecord) : Prop where
  request : record.request = published.2.request
  exitCode : ∀ result, published.2.result? = some result → record.exitCode = result.exitCode
  duration : ∀ result, published.2.result? = some result →
    record.duration = timedeltaOfSeconds result.durationSeconds

/-- A change set with one record for every command that finished, in order, and metrics that are
    the sums over them. -/
structure Faithful (events : List (Int × CommandEvent)) (changeset : ChangeSet) : Prop where
  records : List.Forall₂ Records (events.filter (·.2.isFinished)) changeset.commands
  commands : changeset.metrics.commands = changeset.commands.length
  duration : changeset.metrics.duration = (changeset.commands.map CommandRecord.duration).sum

/-- Every result of the run took no time, to the microsecond. -/
def Instant (events : List (Int × CommandEvent)) : Prop :=
  ∀ published ∈ events, ∀ result, published.2.result? = some result →
    timedeltaOfSeconds result.durationSeconds = 0

/-! ## What the recorder makes of an event -/

/-- The record of an event that finished a command: of no duration, ended when it was
    published. -/
def recordOf (published : Int × CommandEvent) : CommandRecord where
  request := published.2.request
  startedAt := published.1
  completedAt := published.1
  exitCode :=
    match published.2.result? with
    | some result => result.exitCode
    | none => some (-1)
  duration := 0

theorem make_instant (request : CommandRequest) (now : Int) (exitCode : Option Int) :
    CommandRecord.make ⟨request, now, now, exitCode, 0⟩ = .ok ⟨request, now, now, exitCode, 0⟩ := by
  have hsame : now - now = 0 := Int.sub_self now
  rw [CommandRecord.make, if_neg (Int.lt_irrefl 0), if_neg (not_not_intro hsame)]

/-- A result has no `duration`, so it is recorded with the default. -/
theorem recordOfResult_eq (now : Int) (result : CommandResult) :
    recordOfResult now result = .ok ⟨result.request, now, now, result.exitCode, 0⟩ := by
  have hnow : now - 0 = now := Int.sub_zero now
  show CommandRecord.make ⟨result.request, now - 0, now, result.exitCode, 0⟩ = _
  rw [hnow]
  exact make_instant result.request now result.exitCode

/-- **One event.** An attached recorder takes a finished command in, and never fails. -/
theorem handle_eq {recorder : ChangeSetRecorder} (hattached : recorder.attached = true)
    (hbuilding : recorder.finalized = false) (published : Int × CommandEvent) :
    recorder.handle published = .ok { recorder with
      commands := recorder.commands ++
        if published.2.isFinished then [recordOf published] else [] } := by
  have hrecord : ∀ record, recorder.recordCommand record =
      { recorder with commands := recorder.commands ++ [record] } := by
    intro record
    rw [ChangeSetRecorder.recordCommand, hbuilding]
    rfl
  obtain ⟨now, event⟩ := published
  have hopen : ¬recorder.attached = false := by
    rw [hattached]
    exact Bool.noConfusion
  rw [ChangeSetRecorder.handle, if_neg hopen]
  cases event with
  | started request =>
      show Except.ok recorder = .ok { recorder with commands := recorder.commands ++ [] }
      rw [List.append_nil]
  | completed result | timedOut result =>
      show (recordOfResult now result).map recorder.recordCommand = _
      rw [recordOfResult_eq, Except.map, hrecord]
      rfl
  | rejected request errorType errorMessage =>
      show (recordOfRejection now request).map recorder.recordCommand = _
      rw [recordOfRejection, make_instant, Except.map, hrecord]
      rfl

theorem foldlM_handle {recorder : ChangeSetRecorder} (hattached : recorder.attached = true)
    (hbuilding : recorder.finalized = false) (events : List (Int × CommandEvent)) :
    events.foldlM ChangeSetRecorder.handle recorder = .ok { recorder with
      commands := recorder.commands ++ (events.filter (·.2.isFinished)).map recordOf } := by
  induction events generalizing recorder with
  | nil =>
      rw [List.foldlM_nil, List.filter_nil, List.map_nil, List.append_nil]
      rfl
  | cons published rest ih =>
      have hrest := @ih { recorder with commands := recorder.commands ++
        if published.2.isFinished then [recordOf published] else [] } hattached hbuilding
      rw [List.foldlM_cons, handle_eq hattached hbuilding]
      refine hrest.trans ?_
      rw [List.filter_cons]
      split
      · rw [List.map_cons, List.append_assoc]
        rfl
      · rw [List.append_nil]

/-- **A run.** Recording never fails, whatever is published. -/
theorem record_eq (events : List (Int × CommandEvent)) :
    ∃ changeset, ChangeSetRecorder.record events = .ok changeset ∧
      changeset.commands = (events.filter (·.2.isFinished)).map recordOf ∧
      changeset.metrics.commands = changeset.commands.length ∧
      changeset.metrics.duration = (changeset.commands.map CommandRecord.duration).sum := by
  rw [ChangeSetRecorder.record, foldlM_handle rfl rfl]
  exact ⟨_, rfl, rfl, rfl, rfl⟩

theorem records_recordOf_iff (published : Int × CommandEvent) :
    Records published (recordOf published) ↔
      ∀ result, published.2.result? = some result →
        timedeltaOfSeconds result.durationSeconds = 0 := by
  constructor
  · intro h result hresult
    exact (h.duration result hresult).symm
  · intro hinstant
    refine ⟨rfl, fun result hresult => ?_, fun result hresult => (hinstant result hresult).symm⟩
    show (match published.2.result? with
      | some result => result.exitCode
      | none => some (-1)) = _
    rw [hresult]

theorem isFinished_of_result {event : CommandEvent} {result : CommandResult}
    (h : event.result? = some result) : event.isFinished = true := by
  cases event with
  | started request => exact nomatch h
  | completed result | timedOut result | rejected request errorType errorMessage => rfl

/-- **Change sets of commands.** For every run the recorder returns a change set; it lists the
    commands that finished with the exit codes and durations of their results, and sums them up,
    exactly when no result took any time. -/
theorem recorded_iff (events : List (Int × CommandEvent)) :
    (∃ changeset, ChangeSetRecorder.record events = .ok changeset ∧ Faithful events changeset) ↔
      Instant events := by
  obtain ⟨changeset, hrecord, hcommands, hcount, hduration⟩ := record_eq events
  have hforall : List.Forall₂ Records (events.filter (·.2.isFinished)) changeset.commands ↔
      Instant events := by
    rw [hcommands, List.forall₂_map_right_iff, List.forall₂_same]
    simp only [List.mem_filter, records_recordOf_iff, Instant]
    constructor
    · intro h published hmem result hresult
      exact h published ⟨hmem, isFinished_of_result hresult⟩ result hresult
    · exact fun h published hmem => h published hmem.1
  rw [← hforall]
  constructor
  · rintro ⟨other, hother, hfaithful⟩
    cases hrecord.symm.trans hother
    exact hfaithful.records
  · exact fun hrecords => ⟨changeset, hrecord, hrecords, hcount, hduration⟩

/-! ## A command of five seconds -/

/-- `sleep 5`. -/
def sleepRequest : CommandRequest := ⟨"sleep", ["5"], none, 60, [], 1000000, by decide⟩

/-- It took five seconds. -/
def sleepResult : CommandResult where
  request := sleepRequest
  exitCode := some 0
  stdout := ""
  stderr := ""
  timedOut := false
  stdoutTruncated := false
  stderrTruncated := false
  durationSeconds := 5

/-- It is recorded as having taken no time. -/
theorem sleep_not_faithful :
    ¬∃ changeset, ChangeSetRecorder.record [(7000000, .completed sleepResult)] = .ok changeset ∧
      Faithful [(7000000, .completed sleepResult)] changeset := by
  rintro ⟨changeset, hrecord, hfaithful⟩
  have hlisted : changeset.commands = [recordOf (7000000, .completed sleepResult)] := by
    cases hrecord
    rfl
  have hrecords := hfaithful.records
  rw [hlisted] at hrecords
  have hfive : timedeltaOfSeconds 5 = 5000000 := by
    norm_num [timedeltaOfSeconds, Rat.floor]
  cases hrecords with
  | cons hfirst _ =>
      have hduration := hfirst.duration sleepResult rfl
      rw [show sleepResult.durationSeconds = 5 from rfl, hfive] at hduration
      exact absurd hduration (by decide)

end Eag.ChangeSets
