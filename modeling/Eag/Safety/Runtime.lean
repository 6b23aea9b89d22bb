/-
  Eag.Safety.Runtime

  The safety runtime (`safety/runtime.py`) with its checkpoint manager, its rollback
  engine and the git backend (`checkpoint.py`, `rollback.py`, `backends.py`), and the
  files of the workspace, which may change between its calls.

  Which git commands fail is part of a call, and so is what an inspection finds. A
  reference that the backend has on file stands for the files of its commit. Beside what
  the source keeps, a session has the files at the last checkpoint (`snapshot`).
-/

import Eag.Foundation.GitRepository
import Eag.Foundation.Runs

namespace Eag.Safety

open Eag.Foundation Eag.Foundation.Git

/-! ## Files -/

/-- The names that lead from the workspace to a file. -/
abbrev FilePath := List String

abbrev Files := Dict FilePath String

/-- One path leads through the other, so that no files can stand at both. -/
def inTheWay (path other : FilePath) : Bool := path.isPrefixOf other || other.isPrefixOf path

/-! ## Models -/

/-- `SafetyState`. -/
inductive SafetyState where
  | unknown
  | ready
  | checkpointCreated
  | executing
  | rollbackAvailable
  | rollingBack
  | rolledBack
  | completed
  deriving DecidableEq, Repr

/-- `Checkpoint`, up to its time and its backend. -/
structure Checkpoint where
  id : String
  description : String
  deriving DecidableEq, Repr

/-- `WorkspaceStatus`: what git says about the workspace, as far as the report reads it. -/
structure WorkspaceStatus where
  isRepository : Bool
  dirty : Bool
  hasUntracked : Bool
  hasConflicts : Bool
  detachedHead : Bool
  deriving DecidableEq, Repr

/-- `RollbackResult`, up to its duration: the message of its error, if it has one. -/
structure RollbackResult where
  success : Bool
  checkpointId : String
  error : Option String
  deriving DecidableEq, Repr

/-- The events of the rollbacks and checkpoints. -/
inductive SafetyEvent where
  | workspaceInspected
  | checkpointCreated (checkpointId description : String)
  | rollbackStarted (checkpointId : String)
  | rollbackCompleted (checkpointId : String)
  deriving DecidableEq, Repr

/-! ## Sessions -/

/-- The git commands that make a checkpoint. -/
inductive CreateCommand where
  | add
  | commit
  | revParse
  deriving DecidableEq, Repr

/-- A safety runtime with its parts, and the workspace. -/
structure Session where
  tree : Worktree FilePath String
  /-- `_refs` of the backend. -/
  refs : Dict String Files
  /-- `_counter` of the manager. -/
  counter : Nat
  /-- `_state` of the runtime. -/
  state : SafetyState
  /-- `_latest_checkpoint` of the runtime. -/
  latestCheckpoint : Option Checkpoint
  events : List SafetyEvent
  /-- The checkpoint that was made last, and the files of that time. -/
  snapshot : Option (Checkpoint × Files)

/-- A session in a workspace. -/
def Session.new (tree : Worktree FilePath String) : Session :=
  ⟨tree, Dict.empty, 1, .unknown, none, [], none⟩

/-- Which files git ignores, by the files of a working tree. -/
abbrev IgnoreRules := Files → FilePath → Bool

namespace Session

variable (ignores : IgnoreRules) (session : Session)

/-! ## The git backend -/

/-- `GitSafetyBackend.create`: the command that fails, with what it says, if one does. -/
def backendCreate (failure : Option (CreateCommand × String)) (checkpointId description : String) :
    Except String Checkpoint × Session :=
  let added := { session with tree := session.tree.addAll (ignores session.tree.files) }
  match failure with
  | some (.add, text) => (.error text, session)
  | some (_, text) => (.error text, added)
  | none =>
      let filed := { added with refs := added.refs.set checkpointId added.tree.index }
      if checkpointId = "" then (.error "Checkpoint ID cannot be empty.", filed)
      else if description = "" then (.error "Checkpoint description cannot be empty.", filed)
      else (.ok ⟨checkpointId, description⟩, filed)

/-- `GitSafetyBackend.rollback`: what the reset says, if it fails. -/
def backendRollback (failure : Option String) (checkpointId : String) : Except String Session :=
  match session.refs.get? checkpointId with
  | none => .error ("Unknown checkpoint ID: " ++ checkpointId)
  | some commit =>
      match failure with
      | some text => .error text
      | none => .ok { session with tree := session.tree.resetHard inTheWay commit }

/-! ## The checkpoint manager -/

/-- `f"{number:04d}"`. -/
def fourDigits (number : Nat) : List Char :=
  let digits := Nat.toDigits 10 number
  List.replicate (4 - digits.length) '0' ++ digits

/-- `f"CP-{date}-{counter:04d}"`. -/
def checkpointIdOf (date : String) (counter : Nat) : String :=
  "CP-" ++ date ++ "-" ++ String.ofList (fourDigits counter)

/-- `CheckpointManager.create`. -/
def createCheckpoint (failure : Option (CreateCommand × String)) (date description : String) :
    Except String Checkpoint × Session :=
  let checkpointId := checkpointIdOf date session.counter
  let counted := { session with counter := session.counter + 1 }
  match counted.backendCreate ignores failure checkpointId description with
  | (.error text, after) => (.error text, after)
  | (.ok checkpoint, after) =>
      (.ok checkpoint, { after with
        events := after.events ++ [.checkpointCreated checkpoint.id checkpoint.description]
        snapshot := some (checkpoint, session.tree.files) })

/-! ## The rollback engine -/

/-- `RollbackEngine.rollback`. -/
def engineRollback (failure : Option String) (checkpointId : String) : RollbackResult × Session :=
  let started : Session :=
    { session with events := session.events ++ [.rollbackStarted checkpointId] }
  let completed (after : Session) : Session :=
    { after with events := after.events ++ [.rollbackCompleted checkpointId] }
  match started.backendRollback failure checkpointId with
  | .ok after => (⟨true, checkpointId, none⟩, completed after)
  | .error text => (⟨false, checkpointId, some text⟩, completed started)

/-- `GitSafetyBackend.latest`. -/
def backendLatest : Option Checkpoint := none

/-- `RollbackEngine.rollback_latest`. -/
def engineRollbackLatest (failure : Option String) : Except String RollbackResult × Session :=
  match backendLatest with
  | none => (.error "No checkpoint available to rollback to.", session)
  | some latest =>
      let (result, after) := session.engineRollback failure latest.id
      (.ok result, after)

/-! ## The runtime -/

/-- The errors of the report on a status. -/
def reportErrors (status : WorkspaceStatus) : List String :=
  (if status.isRepository then [] else ["NO_REPO"]) ++
    (if status.hasConflicts then ["MERGE_CONFLICT"] else []) ++
    (if status.detachedHead then ["DETACHED_HEAD"] else [])

/-- `inspect`: the errors of the report. -/
def inspect (status : WorkspaceStatus) : List String × Session :=
  let errors := reportErrors status
  (errors, { session with
    state := if session.state = .unknown ∧ errors = [] then .ready else session.state
    events := session.events ++ [.workspaceInspected] })

/-- `create_checkpoint`. -/
def create (failure : Option (CreateCommand × String)) (date description : String) :
    Except String Checkpoint × Session :=
  match session.createCheckpoint ignores failure date description with
  | (.error text, after) => (.error text, after)
  | (.ok checkpoint, after) =>
      (.ok checkpoint, { after with
        latestCheckpoint := some checkpoint
        state := .checkpointCreated })

/-- `prepare`: the report is unsafe when it has errors. -/
def prepare (status : WorkspaceStatus) (failure : Option (CreateCommand × String))
    (date : String) : Except String Checkpoint × Session :=
  let (errors, inspected) := session.inspect status
  if errors ≠ [] then (.error "Workspace is unsafe for execution.", inspected)
  else inspected.create ignores failure date "Pre-execution checkpoint"

/-- `rollback`. -/
def rollback (failure : Option String) : Session :=
  match session.latestCheckpoint with
  | none => session
  | some latest =>
      let rolling := { session with state := .rollingBack }
      { (rolling.engineRollback failure latest.id).2 with state := .rolledBack }

/-! ## Runs -/

/-- The files of the workspace after one was created, modified or deleted. -/
def edit (path : FilePath) (content : Option String) : Session :=
  match content with
  | some content =>
      { session with tree := { session.tree with files := session.tree.files.set path content } }
  | none =>
      { session with tree := { session.tree with
          files := session.tree.files.filterKeys (· ≠ path) } }

/-- A call of the runtime, of its manager or of its engine, or a change of a file. -/
inductive Call where
  | edit (path : FilePath) (content : Option String)
  | inspect (status : WorkspaceStatus)
  | prepare (status : WorkspaceStatus) (failure : Option (CreateCommand × String)) (date : String)
  | create (failure : Option (CreateCommand × String)) (date description : String)
  | managerCreate (failure : Option (CreateCommand × String)) (date description : String)
  | rollback (failure : Option String)
  | engineRollback (failure : Option String) (checkpointId : String)
  | engineRollbackLatest (failure : Option String)

/-- The session after a call. -/
def step : Call → Session
  | .edit path content => session.edit path content
  | .inspect status => (session.inspect status).2
  | .prepare status failure date => (session.prepare ignores status failure date).2
  | .create failure date description => (session.create ignores failure date description).2
  | .managerCreate failure date description =>
      (session.createCheckpoint ignores failure date description).2
  | .rollback failure => session.rollback failure
  | .engineRollback failure checkpointId => (session.engineRollback failure checkpointId).2
  | .engineRollbackLatest failure => (session.engineRollbackLatest failure).2

end Session

end Eag.Safety
