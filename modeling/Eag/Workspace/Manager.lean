/-
  Eag.Workspace.Manager

  The manager of a workspace (`workspace/manager.py`) with the validator, the resolver, the
  locker and the file system that it is made of, as the runtime of the workspace makes it:
  over a root that was resolved.

  What a process may write is given by the directories and files that it may write, how deep
  `resolve` may nest its calls and what the manifest builder makes of a tree by parameters.
  Beside what the source keeps, a manager has whether the workspace is open.
-/

import Eag.Foundation.FileUpdates
import Eag.Foundation.Runs
import Eag.Mutation.Runtime

namespace Eag.Workspace

open Eag.Foundation
open Eag.Mutation (universalNewlines)

/-! ## Models -/

/-- `WorkspaceMode`. -/
inductive WorkspaceMode where
  | readOnly
  | dryRun
  | live
  deriving DecidableEq, Repr

/-- `WorkspaceState`. -/
inductive WorkspaceState where
  | creating
  | ready
  | locked
  | modified
  | dirty
  | failed
  | closed
  deriving DecidableEq, Repr

/-- `LockState`. -/
inductive LockState where
  | unlocked
  | locked
  | released
  | expired
  deriving DecidableEq, Repr

/-- The errors of the operations, with their messages; `notWritable` is the validation error over
    an `OSError`, with whose text its message ends. -/
inductive WorkspaceError where
  | pathTraversal (message : String)
  | locked (message : String)
  | validation (message : String)
  | notWritable (message : String)
  | filesystem (message : String)
  | resolve (error : FileTree.ResolveError)
  | os
  | undecodable
  deriving DecidableEq, Repr

/-- The events of the workspace; the manager publishes nothing for a snapshot. -/
inductive WorkspaceEvent where
  | workspaceOpened (root : String)
  | workspaceValidated
  | workspaceClosed
  | fileRead (path : String)
  | fileWritten (path : String)
  | none
  deriving DecidableEq, Repr

/-- `str(path)` of an absolute path. -/
def pathText (path : List String) : String := "/" ++ String.intercalate "/" path

/-! ## Parts -/

/-- The file that probes whether the root can be written. -/
def writeProbe : String := ".eag_write_test"

section

variable (writable : List String → Bool) (tree : FileTree ByteArray)

/-- `WorkspaceValidator.validate`: how it ends, and the tree. -/
def validate (root : List String) (mode : WorkspaceMode) :
    Except WorkspaceError Unit × FileTree ByteArray :=
  if tree.pathExists root = false then
    (.error (.validation ("Workspace root does not exist: " ++ pathText root)), tree)
  else if tree.isDir root = false then
    (.error (.validation ("Workspace root is not a directory: " ++ pathText root)), tree)
  else if mode = .live ∨ mode = .dryRun then
    match tree.touch writable ByteArray.empty (root ++ [writeProbe]) with
    | none => (.error (.notWritable "Workspace root is not writable: "), tree)
    | some touched =>
        match touched.unlink writable (root ++ [writeProbe]) with
        | none => (.error (.notWritable "Workspace root is not writable: "), touched)
        | some unlinked => (.ok (), unlinked)
  else (.ok (), tree)

/-- The names that `PathResolver.resolve` has resolved. -/
def namesFrom (root : List String) (path : String) : List String :=
  if isAbsolutePath path = true then pathNames path else root ++ pathNames path

/-- `PathResolver.resolve`. -/
def resolve (depth : Nat) (root : List String) (path : String) :
    Except WorkspaceError (List String) :=
  match tree.resolve false depth (namesFrom root path) with
  | .error error => .error (.resolve error)
  | .ok resolved =>
      if root.isPrefixOf resolved = true then .ok resolved
      else .error (.pathTraversal
        ("Path '" ++ path ++ "' escapes workspace root '" ++ pathText root ++ "'"))

/-- `LocalFilesystem.read`. -/
def readFile (path : List String) : Except WorkspaceError String :=
  if tree.pathExists path = false then .error (.filesystem ("File not found: " ++ pathText path))
  else
    match tree.fileData path with
    | none => .error .os
    | some data =>
        match String.fromUTF8? data with
        | none => .error .undecodable
        | some text => .ok (String.ofList (universalNewlines text.toList))

/-- `LocalFilesystem.write`: how it ends, and the tree. -/
def writeFile (path : List String) (content : String) :
    Except WorkspaceError Unit × FileTree ByteArray :=
  match tree.makeDirs writable path.dropLast.reverse with
  | (made, false) => (.error .os, made)
  | (made, true) =>
      match made.writeData writable path content.toUTF8 with
      | none => (.error .os, made)
      | some written => (.ok (), written)

end

/-! ## The manager -/

/-- `WorkspaceManager`, with its root, the files and the lock. -/
structure Manager where
  tree : FileTree ByteArray
  root : List String
  mode : WorkspaceMode
  state : WorkspaceState
  lock : LockState
  events : List WorkspaceEvent
  /-- Opened, and not closed since. -/
  isOpen : Bool

/-- A manager as it is made. -/
def Manager.new (tree : FileTree ByteArray) (root : List String) (mode : WorkspaceMode) : Manager :=
  ⟨tree, root, mode, .creating, .unlocked, [], false⟩

namespace Manager

variable (writable : List String → Bool) (depth : Nat) {μ : Type}
  (manifest : FileTree ByteArray → List String → Except WorkspaceError μ) (manager : Manager)

/-- `open`. -/
def openWorkspace : Except WorkspaceError Unit × Manager :=
  match validate writable manager.tree manager.root manager.mode with
  | (.error error, tree) => (.error error, { manager with tree })
  | (.ok (), tree) =>
      (.ok (), { manager with
        tree
        state := .ready
        events := manager.events ++ [.workspaceOpened (pathText manager.root), .workspaceValidated]
        isOpen := true })

/-- `close`. -/
def close : Manager :=
  { manager with
    state := .closed
    events := manager.events ++ [.workspaceClosed]
    isOpen := false }

/-- `read`. -/
def read (path : String) : Except WorkspaceError String × Manager :=
  match resolve manager.tree depth manager.root path with
  | .error error => (.error error, manager)
  | .ok resolved =>
      match readFile manager.tree resolved with
      | .error error => (.error error, manager)
      | .ok content =>
          (.ok content, { manager with
            events := manager.events ++ [.fileRead (pathText resolved)] })

/-- `write`: the lock is looked at, and neither the mode nor the state. -/
def write (path content : String) : Except WorkspaceError Unit × Manager :=
  if manager.lock = .locked then (.error (.locked "Cannot write to locked workspace."), manager)
  else
    match resolve manager.tree depth manager.root path with
    | .error error => (.error error, manager)
    | .ok resolved =>
        match writeFile writable manager.tree resolved content with
        | (.error error, tree) => (.error error, { manager with tree })
        | (.ok (), tree) =>
            (.ok (), { manager with
              tree
              state := .modified
              events := manager.events ++ [.fileWritten (pathText resolved)] })

/-- `snapshot`. -/
def snapshot : Except WorkspaceError μ × Manager :=
  match manifest manager.tree manager.root with
  | .error error => (.error error, manager)
  | .ok built => (.ok built, { manager with events := manager.events ++ [.none] })

/-- `WorkspaceLocker.acquire`. -/
def acquire : Except WorkspaceError Unit × Manager :=
  if manager.lock = .locked then (.error (.locked "Workspace is already locked."), manager)
  else (.ok (), { manager with lock := .locked })

/-- `WorkspaceLocker.release`. -/
def release : Manager := { manager with lock := .released }

/-! ## Runs -/

/-- A call of the manager, or of its locker. -/
inductive Call where
  | openWorkspace
  | close
  | read (path : String)
  | write (path content : String)
  | snapshot
  | acquire
  | release
  deriving DecidableEq, Repr

/-- The manager after a call. -/
def step : Call → Manager
  | .openWorkspace => (manager.openWorkspace writable).2
  | .close => manager.close
  | .read path => (manager.read depth path).2
  | .write path content => (manager.write writable depth path content).2
  | .snapshot => (manager.snapshot manifest).2
  | .acquire => manager.acquire.2
  | .release => manager.release

end Manager

end Eag.Workspace
