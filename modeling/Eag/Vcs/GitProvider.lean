/-
  Eag.Vcs.GitProvider

  `GitProvider` (`vcs/providers/git.py`): the git commands that `init` and `commit` run, over
  the repositories of `Foundation.GitRepository`.

  A command may fail, or the executable may not be found; it then has no effect. `_run` with
  `check=False` goes on after a command that failed.
-/

import Eag.Foundation.GitRepository
import Eag.Foundation.Interleaving

namespace Eag.Vcs

open Eag.Foundation
open Eag.Foundation.Git

/-! ## Commands -/

/-- What the provider and the validator ask of the system. -/
inductive GitCommand where
  | init (initialBranch : String)
  | symbolicRef (ref : String)
  | config (key value : String)
  | add
  | commit (message : String)
  | revParse
  /-- `(repo.root / ".git").exists()`. -/
  | gitDirExists

/-- Why a command had no effect. -/
inductive GitFault where
  | failed (stderr : String)
  | missing
  deriving DecidableEq, Repr

variable {Oid Tree : Type}

/-- What a command prints or returns. -/
def Answer (Oid : Type) : GitCommand → Type
  | .revParse => Oid
  | .gitDirExists => Bool
  | _ => Unit

/-- A command and how it ends. -/
abbrev Reply (Oid : Type) (command : GitCommand) : Type := Except GitFault (Answer Oid command)

/-- What the commands of a directory depend on besides it: the files that `add` takes over,
    and the name of a commit. -/
structure GitSemantics (Oid Tree : Type) where
  stage : Tree → Tree → Tree
  identify : CommitObject Oid Tree → Oid

/-- A command in a repository. -/
def onRepository {α : Type} (dir : Directory Oid Tree)
    (act : Repository Oid Tree → Repository Oid Tree × Except GitFault α) :
    Directory Oid Tree × Except GitFault α :=
  match dir.git with
  | none => (dir, .error (.failed "fatal: not a git repository"))
  | some repo => ({ dir with git := some (act repo).1 }, (act repo).2)

section

variable [DecidableEq Oid] [DecidableEq Tree] [EmptyCollection Tree]
  (git : GitSemantics Oid Tree)

/-- What a command that is carried out does. -/
def carryOut (dir : Directory Oid Tree) :
    (command : GitCommand) → Directory Oid Tree × Reply Oid command
  | .init initialBranch => (Git.init initialBranch dir, .ok ())
  | .symbolicRef ref => onRepository dir fun repo => (repo.symbolicRef ref, .ok ())
  | .config key value => onRepository dir fun repo => (repo.setConfig key value, .ok ())
  | .add => onRepository dir fun repo =>
      ({ repo with index := git.stage repo.index dir.files }, .ok ())
  | .commit message => onRepository dir fun repo =>
      match repo.commit git.identify message with
      | none => (repo, .error (.failed "nothing to commit"))
      | some after => (after, .ok ())
  | .revParse => onRepository dir fun repo =>
      match repo.headCommit with
      | none => (repo, .error (.failed "fatal: ambiguous argument 'HEAD'"))
      | some oid => (repo, .ok oid)
  | .gitDirExists => (dir, .ok dir.git.isSome)

/-- One command, which fails as the environment says. -/
def perform (dir : Directory Oid Tree) (fault : Option GitFault) (command : GitCommand) :
    Directory Oid Tree × Reply Oid command :=
  match fault, command with
  -- `exists` runs no command
  | _, .gitDirExists => carryOut git dir .gitDirExists
  | some fault, _ => (dir, .error fault)
  | none, command => carryOut git dir command

end

/-! ## The provider -/

/-- `RepositoryError` and its kinds. -/
inductive RepositoryError where
  | gitCommandFailed (stderr : String)
  | executableNotFound
  | notRepository
  | notOpened
  | transactionActive
  | commitFailed (cause : RepositoryError)
  deriving DecidableEq, Repr

/-- A program over the commands that may raise. -/
abbrev Steps (Oid α : Type) : Type := ExceptT RepositoryError (Prog GitCommand (Reply Oid)) α

/-- `_run`. -/
def run (command : GitCommand) : Steps Oid (Answer Oid command) :=
  ExceptT.mk (.call command fun
    | .ok answer => .ret (.ok answer)
    | .error (.failed stderr) => .ret (.error (.gitCommandFailed stderr))
    | .error .missing => .ret (.error .executableNotFound))

/-- `_run` with `check=False`. -/
def runUnchecked (command : GitCommand) : Steps Oid Unit :=
  ExceptT.mk (.call command fun
    | .ok _ | .error (.failed _) => .ret (.ok ())
    | .error .missing => .ret (.error .executableNotFound))

/-- Lifecycle state of a repository. -/
inductive RepositoryState where
  | uninitialized
  | ready
  | dirty
  | clean
  | detached
  | failed
  deriving DecidableEq, Repr

/-- The parts of a `RepositoryDescriptor` that a program sets. -/
structure RepositoryDescriptor where
  repositoryId : String
  state : RepositoryState
  branch : String
  deriving DecidableEq, Repr

namespace GitProvider

/-- `init`. -/
def init (repositoryId : String) : Steps Oid RepositoryDescriptor := do
  runUnchecked (.init "main")
  runUnchecked (.symbolicRef "refs/heads/main")
  let _ ← run (.config "user.email" "eag@local")
  let _ ← run (.config "user.name" "EAG Agent")
  return ⟨repositoryId, .ready, "main"⟩

/-- `commit`. -/
def commit (message : String) : Steps Oid Oid := do
  let _ ← run .add
  let _ ← run (.commit message)
  run .revParse

end GitProvider

end Eag.Vcs
