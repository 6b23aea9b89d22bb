/-
  Eag.Vcs.RepositoryRuntime

  `RepositoryRuntime.open` and `commit` (`vcs/runtime.py`) on a repository that exists.

  `open` initialises whatever it is given, and the second command of `GitProvider.init` makes
  `HEAD` name the branch `main`. `open_unmoved_iff` says when the repository, and what the
  next commit extends, are still the ones before.
-/

import Mathlib.Algebra.GroupWithZero.Nat
import Eag.Vcs.GitProvider

namespace Eag.Vcs

open Eag.Foundation
open Eag.Foundation.Git

/-! ## The runtime -/

/-- State of a repository transaction. -/
inductive TransactionState where
  | ready
  | active
  | committed
  | rolledBack
  | failed
  deriving DecidableEq, Repr

/-- The events of a runtime. -/
inductive RepositoryEvent (Oid : Type) where
  | opened (repositoryId : String)
  | commitCreated (repositoryId : String) (commitId : Oid)

/-- What a runtime holds. -/
structure RepositoryRuntime (Oid : Type) where
  repository : Option RepositoryDescriptor
  transaction : TransactionState
  commitCount : Nat
  failureCount : Nat
  events : List (RepositoryEvent Oid)

variable {Oid Tree : Type}

/-- What a call returns or raises, and the runtime after it. -/
abbrev CallResult (Oid α : Type) : Type := Except RepositoryError α × RepositoryRuntime Oid

/-- `RepositoryValidator.validate`. -/
def validate : Steps Oid Unit := do
  let present : Bool ← run .gitDirExists
  if present then pure () else throw .notRepository

namespace RepositoryRuntime

variable (runtime : RepositoryRuntime Oid)

/-- `open`, with the identity drawn for the repository. -/
def openRepository (repositoryId : String) :
    Prog GitCommand (Reply Oid) (CallResult Oid RepositoryDescriptor) :=
  (do
    let repo ← GitProvider.init repositoryId
    validate
    return repo : Steps Oid RepositoryDescriptor).run >>= fun
  | .error error => .ret (.error error, runtime)
  | .ok repo =>
      .ret (.ok repo, { runtime with
        repository := some repo
        events := runtime.events ++ [.opened repo.repositoryId] })

/-- `commit`. -/
def commit (message : String) : Prog GitCommand (Reply Oid) (CallResult Oid Oid) :=
  if runtime.transaction = .active then .ret (.error .transactionActive, runtime)
  else
    let failed := fun error : RepositoryError => ((.error (.commitFailed error),
      -- rolled back, and reset in the end
      { runtime with
        transaction := .ready
        failureCount := runtime.failureCount + 1 }) : CallResult Oid Oid)
    match runtime.repository with
    | none => .ret (failed .notOpened)
    | some repo => (GitProvider.commit message).run >>= fun
      | .error error => .ret (failed error)
      | .ok commitId => .ret (.ok commitId, { runtime with
          transaction := .ready
          commitCount := runtime.commitCount + 1
          events := runtime.events ++ [.commitCreated repo.repositoryId commitId] })

end RepositoryRuntime

/-! ## An existing repository -/

section

variable [DecidableEq Oid] [DecidableEq Tree] [EmptyCollection Tree]
  (git : GitSemantics Oid Tree)

/-- What `open` leaves of a directory; its `n`-th command meets `faults n`. -/
def opened (dir : Directory Oid Tree) (runtime : RepositoryRuntime Oid) (repositoryId : String)
    (faults : Nat → Option GitFault) :=
  (runtime.openRepository repositoryId).play (perform git) dir faults

/-- What a commit leaves of a directory. -/
def committed (dir : Directory Oid Tree) (runtime : RepositoryRuntime Oid) (message : String)
    (faults : Nat → Option GitFault) :=
  (runtime.commit message).play (perform git) dir faults

/-- `HEAD`, every reference, the index and the working tree are as they were. -/
def Unmoved (files : Tree) (repo : Repository Oid Tree) (after : Directory Oid Tree) : Prop :=
  after.files = files ∧ ∃ now, after.git = some now ∧ now.head = repo.head ∧
    now.refs = repo.refs ∧ now.index = repo.index

/-- What a call of `commit` may do to a repository: it returns a commit that extends it, or
    fails and has made such a commit or none. -/
def CommitExtends (repo : Repository Oid Tree) (final : Directory Oid Tree)
    (returned : Except RepositoryError Oid) : Prop :=
  ∃ now, final.git = some now ∧
    ((now.head = repo.head ∧ now.refs = repo.refs ∧ ∀ oid, returned ≠ .ok oid) ∨
      ∃ oid, Extends repo now oid ∧ ∀ other, returned = .ok other → other = oid)

/-- `open` does not move the repository, and a commit after it, whatever became of the files in
    between, extends the repository as it was before. -/
def OpensInPlace (files : Tree) (repo : Repository Oid Tree) (runtime : RepositoryRuntime Oid)
    (repositoryId : String) (faults : Nat → Option GitFault) : Prop :=
  let first := opened git ⟨files, some repo⟩ runtime repositoryId faults
  Unmoved files repo first.shared ∧
    ∀ edited message later,
      let next := committed git { first.shared with files := edited } first.value.2 message later
      CommitExtends repo next.shared next.value.1

/-- What `open` makes of `HEAD`: the executable is there and `symbolic-ref` does not fail. -/
def openedHead (faults : Nat → Option GitFault) (head : Head Oid) : Head Oid :=
  if faults 0 ≠ some .missing ∧ faults 1 = none then .branch "refs/heads/main" else head

/-- The first four faults, and the others. -/
def fourFaults (f0 f1 f2 f3 : Option GitFault) (rest : Nat → Option GitFault) :
    Nat → Option GitFault
  | 0 => f0
  | 1 => f1
  | 2 => f2
  | 3 => f3
  | n + 4 => rest n

theorem eq_fourFaults (faults : Nat → Option GitFault) :
    faults = fourFaults (faults 0) (faults 1) (faults 2) (faults 3) fun n => faults (n + 4) := by
  funext n
  match n with
  | 0 | 1 | 2 | 3 | _ + 4 => rfl

/-- **What `open` leaves of a repository**: its `HEAD` and its configuration may be others. -/
theorem opened_shared (files : Tree) (repo : Repository Oid Tree)
    (runtime : RepositoryRuntime Oid) (repositoryId : String) (faults : Nat → Option GitFault) :
    ∃ config, (opened git ⟨files, some repo⟩ runtime repositoryId faults).shared =
      ⟨files, some { repo with head := openedHead faults repo.head, config := config }⟩ := by
  rw [eq_fourFaults faults]
  generalize faults 0 = f0, faults 1 = f1, faults 2 = f2, faults 3 = f3
  -- one case for each command that ends the call
  rcases f0 with _ | stderr | _
  case some.missing => exact ⟨_, rfl⟩
  all_goals rcases f1 with _ | stderr | _
  all_goals rcases f2 with _ | stderr | _
  all_goals rcases f3 with _ | stderr | _
  all_goals exact ⟨_, rfl⟩

theorem perform_revParse (files : Tree) {repo : Repository Oid Tree} {oid : Oid}
    (h : repo.headCommit = some oid) :
    perform git ⟨files, some repo⟩ none .revParse = (⟨files, some repo⟩, .ok oid) := by
  simp only [perform, carryOut, onRepository, h]

theorem perform_commit (files : Tree) (repo : Repository Oid Tree) (message : String) :
    perform git ⟨files, some repo⟩ none (.commit message) =
      match repo.commit git.identify message with
      | none => (⟨files, some repo⟩, .error (.failed "nothing to commit"))
      | some after => (⟨files, some after⟩, .ok ()) := by
  simp only [perform, carryOut, onRepository]
  cases repo.commit git.identify message with
  | none => rfl
  | some after => rfl

/-- **What a commit does to a repository**, whatever its commands meet. -/
theorem committed_extends (edited : Tree) (repo : Repository Oid Tree)
    (runtime : RepositoryRuntime Oid) (message : String) (faults : Nat → Option GitFault) :
    let final := committed git ⟨edited, some repo⟩ runtime message faults
    CommitExtends repo final.shared final.value.1 := by
  have hall : Prog.Ensures (perform git)
      (fun final _ (value : CallResult Oid Oid) => CommitExtends repo final value.1)
      ⟨edited, some repo⟩ [] (runtime.commit message) := ?_
  · exact hall.play faults
  have hunchanged : ∀ (index : Tree) (error : RepositoryError),
      CommitExtends repo ⟨edited, some { repo with index := index }⟩ (.error error) :=
    fun index error => ⟨_, rfl, Or.inl ⟨rfl, rfl, fun _ h => nomatch h⟩⟩
  unfold RepositoryRuntime.commit
  by_cases hactive : runtime.transaction = .active
  · rw [if_pos hactive]
    exact hunchanged _ _
  rw [if_neg hactive]
  cases runtime.repository with
  | none => exact hunchanged _ _
  | some descriptor =>
      rintro (_ | ⟨stderr⟩ | _)
      case some.failed => exact hunchanged _ _
      case some.missing => exact hunchanged _ _
      rintro (_ | ⟨stderr⟩ | _)
      case some.failed => exact hunchanged _ _
      case some.missing => exact hunchanged _ _
      -- what stands in the index is committed
      generalize hcommit : perform git (perform git ⟨edited, some repo⟩ none .add).1 none
        (.commit message) = answered
      have hcommit' := (perform_commit git edited
        { repo with index := git.stage repo.index edited } message).symm.trans hcommit
      cases hmade : Repository.commit { repo with index := git.stage repo.index edited }
          git.identify message with
      | none =>
          rw [hmade] at hcommit'
          subst hcommit'
          exact hunchanged _ _
      | some after =>
          rw [hmade] at hcommit'
          subst hcommit'
          obtain ⟨oid, hhead, hextends⟩ := commit_extends hmade
          have hextends : Extends repo after oid := hextends.congr rfl rfl rfl
          rintro (_ | ⟨stderr⟩ | _)
          case some.failed => exact ⟨after, rfl, Or.inr ⟨oid, hextends, fun _ h => nomatch h⟩⟩
          case some.missing => exact ⟨after, rfl, Or.inr ⟨oid, hextends, fun _ h => nomatch h⟩⟩
          generalize hparsed : perform git ⟨edited, some after⟩ none .revParse = answered
          have hparsed' := (perform_revParse git edited hhead).symm.trans hparsed
          subst hparsed'
          exact ⟨after, rfl, Or.inr ⟨oid, hextends, fun _ h => (Except.ok.inj h).symm⟩⟩

omit [DecidableEq Oid] in
theorem openedHead_eq_iff (faults : Nat → Option GitFault) (head : Head Oid) :
    openedHead faults head = head ↔
      head = .branch "refs/heads/main" ∨ faults 0 = some .missing ∨ faults 1 ≠ none := by
  unfold openedHead
  by_cases hruns : faults 0 ≠ some .missing ∧ faults 1 = none
  · obtain ⟨hpresent, hruns'⟩ := hruns
    rw [if_pos ⟨hpresent, hruns'⟩]
    constructor
    · intro hmain
      exact Or.inl hmain.symm
    · rintro (hmain | hmissing | hfails)
      · exact hmain.symm
      · exact absurd hmissing hpresent
      · exact absurd hruns' hfails
  · rw [if_neg hruns]
    have hfault : faults 0 = some .missing ∨ faults 1 ≠ none := by
      by_contra hnone
      exact hruns ⟨fun h => hnone (Or.inl h), not_not.mp fun h => hnone (Or.inr h)⟩
    exact iff_of_true rfl (Or.inr hfault)

/-- **When opening a repository leaves it in place**: its `HEAD` names the branch `main`
    already, or `symbolic-ref` is not reached or fails. -/
theorem opens_in_place_iff (files : Tree) (repo : Repository Oid Tree)
    (runtime : RepositoryRuntime Oid) (repositoryId : String) (faults : Nat → Option GitFault) :
    OpensInPlace git files repo runtime repositoryId faults ↔
      repo.head = .branch "refs/heads/main" ∨ faults 0 = some .missing ∨ faults 1 ≠ none := by
  obtain ⟨config, hshared⟩ := opened_shared git files repo runtime repositoryId faults
  rw [← openedHead_eq_iff faults repo.head]
  constructor
  · rintro ⟨⟨-, now, hnow, hhead, -⟩, -⟩
    rw [hshared] at hnow
    obtain rfl := Option.some.inj hnow
    exact hhead
  · intro hhead
    refine ⟨⟨by rw [hshared], { repo with head := openedHead faults repo.head, config := config },
      by rw [hshared], hhead, rfl, rfl⟩, fun edited message later => ?_⟩
    -- the commit extends what stands, which has the `HEAD` and the references of before
    have hextends := committed_extends git edited
      { repo with head := openedHead faults repo.head, config := config }
      (opened git ⟨files, some repo⟩ runtime repositoryId faults).value.2 message later
    rw [hhead] at hextends
    rw [hshared, hhead]
    obtain ⟨now, hnow, hkept | ⟨oid, hoid, hreturned⟩⟩ := hextends
    · exact ⟨now, hnow, Or.inl hkept⟩
    · exact ⟨now, hnow, Or.inr ⟨oid, hoid.congr rfl rfl rfl, hreturned⟩⟩

end

/-! ## A repository on another branch -/

/-- Files as a list, staged as they are; a commit is named by its number of parents. -/
def plainGit : GitSemantics Nat (List String) := ⟨fun _ files => files, fun c => 10 + c.parents.sum⟩

/-- A runtime that has opened nothing. -/
def newRuntime : RepositoryRuntime Nat := ⟨none, .ready, 0, 0, []⟩

/-- A repository with the branches `main` and `dev`, where `dev` is checked out. -/
def devRepository : Repository Nat (List String) where
  head := .branch "refs/heads/dev"
  refs := fun ref => if ref = "refs/heads/main" then some 1
    else if ref = "refs/heads/dev" then some 2 else none
  index := ["a", "b"]
  objects := fun oid => if oid = 1 then some ⟨["a"], [], "one", (none, none)⟩
    else if oid = 2 then some ⟨["a", "b"], [1], "two", (none, none)⟩ else none
  mergeHeads := []
  config := fun _ => none

/-- Opening it checks out `main` without its files, and a commit of an edit moves `main`: its
    parent is the commit of `main`, and `dev` stays behind. -/
theorem open_moves_dev :
    ¬OpensInPlace plainGit ["a", "b"] devRepository newRuntime "r" (fun _ => none) ∧
    let first := opened plainGit ⟨["a", "b"], some devRepository⟩ newRuntime "r" fun _ => none
    let next := committed plainGit { first.shared with files := ["a", "b", "c"] }
      first.value.2 "three" fun _ => none
    next.value.1 = .ok 11 ∧ next.shared.git.map (fun now =>
      (now.head, now.refs "refs/heads/main", now.refs "refs/heads/dev",
        (now.objects 11).map (·.parents))) =
      some (.branch "refs/heads/main", some 11, some 2, some [1]) := by
  refine ⟨?_, rfl, rfl⟩
  rintro ⟨⟨-, now, hnow, hhead, -⟩, -⟩
  obtain ⟨config, hshared⟩ :=
    opened_shared plainGit ["a", "b"] devRepository newRuntime "r" fun _ => none
  rw [hshared] at hnow
  rw [← Option.some.inj hnow] at hhead
  have hbranches : ("refs/heads/main" : String) = "refs/heads/dev" := Head.branch.inj hhead
  revert hbranches
  decide

end Eag.Vcs
