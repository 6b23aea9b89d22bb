/-
  Eag.Foundation.GitRepository

  The state of a git repository and the documented effect of the commands that set a
  repository up and commit to it: `init`, `symbolic-ref`, `config`, `add`, `commit` and
  `rev-parse`.

  Trees are of any type; which files `add` takes over and how a commit is named are
  parameters. `commit_extends`: a commit moves the branch that `HEAD` names, or a detached
  `HEAD`, and no other reference.

  Then a working tree with its index, and `git add -A` and `git reset --hard`. Which paths are
  ignored, and which cannot stand beside each other, are parameters. `restored_iff`: a hard
  reset to a commit that was made of everything restores the files of that time exactly when no
  file that is neither tracked nor ignored was added since.
-/

import Mathlib.Logic.Function.Basic
import Eag.Foundation.Dict

namespace Eag.Foundation.Git

/-! ## Repositories -/

/-- `HEAD`: the name of a reference, or a commit. -/
inductive Head (Oid : Type) where
  | branch (ref : String)
  | detached (oid : Oid)
  deriving DecidableEq, Repr

/-- A commit object. -/
structure CommitObject (Oid Tree : Type) where
  tree : Tree
  parents : List Oid
  message : String
  author : Option String × Option String

/-- What stands in a git directory. -/
structure Repository (Oid Tree : Type) where
  head : Head Oid
  refs : String → Option Oid
  index : Tree
  objects : Oid → Option (CommitObject Oid Tree)
  /-- The commits that a merge in progress brings in. -/
  mergeHeads : List Oid
  config : String → Option String

/-- A directory: its working tree, and its git directory if it has one. -/
structure Directory (Oid Tree : Type) where
  files : Tree
  git : Option (Repository Oid Tree)

variable {Oid Tree : Type}

namespace Repository

variable (repo : Repository Oid Tree)

/-- The commit `HEAD` points at; none on a branch without commits. -/
def headCommit : Option Oid :=
  match repo.head with
  | .branch ref => repo.refs ref
  | .detached oid => some oid

/-- The tree of the commit `HEAD` points at. -/
def headTree [EmptyCollection Tree] : Tree :=
  match repo.headCommit.bind repo.objects with
  | some commit => commit.tree
  | none => ∅

/-- `HEAD`, or the branch it names, comes to point at a commit. -/
def advance (oid : Oid) : Repository Oid Tree :=
  match repo.head with
  | .branch ref => { repo with refs := Function.update repo.refs ref (some oid) }
  | .detached _ => { repo with head := .detached oid }

/-! ## Commands -/

/-- `git symbolic-ref HEAD <ref>`. -/
def symbolicRef (ref : String) : Repository Oid Tree := { repo with head := .branch ref }

/-- `git config <key> <value>`. -/
def setConfig (key value : String) : Repository Oid Tree :=
  { repo with config := Function.update repo.config key (some value) }

/-- The commit that `git commit` makes of the index. -/
def commitObject (message : String) : CommitObject Oid Tree where
  tree := repo.index
  parents := repo.headCommit.toList ++ repo.mergeHeads
  message := message
  author := (repo.config "user.name", repo.config "user.email")

/-- `git commit -m <message>`; none where there is nothing to commit. -/
def commit [DecidableEq Tree] [EmptyCollection Tree] [DecidableEq Oid]
    (identify : CommitObject Oid Tree → Oid) (message : String) :
    Option (Repository Oid Tree) :=
  if repo.index = repo.headTree ∧ repo.mergeHeads = [] then none
  else
    let object := repo.commitObject message
    let oid := identify object
    some { repo.advance oid with
      objects := Function.update repo.objects oid (some object)
      mergeHeads := [] }

end Repository

/-- The repository that `git init --initial-branch` makes where there was none. -/
def emptyRepository [EmptyCollection Tree] (initialBranch : String) : Repository Oid Tree where
  head := .branch ("refs/heads/" ++ initialBranch)
  refs := fun _ => none
  index := ∅
  objects := fun _ => none
  mergeHeads := []
  config := fun _ => none

/-- `git init --initial-branch=<name>`: a repository that is there keeps its `HEAD`. -/
def init [EmptyCollection Tree] (initialBranch : String) (dir : Directory Oid Tree) :
    Directory Oid Tree :=
  { dir with git := some (dir.git.getD (emptyRepository initialBranch)) }

/-! ## What a commit moves -/

/-- The repository `after` is `before` with one commit more: the commit has the one that `HEAD`
    pointed at as its parent, before those of a merge; the branch that was checked out, or the
    detached `HEAD`, points at it; every other reference is where it was. -/
structure Extends (before after : Repository Oid Tree) (oid : Oid) : Prop where
  parents : ∃ commit, after.objects oid = some commit ∧
    commit.parents = before.headCommit.toList ++ before.mergeHeads
  head : after.head = match before.head with
    | .branch ref => .branch ref
    | .detached _ => .detached oid
  refs : after.refs = match before.head with
    | .branch ref => Function.update before.refs ref (some oid)
    | .detached _ => before.refs

/-- **What a commit does**: it extends the repository by the commit that `HEAD` then points
    at. -/
theorem commit_extends [DecidableEq Tree] [EmptyCollection Tree] [DecidableEq Oid]
    {repo after : Repository Oid Tree} {identify : CommitObject Oid Tree → Oid}
    {message : String} (h : repo.commit identify message = some after) :
    ∃ oid, after.headCommit = some oid ∧ Extends repo after oid := by
  unfold Repository.commit at h
  split at h
  · cases h
  · obtain rfl := (Option.some.inj h).symm
    refine ⟨identify (repo.commitObject message), ?_, ⟨_, Function.update_self _ _ _, rfl⟩, ?_, ?_⟩
    · unfold Repository.headCommit Repository.advance
      cases hhead : repo.head with
      | branch ref => simp only [Function.update_self]
      | detached oid => rfl
    · unfold Repository.advance
      cases hhead : repo.head with
      | branch ref => simp only
      | detached oid => rfl
    · unfold Repository.advance
      cases hhead : repo.head with
      | branch ref => rfl
      | detached oid => rfl

/-- What a commit extends depends on `HEAD`, the references and a merge in progress only. -/
theorem Extends.congr {before other after : Repository Oid Tree} {oid : Oid}
    (h : Extends before after oid) (hhead : other.head = before.head)
    (hrefs : other.refs = before.refs) (hmerge : other.mergeHeads = before.mergeHeads) :
    Extends other after oid := by
  have hcommit : other.headCommit = before.headCommit := by
    rw [Repository.headCommit, Repository.headCommit, hhead, hrefs]
  refine ⟨?_, ?_, ?_⟩
  · rw [hcommit, hmerge]
    exact h.parents
  · rw [hhead]
    exact h.head
  · rw [hhead, hrefs]
    exact h.refs

end Eag.Foundation.Git

namespace Eag.Foundation

variable {κ ν : Type} [DecidableEq κ]

/-! ## Parts of maps -/

namespace Dict

omit [DecidableEq κ] in
/-- The items whose keys satisfy the test. -/
def filterKeys (d : Dict κ ν) (test : κ → Bool) : Dict κ ν where
  items := d.items.filter fun item => test item.1
  keys_nodup := d.keys_nodup.sublist (List.Sublist.map _ List.filter_sublist)

theorem get?_filterKeys (d : Dict κ ν) (test : κ → Bool) (k : κ) :
    (d.filterKeys test).get? k = if test k = true then d.get? k else none := by
  ext v
  rw [get?_eq_some]
  unfold filterKeys
  rw [List.mem_filter]
  split
  · next htest => rw [get?_eq_some, iff_true_intro htest, and_true]
  · next htest => exact iff_of_false (fun h => htest h.2) nofun

end Dict

namespace Git

/-! ## Working trees -/

/-- The files of a working tree, and those that the index has. -/
structure Worktree (κ ν : Type) where
  files : Dict κ ν
  index : Dict κ ν

namespace Worktree

variable (tree : Worktree κ ν)

/-- `git add -A`: the index takes over every file that it has or that is not ignored. -/
def addAll (ignored : κ → Bool) : Worktree κ ν :=
  { tree with index := tree.files.filterKeys fun path =>
      tree.index.keys.contains path || !ignored path }

/-- `git reset --hard`: the files of the index give way to those of the commit, and so does
    whatever stands in the way of one. -/
def resetHard (inTheWay : κ → κ → Bool) (commit : Dict κ ν) : Worktree κ ν where
  files := (tree.files.filterKeys fun path =>
      !tree.index.keys.contains path && !commit.keys.any (inTheWay path)).update commit.items
  index := commit

variable {tree}

/-- What is committed after `git add -A` of the files that are not ignored. -/
theorem get?_addAll {ignored : κ → Bool} {path : κ} (h : ignored path = false) :
    (tree.addAll ignored).index.get? path = tree.files.get? path := by
  unfold addAll
  rw [Dict.get?_filterKeys, h, Bool.not_false, Bool.or_true, if_pos rfl]

/-- A file that is neither in the index nor in the way of a file of the commit. -/
def Untouched (tree : Worktree κ ν) (inTheWay : κ → κ → Bool) (commit : Dict κ ν) (path : κ) :
    Prop :=
  path ∉ tree.index.keys ∧ ∀ other ∈ commit.keys, inTheWay path other = false

theorem get?_resetHard (inTheWay : κ → κ → Bool) (commit : Dict κ ν) (path : κ) :
    (Untouched tree inTheWay commit path →
      (tree.resetHard inTheWay commit).files.get? path
        = (commit.get? path).or (tree.files.get? path)) ∧
    (¬ Untouched tree inTheWay commit path →
      (tree.resetHard inTheWay commit).files.get? path = commit.get? path) := by
  have htest : (!tree.index.keys.contains path && !commit.keys.any (inTheWay path)) = true ↔
      Untouched tree inTheWay commit path := by
    unfold Untouched
    rw [Bool.and_eq_true, Bool.not_eq_true', Bool.not_eq_true', Bool.eq_false_iff, ne_eq,
      List.contains_iff_mem, List.any_eq_false]
    simp only [Bool.not_eq_true]
  unfold resetHard
  dsimp only
  rw [Dict.get?_update_items, Dict.get?_filterKeys]
  constructor
  · intro h
    rw [if_pos (htest.mpr h)]
  · intro h
    rw [if_neg (mt htest.mp h), Option.or_none]

/-- **What a hard reset restores**: with a commit of everything that was not ignored, the files
    that were not ignored are back exactly when every file that was added since is in the index
    or in the way of a file of the commit. -/
theorem restored_iff {inTheWay : κ → κ → Bool} {commit before : Dict κ ν} {ignored : κ → Bool}
    (hcommit : ∀ path, ignored path = false → commit.get? path = before.get? path) :
    (∀ path, ignored path = false →
      (tree.resetHard inTheWay commit).files.get? path = before.get? path) ↔
    ∀ path ∈ tree.files.keys, ignored path = false → path ∉ before.keys →
      ¬ Untouched tree inTheWay commit path := by
  constructor
  · intro hrestored path hpath hignored hnew huntouched
    have hafter := hrestored path hignored
    rw [(get?_resetHard inTheWay commit path).1 huntouched, hcommit path hignored,
      Dict.get?_eq_none.mpr hnew, Option.none_or, Dict.get?_eq_none] at hafter
    exact hafter hpath
  · intro hnone path hignored
    by_cases huntouched : Untouched tree inTheWay commit path
    · rw [(get?_resetHard inTheWay commit path).1 huntouched, hcommit path hignored]
      cases hbefore : before.get? path with
      | some content => rfl
      | none =>
          rw [Option.none_or, Dict.get?_eq_none]
          exact fun hpath => hnone path hpath hignored (Dict.get?_eq_none.mp hbefore) huntouched
    · rw [(get?_resetHard inTheWay commit path).2 huntouched, hcommit path hignored]

end Worktree

end Git

end Eag.Foundation
