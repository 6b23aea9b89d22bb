/-
  Eag.Safety.Rollback

  Is a rollback reported only when it happened?

  The engine publishes that a rollback completed on both of its paths, the runtime does not
  look at its result, and a hard reset keeps the files that git does not track.
  `rollbacks_truthful`: a rollback is reported truthfully when it goes to the latest
  checkpoint, its reset succeeds, and no file was added that is neither ignored nor in the
  index.

  What carries this is that the reference of the latest checkpoint has every file that
  stood there and was not ignored (`Filed`).
-/

import Eag.Foundation.Ranking
import Eag.Safety.Runtime

namespace Eag.Safety

open Eag.Foundation Eag.Foundation.Git

namespace Session

/-! ## Statements -/

/-- Every file that was not ignored when the latest checkpoint was made is as it was then, and no
    other file is there that was not ignored. -/
def Restored (ignores : IgnoreRules) (session : Session) : Prop :=
  ∃ checkpoint files, session.snapshot = some (checkpoint, files) ∧
    ∀ path, ignores files path = false → session.tree.files.get? path = files.get? path

/-- The call makes the runtime enter its rolled-back state, or the engine publish that a rollback
    completed. -/
def ReportsRollback (ignores : IgnoreRules) (session : Session) (call : Call) : Prop :=
  (session.state ≠ .rolledBack ∧ (session.step ignores call).state = .rolledBack) ∨
    ∃ checkpointId, .rollbackCompleted checkpointId ∈
      (session.step ignores call).events.drop session.events.length

/-- A rollback that the call reports has happened. -/
def Truthful (ignores : IgnoreRules) (session : Session) (call : Call) : Prop :=
  session.ReportsRollback ignores call → (session.step ignores call).Restored ignores

/-- The rollback that a call asks the engine for: to which checkpoint, and what the reset says
    if it fails. -/
def rollbackOf (session : Session) : Call → Option (String × Option String)
  | .rollback failure => session.latestCheckpoint.map fun latest => (latest.id, failure)
  | .engineRollback failure checkpointId => some (checkpointId, failure)
  | _ => none

/-- A rollback that the call asks for is one to the latest checkpoint whose reset succeeds; and
    every file that was added since, and is not ignored, is in the index or in the way of a file
    of the checkpoint. -/
def CleanRollback (ignores : IgnoreRules) (session : Session) (call : Call) : Prop :=
  ∀ checkpointId failure, session.rollbackOf call = some (checkpointId, failure) →
    failure = none ∧ ∃ checkpoint files commit, session.snapshot = some (checkpoint, files) ∧
      checkpoint.id = checkpointId ∧ session.refs.get? checkpointId = some commit ∧
      ∀ path ∈ session.tree.files.keys, ignores files path = false → path ∉ files.keys →
        ¬ session.tree.Untouched inTheWay commit path

/-! ## Identities of checkpoints -/

theorem ofDigitChars_fourDigits (number : Nat) :
    Nat.ofDigitChars 10 (fourDigits number) 0 = number := by
  have hzeros : ∀ count, Nat.ofDigitChars 10 (List.replicate count '0') 0 = 0 := by
    intro count
    induction count with
    | zero => rfl
    | succ count ih =>
        rw [List.replicate_succ, Nat.ofDigitChars_cons]
        exact ih
  unfold fourDigits
  rw [Nat.ofDigitChars_append, hzeros, Nat.ofDigitChars_ten_toDigits]

theorem minus_not_mem_fourDigits (number : Nat) : '-' ∉ fourDigits number := by
  intro hmem
  rcases List.mem_append.mp hmem with hzero | hdigit
  · exact absurd (List.eq_of_mem_replicate hzero) (by decide)
  · have hisDigit := Nat.isDigit_of_mem_toDigits (by decide) (by decide) hdigit
    exact absurd hisDigit (by decide)

/-- What follows the last occurrence of a character is determined. -/
theorem after_last_inj {α : Type} {c : α} {before before' after after' : List α}
    (h : before ++ c :: after = before' ++ c :: after') (hafter : c ∉ after)
    (hafter' : c ∉ after') : after = after' := by
  rcases List.append_eq_append_iff.mp h with ⟨rest, -, heq⟩ | ⟨rest, -, heq⟩
  · cases rest with
    | nil => exact (List.cons.inj heq).2
    | cons first rest =>
        obtain ⟨-, rfl⟩ := List.cons.inj heq
        exact absurd (List.mem_append_right _ List.mem_cons_self) hafter
  · cases rest with
    | nil => exact (List.cons.inj heq).2.symm
    | cons first rest =>
        obtain ⟨-, rfl⟩ := List.cons.inj heq
        exact absurd (List.mem_append_right _ List.mem_cons_self) hafter'

/-- Checkpoints with different numbers have different identities. -/
theorem checkpointIdOf_inj {date date' : String} {number number' : Nat}
    (h : checkpointIdOf date number = checkpointIdOf date' number') : number = number' := by
  have hlist := congrArg String.toList h
  unfold checkpointIdOf at hlist
  simp only [String.toList_append, String.toList_ofList] at hlist
  have hdigits : fourDigits number = fourDigits number' := by
    have hparts : ("CP-".toList ++ date.toList) ++ '-' :: fourDigits number
        = ("CP-".toList ++ date'.toList) ++ '-' :: fourDigits number' := by
      simpa using hlist
    exact after_last_inj hparts (minus_not_mem_fourDigits number)
      (minus_not_mem_fourDigits number')
  rw [← ofDigitChars_fourDigits number, hdigits, ofDigitChars_fourDigits]

/-! ## What calls keep -/

variable {ignores : IgnoreRules} {session after : Session}

/-- The references and the snapshot are the same, and no number is given out again. -/
structure SameRecords (before after : Session) : Prop where
  refs : after.refs = before.refs
  snapshot : after.snapshot = before.snapshot
  counter : before.counter ≤ after.counter

theorem SameRecords.refl (session : Session) : SameRecords session session :=
  ⟨rfl, rfl, Nat.le_refl _⟩

/-- No rollback is reported between two sessions. -/
structure Quiet (before after : Session) : Prop where
  events : ∃ published, after.events = before.events ++ published ∧
    ∀ checkpointId, .rollbackCompleted checkpointId ∉ published
  state : after.state = .rolledBack → before.state = .rolledBack

theorem Quiet.refl (session : Session) : Quiet session session :=
  ⟨⟨[], (List.append_nil _).symm, fun _ h => nomatch h⟩, fun h => h⟩

theorem Quiet.trans {middle : Session} (h : Quiet session middle) (h' : Quiet middle after) :
    Quiet session after := by
  obtain ⟨first, hfirst, hnone⟩ := h.events
  obtain ⟨second, hsecond, hnone'⟩ := h'.events
  refine ⟨⟨first ++ second, by rw [hsecond, hfirst, List.append_assoc], fun id hmem => ?_⟩,
    fun hstate => h.state (h'.state hstate)⟩
  rcases List.mem_append.mp hmem with hmem | hmem
  · exact hnone id hmem
  · exact hnone' id hmem

theorem not_reportsRollback {call : Call} (h : Quiet session (session.step ignores call)) :
    ¬ session.ReportsRollback ignores call := by
  rintro (⟨hbefore, hafter⟩ | ⟨checkpointId, hpublished⟩)
  · exact hbefore (h.state hafter)
  · obtain ⟨published, hevents, hnone⟩ := h.events
    rw [hevents, List.drop_left] at hpublished
    exact hnone checkpointId hpublished

/-- The reference of the latest checkpoint has every file that was there and not ignored. -/
structure Filed (ignores : IgnoreRules) (session : Session) : Prop where
  numbered : ∀ checkpoint files, session.snapshot = some (checkpoint, files) →
    ∃ date number, number < session.counter ∧ checkpoint.id = checkpointIdOf date number
  commit : ∀ checkpoint files, session.snapshot = some (checkpoint, files) →
    ∃ commit, session.refs.get? checkpoint.id = some commit ∧
      ∀ path, ignores files path = false → commit.get? path = files.get? path

theorem filed_new (ignores : IgnoreRules) (tree : Worktree FilePath String) :
    Filed ignores (Session.new tree) where
  numbered := by
    intro checkpoint files hsnapshot
    cases hsnapshot
  commit := by
    intro checkpoint files hsnapshot
    cases hsnapshot

theorem Filed.of_sameRecords (h : Filed ignores session) (hsame : SameRecords session after) :
    Filed ignores after where
  numbered := by
    intro checkpoint files hsnapshot
    rw [hsame.snapshot] at hsnapshot
    obtain ⟨date, number, hlt, hid⟩ := h.numbered checkpoint files hsnapshot
    exact ⟨date, number, Nat.lt_of_lt_of_le hlt hsame.counter, hid⟩
  commit := by
    intro checkpoint files hsnapshot
    rw [hsame.snapshot] at hsnapshot
    rw [hsame.refs]
    exact h.commit checkpoint files hsnapshot

/-- A reference of a new number leaves the one of the latest checkpoint. -/
theorem Filed.set_ref (h : Filed ignores session) (date : String) (commit : Files)
    (hrefs : after.refs = session.refs.set (checkpointIdOf date session.counter) commit)
    (hsnapshot : after.snapshot = session.snapshot) (hcounter : session.counter ≤ after.counter) :
    Filed ignores after where
  numbered := by
    intro checkpoint files hlatest
    rw [hsnapshot] at hlatest
    obtain ⟨date', number, hlt, hid⟩ := h.numbered checkpoint files hlatest
    exact ⟨date', number, Nat.lt_of_lt_of_le hlt hcounter, hid⟩
  commit := by
    intro checkpoint files hlatest
    rw [hsnapshot] at hlatest
    obtain ⟨date', number, hlt, hid⟩ := h.numbered checkpoint files hlatest
    have hne : checkpoint.id ≠ checkpointIdOf date session.counter := by
      rw [hid]
      exact fun heq => Nat.ne_of_lt hlt (checkpointIdOf_inj heq)
    rw [hrefs, Dict.get?_set, if_neg hne]
    exact h.commit checkpoint files hlatest

/-! ## Calls that make a checkpoint -/

/-- **The ways a call of the manager ends**: with its number given out, and a reference filed or
    not, or with a checkpoint. -/
theorem createCheckpoint_spec (ignores : IgnoreRules) (session : Session)
    (failure : Option (CreateCommand × String)) (date description : String) :
    let made := session.createCheckpoint ignores failure date description
    let id := checkpointIdOf date session.counter
    let index := (session.tree.addAll (ignores session.tree.files)).index
    made.2.counter = session.counter + 1 ∧ made.2.state = session.state ∧
      ((made.2.refs = session.refs ∧ made.2.snapshot = session.snapshot ∧
          made.2.events = session.events) ∨
        (made.2.refs = session.refs.set id index ∧ made.2.snapshot = session.snapshot ∧
          made.2.events = session.events) ∨
        (made.2.refs = session.refs.set id index ∧
          made.2.snapshot = some (⟨id, description⟩, session.tree.files) ∧
          made.2.events = session.events ++ [.checkpointCreated id description])) := by
  dsimp only
  unfold createCheckpoint backendCreate
  cases failure with
  | some failure =>
      obtain ⟨command, text⟩ := failure
      cases command <;> exact ⟨rfl, rfl, .inl ⟨rfl, rfl, rfl⟩⟩
  | none =>
      dsimp only
      by_cases hid : checkpointIdOf date session.counter = ""
      · rw [if_pos hid]
        exact ⟨rfl, rfl, .inr (.inl ⟨rfl, rfl, rfl⟩)⟩
      · rw [if_neg hid]
        by_cases hdescription : description = ""
        · rw [if_pos hdescription]
          exact ⟨rfl, rfl, .inr (.inl ⟨rfl, rfl, rfl⟩)⟩
        · rw [if_neg hdescription]
          exact ⟨rfl, rfl, .inr (.inr ⟨rfl, rfl, rfl⟩)⟩

theorem Filed.createCheckpoint (h : Filed ignores session)
    (failure : Option (CreateCommand × String)) (date description : String) :
    Filed ignores (session.createCheckpoint ignores failure date description).2 := by
  obtain ⟨hcounter, -, hends⟩ := createCheckpoint_spec ignores session failure date description
  have hle : session.counter
      ≤ (session.createCheckpoint ignores failure date description).2.counter := by
    rw [hcounter]
    exact Nat.le_succ _
  rcases hends with ⟨hrefs, hsnapshot, -⟩ | ⟨hrefs, hsnapshot, -⟩ | ⟨hrefs, hsnapshot, -⟩
  · exact h.of_sameRecords ⟨hrefs, hsnapshot, hle⟩
  · exact h.set_ref date _ hrefs hsnapshot hle
  · refine ⟨fun checkpoint files hlatest => ?_, fun checkpoint files hlatest => ?_⟩
    · rw [hsnapshot] at hlatest
      obtain ⟨rfl, -⟩ := Prod.mk.inj (Option.some.inj hlatest)
      exact ⟨date, session.counter, hcounter ▸ Nat.lt_succ_self _, rfl⟩
    · rw [hsnapshot] at hlatest
      obtain ⟨rfl, rfl⟩ := Prod.mk.inj (Option.some.inj hlatest)
      refine ⟨_, by rw [hrefs, Dict.get?_set, if_pos rfl], fun path hignored => ?_⟩
      exact Worktree.get?_addAll hignored

theorem quiet_createCheckpoint (ignores : IgnoreRules) (session : Session)
    (failure : Option (CreateCommand × String)) (date description : String) :
    Quiet session (session.createCheckpoint ignores failure date description).2 := by
  obtain ⟨-, hstate, hends⟩ := createCheckpoint_spec ignores session failure date description
  refine ⟨?_, fun h => hstate ▸ h⟩
  rcases hends with ⟨-, -, hevents⟩ | ⟨-, -, hevents⟩ | ⟨-, -, hevents⟩
  · exact ⟨[], by rw [hevents, List.append_nil], fun _ h => nomatch h⟩
  · exact ⟨[], by rw [hevents, List.append_nil], fun _ h => nomatch h⟩
  · exact ⟨_, hevents, by simp⟩

/-- The runtime adds its own record of the checkpoint, and a state. -/
theorem create_spec (ignores : IgnoreRules) (session : Session)
    (failure : Option (CreateCommand × String)) (date description : String) :
    SameRecords (session.createCheckpoint ignores failure date description).2
        (session.create ignores failure date description).2 ∧
      Quiet (session.createCheckpoint ignores failure date description).2
        (session.create ignores failure date description).2 := by
  unfold create
  generalize session.createCheckpoint ignores failure date description = made
  obtain ⟨outcome, made⟩ := made
  cases outcome with
  | error text => exact ⟨.refl made, .refl made⟩
  | ok checkpoint =>
      exact ⟨⟨rfl, rfl, Nat.le_refl _⟩,
        ⟨⟨[], (List.append_nil _).symm, fun _ h => nomatch h⟩, nofun⟩⟩

theorem inspect_spec (session : Session) (status : WorkspaceStatus) :
    SameRecords session (session.inspect status).2 ∧ Quiet session (session.inspect status).2 := by
  refine ⟨⟨rfl, rfl, Nat.le_refl _⟩, ⟨[.workspaceInspected], rfl, by simp⟩, fun hstate => ?_⟩
  unfold inspect at hstate
  dsimp only at hstate
  split at hstate
  · cases hstate
  · exact hstate

theorem SameRecords.edit (session : Session) (path : FilePath) (content : Option String) :
    SameRecords session (session.edit path content) := by
  cases content with
  | some content => exact ⟨rfl, rfl, Nat.le_refl _⟩
  | none => exact ⟨rfl, rfl, Nat.le_refl _⟩

theorem Quiet.edit (session : Session) (path : FilePath) (content : Option String) :
    Quiet session (session.edit path content) := by
  have hnone : ∃ published, session.events = session.events ++ published ∧
      ∀ checkpointId, .rollbackCompleted checkpointId ∉ published :=
    ⟨[], (List.append_nil _).symm, fun _ h => nomatch h⟩
  cases content with
  | some content => exact ⟨hnone, fun h => h⟩
  | none => exact ⟨hnone, fun h => h⟩

/-- A preparation inspects the workspace, and makes a checkpoint of a safe one. -/
theorem prepare_eq (ignores : IgnoreRules) (session : Session) (status : WorkspaceStatus)
    (failure : Option (CreateCommand × String)) (date : String) :
    (session.prepare ignores status failure date).2 = (session.inspect status).2 ∨
      (session.prepare ignores status failure date).2
        = ((session.inspect status).2.create ignores failure date "Pre-execution checkpoint").2 := by
  unfold prepare
  dsimp only
  split
  · exact .inl rfl
  · exact .inr rfl

theorem quiet_create (ignores : IgnoreRules) (session : Session)
    (failure : Option (CreateCommand × String)) (date description : String) :
    Quiet session (session.create ignores failure date description).2 :=
  (quiet_createCheckpoint ignores session failure date description).trans
    (create_spec ignores session failure date description).2

theorem Filed.create (h : Filed ignores session) (failure : Option (CreateCommand × String))
    (date description : String) :
    Filed ignores (session.create ignores failure date description).2 :=
  (h.createCheckpoint failure date description).of_sameRecords
    (create_spec ignores session failure date description).1

/-! ## Calls that roll back -/

/-- A rollback of the engine keeps the records, whatever comes of it. -/
theorem engineRollback_sameRecords (session : Session) (failure : Option String)
    (checkpointId : String) :
    SameRecords session (session.engineRollback failure checkpointId).2 := by
  unfold engineRollback backendRollback
  dsimp only
  cases session.refs.get? checkpointId with
  | none => exact ⟨rfl, rfl, Nat.le_refl _⟩
  | some commit =>
      cases failure with
      | some text => exact ⟨rfl, rfl, Nat.le_refl _⟩
      | none => exact ⟨rfl, rfl, Nat.le_refl _⟩

/-- A rollback to a checkpoint on file whose reset succeeds resets the files. -/
theorem engineRollback_tree {checkpointId : String} {commit : Files}
    (href : session.refs.get? checkpointId = some commit) :
    (session.engineRollback none checkpointId).2.tree
      = session.tree.resetHard inTheWay commit := by
  unfold engineRollback backendRollback
  dsimp only
  rw [href]

theorem rollback_of_none (h : session.latestCheckpoint = none) (failure : Option String) :
    session.rollback failure = session := by
  unfold rollback
  rw [h]

/-- With a checkpoint, the runtime has the engine roll back and looks at nothing it says. -/
theorem rollback_of_some {latest : Checkpoint} (h : session.latestCheckpoint = some latest)
    (failure : Option String) :
    session.rollback failure =
      { ({ session with state := .rollingBack }.engineRollback failure latest.id).2 with
        state := .rolledBack } := by
  unfold rollback
  rw [h]

theorem rollback_sameRecords (session : Session) (failure : Option String) :
    SameRecords session (session.rollback failure) := by
  cases hlatest : session.latestCheckpoint with
  | none =>
      rw [rollback_of_none hlatest]
      exact .refl session
  | some latest =>
      have hengine :=
        engineRollback_sameRecords { session with state := .rollingBack } failure latest.id
      rw [rollback_of_some hlatest]
      exact ⟨hengine.refs, hengine.snapshot, hengine.counter⟩

/-! ## Every call -/

/-- **The invariant**: every call keeps it, whether its rollback happens or not. -/
theorem Filed.step (h : Filed ignores session) (call : Call) :
    Filed ignores (session.step ignores call) := by
  cases call with
  | edit path content => exact h.of_sameRecords (.edit session path content)
  | inspect status => exact h.of_sameRecords (inspect_spec session status).1
  | prepare status failure date =>
      have hinspected := h.of_sameRecords (inspect_spec session status).1
      rcases prepare_eq ignores session status failure date with heq | heq
      · show Filed ignores (session.prepare ignores status failure date).2
        rw [heq]
        exact hinspected
      · show Filed ignores (session.prepare ignores status failure date).2
        rw [heq]
        exact hinspected.create failure date "Pre-execution checkpoint"
  | create failure date description => exact h.create failure date description
  | managerCreate failure date description => exact h.createCheckpoint failure date description
  | rollback failure => exact h.of_sameRecords (rollback_sameRecords session failure)
  | engineRollback failure checkpointId =>
      exact h.of_sameRecords (engineRollback_sameRecords session failure checkpointId)
  | engineRollbackLatest failure => exact h

/-- A call that asks the engine for no rollback reports none. -/
theorem quiet_of_rollbackOf {call : Call} (h : session.rollbackOf call = none) :
    Quiet session (session.step ignores call) := by
  cases call with
  | edit path content => exact .edit session path content
  | inspect status => exact (inspect_spec session status).2
  | prepare status failure date =>
      have hinspected := (inspect_spec session status).2
      rcases prepare_eq ignores session status failure date with heq | heq
      · show Quiet session (session.prepare ignores status failure date).2
        rw [heq]
        exact hinspected
      · show Quiet session (session.prepare ignores status failure date).2
        rw [heq]
        exact hinspected.trans (quiet_create ignores _ failure date "Pre-execution checkpoint")
  | create failure date description => exact quiet_create ignores session failure date description
  | managerCreate failure date description =>
      exact quiet_createCheckpoint ignores session failure date description
  | rollback failure =>
      have hnone : session.latestCheckpoint = none := Option.map_eq_none_iff.mp h
      show Quiet session (session.rollback failure)
      rw [rollback_of_none hnone]
      exact .refl session
  | engineRollback failure checkpointId => cases h
  | engineRollbackLatest failure => exact .refl session

variable (ignores) in
/-- What a rollback of the engine does to the files is what the call does. -/
theorem step_tree_of_rollbackOf {call : Call} {checkpointId : String} {failure : Option String}
    (h : session.rollbackOf call = some (checkpointId, failure)) :
    (session.step ignores call).tree = (session.engineRollback failure checkpointId).2.tree ∧
      (session.step ignores call).snapshot = session.snapshot := by
  cases call with
  | rollback failure' =>
      obtain ⟨latest, hlatest, heq⟩ := Option.map_eq_some_iff.mp h
      obtain ⟨rfl, rfl⟩ := Prod.mk.inj heq
      refine ⟨?_, (rollback_sameRecords session failure').snapshot⟩
      show (session.rollback failure').tree = _
      rw [rollback_of_some hlatest]
      unfold engineRollback backendRollback
      dsimp only
      cases session.refs.get? latest.id with
      | none => rfl
      | some commit =>
          cases failure' with
          | some text => rfl
          | none => rfl
  | engineRollback failure' checkpointId' =>
      obtain ⟨rfl, rfl⟩ := Prod.mk.inj (Option.some.inj h)
      exact ⟨rfl, (engineRollback_sameRecords session failure' checkpointId').snapshot⟩
  | edit path content => cases h
  | inspect status => cases h
  | prepare status failure date => cases h
  | create failure date description => cases h
  | managerCreate failure date description => cases h
  | engineRollbackLatest failure => cases h

/-- **The step**: a clean rollback restores the files of the latest checkpoint. -/
theorem truthful_of_clean {call : Call} (hfiled : Filed ignores session)
    (hclean : session.CleanRollback ignores call) : session.Truthful ignores call := by
  intro hreports
  cases hrollback : session.rollbackOf call with
  | none => exact absurd hreports (not_reportsRollback (quiet_of_rollbackOf hrollback))
  | some asked =>
      obtain ⟨checkpointId, failure⟩ := asked
      obtain ⟨rfl, checkpoint, files, commit, hsnapshot, rfl, href, hnew⟩ :=
        hclean checkpointId failure hrollback
      obtain ⟨htree, hkept⟩ := step_tree_of_rollbackOf ignores hrollback
      obtain ⟨commit', href', hcommit⟩ := hfiled.commit checkpoint files hsnapshot
      obtain rfl := Option.some.inj (href.symm.trans href')
      refine ⟨checkpoint, files, hkept.trans hsnapshot, ?_⟩
      rw [htree, engineRollback_tree href]
      exact (Worktree.restored_iff hcommit).mpr hnew

/-! ## Runs -/

/-- **Rollbacks are reported truthfully** in every run whose rollbacks are clean: they go to the
    latest checkpoint, their resets succeed, and no file was added that git neither ignores nor
    tracks. -/
theorem rollbacks_truthful (ignores : IgnoreRules) (tree : Worktree FilePath String)
    (calls : List Call)
    (hclean : EachStep (step ignores) (CleanRollback ignores) (Session.new tree) calls) :
    EachStep (step ignores) (Truthful ignores) (Session.new tree) calls := by
  intro before call hbefore
  have hfiled : Filed ignores (runFrom (step ignores) (Session.new tree) before) := by
    refine runFrom_invariant (P := Filed ignores) _ (fun session call h => ?_) before
      (filed_new ignores tree)
    exact h.step call
  exact truthful_of_clean hfiled (hclean before call hbefore)

/-- A file that git tracks is back after a rollback. -/
theorem rollbacks_truthful_modified :
    EachStep (step fun _ _ => false) (Truthful fun _ _ => false)
      (Session.new ⟨⟨[(["a.py"], "old")], by decide⟩, Dict.empty⟩)
      [.create none "20250101" "before", .edit ["a.py"] (some "new"), .rollback none] := by
  refine rollbacks_truthful _ _ _ ?_
  rw [eachStep_cons, eachStep_cons, eachStep_cons]
  refine ⟨fun _ _ h => (nomatch h), fun _ _ h => (nomatch h), fun checkpointId failure h => ?_,
    eachStep_nil⟩
  obtain ⟨rfl, rfl⟩ := Prod.mk.inj (Option.some.inj h)
  refine ⟨rfl, ⟨"CP-20250101-0001", "before"⟩, ⟨[(["a.py"], "old")], by decide⟩,
    ⟨[(["a.py"], "old")], by decide⟩, rfl, rfl, rfl, fun path hpath _ hnew => ?_⟩
  exact absurd hpath hnew

/-- A file that was created after the checkpoint is still there when the rollback is reported. -/
theorem created_file_survives :
    ¬ EachStep (step fun _ _ => false) (Truthful fun _ _ => false)
      (Session.new ⟨Dict.empty, Dict.empty⟩)
      [.create none "20250101" "before", .edit ["new.txt"] (some "text"), .rollback none] := by
  rw [eachStep_cons, eachStep_cons, eachStep_cons]
  rintro ⟨-, -, htruthful, -⟩
  obtain ⟨checkpoint, files, hsnapshot, hrestored⟩ := htruthful (.inl ⟨nofun, rfl⟩)
  obtain ⟨-, rfl⟩ := Prod.mk.inj (Option.some.inj hsnapshot)
  exact absurd (hrestored ["new.txt"] rfl) (by decide)

end Session

end Eag.Safety
