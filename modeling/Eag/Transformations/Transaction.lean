/-
  Eag.Transformations.Transaction

  Edit transactions (`transaction.py`). A transaction keeps one list object for its whole life:
  `commit` returns that object, `rollback` clears it and `begin` leaves it alone. The lists are
  modelled as cells of a memory, so that a list that was returned can change later.

  `isolated_iff_harmless`: the transactions of a run are isolated exactly when, after a commit,
  no edit is added, and the list is committed or rolled back again only while it is empty.
-/

import Eag.Foundation.Runs
import Eag.Transformations.NestedConflicts

namespace Eag.Transformations

open Eag.Foundation

/-! ## The transaction -/

/-- `TransactionState`. -/
inductive TransactionState where
  | ready
  | active
  | committed
  | rolledBack
  deriving DecidableEq, Repr

/-- A call of a method. -/
inductive Call (E : Type) where
  | begin
  | addEdit (edit : E)
  | commit
  | rollback
  deriving DecidableEq, Repr

/-- What a call does: it returns nothing, it returns a list object, or it raises
    `TransactionError`. -/
inductive Outcome where
  | done
  | returned (list : Nat)
  | refused (message : String)
  deriving DecidableEq, Repr

/-- An `EditTransaction` and the list objects. -/
structure EditTransaction (E : Type) where
  state : TransactionState
  edits : Nat
  lists : List (List E)
  deriving DecidableEq, Repr

namespace EditTransaction

variable {E : Type}

/-- `__init__`. -/
def init : EditTransaction E := ⟨.ready, 0, [[]]⟩

/-- `begin`. -/
def begin (t : EditTransaction E) : EditTransaction E × Outcome :=
  if t.state = .active then (t, .refused "Transaction already active")
  else ({ t with state := .active }, .done)

/-- `add_edit`. -/
def addEdit (t : EditTransaction E) (edit : E) : EditTransaction E × Outcome :=
  if t.state ≠ .active then (t, .refused "Transaction not active")
  else ({ t with lists := t.lists.modify t.edits (· ++ [edit]) }, .done)

/-- `commit`. -/
def commit (t : EditTransaction E) : EditTransaction E × Outcome :=
  if t.state ≠ .active then (t, .refused "Transaction not active")
  else ({ t with state := .committed }, .returned t.edits)

/-- `rollback`. -/
def rollback (t : EditTransaction E) : EditTransaction E × Outcome :=
  if t.state ≠ .active then (t, .refused "Transaction not active")
  else ({ t with state := .rolledBack, lists := t.lists.modify t.edits fun _ => [] }, .done)

/-- A call. -/
def call (t : EditTransaction E) : Call E → EditTransaction E × Outcome
  | .begin => t.begin
  | .addEdit edit => t.addEdit edit
  | .commit => t.commit
  | .rollback => t.rollback

/-- `begin` is refused in an active transaction, everything else in one that is not. -/
theorem call_refused_iff {t : EditTransaction E} {c : Call E} :
    (∃ message, (t.call c).2 = .refused message) ↔
      match c with
      | .begin => t.state = .active
      | _ => t.state ≠ .active := by
  by_cases hactive : t.state = .active <;>
    cases c <;> simp [call, begin, addEdit, commit, rollback, hactive]

/-- **A refused call changes nothing.** -/
theorem call_refused {t : EditTransaction E} {c : Call E} {message : String}
    (h : (t.call c).2 = .refused message) : (t.call c).1 = t := by
  have hrefused := call_refused_iff.mp ⟨message, h⟩
  cases c with
  | begin => rw [call, begin, if_pos hrefused]
  | addEdit edit => rw [call, addEdit, if_pos hrefused]
  | commit => rw [call, commit, if_pos hrefused]
  | rollback => rw [call, rollback, if_pos hrefused]

end EditTransaction

/-! ## What a history promises -/

/-- A transaction object with its history: the edits added since the last `begin` that was not
    refused, and the lists returned so far, each with the edits it was returned for. -/
structure History (E : Type) where
  transaction : EditTransaction E
  added : List E
  returned : List (Nat × List E)

namespace History

variable {E : Type}

/-- A new transaction object. -/
def start : History E := ⟨.init, [], []⟩

/-- The history after a call. -/
def step (h : History E) (c : Call E) : History E :=
  let (after, outcome) := h.transaction.call c
  match c, outcome with
  | _, .refused _ => { h with transaction := after }
  | .addEdit edit, _ => { h with transaction := after, added := h.added ++ [edit] }
  | _, .returned list =>
      { h with transaction := after, returned := h.returned ++ [(list, h.added)] }
  | _, .done => { h with transaction := after, added := [] }

/-- Every list that a commit returned holds what was added since the `begin` before it. -/
def Isolated (h : History E) : Prop :=
  ∀ entry ∈ h.returned, h.transaction.lists[entry.1]? = some entry.2

/-- The call is the first use of the object after a commit that touches the list that was
    returned: nothing is added any more, and while the list holds something it is not committed
    or rolled back again. -/
def Harmless (h : History E) (c : Call E) : Prop :=
  h.returned ≠ [] → h.transaction.state = .active →
    match c with
    | .begin => True
    | .addEdit _ => False
    | .commit | .rollback => h.transaction.lists[h.transaction.edits]? = some []

/-! ## The steps -/

/-- A refused call leaves the history as it was. -/
theorem step_of_refused {h : History E} {c : Call E}
    (hrefused : match c with
      | .begin => h.transaction.state = .active
      | _ => h.transaction.state ≠ .active) : h.step c = h := by
  obtain ⟨message, hmessage⟩ := EditTransaction.call_refused_iff.mpr hrefused
  have hsame := EditTransaction.call_refused hmessage
  have hcall : h.transaction.call c = (h.transaction, .refused message) := Prod.ext hsame hmessage
  cases c <;> rw [step, hcall]

theorem step_begin {h : History E} (hstate : h.transaction.state ≠ .active) :
    h.step .begin =
      { h with transaction := { h.transaction with state := .active }, added := [] } := by
  rw [step, EditTransaction.call, EditTransaction.begin, if_neg hstate]

theorem step_addEdit {h : History E} {edit : E} (hstate : h.transaction.state = .active) :
    h.step (.addEdit edit) =
      { h with
        transaction := { h.transaction with
          lists := h.transaction.lists.modify h.transaction.edits (· ++ [edit]) }
        added := h.added ++ [edit] } := by
  rw [step, EditTransaction.call, EditTransaction.addEdit, if_neg (not_not_intro hstate)]

theorem step_commit {h : History E} (hstate : h.transaction.state = .active) :
    h.step .commit =
      { h with
        transaction := { h.transaction with state := .committed }
        returned := h.returned ++ [(h.transaction.edits, h.added)] } := by
  rw [step, EditTransaction.call, EditTransaction.commit, if_neg (not_not_intro hstate)]

theorem step_rollback {h : History E} (hstate : h.transaction.state = .active) :
    h.step .rollback =
      { h with
        transaction := { h.transaction with
          state := .rolledBack
          lists := h.transaction.lists.modify h.transaction.edits fun _ => [] }
        added := [] } := by
  rw [step, EditTransaction.call, EditTransaction.rollback, if_neg (not_not_intro hstate)]

/-! ## The one list object -/

/-- There is one list object, every list that was returned is that one and was returned for what
    it holds now. Before the first commit it holds the edits of the transaction that is open. -/
structure Shared (h : History E) (content : List E) : Prop where
  lists : h.transaction.lists = [content]
  edits : h.transaction.edits = 0
  returned : ∀ entry ∈ h.returned, entry = (0, content)
  fresh : h.returned = [] →
    content = if h.transaction.state = .active then h.added else []
  reused : h.returned ≠ [] → h.transaction.state = .active → h.added = []

theorem shared_start : Shared (start : History E) [] :=
  ⟨rfl, rfl, nofun, fun _ => rfl, fun h => absurd rfl h⟩

variable {h : History E} {content : List E}

theorem Shared.isolated (hshared : Shared h content) : Isolated h := by
  intro entry hentry
  rw [hshared.returned entry hentry, hshared.lists]
  rfl

/-- A harmless call keeps it that way. -/
theorem Shared.step {c : Call E} (hshared : Shared h content) (hharmless : Harmless h c) :
    ∃ content', Shared (h.step c) content' := by
  by_cases hstate : h.transaction.state = .active
  · cases c with
    | begin =>
        rw [step_of_refused hstate]
        exact ⟨content, hshared⟩
    | addEdit edit =>
        -- Nothing has been returned yet, so nobody sees the list grow.
        have hnone : h.returned = [] := by
          by_contra hsome
          exact hharmless hsome hstate
        have hcontent := hshared.fresh hnone
        rw [if_pos hstate] at hcontent
        rw [step_addEdit hstate]
        refine ⟨content ++ [edit], ?_, hshared.edits, ?_, fun _ => ?_, fun hsome => ?_⟩
        · show h.transaction.lists.modify h.transaction.edits _ = _
          rw [hshared.lists, hshared.edits]
          rfl
        · show ∀ entry ∈ h.returned, _
          rw [hnone]
          exact nofun
        · show content ++ [edit] = if h.transaction.state = .active then h.added ++ [edit] else []
          rw [if_pos hstate, hcontent]
        · exact absurd hnone hsome
    | commit =>
        have hadded : h.added = content := by
          by_cases hnone : h.returned = []
          · have hcontent := hshared.fresh hnone
            rw [if_pos hstate] at hcontent
            exact hcontent.symm
          · have hempty := hharmless hnone hstate
            dsimp only at hempty
            rw [hshared.lists, hshared.edits] at hempty
            rw [hshared.reused hnone hstate]
            exact (Option.some.inj hempty).symm
        rw [step_commit hstate]
        refine ⟨content, hshared.lists, hshared.edits, ?_, fun hnone => ?_, fun _ => nofun⟩
        · intro entry hentry
          rcases List.mem_append.mp hentry with hentry | hentry
          · exact hshared.returned entry hentry
          · rw [List.mem_singleton.mp hentry, hshared.edits, hadded]
        · exact absurd hnone (List.append_ne_nil_of_right_ne_nil _ (List.cons_ne_nil _ _))
    | rollback =>
        have hempty : h.returned ≠ [] → content = [] := by
          intro hsome
          have hempty := hharmless hsome hstate
          dsimp only at hempty
          rw [hshared.lists, hshared.edits] at hempty
          exact Option.some.inj hempty
        rw [step_rollback hstate]
        refine ⟨[], ?_, hshared.edits, ?_, fun _ => rfl, fun _ => nofun⟩
        · show h.transaction.lists.modify h.transaction.edits _ = _
          rw [hshared.lists, hshared.edits]
          rfl
        · intro entry hentry
          have hsome : h.returned ≠ [] := List.ne_nil_of_mem hentry
          rw [hshared.returned entry hentry, hempty hsome]
  · cases c with
    | begin =>
        rw [step_begin hstate]
        refine ⟨content, hshared.lists, hshared.edits, hshared.returned, fun hnone => ?_,
          fun _ _ => rfl⟩
        have hcontent := hshared.fresh hnone
        rwa [if_neg hstate] at hcontent
    | addEdit edit =>
        rw [step_of_refused hstate]
        exact ⟨content, hshared⟩
    | commit =>
        rw [step_of_refused hstate]
        exact ⟨content, hshared⟩
    | rollback =>
        rw [step_of_refused hstate]
        exact ⟨content, hshared⟩

/-- A call after which the lists returned are what they were returned for is harmless. -/
theorem Shared.harmless {c : Call E} (hshared : Shared h content)
    (hisolated : Isolated (h.step c)) : Harmless h c := by
  intro hsome hstate
  obtain ⟨entry, hentry⟩ := List.exists_mem_of_ne_nil _ hsome
  have hfirst : (0, content) ∈ h.returned := hshared.returned entry hentry ▸ hentry
  cases c with
  | begin => trivial
  | addEdit edit =>
      rw [step_addEdit hstate] at hisolated
      have hgrown := hisolated _ hfirst
      simp only [hshared.lists, hshared.edits, List.modify_zero_cons, List.getElem?_cons_zero,
        Option.some.injEq, List.append_right_eq_self] at hgrown
      exact absurd hgrown (List.cons_ne_nil _ _)
  | commit =>
      rw [step_commit hstate] at hisolated
      have hlast := hisolated (h.transaction.edits, h.added)
        (List.mem_append_right _ List.mem_cons_self)
      rwa [hshared.reused hsome hstate] at hlast
  | rollback =>
      rw [step_rollback hstate] at hisolated
      have hcleared := hisolated _ hfirst
      simp only [hshared.lists, hshared.edits, List.modify_zero_cons, List.getElem?_cons_zero,
        Option.some.injEq] at hcleared
      show h.transaction.lists[h.transaction.edits]? = some []
      rw [hshared.lists, hshared.edits, hcleared]
      rfl

/-! ## Runs -/

/-- The call is refused only with everything as it was. -/
def RefusalKeeps (h : History E) (c : Call E) : Prop :=
  ∀ message, (h.transaction.call c).2 = .refused message → h.step c = h

theorem refusalKeeps (h : History E) (c : Call E) : RefusalKeeps h c := by
  intro message hmessage
  have hsame := EditTransaction.call_refused hmessage
  have hcall : h.transaction.call c = (h.transaction, .refused message) := Prod.ext hsame hmessage
  cases c <;> rw [History.step, hcall]

/-- **The transactions of a run are isolated**, every list returned by a commit holding from then
    on what was added since the `begin` before it, exactly when every call of the run is
    harmless. -/
theorem isolated_iff_harmless (calls : List (Call E)) :
    (Throughout History.step Isolated start calls ∧
        EachStep History.step RefusalKeeps start calls) ↔
      EachStep History.step Harmless start calls := by
  have hiff : Throughout History.step Isolated start calls ↔
      EachStep History.step Harmless start calls := by
    refine throughout_iff_eachStep (I := fun h : History E => ∃ content, Shared h content)
      ?_ ?_ ?_ ⟨[], shared_start⟩
    · rintro h c ⟨content, hshared⟩ hharmless
      exact hshared.step hharmless
    · rintro h ⟨content, hshared⟩
      exact hshared.isolated
    · rintro h c ⟨content, hshared⟩ hisolated
      exact hshared.harmless hisolated
  rw [hiff]
  exact and_iff_left fun before c _ => refusalKeeps _ c

/-- An edit is committed, and the object is used again without an edit: the second commit returns
    the edit of the first. -/
theorem recommit_returns_committed_edit :
    ¬Throughout History.step Isolated start
      [.begin, .addEdit ConflictDetector.renameFirst, .commit, .begin, .commit] := by
  intro hisolated
  have hafter := hisolated _ (List.prefix_refl _)
  have hentry := hafter (0, []) (List.mem_cons_of_mem _ List.mem_cons_self)
  exact nomatch hentry

end History

end Eag.Transformations
