/-
  Eag.Foundation.Loop

  Loops as iterations of a turn that may fail: `while True` around a body that
  ends by going round again or by leaving. A loop is run with fuel; what it
  returns, and which states it passes, are relations that do not mention fuel.

  The rules: an invariant of the turns holds wherever the loop passes, and a measure
  that every turn lowers makes the loop return.

  And loops over a list that collect, and leave what is around them once they have as many
  as a limit allows (`foldlM_collected`).
-/

import Mathlib.Logic.Relation
import Mathlib.Order.WellFounded
import Eag.Foundation.Checks

namespace Eag.Foundation

/-- How a turn ends: the loop goes round again, or leaves with a result. -/
inductive Turn (σ : Type _) where
  | again (s : σ)
  | leave (s : σ)
  deriving DecidableEq, Repr

variable {σ ε : Type _} (step : σ → Except ε (Turn σ))

/-- The loop from `s` for at most so many turns; no result when they do not suffice. -/
def runLoop : Nat → σ → Except ε (Option σ)
  | 0, _ => .ok none
  | fuel + 1, s =>
      match step s with
      | .error e => .error e
      | .ok (.again s') => runLoop fuel s'
      | .ok (.leave s') => .ok (some s')

/-- The loop from `s` returns `r`. -/
def Returns (s r : σ) : Prop := ∃ fuel, runLoop step fuel s = .ok (some r)

/-- The loop from `s` comes to the start of a turn in `t`. -/
def Reaches : σ → σ → Prop := Relation.ReflTransGen fun s s' => step s = .ok (.again s')

variable {step}

theorem returns_of_leave {s r : σ} (h : step s = .ok (.leave r)) : Returns step s r :=
  ⟨1, by simp [runLoop, h]⟩

theorem returns_of_again {s s' r : σ} (h : step s = .ok (.again s')) :
    Returns step s r ↔ Returns step s' r := by
  constructor
  · rintro ⟨fuel, hrun⟩
    cases fuel with
    | zero => simp [runLoop] at hrun
    | succ fuel => exact ⟨fuel, by simpa [runLoop, h] using hrun⟩
  · rintro ⟨fuel, hrun⟩
    exact ⟨fuel + 1, by simpa [runLoop, h] using hrun⟩

/-- A loop that returns takes a turn that does not fail. -/
theorem Returns.turn {s r : σ} (h : Returns step s r) :
    step s = .ok (.leave r) ∨ ∃ s', step s = .ok (.again s') ∧ Returns step s' r := by
  obtain ⟨fuel, hrun⟩ := h
  cases fuel with
  | zero => simp [runLoop] at hrun
  | succ fuel =>
      simp only [runLoop] at hrun
      split at hrun
      · cases hrun
      · next s' hs => exact Or.inr ⟨s', hs, fuel, hrun⟩
      · next s' hs =>
          obtain rfl := Option.some.inj (Except.ok.inj hrun)
          exact Or.inl hs

/-- The result is the same from every state on the way. -/
theorem Returns.of_reaches {s t r : σ} (h : Returns step s r) (hreach : Reaches step s t) :
    Returns step t r := by
  induction hreach with
  | refl => exact h
  | tail _ hstep ih => exact (returns_of_again hstep).mp ih

/-- **Invariant rule.** -/
theorem Reaches.invariant {P : σ → Prop} {s t : σ} (hreach : Reaches step s t)
    (hstep : ∀ s s', P s → step s = .ok (.again s') → P s') (h : P s) : P t := by
  induction hreach with
  | refl => exact h
  | tail _ hturn ih => exact hstep _ _ ih hturn

theorem Reaches.again {s t u : σ} (hreach : Reaches step s t)
    (h : step t = .ok (.again u)) : Reaches step s u := hreach.tail h

/-- From a turn that goes round again, a loop passes that turn and what the next one passes. -/
theorem reaches_iff_of_again {s s' t : σ} (h : step s = .ok (.again s')) :
    Reaches step s t ↔ t = s ∨ Reaches step s' t := by
  constructor
  · intro hreach
    rcases Relation.ReflTransGen.cases_head hreach with rfl | ⟨u, hu, hreach⟩
    · exact .inl rfl
    · rw [h] at hu
      obtain rfl := Turn.again.inj (Except.ok.inj hu)
      exact .inr hreach
  · rintro (rfl | hreach)
    · exact Relation.ReflTransGen.refl
    · exact Relation.ReflTransGen.head h hreach

/-- A loop that leaves passes no further turn. -/
theorem reaches_iff_of_leave {s r t : σ} (h : step s = .ok (.leave r)) :
    Reaches step s t ↔ t = s := by
  constructor
  · intro hreach
    rcases Relation.ReflTransGen.cases_head hreach with rfl | ⟨u, hu, -⟩
    · rfl
    · rw [h] at hu
      cases hu
  · rintro rfl
    exact Relation.ReflTransGen.refl

/-- The state a loop leaves from. -/
theorem Returns.leave {s r : σ} (h : Returns step s r) :
    ∃ t, Reaches step s t ∧ step t = .ok (.leave r) := by
  obtain ⟨fuel, hrun⟩ := h
  induction fuel generalizing s with
  | zero => simp [runLoop] at hrun
  | succ fuel ih =>
      simp only [runLoop] at hrun
      split at hrun
      · cases hrun
      · next s' hs =>
          obtain ⟨t, hreach, hleave⟩ := ih hrun
          exact ⟨t, Relation.ReflTransGen.head hs hreach, hleave⟩
      · next s' hs =>
          obtain rfl := Option.some.inj (Except.ok.inj hrun)
          exact ⟨s, Relation.ReflTransGen.refl, hs⟩

/-- **Induction on the turns of a loop that returns**, from the last one back. -/
theorem Returns.induct {motive : σ → Prop} {s r : σ} (h : Returns step s r)
    (leave : ∀ s, step s = .ok (.leave r) → motive s)
    (again : ∀ s s', step s = .ok (.again s') → motive s' → motive s) : motive s := by
  obtain ⟨t, hreach, hleave⟩ := h.leave
  clear h
  induction hreach using Relation.ReflTransGen.head_induction_on with
  | refl => exact leave t hleave
  | head hturn _ ih => exact again _ _ hturn ih

/-- A loop returns one result. -/
theorem Returns.unique {s r r' : σ} (h : Returns step s r) (h' : Returns step s r') : r = r' := by
  refine h.induct (motive := fun s => Returns step s r' → r = r') ?_ ?_ h'
  · intro s hleave h'
    rcases h'.turn with hleave' | ⟨_, hagain, -⟩
    · exact Turn.leave.inj (Except.ok.inj (hleave.symm.trans hleave'))
    · cases hleave.symm.trans hagain
  · intro s s' hagain ih h'
    exact ih ((returns_of_again hagain).mp h')

/-- **Total correctness rule.** In the states that satisfy `P` no turn fails; one that goes
    round again keeps `P` and lowers the measure, and one that leaves establishes `Q`. -/
theorem returns_of_measure {α : Type _} {lt : α → α → Prop} (hwf : WellFounded lt)
    (measure : σ → α) {P Q : σ → Prop}
    (hturn : ∀ s, P s → (∃ r, step s = .ok (.leave r) ∧ Q r) ∨
      ∃ s', step s = .ok (.again s') ∧ P s' ∧ lt (measure s') (measure s))
    {s : σ} (h : P s) : ∃ r, Returns step s r ∧ Q r := by
  generalize hm : measure s = m
  induction m using hwf.induction generalizing s with
  | _ m ih =>
      rcases hturn s h with ⟨r, hleave, hQ⟩ | ⟨s', hagain, hP, hlt⟩
      · exact ⟨r, returns_of_leave hleave, hQ⟩
      · obtain ⟨r, hr, hQ⟩ := ih _ (hm ▸ hlt) hP rfl
        exact ⟨r, (returns_of_again hagain).mpr hr, hQ⟩

/-! ## Collecting up to a limit -/

section

variable {α β : Type _} {limit : Nat}

/-- What loops have collected: they go on below the limit, and `.error` leaves them all. -/
def collected (limit : Nat) (found : List β) : Except (List β) (List β) :=
  if found.length < limit then .ok found else .error (found.take limit)

/-- What was collected, whether the loops were left or came to their end. -/
def collection : Except (List β) (List β) → List β
  | .ok found => found
  | .error found => found

@[simp] theorem collection_collected (found : List β) :
    collection (collected limit found) = found.take limit := by
  unfold collected
  split
  · next h => exact (List.take_of_length_le (Nat.le_of_lt h)).symm
  · rfl

/-- **A loop over a list collects what its turns do**, up to the limit. -/
theorem foldlM_collected {step : List β → α → Except (List β) (List β)} {find : α → List β}
    (hstep : ∀ found x, found.length < limit → step found x = collected limit (found ++ find x))
    {xs : List α} {found : List β} (hfound : found.length < limit) :
    xs.foldlM step found = collected limit (found ++ xs.flatMap find) := by
  induction xs generalizing found with
  | nil =>
      rw [List.flatMap_nil, List.append_nil, collected, if_pos hfound]
      rfl
  | cons x xs ih =>
      rw [List.foldlM_cons, hstep found x hfound, List.flatMap_cons, ← List.append_assoc]
      by_cases hmore : (found ++ find x).length < limit
      · rw [collected, if_pos hmore]
        exact ih hmore
      · rw [collected, if_neg hmore, collected, if_neg fun hlt => hmore ?_,
          List.take_append_of_le_length (Nat.le_of_not_lt hmore)]
        · rfl
        · rw [List.length_append] at hlt
          exact Nat.lt_of_le_of_lt (Nat.le_add_right ..) hlt

end

end Eag.Foundation
