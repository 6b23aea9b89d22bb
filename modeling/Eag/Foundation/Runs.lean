/-
  Eag.Foundation.Runs

  Runs of a machine given by a step function: the state after a list of
  inputs, and the two induction rules its safety theorems use. A predicate kept
  by every step holds after every run, and a preorder that every step climbs
  relates the two ends of every run.
-/

import Mathlib.Data.List.Basic
import Mathlib.Data.List.Induction

namespace Eag.Foundation

variable {σ α : Type _} (step : σ → α → σ)

/-- The state after the inputs `as`, in order. -/
def runFrom (s : σ) (as : List α) : σ := as.foldl step s

@[simp] theorem runFrom_nil (s : σ) : runFrom step s [] = s := rfl

@[simp] theorem runFrom_cons (s : σ) (a : α) (as : List α) :
    runFrom step s (a :: as) = runFrom step (step s a) as := rfl

@[simp] theorem runFrom_append (s : σ) (as bs : List α) :
    runFrom step s (as ++ bs) = runFrom step (runFrom step s as) bs := by
  simp [runFrom]

/-- **Invariant rule.** -/
theorem runFrom_invariant {P : σ → Prop} (hstep : ∀ s a, P s → P (step s a)) (as : List α)
    {s : σ} (h : P s) : P (runFrom step s as) := by
  induction as generalizing s with
  | nil => exact h
  | cons a as ih => exact ih (hstep s a h)

/-- **Progress rule.** -/
theorem runFrom_relates {R : σ → σ → Prop} (hrefl : ∀ s, R s s)
    (htrans : ∀ {a b c}, R a b → R b c → R a c) (hstep : ∀ s a, R s (step s a))
    (as : List α) (s : σ) : R s (runFrom step s as) := by
  induction as generalizing s with
  | nil => exact hrefl s
  | cons a as ih => exact htrans (hstep s a) (ih _)

/-- A state no step leaves is where every run from it ends. -/
theorem runFrom_of_fixed {s : σ} (h : ∀ a, step s a = s) (as : List α) :
    runFrom step s as = s := by
  induction as with
  | nil => rfl
  | cons a as ih => rw [runFrom_cons, h a]; exact ih

/-! ## What holds throughout a run -/

/-- The predicate holds in every state that the run passes. -/
def Throughout (P : σ → Prop) (s : σ) (as : List α) : Prop :=
  ∀ before, before <+: as → P (runFrom step s before)

/-- Every step of the run is taken where the condition on the state and the input holds. -/
def EachStep (Q : σ → α → Prop) (s : σ) (as : List α) : Prop :=
  ∀ before a, before ++ [a] <+: as → Q (runFrom step s before) a

section Throughout

variable {step} {I P : σ → Prop} {Q : σ → α → Prop} {s : σ} {as : List α}

theorem runFrom_concat (s : σ) (as : List α) (a : α) :
    runFrom step s (as ++ [a]) = step (runFrom step s as) a := by
  rw [runFrom_append, runFrom_cons, runFrom_nil]

theorem eachStep_nil : EachStep step Q s [] := by
  intro before a hbefore
  have hlength := hbefore.length_le
  rw [List.length_append, List.length_singleton, List.length_nil] at hlength
  omega

theorem eachStep_cons {a : α} :
    EachStep step Q s (a :: as) ↔ Q s a ∧ EachStep step Q (step s a) as := by
  constructor
  · intro heach
    refine ⟨heach [] a ⟨as, rfl⟩, fun before b hbefore => ?_⟩
    exact heach (a :: before) b (List.cons_prefix_cons.mpr ⟨rfl, hbefore⟩)
  · rintro ⟨hfirst, hrest⟩ before b hbefore
    cases before with
    | nil =>
        obtain ⟨rfl, -⟩ := List.cons_prefix_cons.mp hbefore
        exact hfirst
    | cons c before =>
        obtain ⟨rfl, htail⟩ := List.cons_prefix_cons.mp hbefore
        exact hrest before b htail

/-- An invariant that steps keep where the condition holds holds throughout. -/
theorem throughout_of_eachStep (hkeep : ∀ s a, I s → Q s a → I (step s a)) (h : I s)
    (heach : EachStep step Q s as) : Throughout step I s as := by
  intro before
  induction before using List.reverseRecOn with
  | nil => exact fun _ => h
  | append_singleton before a ih =>
      intro hbefore
      have hearlier : before <+: as := (List.prefix_append before [a]).trans hbefore
      rw [runFrom_concat]
      exact hkeep _ _ (ih hearlier) (heach before a hbefore)

/-- **Exact condition.** Where the invariant gives the predicate, and a step after which the
    predicate holds meets the condition, the predicate holds throughout exactly the runs whose
    steps all meet the condition. -/
theorem throughout_iff_eachStep (hkeep : ∀ s a, I s → Q s a → I (step s a))
    (hsound : ∀ s, I s → P s) (hexact : ∀ s a, I s → P (step s a) → Q s a) (h : I s) :
    Throughout step P s as ↔ EachStep step Q s as := by
  constructor
  · intro hall
    -- As long as the predicate has held, the invariant has.
    have hinv : Throughout step I s as := by
      intro before
      induction before using List.reverseRecOn with
      | nil => exact fun _ => h
      | append_singleton before a ih =>
          intro hbefore
          have hearlier := ih ((List.prefix_append before [a]).trans hbefore)
          have hafter := hall _ hbefore
          rw [runFrom_concat] at hafter ⊢
          exact hkeep _ _ hearlier (hexact _ _ hearlier hafter)
    intro before a hbefore
    have hafter := hall _ hbefore
    rw [runFrom_concat] at hafter
    exact hexact _ _ (hinv before ((List.prefix_append before [a]).trans hbefore)) hafter
  · intro heach before hbefore
    exact hsound _ (throughout_of_eachStep hkeep h heach before hbefore)

end Throughout

end Eag.Foundation
