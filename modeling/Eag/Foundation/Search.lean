/-
  Eag.Foundation.Search

  A search along a list of candidates: it takes them in order, ends at the first
  that yields, and may be stopped before or at a candidate. `Search`
  relates the candidates, those that were taken and how the search ended; searches
  along the parts of a list compose to one along the whole.
-/

import Mathlib.Data.List.Basic

namespace Eag.Foundation

/-- How a search ends. -/
inductive SearchEnd (α : Type _) where
  | found (a : α)
  | exhausted
  | stopped (a : α)

/-- A search along candidates, the ones taken, and its end. -/
inductive Search {α : Type _} (Yields : α → Prop) : List α → List α → SearchEnd α → Prop where
  | found {before : List α} {a : α} {after : List α} (hbefore : ∀ b ∈ before, ¬ Yields b)
      (hyields : Yields a) : Search Yields (before ++ a :: after) (before ++ [a]) (.found a)
  | exhausted {candidates : List α} (hnone : ∀ b ∈ candidates, ¬ Yields b) :
      Search Yields candidates candidates .exhausted
  | stoppedBefore {before : List α} {a : α} {after : List α}
      (hbefore : ∀ b ∈ before, ¬ Yields b) :
      Search Yields (before ++ a :: after) before (.stopped a)
  | stoppedAt {before : List α} {a : α} {after : List α} (hbefore : ∀ b ∈ before, ¬ Yields b) :
      Search Yields (before ++ a :: after) (before ++ [a]) (.stopped a)

namespace Search

variable {α : Type _} {Yields : α → Prop} {xs ys taken : List α} {ending : SearchEnd α} {a : α}

/-- A search that ended before the candidates did ends the same with more of them. -/
theorem append (h : Search Yields xs taken ending) (hend : ending ≠ .exhausted) (ys : List α) :
    Search Yields (xs ++ ys) taken ending := by
  cases h with
  | found hbefore hyields =>
      rw [List.append_assoc, List.cons_append]
      exact .found hbefore hyields
  | exhausted => exact absurd rfl hend
  | stoppedBefore hbefore =>
      rw [List.append_assoc, List.cons_append]
      exact .stoppedBefore hbefore
  | stoppedAt hbefore =>
      rw [List.append_assoc, List.cons_append]
      exact .stoppedAt hbefore

/-- The candidates of an exhausted search were all taken, and none yields. -/
theorem of_exhausted (h : Search Yields xs taken .exhausted) :
    taken = xs ∧ ∀ b ∈ xs, ¬ Yields b := by
  cases h with
  | exhausted hnone => exact ⟨rfl, hnone⟩

/-- After candidates that do not yield, the search is the one along the rest. -/
theorem prepend (hxs : ∀ b ∈ xs, ¬ Yields b) (h : Search Yields ys taken ending) :
    Search Yields (xs ++ ys) (xs ++ taken) ending := by
  have hboth : ∀ before : List α, (∀ b ∈ before, ¬ Yields b) →
      ∀ b ∈ xs ++ before, ¬ Yields b := by
    intro before hbefore b hb
    rcases List.mem_append.mp hb with hb | hb
    · exact hxs b hb
    · exact hbefore b hb
  cases h with
  | found hbefore hyields =>
      rw [← List.append_assoc, ← List.append_assoc]
      exact .found (hboth _ hbefore) hyields
  | exhausted hnone => exact .exhausted (hboth _ hnone)
  | stoppedBefore hbefore =>
      rw [← List.append_assoc]
      exact .stoppedBefore (hboth _ hbefore)
  | stoppedAt hbefore =>
      rw [← List.append_assoc, ← List.append_assoc]
      exact .stoppedAt (hboth _ hbefore)

/-- A search that found something found one of the candidates. -/
theorem exists_of_found (h : Search Yields xs taken (.found a)) : ∃ b ∈ xs, Yields b := by
  cases h with
  | found _ hyields =>
      exact ⟨a, List.mem_append_right _ List.mem_cons_self, hyields⟩

/-- What was found is the last candidate taken, and the first that yields. -/
theorem of_found (h : Search Yields xs taken (.found a)) :
    ∃ before after, xs = before ++ a :: after ∧ taken = before ++ [a] ∧ Yields a ∧
      ∀ b ∈ before, ¬ Yields b := by
  cases h with
  | found hbefore hyields => exact ⟨_, _, rfl, rfl, hyields, hbefore⟩

/-- Nothing that was taken before the search stopped yields. -/
theorem of_stopped (h : Search Yields xs taken (.stopped a)) :
    ∃ before after, xs = before ++ a :: after ∧ (taken = before ∨ taken = before ++ [a]) ∧
      ∀ b ∈ before, ¬ Yields b := by
  cases h with
  | stoppedBefore hbefore => exact ⟨_, _, rfl, .inl rfl, hbefore⟩
  | stoppedAt hbefore => exact ⟨_, _, rfl, .inr rfl, hbefore⟩

end Search

end Eag.Foundation
