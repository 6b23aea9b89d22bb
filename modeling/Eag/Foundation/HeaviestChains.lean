/-
  Eag.Foundation.HeaviestChains

  A recursion along lists of next keys that keeps a cache of its values, and the heaviest
  chains of keys it computes where every key has a weight.

  `memoized_spec` is for any rule: where every step lowers a rank, the recursion ends for
  every known key, with a value that the rule makes of values of the next keys.
  `heaviest_spec` is its instance for weights that are not negative.
-/

import Mathlib.Algebra.Order.BigOperators.Group.List
import Eag.Foundation.LongestChains

namespace Eag.Foundation

/-! ## Recursion with a cache -/

section Memo

variable {κ α : Type} [DecidableEq κ]

/-- A computation that keeps a cache, for one key after another. -/
def forKeys (compute : Dict κ α → κ → Option (α × Dict κ α)) :
    Dict κ α → List κ → Option (List α × Dict κ α)
  | cache, [] => some ([], cache)
  | cache, k :: ks =>
      match compute cache k with
      | none => none
      | some (v, cache) =>
          match forKeys compute cache ks with
          | none => none
          | some (vs, cache) => some (v :: vs, cache)

/-- The value of a key by a rule for the values of the next keys, with room for so many nested
    calls. A value that is in the cache is not computed again. -/
def memoized (next : κ → List κ) (rule : κ → List α → Option α) :
    Nat → Dict κ α → κ → Option (α × Dict κ α)
  | 0, _, _ => none
  | fuel + 1, cache, k =>
      match cache.get? k with
      | some v => some (v, cache)
      | none =>
          match forKeys (memoized next rule fuel) cache (next k) with
          | none => none
          | some (vs, cache) =>
              match rule k vs with
              | none => none
              | some v => some (v, cache.set k v)

/-- Every value in the cache is right for its key. -/
def CachedRight (right : κ → α → Prop) (cache : Dict κ α) : Prop :=
  ∀ k v, cache.get? k = some v → right k v

/-- The computation for a key ends with a right value, and leaves the cache right. -/
def ComputesRight (right : κ → α → Prop) (compute : Dict κ α → κ → Option (α × Dict κ α))
    (k : κ) : Prop :=
  ∀ cache, CachedRight right cache →
    ∃ v cache', compute cache k = some (v, cache') ∧ right k v ∧ CachedRight right cache'

variable {right : κ → α → Prop} {cache : Dict κ α}

theorem CachedRight.empty : CachedRight right (Dict.empty : Dict κ α) := fun _ _ h => by cases h

theorem CachedRight.set (h : CachedRight right cache) {k : κ} {v : α} (hv : right k v) :
    CachedRight right (cache.set k v) := by
  intro other w hw
  rw [Dict.get?_set] at hw
  split at hw
  · next heq =>
      subst heq
      cases hw
      exact hv
  · exact h other w hw

theorem forKeys_spec {compute : Dict κ α → κ → Option (α × Dict κ α)} {ks : List κ}
    (hcompute : ∀ k ∈ ks, ComputesRight right compute k) (hcache : CachedRight right cache) :
    ∃ vs cache', forKeys compute cache ks = some (vs, cache') ∧ List.Forall₂ right ks vs ∧
      CachedRight right cache' := by
  induction ks generalizing cache with
  | nil => exact ⟨[], cache, rfl, .nil, hcache⟩
  | cons k ks ih =>
      obtain ⟨v, middle, hrun, hv, hmiddle⟩ := hcompute k List.mem_cons_self cache hcache
      obtain ⟨vs, after, hrest, hvs, hafter⟩ :=
        ih (fun k hk => hcompute k (List.mem_cons_of_mem _ hk)) hmiddle
      refine ⟨v :: vs, after, ?_, .cons hv hvs, hafter⟩
      unfold forKeys
      rw [hrun]
      dsimp only
      rw [hrest]

/-- **Every nested call has a lower rank**, so the recursion ends for every known key, when the
    rule makes a right value of right values. -/
theorem memoized_spec {next : κ → List κ} {rule : κ → List α → Option α} {known : κ → Prop}
    {rank : κ → Nat} (hknown : ∀ k, known k → ∀ c ∈ next k, known c)
    (hrank : ∀ k, ∀ c ∈ next k, rank c < rank k)
    (hrule : ∀ k, known k → ∀ vs, List.Forall₂ right (next k) vs →
      ∃ v, rule k vs = some v ∧ right k v)
    (fuel : Nat) (k : κ) (hk : known k) (hfuel : rank k < fuel) :
    ComputesRight right (memoized next rule fuel) k := by
  induction fuel generalizing k with
  | zero => omega
  | succ fuel ih =>
      intro cache hcache
      unfold memoized
      cases hget : cache.get? k with
      | some v => exact ⟨v, cache, rfl, hcache k v hget, hcache⟩
      | none =>
          obtain ⟨vs, cache', hrun, hvs, hcache'⟩ := forKeys_spec
            (fun c hc => ih c (hknown k hk c hc)
              (Nat.lt_of_lt_of_le (hrank k c hc) (Nat.le_of_lt_succ hfuel)))
            hcache
          obtain ⟨v, hv, hright⟩ := hrule k hk vs hvs
          dsimp only
          rw [hrun]
          dsimp only
          rw [hv]
          exact ⟨v, cache'.set k v, rfl, hright, hcache'.set hright⟩

end Memo

/-! ## The greatest value -/

section Greatest

variable {α : Type} [LinearOrder α]

/-- `max(values)`, of values of which there is one. -/
def greatestOf? : List α → Option α
  | [] => none
  | v :: vs => some (vs.foldl max v)

theorem foldl_max_spec (v : α) (vs : List α) :
    vs.foldl max v ∈ v :: vs ∧ ∀ w ∈ v :: vs, w ≤ vs.foldl max v := by
  induction vs generalizing v with
  | nil => exact ⟨List.mem_cons_self, fun w hw => (List.mem_singleton.mp hw).le⟩
  | cons u vs ih =>
      obtain ⟨hmem, hle⟩ := ih (max v u)
      refine ⟨?_, ?_⟩
      · rcases List.mem_cons.mp hmem with h | h
        · rw [List.foldl_cons, h]
          rcases max_choice v u with h | h <;> rw [h] <;> simp
        · exact List.mem_cons_of_mem _ (List.mem_cons_of_mem _ h)
      · have hmax : max v u ≤ vs.foldl max (max v u) := hle _ List.mem_cons_self
        intro w hw
        rw [List.foldl_cons]
        rcases List.mem_cons.mp hw with rfl | hw
        · exact (le_max_left _ _).trans hmax
        rcases List.mem_cons.mp hw with rfl | hw
        · exact (le_max_right _ _).trans hmax
        · exact hle w (List.mem_cons_of_mem _ hw)

theorem greatestOf?_eq_some {vs : List α} {v : α} (h : greatestOf? vs = some v) :
    v ∈ vs ∧ ∀ w ∈ vs, w ≤ v := by
  cases vs with
  | nil => cases h
  | cons u vs =>
      cases h
      exact foldl_max_spec u vs

end Greatest

/-! ## Weights -/

section Weights

variable {κ α : Type} [AddCommMonoid α]

/-- The weights of the chains from a key. -/
def weightsFrom (next : κ → List κ) (weight : κ → α) (k : κ) : Set α :=
  {x | ∃ chain, Follows next (k :: chain) ∧ ((k :: chain).map weight).sum = x}

/-- A weight, with the greatest of the values of what comes next. -/
def heaviest [LinearOrder α] (w : α) (vs : List α) : α :=
  match greatestOf? vs with
  | none => w
  | some v => w + v

variable {next : κ → List κ} {weight : κ → α} {k : κ}

theorem weight_mem_weightsFrom : weight k ∈ weightsFrom next weight k :=
  ⟨[], List.isChain_singleton _, by simp⟩

/-- A chain is one key, or a step to a next key and a chain from there. -/
theorem mem_weightsFrom_iff {x : α} :
    x ∈ weightsFrom next weight k ↔
      x = weight k ∨ ∃ c ∈ next k, ∃ y ∈ weightsFrom next weight c, x = weight k + y := by
  constructor
  · rintro ⟨chain, hchain, rfl⟩
    cases chain with
    | nil => exact .inl (by simp)
    | cons c chain =>
        obtain ⟨hc, hrest⟩ := List.isChain_cons_cons.mp hchain
        refine .inr ⟨c, hc, _, ⟨chain, hrest, rfl⟩, ?_⟩
        rw [List.map_cons, List.sum_cons]
  · rintro (rfl | ⟨c, hc, y, ⟨chain, hchain, rfl⟩, rfl⟩)
    · exact weight_mem_weightsFrom
    · refine ⟨c :: chain, List.isChain_cons_cons.mpr ⟨hc, hchain⟩, ?_⟩
      rw [List.map_cons, List.sum_cons]

variable [LinearOrder α] [IsOrderedAddMonoid α]

/-- **The heaviest chain from a key** goes on to a next key with a heaviest chain, where no
    weight is negative. -/
theorem heaviest_spec (hweight : ∀ k, 0 ≤ weight k) {vs : List α}
    (hvs : List.Forall₂ (fun c v => IsGreatest (weightsFrom next weight c) v) (next k) vs) :
    IsGreatest (weightsFrom next weight k) (heaviest (weight k) vs) := by
  unfold heaviest
  cases hmax : greatestOf? vs with
  | none =>
      -- No next key has a value, so there is none, and a chain stops here.
      have hnil : next k = [] := by
        cases vs with
        | nil => exact List.forall₂_nil_right_iff.mp hvs
        | cons v vs => cases hmax
      refine ⟨weight_mem_weightsFrom, fun x hx => ?_⟩
      rcases mem_weightsFrom_iff.mp hx with rfl | ⟨c, hc, -⟩
      · exact le_refl _
      · rw [hnil] at hc
        cases hc
  | some v =>
      obtain ⟨hv, hle⟩ := greatestOf?_eq_some hmax
      obtain ⟨c, hc, hgreatest⟩ := exists_mem_of_forall₂_right hvs hv
      refine ⟨mem_weightsFrom_iff.mpr (.inr ⟨c, hc, v, hgreatest.1, rfl⟩), fun x hx => ?_⟩
      have hpositive : 0 ≤ v := (hweight c).trans (hgreatest.2 weight_mem_weightsFrom)
      rcases mem_weightsFrom_iff.mp hx with rfl | ⟨other, hother, y, hy, rfl⟩
      · exact le_add_of_nonneg_right hpositive
      · obtain ⟨w, hw, hlargest⟩ := exists_mem_of_forall₂ hvs hother
        exact add_le_add_right ((hlargest.2 hy).trans (hle w hw)) _

end Weights

end Eag.Foundation
