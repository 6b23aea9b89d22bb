/-
  Eag.Foundation.LongestChains

  How far one can go from a key along a relation that is given by lists of next keys, with
  a cache of what was computed already. Where every step lowers a rank, the computation
  ends with the length of a longest chain (`longest_spec`).
-/

import Mathlib.Order.Bounds.Basic
import Mathlib.Order.Lattice.Nat
import Eag.Foundation.Ranking

namespace Eag.Foundation

variable {κ : Type} [DecidableEq κ]

/-! ## The computation -/

/-- A computation that keeps a cache, for one key after another. -/
def forEachKey (depth : Dict κ Nat → κ → Option (Nat × Dict κ Nat)) :
    Dict κ Nat → List κ → Option (List Nat × Dict κ Nat)
  | cache, [] => some ([], cache)
  | cache, k :: ks =>
      match depth cache k with
      | none => none
      | some (d, cache) =>
          match forEachKey depth cache ks with
          | none => none
          | some (ds, cache) => some (d :: ds, cache)

/-- The greatest of some lengths, and zero for none. -/
def greatest (ds : List Nat) : Nat := ds.foldr max 0

/-- How far one can go from a key, with room for so many nested calls. -/
def depthFrom (next : κ → List κ) : Nat → Dict κ Nat → κ → Option (Nat × Dict κ Nat)
  | 0, _, _ => none
  | fuel + 1, cache, k =>
      match cache.get? k with
      | some d => some (d, cache)
      | none =>
          if next k = [] then some (0, cache.set k 0)
          else
            match forEachKey (depthFrom next fuel) cache (next k) with
            | none => none
            | some (ds, cache) => some (1 + greatest ds, cache.set k (1 + greatest ds))

/-- How far one can go from any of the keys. -/
def longest (next : κ → List κ) (fuel : Nat) (keys : List κ) : Option Nat :=
  (forEachKey (depthFrom next fuel) Dict.empty keys).map fun result => greatest result.1

/-! ## Chains -/

/-- The keys follow one another. -/
def Follows (next : κ → List κ) (chain : List κ) : Prop := chain.IsChain fun k c => c ∈ next k

/-- The lengths of the chains from a key, in steps. -/
def lengthsFrom (next : κ → List κ) (k : κ) : Set Nat :=
  {n | ∃ chain, Follows next (k :: chain) ∧ chain.length = n}

theorem le_greatest {ds : List Nat} {d : Nat} (h : d ∈ ds) : d ≤ greatest ds := by
  induction ds with
  | nil => cases h
  | cons first rest ih =>
      unfold greatest at ih ⊢
      rw [List.foldr_cons]
      rcases List.mem_cons.mp h with rfl | h
      · exact Nat.le_max_left _ _
      · exact Nat.le_trans (ih h) (Nat.le_max_right _ _)

theorem greatest_mem {ds : List Nat} (h : ds ≠ []) : greatest ds ∈ ds := by
  induction ds with
  | nil => exact absurd rfl h
  | cons first rest ih =>
      have hcons : greatest (first :: rest) = max first (greatest rest) := rfl
      rw [hcons]
      by_cases hrest : rest = []
      · subst hrest
        exact List.mem_singleton.mpr (Nat.max_eq_left (Nat.zero_le first))
      · rcases Nat.le_total first (greatest rest) with hle | hle
        · rw [Nat.max_eq_right hle]
          exact List.mem_cons_of_mem _ (ih hrest)
        · rw [Nat.max_eq_left hle]
          exact List.mem_cons_self

section Chains

variable {next : κ → List κ} {k : κ} {ks : List κ} {ds : List Nat}

omit [DecidableEq κ] in
/-- Nothing follows a key that has no next one. -/
theorem isGreatest_of_nil (h : next k = []) : IsGreatest (lengthsFrom next k) 0 := by
  refine ⟨⟨[], List.IsChain.singleton k, rfl⟩, ?_⟩
  rintro n ⟨chain, hchain, rfl⟩
  cases chain with
  | nil => exact Nat.le_refl 0
  | cons c chain =>
      have hc := (List.isChain_cons_cons.mp hchain).1
      rw [h] at hc
      cases hc

/-- The depths are those of the keys. -/
structure Depths (next : κ → List κ) (ks : List κ) (ds : List Nat) : Prop where
  of_key : ∀ k ∈ ks, ∃ d ∈ ds, IsGreatest (lengthsFrom next k) d
  of_depth : ∀ d ∈ ds, ∃ k ∈ ks, IsGreatest (lengthsFrom next k) d

omit [DecidableEq κ] in
/-- A longest chain from any of the keys. -/
theorem Depths.isGreatest (h : Depths next ks ds) (hne : ks ≠ []) :
    IsGreatest {n | ∃ k ∈ ks, n ∈ lengthsFrom next k} (greatest ds) := by
  have hds : ds ≠ [] := by
    rintro rfl
    obtain ⟨k, hk⟩ := List.exists_mem_of_ne_nil ks hne
    obtain ⟨d, hd, -⟩ := h.of_key k hk
    cases hd
  constructor
  · obtain ⟨k, hk, hdepth⟩ := h.of_depth _ (greatest_mem hds)
    exact ⟨k, hk, hdepth.1⟩
  · rintro n ⟨k, hk, hn⟩
    obtain ⟨d, hd, hdepth⟩ := h.of_key k hk
    exact Nat.le_trans (hdepth.2 hn) (le_greatest hd)

omit [DecidableEq κ] in
/-- A longest chain from a key steps to a next key with a longest chain. -/
theorem isGreatest_of_next (hne : next k ≠ []) (h : Depths next (next k) ds) :
    IsGreatest (lengthsFrom next k) (1 + greatest ds) := by
  obtain ⟨⟨c, hc, chain, hchain, hlength⟩, hupper⟩ := h.isGreatest hne
  constructor
  · refine ⟨c :: chain, List.isChain_cons_cons.mpr ⟨hc, hchain⟩, ?_⟩
    rw [List.length_cons, hlength, Nat.add_comm]
  · rintro n ⟨chain, hchain, rfl⟩
    cases chain with
    | nil => exact Nat.zero_le _
    | cons c chain =>
        obtain ⟨hc, hrest⟩ := List.isChain_cons_cons.mp hchain
        have hle : chain.length ≤ greatest ds := hupper ⟨c, hc, chain, hrest, rfl⟩
        rw [List.length_cons]
        omega

end Chains

/-! ## The computation is right -/

/-- Every depth in the cache is that of its key. -/
def CacheRight (next : κ → List κ) (cache : Dict κ Nat) : Prop :=
  ∀ k d, cache.get? k = some d → IsGreatest (lengthsFrom next k) d

section Computation

variable {next : κ → List κ} {cache : Dict κ Nat}

theorem CacheRight.set (h : CacheRight next cache) {k : κ} {d : Nat}
    (hd : IsGreatest (lengthsFrom next k) d) : CacheRight next (cache.set k d) := by
  intro other e he
  rw [Dict.get?_set] at he
  split at he
  · next heq =>
      subst heq
      cases he
      exact hd
  · exact h other e he

/-- The computation for a key ends with its depth, and leaves the cache right. -/
def ComputesDepth (next : κ → List κ) (depth : Dict κ Nat → κ → Option (Nat × Dict κ Nat))
    (k : κ) : Prop :=
  ∀ cache, CacheRight next cache → ∃ d cache', depth cache k = some (d, cache') ∧
    IsGreatest (lengthsFrom next k) d ∧ CacheRight next cache'

theorem forEachKey_spec {depth : Dict κ Nat → κ → Option (Nat × Dict κ Nat)} {ks : List κ}
    (hdepth : ∀ k ∈ ks, ComputesDepth next depth k) (hcache : CacheRight next cache) :
    ∃ ds cache', forEachKey depth cache ks = some (ds, cache') ∧ Depths next ks ds ∧
      CacheRight next cache' := by
  induction ks generalizing cache with
  | nil => exact ⟨[], cache, rfl, ⟨nofun, nofun⟩, hcache⟩
  | cons k ks ih =>
      obtain ⟨d, middle, hrun, hd, hmiddle⟩ := hdepth k List.mem_cons_self cache hcache
      obtain ⟨ds, after, hrest, hds, hafter⟩ :=
        ih (fun k hk => hdepth k (List.mem_cons_of_mem _ hk)) hmiddle
      refine ⟨d :: ds, after, ?_, ⟨?_, ?_⟩, hafter⟩
      · unfold forEachKey
        rw [hrun]
        dsimp only
        rw [hrest]
      · refine List.forall_mem_cons.mpr ⟨⟨d, List.mem_cons_self, hd⟩, fun k hk => ?_⟩
        obtain ⟨e, he, hke⟩ := hds.of_key k hk
        exact ⟨e, List.mem_cons_of_mem _ he, hke⟩
      · refine List.forall_mem_cons.mpr ⟨⟨k, List.mem_cons_self, hd⟩, fun e he => ?_⟩
        obtain ⟨k, hk, hke⟩ := hds.of_depth e he
        exact ⟨k, List.mem_cons_of_mem _ hk, hke⟩

variable {rank : κ → Nat} (hrank : ∀ k, ∀ c ∈ next k, rank c < rank k)
include hrank

/-- **Every nested call has a lower rank**, so a computation with room for the rank ends. -/
theorem computesDepth_depthFrom (fuel : Nat) (k : κ) (hfuel : rank k < fuel) :
    ComputesDepth next (depthFrom next fuel) k := by
  induction fuel generalizing k with
  | zero => omega
  | succ fuel ih =>
      intro cache hcache
      unfold depthFrom
      cases hget : cache.get? k with
      | some d => exact ⟨d, cache, rfl, hcache k d hget, hcache⟩
      | none =>
          dsimp only
          split
          · next hnil =>
              have hd := isGreatest_of_nil hnil
              exact ⟨0, cache.set k 0, rfl, hd, hcache.set hd⟩
          · next hne =>
              obtain ⟨ds, cache', hrun, hds, hcache'⟩ := forEachKey_spec
                (fun c hc => ih c (Nat.lt_of_lt_of_le (hrank k c hc) (Nat.le_of_lt_succ hfuel)))
                hcache
              have hd := isGreatest_of_next hne hds
              rw [hrun]
              exact ⟨1 + greatest ds, cache'.set k (1 + greatest ds), rfl, hd, hcache'.set hd⟩

/-- **The longest chain** that starts at one of the keys. -/
theorem longest_spec {fuel : Nat} {keys : List κ} (hfuel : ∀ k ∈ keys, rank k < fuel) :
    ∃ ds, longest next fuel keys = some (greatest ds) ∧ Depths next keys ds := by
  have hempty : CacheRight next Dict.empty := fun k d h => by cases h
  obtain ⟨ds, cache', hrun, hds, -⟩ := forEachKey_spec
    (fun k hk => computesDepth_depthFrom hrank fuel k (hfuel k hk)) hempty
  refine ⟨ds, ?_, hds⟩
  rw [longest, hrun, Option.map_some]

end Computation

end Eag.Foundation
