/-
  Eag.Foundation.Dag

  Dependency graphs given by a list of edges between keys: the parents of a key,
  which keys are ready once a set of keys is done, and that in an acyclic graph
  something is ready as long as not everything is done.
-/

import Mathlib.Data.Fintype.Card
import Mathlib.Data.Fintype.Sets
import Mathlib.Data.Fintype.EquivFin
import Mathlib.Logic.Relation
import Mathlib.Order.WellFounded

namespace Eag.Foundation

variable {κ : Type _} [DecidableEq κ]

/-- The sources of the edges into a key, in the order of the edges. -/
def parentsOf (edges : List (κ × κ)) (k : κ) : List κ :=
  (edges.filter fun edge => edge.2 = k).map Prod.fst

theorem mem_parentsOf {edges : List (κ × κ)} {p k : κ} :
    p ∈ parentsOf edges k ↔ (p, k) ∈ edges := by
  simp only [parentsOf, List.mem_map, List.mem_filter, decide_eq_true_eq]
  constructor
  · rintro ⟨⟨source, target⟩, ⟨hmem, rfl⟩, rfl⟩
    exact hmem
  · intro hmem
    exact ⟨(p, k), ⟨hmem, rfl⟩, rfl⟩

/-- Along the edges, from source to target. -/
def Precedes (edges : List (κ × κ)) (p k : κ) : Prop := (p, k) ∈ edges

/-- No key comes before itself. -/
def Acyclic (edges : List (κ × κ)) : Prop := ∀ k, ¬ Relation.TransGen (Precedes edges) k k

omit [DecidableEq κ] in
/-- A rank that grows along every edge leaves no room for a cycle. -/
theorem acyclic_of_rank {edges : List (κ × κ)} (rank : κ → Nat)
    (h : ∀ edge ∈ edges, rank edge.1 < rank edge.2) : Acyclic edges := by
  have hpath : ∀ p k, Relation.TransGen (Precedes edges) p k → rank p < rank k := by
    intro p k hpath
    induction hpath with
    | single hedge => exact h _ hedge
    | tail _ hedge ih => exact ih.trans (h _ hedge)
  exact fun k hcycle => absurd (hpath k k hcycle) (lt_irrefl _)

omit [DecidableEq κ] in
theorem acyclic_nil : Acyclic ([] : List (κ × κ)) :=
  acyclic_of_rank (fun _ => 0) (by simp)

omit [DecidableEq κ] in
/-- Turning every edge round makes no cycle. -/
theorem acyclic_map_swap {edges : List (κ × κ)} :
    Acyclic (edges.map Prod.swap) ↔ Acyclic edges := by
  have hprecedes : Precedes (edges.map Prod.swap) = Function.swap (Precedes edges) := by
    funext p k
    unfold Precedes Function.swap
    rw [← Prod.swap_prod_mk, List.mem_map_of_injective Prod.swap_injective]
  unfold Acyclic
  simp only [hprecedes, Relation.transGen_swap]

/-- Not done, with every parent done. -/
def Ready (edges : List (κ × κ)) (done : Finset κ) (k : κ) : Prop :=
  k ∉ done ∧ ∀ p ∈ parentsOf edges k, p ∈ done

instance (edges : List (κ × κ)) (done : Finset κ) (k : κ) : Decidable (Ready edges done k) :=
  inferInstanceAs (Decidable (_ ∧ _))

omit [DecidableEq κ] in
/-- On finitely many keys, following the edges backwards comes to an end. -/
theorem wellFounded_of_acyclic {edges : List (κ × κ)} (h : Acyclic edges) (keys : Finset κ) :
    WellFounded fun p k : keys => Precedes edges p k := by
  have hirrefl : Std.Irrefl fun p k : keys => Relation.TransGen (Precedes edges) p.1 k.1 :=
    ⟨fun k => h k.1⟩
  have htrans : IsTrans keys fun p k => Relation.TransGen (Precedes edges) p.1 k.1 :=
    ⟨fun _ _ _ => Relation.TransGen.trans⟩
  exact Subrelation.wf (fun hedge => Relation.TransGen.single hedge)
    (Finite.wellFounded_of_trans_of_irrefl
      fun p k : keys => Relation.TransGen (Precedes edges) p.1 k.1)

/-- **Progress.** In an acyclic graph whose edges start at keys, something is ready as long
    as some key is not done. -/
theorem exists_ready {edges : List (κ × κ)} {keys done : Finset κ} (hacyclic : Acyclic edges)
    (hedges : ∀ edge ∈ edges, edge.1 ∈ keys) {k : κ} (hk : k ∈ keys) (hdone : k ∉ done) :
    ∃ r ∈ keys, Ready edges done r := by
  -- a key that is not done and has no ancestor that is not done
  obtain ⟨⟨r, hr⟩, hrdone, hmin⟩ := (wellFounded_of_acyclic hacyclic keys).has_min
    {key | key.1 ∉ done} ⟨⟨k, hk⟩, hdone⟩
  refine ⟨r, hr, hrdone, fun p hp => ?_⟩
  rw [mem_parentsOf] at hp
  by_contra hpdone
  exact hmin ⟨p, hedges _ hp⟩ hpdone hp

end Eag.Foundation
