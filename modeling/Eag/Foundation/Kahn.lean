/-
  Eag.Foundation.Kahn

  Kahn's algorithm over a dependency graph, with a queue that gives its least key first:
  for every key the edges into it whose sources are not done are counted, and a key enters
  the queue when its count reaches zero.

  The queue holds what is ready (`Sorting`), so on an acyclic graph every key comes out,
  always the least of those that are ready (`run_spec`), which determines the order
  (`leastFirst_unique`).
-/

import Mathlib.Order.Bounds.Basic
import Eag.Foundation.Dag
import Eag.Foundation.Interleaving

namespace Eag.Foundation

variable {κ : Type} [LinearOrder κ]

/-! ## The algorithm -/

/-- The least key of a queue, and the others. -/
def popLeast (queue : List κ) : Option (κ × List κ) :=
  queue.min?.map fun least => (least, queue.erase least)

/-- The counts of the edges that are left, the keys that are ready, and those that are done. -/
structure Kahn (κ : Type) where
  degree : κ → Int
  queue : List κ
  order : List κ

namespace Kahn

/-- An edge into the key is done. -/
def relax (s : Kahn κ) (k : κ) : Kahn κ :=
  let degree := Function.update s.degree k (s.degree k - 1)
  { s with degree := degree, queue := if degree k = 0 then k :: s.queue else s.queue }

variable (successors : κ → List κ)

/-- The least key that is ready is done. -/
def turn (s : Kahn κ) : Option (Kahn κ) :=
  (popLeast s.queue).map fun popped =>
    (successors popped.1).foldl relax
      { s with queue := popped.2, order := s.order ++ [popped.1] }

/-- Turns until the queue is empty; `none` stands for a run that did not get there. -/
def run : Nat → Kahn κ → Option (Kahn κ)
  | 0, _ => none
  | fuel + 1, s =>
      match s.turn successors with
      | none => some s
      | some s' => run fuel s'

end Kahn

/-! ## The queue -/

theorem popLeast_eq_none {queue : List κ} : popLeast queue = none ↔ queue = [] := by
  rw [popLeast, Option.map_eq_none_iff, List.min?_eq_none_iff]

theorem popLeast_spec {queue rest : List κ} {least : κ} (h : popLeast queue = some (least, rest)) :
    (least :: rest).Perm queue ∧ ∀ k ∈ queue, least ≤ k := by
  obtain ⟨k, hmin, heq⟩ := Option.map_eq_some_iff.mp h
  obtain ⟨rfl, rfl⟩ := Prod.mk.inj heq
  obtain ⟨hmem, hle⟩ := List.min?_eq_some_iff.mp hmin
  exact ⟨(List.perm_cons_erase hmem).symm, hle⟩

/-! ## The order -/

/-- The key is the least of those that are ready after the others. -/
def LeastReady (edges : List (κ × κ)) (keys before : List κ) (k : κ) : Prop :=
  IsLeast {x | x ∈ keys ∧ Ready edges before.toFinset x} k

/-- Every key of the order is the least of those that were ready. -/
def LeastFirst (edges : List (κ × κ)) (keys order : List κ) : Prop :=
  AtEach (LeastReady edges keys) order

section Order

variable {edges edges' : List (κ × κ)} {keys keys' order order' : List κ}

theorem LeastFirst.mem_keys (h : LeastFirst edges keys order) {k : κ} (hk : k ∈ order) :
    k ∈ keys := by
  obtain ⟨before, after, heq⟩ := List.append_of_mem hk
  exact (h before k after heq).1.1

/-- Whatever a key of the order depends on comes before it. -/
theorem LeastFirst.parents_before (h : LeastFirst edges keys order) {before after : List κ}
    {k p : κ} (heq : order = before ++ k :: after) (hedge : (p, k) ∈ edges) : p ∈ before := by
  have hready := (h before k after heq).1.2
  exact List.mem_toFinset.mp (hready.2 p (mem_parentsOf.mpr hedge))

theorem LeastFirst.nodup (h : LeastFirst edges keys order) : order.Nodup := by
  induction order using List.reverseRecOn with
  | nil => exact List.nodup_nil
  | append_singleton order k ih =>
      obtain ⟨hbefore, hk⟩ := AtEach.of_snoc h
      have hnew : k ∉ order := fun hmem => hk.1.2.1 (List.mem_toFinset.mpr hmem)
      rw [List.nodup_append]
      refine ⟨ih hbefore, List.nodup_singleton k, fun a ha b hb heq => hnew ?_⟩
      rwa [← List.mem_singleton.mp hb, ← heq]

/-- **The order is determined** by the keys and the edges. -/
theorem leastFirst_unique (hkeys : ∀ k, k ∈ keys ↔ k ∈ keys')
    (hedges : ∀ edge, edge ∈ edges ↔ edge ∈ edges') (h : LeastFirst edges keys order)
    (h' : LeastFirst edges' keys' order') (hlength : order.length = order'.length) :
    order = order' := by
  have hsame : ∀ before : List κ, {x | x ∈ keys ∧ Ready edges before.toFinset x}
      = {x | x ∈ keys' ∧ Ready edges' before.toFinset x} := by
    intro before
    ext x
    simp only [Set.mem_ofPred_eq, Ready, mem_parentsOf, hkeys, hedges]
  -- What follows the same keys is the same.
  have hrest : ∀ rest rest' before : List κ, before ++ rest = order → before ++ rest' = order' →
      rest.length = rest'.length → rest = rest' := by
    intro rest
    induction rest with
    | nil =>
        intro rest' before _ _ hlength
        exact (List.length_eq_zero_iff.mp hlength.symm).symm
    | cons k rest ih =>
        intro rest' before heq heq' hlength
        cases rest' with
        | nil => cases hlength
        | cons k' rest' =>
            have hleast := h before k rest heq.symm
            have hleast' := h' before k' rest' heq'.symm
            unfold LeastReady at hleast hleast'
            rw [hsame before] at hleast
            obtain rfl := hleast.unique hleast'
            rw [ih rest' (before ++ [k]) (by rw [← heq]; simp) (by rw [← heq']; simp)
              (Nat.succ.inj hlength)]
  exact hrest order order' [] rfl rfl hlength

end Order

/-! ## The invariant -/

/-- How many edges into the key have sources that are not done. -/
def openEdges (edges : List (κ × κ)) (order : List κ) (k : κ) : Nat :=
  edges.countP fun edge => edge.2 = k ∧ edge.1 ∉ order

theorem openEdges_eq_zero {edges : List (κ × κ)} {order : List κ} {k : κ} :
    openEdges edges order k = 0 ↔ ∀ p, (p, k) ∈ edges → p ∈ order := by
  rw [openEdges, List.countP_eq_zero]
  simp only [decide_eq_true_eq, not_and, not_not]
  exact ⟨fun h p hedge => h (p, k) hedge rfl, fun h edge hedge heq => h edge.1 (heq ▸ hedge)⟩

/-- The edges from a key that is done no longer count. -/
theorem openEdges_snoc (edges : List (κ × κ)) {order : List κ} {c : κ} (hc : c ∉ order) (k : κ) :
    openEdges edges order k = openEdges edges (order ++ [c]) k + edges.count (c, k) := by
  induction edges with
  | nil => rfl
  | cons edge edges ih =>
      obtain ⟨p, x⟩ := edge
      unfold openEdges at ih ⊢
      rw [List.countP_cons, List.countP_cons, List.count_cons, ih]
      by_cases hx : x = k
      · by_cases hp : p = c
        · subst hx hp
          simp [hc]
          omega
        · simp [hx, hp]
          omega
      · simp [hx]

/-- What holds between two turns: the counts are those of the edges that are open, and the queue
    has what is ready, each once. -/
structure Sorting (edges : List (κ × κ)) (keys : List κ) (s : Kahn κ) : Prop where
  degree : ∀ k ∈ keys, s.degree k = openEdges edges s.order k
  queue_nodup : s.queue.Nodup
  mem_queue : ∀ k, k ∈ s.queue ↔ k ∈ keys ∧ Ready edges s.order.toFinset k
  least : LeastFirst edges keys s.order

namespace Kahn

/-- **The loop over the successors** of a key: each count is lowered by the edges that are done,
    and a key enters the queue when none is left. -/
theorem relax_foldl (ks : List κ) (s : Kahn κ) (hcount : ∀ k ∈ ks, (ks.count k : Int) ≤ s.degree k) :
    (ks.foldl relax s).order = s.order ∧
      (∀ k, (ks.foldl relax s).degree k = s.degree k - ks.count k) ∧
      (∀ k, k ∈ (ks.foldl relax s).queue ↔
        k ∈ s.queue ∨ k ∈ ks ∧ s.degree k = ks.count k) ∧
      ((∀ k ∈ s.queue, k ∉ ks) → s.queue.Nodup → (ks.foldl relax s).queue.Nodup) := by
  induction ks generalizing s with
  | nil => simp
  | cons c ks ih =>
      have hc := hcount c List.mem_cons_self
      rw [List.count_cons_self] at hc
      have hdegree : ∀ k, (s.relax c).degree k = if k = c then s.degree c - 1 else s.degree k :=
        fun k => Function.update_apply _ _ _ k
      have hqueue : (s.relax c).queue
          = if s.degree c - 1 = 0 then c :: s.queue else s.queue := by
        simp [relax]
      have hne : ∀ k, k ≠ c → (c :: ks).count k = ks.count k :=
        fun k hk => List.count_cons_of_ne hk.symm
      have hrest : ∀ k ∈ ks, (ks.count k : Int) ≤ (s.relax c).degree k := by
        intro k hk
        rw [hdegree]
        split
        · next heq =>
            subst heq
            omega
        · next hk' =>
            rw [← hne k hk']
            exact hcount k (List.mem_cons_of_mem _ hk)
      obtain ⟨horder, hdegrees, hmem, hnodup⟩ := ih (s.relax c) hrest
      refine ⟨horder, fun k => ?_, fun k => ?_, fun hapart hqueueNodup => hnodup ?_ ?_⟩
      · rw [List.foldl_cons, hdegrees, hdegree]
        split
        · next heq =>
            subst heq
            rw [List.count_cons_self]
            omega
        · next hk => rw [hne k hk]
      · rw [List.foldl_cons, hmem, hdegree, hqueue]
        by_cases hk : k = c
        · subst hk
          have hzero : k ∈ ks ↔ 0 < ks.count k := List.count_pos_iff.symm
          rw [if_pos rfl, List.count_cons_self, hzero]
          split
          · simp only [List.mem_cons, true_or, true_and]
            refine iff_of_true trivial (.inr ?_)
            omega
          · simp only [List.mem_cons, true_or, true_and]
            refine or_congr_right ?_
            omega
        · rw [if_neg hk, hne k hk]
          split
          · simp [hk]
          · simp [hk]
      · intro k hk hks
        rw [hqueue] at hk
        split at hk
        · next hlast =>
            rcases List.mem_cons.mp hk with rfl | hk
            · have hpos := List.count_pos_iff.mpr hks
              omega
            · exact hapart k hk (List.mem_cons_of_mem _ hks)
        · exact hapart k hk (List.mem_cons_of_mem _ hks)
      · rw [hqueue]
        split
        · exact List.nodup_cons.mpr ⟨fun hmem => hapart c hmem List.mem_cons_self, hqueueNodup⟩
        · exact hqueueNodup

section Sorting

variable {successors : κ → List κ} {edges : List (κ × κ)} {keys : List κ} {s s' : Kahn κ}
  (hsuccessors : ∀ p k, (successors p).count k = edges.count (p, k))
  (hedges : ∀ edge ∈ edges, edge.1 ∈ keys ∧ edge.2 ∈ keys)

/-- What the algorithm starts with: the number of edges into every key, and the keys that have
    none. -/
theorem sorting_start {degree : κ → Int} {queue : List κ}
    (hdegree : ∀ k ∈ keys, degree k = openEdges edges [] k) (hnodup : queue.Nodup)
    (hqueue : ∀ k, k ∈ queue ↔ k ∈ keys ∧ degree k = 0) :
    Sorting edges keys ⟨degree, queue, []⟩ := by
  refine ⟨hdegree, hnodup, fun k => (hqueue k).trans (and_congr_right fun hk => ?_), atEach_nil _⟩
  rw [hdegree k hk, Int.natCast_eq_zero, openEdges_eq_zero]
  simp [Ready, mem_parentsOf]

include hsuccessors hedges

/-- **A turn keeps the invariant.** -/
theorem sorting_turn (h : Sorting edges keys s) (hturn : s.turn successors = some s') :
    Sorting edges keys s' ∧ s'.order.length = s.order.length + 1 := by
  obtain ⟨⟨c, rest⟩, hpop, rfl⟩ := Option.map_eq_some_iff.mp hturn
  obtain ⟨hperm, hleast⟩ := popLeast_spec hpop
  have hcqueue : c ∈ s.queue := hperm.mem_iff.mp List.mem_cons_self
  obtain ⟨hckeys, hcready⟩ := (h.mem_queue c).mp hcqueue
  have hcorder : c ∉ s.order := fun hmem => hcready.1 (List.mem_toFinset.mpr hmem)
  obtain ⟨hcrest, hrestNodup⟩ := List.nodup_cons.mp (hperm.nodup_iff.mpr h.queue_nodup)
  have hmemRest : ∀ k, k ∈ rest ↔ k ∈ s.queue ∧ k ≠ c := by
    intro k
    rw [← hperm.mem_iff, List.mem_cons]
    constructor
    · intro hk
      exact ⟨.inr hk, fun heq => hcrest (heq ▸ hk)⟩
    · rintro ⟨rfl | hk, hne⟩
      · exact absurd rfl hne
      · exact hk
  have hsource : ∀ k, k ∈ successors c ↔ (c, k) ∈ edges := by
    intro k
    rw [← List.count_pos_iff, hsuccessors, List.count_pos_iff]
  have hopen := fun k => openEdges_snoc edges hcorder k
  have hcount : ∀ k ∈ successors c, ((successors c).count k : Int) ≤ s.degree k := by
    intro k hk
    rw [h.degree k (hedges _ ((hsource k).mp hk)).2, hsuccessors, hopen k]
    omega
  -- A key that is done has no edge from one that is not.
  have hdone : ∀ k ∈ s.order, (c, k) ∉ edges := by
    intro k hk hedge
    obtain ⟨before, after, heq⟩ := List.append_of_mem hk
    refine hcorder (heq ▸ List.mem_append_left _ ?_)
    exact LeastFirst.parents_before h.least heq hedge
  obtain ⟨horder, hdegree, hmem, hnodup⟩ :=
    relax_foldl (successors c) ⟨s.degree, rest, s.order ++ [c]⟩ hcount
  dsimp only at horder hdegree hmem hnodup ⊢
  refine ⟨⟨fun k hk => ?_, hnodup (fun k hk hks => ?_) hrestNodup, fun k => ?_, ?_⟩, ?_⟩
  · rw [hdegree, horder, h.degree k hk, hsuccessors, hopen k]
    omega
  · have hready := ((h.mem_queue k).mp ((hmemRest k).mp hk).1).2
    exact hcorder (List.mem_toFinset.mp (hready.2 c (mem_parentsOf.mpr ((hsource k).mp hks))))
  · rw [hmem, hmemRest, h.mem_queue, horder]
    simp only [Ready, mem_parentsOf, List.mem_toFinset, List.mem_append, List.mem_singleton]
    constructor
    · rintro (⟨⟨hk, hnot, hparents⟩, hne⟩ | ⟨hks, hlast⟩)
      · exact ⟨hk, not_or.mpr ⟨hnot, hne⟩, fun p hp => .inl (hparents p hp)⟩
      · have hedge := (hsource k).mp hks
        have hkeys := (hedges _ hedge).2
        rw [h.degree k hkeys, hsuccessors, hopen k] at hlast
        have hclosed : openEdges edges (s.order ++ [c]) k = 0 := by omega
        refine ⟨hkeys, not_or.mpr ⟨fun hk => hdone k hk hedge, ?_⟩, fun p hp => ?_⟩
        · rintro rfl
          exact hcorder (List.mem_toFinset.mp (hcready.2 k (mem_parentsOf.mpr hedge)))
        · exact List.mem_append.mp (openEdges_eq_zero.mp hclosed p hp) |>.imp_right
            List.mem_singleton.mp
    · rintro ⟨hk, hnot, hparents⟩
      obtain ⟨hnotOrder, hne⟩ := not_or.mp hnot
      by_cases hedge : (c, k) ∈ edges
      · refine .inr ⟨(hsource k).mpr hedge, ?_⟩
        have hclosed : openEdges edges (s.order ++ [c]) k = 0 := by
          refine openEdges_eq_zero.mpr fun p hp => List.mem_append.mpr ?_
          exact (hparents p hp).imp_right List.mem_singleton.mpr
        rw [h.degree k hk, hsuccessors, hopen k, hclosed]
        omega
      · refine .inl ⟨⟨hk, hnotOrder, fun p hp => ?_⟩, hne⟩
        rcases hparents p hp with hp' | rfl
        · exact hp'
        · exact absurd hp hedge
  · rw [horder]
    refine AtEach.snoc h.least ⟨⟨hckeys, hcready⟩, fun k hk => ?_⟩
    exact hleast k ((h.mem_queue k).mpr hk)
  · rw [horder, List.length_append, List.length_singleton]

/-- **A run ends** with nothing ready any more. -/
theorem sorting_run (fuel : Nat) (h : Sorting edges keys s)
    (hfuel : keys.length < fuel + s.order.length) :
    ∃ s', s.run successors fuel = some s' ∧ Sorting edges keys s' ∧ s'.queue = [] := by
  induction fuel generalizing s with
  | zero =>
      have hle : s.order.length ≤ keys.length :=
        (List.subperm_of_subset h.least.nodup fun _ hk => h.least.mem_keys hk).length_le
      omega
  | succ fuel ih =>
      unfold run
      cases hturn : s.turn successors with
      | none =>
          have hempty := popLeast_eq_none.mp (Option.map_eq_none_iff.mp hturn)
          exact ⟨s, rfl, h, hempty⟩
      | some next =>
          obtain ⟨hnext, hlength⟩ := sorting_turn hsuccessors hedges h hturn
          exact ih hnext (by omega)

/-- **Kahn's algorithm** on an acyclic graph: every key comes out once, always the least of those
    that are ready. -/
theorem run_spec (h : Sorting edges keys s) (horder : s.order = []) (hacyclic : Acyclic edges)
    (hnodup : keys.Nodup) :
    ∃ s', s.run successors (keys.length + 1) = some s' ∧ s'.order.Perm keys ∧
      LeastFirst edges keys s'.order := by
  obtain ⟨s', hrun, hs', hempty⟩ := sorting_run hsuccessors hedges (keys.length + 1) h
    (by rw [horder, List.length_nil]; omega)
  refine ⟨s', hrun, (List.perm_ext_iff_of_nodup hs'.least.nodup hnodup).mpr fun k => ?_, hs'.least⟩
  refine ⟨fun hk => hs'.least.mem_keys hk, fun hk => ?_⟩
  by_contra hleft
  have hsources : ∀ edge ∈ edges, edge.1 ∈ keys.toFinset :=
    fun edge hedge => List.mem_toFinset.mpr (hedges edge hedge).1
  have hopen : k ∉ s'.order.toFinset := fun hmem => hleft (List.mem_toFinset.mp hmem)
  obtain ⟨r, hr, hready⟩ := exists_ready hacyclic hsources (List.mem_toFinset.mpr hk) hopen
  have hqueue := (hs'.mem_queue r).mpr ⟨List.mem_toFinset.mp hr, hready⟩
  rw [hempty] at hqueue
  cases hqueue

end Sorting

end Kahn

end Eag.Foundation
