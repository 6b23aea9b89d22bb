/-
  Eag.Foundation.Ranking

  The best of what is offered. Offers for a key are filed in a dict: the first offer files the
  key, a later one replaces the value only if its score is higher. The filed keys are then
  sorted by a key of the pair, and the first ones are taken.

  `get?_offers` says which value is filed, `arrived_keys` in which order the keys stand, and
  `mem_take_sortedBy_iff` which elements are among the first of a stable sort: those with few
  enough elements ahead of them.
-/

import Mathlib.Data.List.MinMax
import Eag.Foundation.Dict
import Eag.Foundation.FailedChecks

namespace Eag.Foundation

/-! ## The first of a stable sort -/

section Taken

variable {α β : Type} [LinearOrder β] [DecidableEq α]

/-- `y` comes before `x` in the sorted list: by its key, or by its place where the keys are
    equal. -/
def Ahead (key : α → β) (xs : List α) (x y : α) : Prop :=
  key y < key x ∨ key y = key x ∧ xs.idxOf y < xs.idxOf x

instance (key : α → β) (xs : List α) (x : α) : DecidablePred (Ahead key xs x) :=
  fun _ => inferInstanceAs (Decidable (_ ∨ _))

theorem ahead_irrefl (key : α → β) (xs : List α) (x : α) : ¬Ahead key xs x x := by
  rintro (h | ⟨-, h⟩)
  · exact lt_irrefl _ h
  · exact Nat.lt_irrefl _ h

theorem ahead_asymm {key : α → β} {xs : List α} {x y : α} (h : Ahead key xs x y) :
    ¬Ahead key xs y x := by
  rintro (h' | ⟨heq', h'⟩)
  · rcases h with h | ⟨heq, -⟩
    · exact lt_asymm h h'
    · exact absurd heq (ne_of_gt h')
  · rcases h with h | ⟨-, h⟩
    · exact absurd heq' (ne_of_gt h)
    · exact Nat.lt_asymm h h'

omit [DecidableEq α] in
theorem sortedBy_perm (key : α → β) (xs : List α) : (sortedBy key xs).Perm xs :=
  List.perm_insertionSort _ xs

omit [DecidableEq α] in
theorem sortedBy_sorted (key : α → β) (xs : List α) :
    (sortedBy key xs).Pairwise fun a b => key a ≤ key b :=
  haveI : Std.Total fun a b : α => key a ≤ key b := ⟨fun a b => le_total (key a) (key b)⟩
  haveI : IsTrans α fun a b => key a ≤ key b := ⟨fun _ _ _ h h' => le_trans h h'⟩
  List.pairwise_insertionSort _ _

/-- In a list without duplicates a pair stands in the order of its places. -/
theorem pair_sublist_iff {l : List α} (hnodup : l.Nodup) {a b : α} :
    [a, b].Sublist l ↔ b ∈ l ∧ l.idxOf a < l.idxOf b := by
  induction l with
  | nil => simp
  | cons c l ih =>
      obtain ⟨hc, hl⟩ := List.nodup_cons.mp hnodup
      rw [List.cons_sublist_cons', ih hl, List.singleton_sublist, List.mem_cons]
      by_cases hb : b = c
      · subst hb
        simp [hc]
      · by_cases ha : a = c
        · subst ha
          rw [List.idxOf_cons_self, List.idxOf_cons_ne _ (Ne.symm hb)]
          constructor
          · rintro (⟨h, -⟩ | ⟨-, h⟩)
            · exact ⟨.inr h, Nat.succ_pos _⟩
            · exact ⟨.inr h, Nat.succ_pos _⟩
          · rintro ⟨h | h, -⟩
            · exact absurd h hb
            · exact .inr ⟨rfl, h⟩
        · rw [List.idxOf_cons_ne _ (Ne.symm ha), List.idxOf_cons_ne _ (Ne.symm hb)]
          constructor
          · rintro (⟨h, hlt⟩ | ⟨h, -⟩)
            · exact ⟨.inr h, Nat.succ_lt_succ hlt⟩
            · exact absurd h ha
          · rintro ⟨h | h, hlt⟩
            · exact absurd h hb
            · exact .inl ⟨h, Nat.lt_of_succ_lt_succ hlt⟩

/-- The sort is stable. -/
theorem sortedBy_ahead (key : α → β) {xs : List α} (hnodup : xs.Nodup) :
    (sortedBy key xs).Pairwise fun a b => Ahead key xs b a := by
  have hsorted : (sortedBy key xs).Nodup := (nodup_sortedBy key).mpr hnodup
  refine List.pairwise_iff_forall_sublist.mpr fun {a b} hpair => ?_
  have hle : key a ≤ key b := List.pairwise_iff_forall_sublist.mp (sortedBy_sorted key xs) hpair
  rcases lt_or_eq_of_le hle with hlt | heq
  · exact .inl hlt
  · refine .inr ⟨heq, ?_⟩
    obtain ⟨hb, hplaces⟩ := (pair_sublist_iff hsorted).mp hpair
    by_contra hnot
    have ha : a ∈ xs := (mem_sortedBy key).mp (hpair.subset List.mem_cons_self)
    have hne : xs.idxOf a ≠ xs.idxOf b := by
      intro h
      rw [(List.idxOf_inj ha).mp h] at hplaces
      exact Nat.lt_irrefl _ hplaces
    -- The sort keeps two elements with one key in the order they had.
    have hswapped : [b, a].Sublist xs := (pair_sublist_iff hnodup).mpr ⟨ha, by omega⟩
    have hkept : [b, a].Sublist (sortedBy key xs) :=
      haveI : Std.Total fun a b : α => key a ≤ key b := ⟨fun a b => le_total (key a) (key b)⟩
      haveI : IsTrans α fun a b => key a ≤ key b := ⟨fun _ _ _ h h' => le_trans h h'⟩
      List.pair_sublist_insertionSort heq.ge hswapped
    have hback := ((pair_sublist_iff hsorted).mp hkept).2
    omega

/-- **Among the first** are the elements with fewer elements ahead of them. -/
theorem mem_take_sortedBy_iff (key : α → β) {xs : List α} (hnodup : xs.Nodup) {x : α} {n : Nat} :
    x ∈ (sortedBy key xs).take n ↔
      x ∈ xs ∧ (xs.filter fun y => Ahead key xs x y).length < n := by
  have hsorted := sortedBy_ahead key hnodup
  have hperm := sortedBy_perm key xs
  have hcount : (xs.filter fun y => Ahead key xs x y).length =
      ((sortedBy key xs).filter fun y => Ahead key xs x y).length :=
    (hperm.filter _).length_eq.symm
  rw [hcount, ← hperm.mem_iff]
  generalize sortedBy key xs = sorted at hsorted
  induction sorted generalizing n with
  | nil => simp
  | cons first rest ih =>
      obtain ⟨hfirst, hrest⟩ := List.pairwise_cons.mp hsorted
      cases n with
      | zero => simp
      | succ n =>
          have hrestIff : x ∈ rest.take n ↔
              x ∈ rest ∧ (rest.filter fun y => Ahead key xs x y).length < n := ih hrest
          rw [List.take_succ_cons, List.mem_cons, List.mem_cons, hrestIff, List.filter_cons]
          by_cases hx : x = first
          · subst hx
            have hnone : rest.filter (fun y => Ahead key xs x y) = [] := by
              refine List.filter_eq_nil_iff.mpr fun y hy => ?_
              rw [decide_eq_true_eq]
              exact ahead_asymm (hfirst y hy)
            simp [ahead_irrefl, hnone]
          · constructor
            · rintro (h | ⟨hmem, hlt⟩)
              · exact absurd h hx
              · rw [if_pos (decide_eq_true (hfirst x hmem)), List.length_cons]
                exact ⟨.inr hmem, Nat.succ_lt_succ hlt⟩
            · rintro ⟨h | hmem, hlt⟩
              · exact absurd h hx
              · rw [if_pos (decide_eq_true (hfirst x hmem)), List.length_cons] at hlt
                exact .inr ⟨hmem, Nat.lt_of_succ_lt_succ hlt⟩

end Taken

/-! ## Offers -/

section Offers

variable {κ ν : Type} [DecidableEq κ] (score : ν → Int)

-- Of the orders that Mathlib gives the integers, the one that computes.
local instance (priority := high) intPreorder : Preorder Int := Int.instLinearOrder.toPreorder

/-- File an offer if nothing is filed under its key, or something of a lower score. -/
def Dict.offer (d : Dict κ ν) (k : κ) (v : ν) : Dict κ ν :=
  match d.get? k with
  | none => d.set k v
  | some filed => if score filed < score v then d.set k v else d

/-- The offers, one after another. -/
def Dict.offers (d : Dict κ ν) (pairs : List (κ × ν)) : Dict κ ν :=
  pairs.foldl (fun d pair => d.offer score pair.1 pair.2) d

/-- The best offer for a key: the first of those with the highest score. -/
def bestOffer (pairs : List (κ × ν)) (k : κ) : Option ν :=
  ((pairs.filter fun pair => pair.1 = k).map Prod.snd).argmax score

/-- Every key for which something is offered, in the order of the first offers, with its best
    offer. -/
def standings (pairs : List (κ × ν)) : List (κ × ν) :=
  (pairs.map Prod.fst).eraseDups.filterMap fun k => (bestOffer score pairs k).map (Prod.mk k)

theorem Dict.items_eq (d : Dict κ ν) :
    d.items = d.keys.filterMap fun k => (d.get? k).map (Prod.mk k) := by
  have hself : ∀ item ∈ d.items, (d.get? item.1).map (Prod.mk item.1) = some item := by
    intro item hitem
    rw [Dict.get?_eq_some.mpr (show (item.1, item.2) ∈ d.items from hitem), Option.map_some]
  rw [Dict.keys, List.filterMap_map]
  conv_lhs => rw [← List.filterMap_some (l := d.items)]
  exact (List.filterMap_congr hself).symm

theorem Dict.get?_set (d : Dict κ ν) (k other : κ) (v : ν) :
    (d.set k v).get? other = if other = k then some v else d.get? other := by
  split
  · next h =>
      rw [Dict.get?_eq_some, Dict.mem_set, h]
      exact .inl rfl
  · next h =>
      ext w
      simp only [Dict.get?_eq_some, Dict.mem_set, Prod.mk.injEq, h, false_and, false_or, ne_eq,
        not_false_eq_true, and_true]

theorem Dict.keys_set (d : Dict κ ν) (k : κ) (v : ν) :
    (d.set k v).keys = if k ∈ d.keys then d.keys else d.keys ++ [k] :=
  Dict.keys_setItems d.items k v

theorem Dict.keys_offer (d : Dict κ ν) (k : κ) (v : ν) :
    (d.offer score k v).keys = if k ∈ d.keys then d.keys else d.keys ++ [k] := by
  unfold Dict.offer
  split
  · exact d.keys_set k v
  · next filed h =>
      have hk : k ∈ d.keys := Dict.mem_keys.mpr ⟨filed, Dict.get?_eq_some.mp h⟩
      have hset := d.keys_set k v
      rw [if_pos hk] at hset ⊢
      split
      · exact hset
      · rfl

theorem Dict.get?_offer (d : Dict κ ν) (k other : κ) (v : ν) :
    (d.offer score k v).get? other =
      if other = k then
        some (match d.get? k with
          | none => v
          | some filed => if score filed < score v then v else filed)
      else d.get? other := by
  unfold Dict.offer
  split
  · next h => rw [Dict.get?_set]
  · next filed h =>
      split
      · rw [Dict.get?_set]
      · split
        · next heq => rw [heq, h]
        · rfl

theorem Dict.offers_concat (d : Dict κ ν) (pairs : List (κ × ν)) (pair : κ × ν) :
    d.offers score (pairs ++ [pair]) = (d.offers score pairs).offer score pair.1 pair.2 := by
  rw [Dict.offers, List.foldl_append]
  rfl

theorem bestOffer_concat (pairs : List (κ × ν)) (pair : κ × ν) (k : κ) :
    bestOffer score (pairs ++ [pair]) k =
      if k = pair.1 then
        some (match bestOffer score pairs k with
          | none => pair.2
          | some best => if score best < score pair.2 then pair.2 else best)
      else bestOffer score pairs k := by
  rw [bestOffer, bestOffer, List.filter_append, List.map_append]
  split
  · next h =>
      have hlast : ([pair].filter fun pair => pair.1 = k).map Prod.snd = [pair.2] := by
        simp [h]
      rw [hlast, List.argmax_concat]
      cases ((pairs.filter fun pair => pair.1 = k).map Prod.snd).argmax score with
      | none => rfl
      | some best =>
          show (if score best < score pair.2 then some pair.2 else some best) =
            some (if score best < score pair.2 then pair.2 else best)
          exact (apply_ite some _ _ _).symm
  · next h =>
      have hlast : [pair].filter (fun pair => pair.1 = k) = [] := by
        simp [Ne.symm h]
      rw [hlast, List.map_nil, List.append_nil]

/-- The keys are filed in the order of their first offers. -/
theorem Dict.keys_offers (pairs : List (κ × ν)) :
    (Dict.empty.offers score pairs).keys = (pairs.map Prod.fst).eraseDups := by
  induction pairs using List.reverseRecOn with
  | nil => rfl
  | append_singleton pairs pair ih =>
      rw [Dict.offers_concat, Dict.keys_offer, ih, List.map_append, List.eraseDups_append,
        List.map_singleton]
      by_cases hmem : pair.1 ∈ pairs.map Prod.fst
      · rw [if_pos (List.mem_eraseDups.mpr hmem)]
        simp [List.removeAll, hmem]
      · rw [if_neg (mt List.mem_eraseDups.mp hmem)]
        simp [List.removeAll, hmem, List.eraseDups_cons]

/-- **What is filed** under a key is the best offer for it. -/
theorem Dict.get?_offers (pairs : List (κ × ν)) (k : κ) :
    (Dict.empty.offers score pairs).get? k = bestOffer score pairs k := by
  induction pairs using List.reverseRecOn with
  | nil => rfl
  | append_singleton pairs pair ih =>
      rw [Dict.offers_concat, Dict.get?_offer, bestOffer_concat, ih]
      split
      · next h => rw [← h, ih]
      · rfl

theorem bestOffer_mem {pairs : List (κ × ν)} {k : κ} {v : ν}
    (h : bestOffer score pairs k = some v) : (k, v) ∈ pairs := by
  have hmem := List.argmax_mem (Option.mem_def.mpr h)
  obtain ⟨pair, hpair, rfl⟩ := List.mem_map.mp hmem
  obtain ⟨hpair, hkey⟩ := List.mem_filter.mp hpair
  rw [← of_decide_eq_true hkey]
  exact hpair

theorem le_bestOffer {pairs : List (κ × ν)} {k : κ} {v w : ν}
    (h : bestOffer score pairs k = some v) (hw : (k, w) ∈ pairs) : score w ≤ score v := by
  refine List.le_of_mem_argmax (List.mem_map.mpr ⟨(k, w), ?_, rfl⟩) (Option.mem_def.mpr h)
  exact List.mem_filter.mpr ⟨hw, decide_eq_true rfl⟩

theorem exists_bestOffer {pairs : List (κ × ν)} {k : κ} {w : ν} (hw : (k, w) ∈ pairs) :
    ∃ v, bestOffer score pairs k = some v := by
  refine Option.ne_none_iff_exists'.mp fun hnone => ?_
  have hempty := List.argmax_eq_none.mp hnone
  have hmem : w ∈ (pairs.filter fun pair => pair.1 = k).map Prod.snd :=
    List.mem_map.mpr ⟨(k, w), List.mem_filter.mpr ⟨hw, decide_eq_true rfl⟩, rfl⟩
  rw [hempty] at hmem
  cases hmem

theorem mem_standings {pairs : List (κ × ν)} {item : κ × ν} :
    item ∈ standings score pairs ↔ bestOffer score pairs item.1 = some item.2 := by
  simp only [standings, List.mem_filterMap, List.mem_eraseDups, Option.map_eq_some_iff]
  constructor
  · rintro ⟨k, -, v, hv, rfl⟩
    exact hv
  · intro h
    exact ⟨item.1, List.mem_map_of_mem (bestOffer_mem score h), item.2, h, rfl⟩

theorem Dict.items_offers (pairs : List (κ × ν)) :
    (Dict.empty.offers score pairs).items = standings score pairs := by
  rw [Dict.items_eq, Dict.keys_offers, standings]
  exact List.filterMap_congr fun k _ => by rw [Dict.get?_offers]

theorem standings_nodup (pairs : List (κ × ν)) : (standings score pairs).Nodup := by
  rw [← Dict.items_offers]
  exact List.Nodup.of_map Prod.fst (Dict.empty.offers score pairs).keys_nodup

end Offers

end Eag.Foundation
