/-
  Eag.Foundation.DepthFirst

  Depth-first search over a dependency graph, written with nested calls: a key is marked
  as visited when it is entered and finished when all its children are. With `detect` the
  search stops at a child that is still on the path to it.

  One invariant (`Searched`) carries both uses. A search that detects cycles ends exactly
  on the acyclic graphs (`search_isOk_iff`), and there the keys come out with every parent
  before its children, newest first (`search_order`).
-/

import Mathlib.Data.Finset.Dedup
import Eag.Foundation.Dag

namespace Eag.Foundation

variable {κ : Type _} [DecidableEq κ]

/-- The targets of the edges out of a key, in the order of the edges. -/
def childrenOf (edges : List (κ × κ)) (k : κ) : List κ :=
  (edges.filter fun edge => edge.1 = k).map Prod.snd

theorem mem_childrenOf {edges : List (κ × κ)} {p k : κ} :
    k ∈ childrenOf edges p ↔ (p, k) ∈ edges := by
  simp only [childrenOf, List.mem_map, List.mem_filter, decide_eq_true_eq]
  constructor
  · rintro ⟨⟨source, target⟩, ⟨hmem, rfl⟩, rfl⟩
    exact hmem
  · intro hmem
    exact ⟨(p, k), ⟨hmem, rfl⟩, rfl⟩

/-! ## The search -/

/-- How a search stops without a result. `stuck` stands for a search of the model that
    ran out of steps. -/
inductive VisitEnd where
  | cycle
  | stuck
  deriving DecidableEq, Repr

/-- The keys entered and the keys finished so far, the newest first. -/
structure Visits (κ : Type _) where
  visited : List κ
  finished : List κ

section Search

variable (children : κ → List κ) (detect : Bool)

/-- The loop over the children of the key at the head of the path. -/
def visitChildren (visit : Visits κ → κ → Except VisitEnd (Visits κ)) (path : List κ) :
    Visits κ → List κ → Except VisitEnd (Visits κ)
  | s, [] => .ok s
  | s, c :: rest =>
      if c ∉ s.visited then
        match visit s c with
        | .error e => .error e
        | .ok s => visitChildren visit path s rest
      else if detect = true ∧ c ∈ path then .error .cycle
      else visitChildren visit path s rest

/-- Enter a key below `path`, with room for `fuel` nested calls. -/
def visit : Nat → List κ → Visits κ → κ → Except VisitEnd (Visits κ)
  | 0, _, _, _ => .error .stuck
  | fuel + 1, path, s, k =>
      match visitChildren detect (visit fuel (k :: path)) (k :: path)
          ⟨k :: s.visited, s.finished⟩ (children k) with
      | .error e => .error e
      | .ok s => .ok ⟨s.visited, k :: s.finished⟩

/-- Search from every root in turn. -/
def search (roots : List κ) : Except VisitEnd (Visits κ) :=
  visitChildren detect (visit children detect roots.length []) [] ⟨[], []⟩ roots

end Search

/-! ## The invariant -/

section Invariant

variable {children : κ → List κ} {detect : Bool} {edges : List (κ × κ)}

/-- The children of a finished key are finished, and it stands in front of them. -/
def ParentsFirst (edges : List (κ × κ)) (finished : List κ) : Prop :=
  ∀ p ∈ finished, ∀ c, (p, c) ∈ edges → c ∈ finished ∧ finished.idxOf p < finished.idxOf c

/-- What holds between two steps of a search: the keys of the path are visited and all
    other visited keys are finished, once each and behind their parents. -/
structure Searched (edges : List (κ × κ)) (path : List κ) (s : Visits κ) : Prop where
  visited_of_path : ∀ k ∈ path, k ∈ s.visited
  mem_finished : ∀ k, k ∈ s.finished ↔ k ∈ s.visited ∧ k ∉ path
  nodup : s.finished.Nodup
  parentsFirst : ParentsFirst edges s.finished

/-- A key is no ancestor of itself on the path, or the search would notice. -/
def Guarded (detect : Bool) (edges : List (κ × κ)) (path : List κ) (c : κ) : Prop :=
  detect = true ∨ Acyclic edges ∧ ∀ k ∈ path, Relation.TransGen (Precedes edges) k c

omit [DecidableEq κ] in
theorem Guarded.not_mem_path {path : List κ} {c : κ} (h : Guarded detect edges path c)
    (hskip : ¬ (detect = true ∧ c ∈ path)) : c ∉ path := by
  intro hmem
  rcases h with hdetect | ⟨hacyclic, hpath⟩
  · exact hskip ⟨hdetect, hmem⟩
  · exact hacyclic c (hpath c hmem)

omit [DecidableEq κ] in
/-- The children of a guarded key are guarded below it. -/
theorem Guarded.child {path : List κ} {k c : κ} (h : Guarded detect edges path k)
    (hedge : (k, c) ∈ edges) : Guarded detect edges (k :: path) c := by
  refine h.imp_right fun ⟨hacyclic, hpath⟩ => ⟨hacyclic, fun ancestor hancestor => ?_⟩
  rcases List.mem_cons.mp hancestor with rfl | hancestor
  · exact Relation.TransGen.single hedge
  · exact (hpath ancestor hancestor).tail hedge

/-- A finished key in front of its finished children keeps the order. -/
theorem ParentsFirst.cons {finished : List κ} {k : κ} (h : ParentsFirst edges finished)
    (hk : k ∉ finished) (hchildren : ∀ c, (k, c) ∈ edges → c ∈ finished) :
    ParentsFirst edges (k :: finished) := by
  intro p hp c hedge
  have hbehind : ∀ x ∈ finished, (k :: finished).idxOf x = finished.idxOf x + 1 := by
    intro x hx
    exact List.idxOf_cons_ne _ fun heq => hk (heq ▸ hx)
  rcases List.mem_cons.mp hp with rfl | hp
  · have hc := hchildren c hedge
    refine ⟨List.mem_cons_of_mem _ hc, ?_⟩
    rw [List.idxOf_cons_self, hbehind c hc]
    omega
  · obtain ⟨hc, hlt⟩ := h p hp c hedge
    refine ⟨List.mem_cons_of_mem _ hc, ?_⟩
    rw [hbehind p hp, hbehind c hc]
    omega

variable (edges) in
/-- What entering a key does: the invariant is kept, and the key is visited. -/
def KeepsSearched (visit : Visits κ → κ → Except VisitEnd (Visits κ)) (path : List κ)
    (c : κ) : Prop :=
  ∀ s s', visit s c = .ok s' → Searched edges path s → c ∉ s.visited →
    Searched edges path s' ∧ c ∈ s'.visited ∧ ∀ k ∈ s.visited, k ∈ s'.visited

/-- The loop keeps the invariant, and leaves every child finished. -/
theorem searched_visitChildren {visit : Visits κ → κ → Except VisitEnd (Visits κ)}
    {path : List κ} (cs : List κ) (hvisit : ∀ c ∈ cs, KeepsSearched edges visit path c)
    (hguarded : ∀ c ∈ cs, Guarded detect edges path c) (s s' : Visits κ)
    (h : visitChildren detect visit path s cs = .ok s') (hs : Searched edges path s) :
    Searched edges path s' ∧ (∀ c ∈ cs, c ∈ s'.finished) ∧ ∀ k ∈ s.visited, k ∈ s'.visited := by
  induction cs generalizing s with
  | nil =>
      cases h
      exact ⟨hs, nofun, fun _ hk => hk⟩
  | cons c rest ih =>
      have hrestVisit := fun c hc => hvisit c (List.mem_cons_of_mem _ hc)
      have hrestGuarded := fun c hc => hguarded c (List.mem_cons_of_mem _ hc)
      unfold visitChildren at h
      split at h
      · next hnew =>
          split at h
          · cases h
          · next s₁ hs₁ =>
              obtain ⟨hinv, hc, hmono⟩ := hvisit c List.mem_cons_self s s₁ hs₁ hs hnew
              obtain ⟨hinv', hall, hmono'⟩ := ih hrestVisit hrestGuarded s₁ h hinv
              have hpath : c ∉ path := fun hmem => hnew (hs.visited_of_path c hmem)
              refine ⟨hinv', List.forall_mem_cons.mpr ⟨?_, hall⟩, fun k hk =>
                hmono' k (hmono k hk)⟩
              exact (hinv'.mem_finished c).mpr ⟨hmono' c hc, hpath⟩
      · next hold =>
          split at h
          · cases h
          · next hskip =>
              obtain ⟨hinv', hall, hmono'⟩ := ih hrestVisit hrestGuarded s h hs
              have hpath := (hguarded c List.mem_cons_self).not_mem_path hskip
              refine ⟨hinv', List.forall_mem_cons.mpr ⟨?_, hall⟩, hmono'⟩
              exact (hinv'.mem_finished c).mpr ⟨hmono' c (not_not.mp hold), hpath⟩

variable (hchildren : ∀ p c, c ∈ children p ↔ (p, c) ∈ edges)
include hchildren

/-- **Entering a key keeps the invariant.** -/
theorem searched_visit (fuel : Nat) (path : List κ) (k : κ)
    (hguarded : Guarded detect edges path k) :
    KeepsSearched edges (visit children detect fuel path) path k := by
  induction fuel generalizing path k with
  | zero => exact fun _ _ h => nomatch h
  | succ fuel ih =>
      intro s s' h hs hnew
      unfold visit at h
      split at h
      · cases h
      · next s₁ hs₁ =>
          cases h
          have hpath : k ∉ path := fun hmem => hnew (hs.visited_of_path k hmem)
          -- With the key on the path, what is finished stays the same.
          have hentered : Searched edges (k :: path) ⟨k :: s.visited, s.finished⟩ := by
            refine ⟨?_, fun x => ?_, hs.nodup, hs.parentsFirst⟩
            · intro x hx
              exact (List.mem_cons.mp hx).elim (fun h => h ▸ List.mem_cons_self)
                fun hx => List.mem_cons_of_mem _ (hs.visited_of_path x hx)
            · rw [hs.mem_finished]
              simp only [List.mem_cons, not_or]
              constructor
              · rintro ⟨hx, hxpath⟩
                exact ⟨Or.inr hx, fun heq => hnew (heq ▸ hx), hxpath⟩
              · rintro ⟨rfl | hx, hne, hxpath⟩
                · exact absurd rfl hne
                · exact ⟨hx, hxpath⟩
          have hbelow : ∀ c ∈ children k, Guarded detect edges (k :: path) c :=
            fun c hc => hguarded.child ((hchildren k c).mp hc)
          obtain ⟨hinv, hall, hmono⟩ := searched_visitChildren (children k)
            (fun c hc => ih (k :: path) c (hbelow c hc)) hbelow _ _ hs₁ hentered
          have hunfinished : k ∉ s₁.finished := fun hmem =>
            ((hinv.mem_finished k).mp hmem).2 List.mem_cons_self
          refine ⟨⟨fun x hx => hinv.visited_of_path x (List.mem_cons_of_mem _ hx), fun x => ?_,
              List.nodup_cons.mpr ⟨hunfinished, hinv.nodup⟩, ?_⟩,
            hmono k List.mem_cons_self, fun x hx => hmono x (List.mem_cons_of_mem _ hx)⟩
          · rw [List.mem_cons, hinv.mem_finished x, List.mem_cons, not_or]
            constructor
            · rintro (rfl | ⟨hx, -, hxpath⟩)
              · exact ⟨hmono x List.mem_cons_self, hpath⟩
              · exact ⟨hx, hxpath⟩
            · rintro ⟨hx, hxpath⟩
              by_cases heq : x = k
              · exact Or.inl heq
              · exact Or.inr ⟨hx, heq, hxpath⟩
          · exact hinv.parentsFirst.cons hunfinished fun c hedge =>
              hall c ((hchildren k c).mpr hedge)

end Invariant

/-! ## The ways a search ends -/

section Ends

variable {children : κ → List κ} {detect : Bool} {edges : List (κ × κ)}

variable (detect) in
/-- A loop over children that cannot close a cycle, where entering them does not either,
    does not end at a cycle. -/
theorem visitChildren_ne_cycle {visit : Visits κ → κ → Except VisitEnd (Visits κ)}
    (path cs : List κ) (hvisit : ∀ c ∈ cs, ∀ s, visit s c ≠ .error .cycle)
    (hpath : ∀ c ∈ cs, c ∉ path) (s : Visits κ) :
    visitChildren detect visit path s cs ≠ .error .cycle := by
  induction cs generalizing s with
  | nil => nofun
  | cons c rest ih =>
      have hrest := fun s => ih (fun c hc => hvisit c (List.mem_cons_of_mem _ hc))
        (fun c hc => hpath c (List.mem_cons_of_mem _ hc)) s
      unfold visitChildren
      split
      · split
        · next e he =>
            intro h
            cases Except.error.inj h
            exact hvisit c List.mem_cons_self s he
        · exact hrest _
      · split
        · next hclose => exact absurd hclose.2 (hpath c List.mem_cons_self)
        · exact hrest s

section

variable (hchildren : ∀ p c, c ∈ children p ↔ (p, c) ∈ edges) (hacyclic : Acyclic edges)
include hchildren hacyclic

/-- In an acyclic graph no child is on the path. -/
theorem visit_ne_cycle (fuel : Nat) (path : List κ) (s : Visits κ) (k : κ)
    (hpath : ∀ x ∈ path, Relation.TransGen (Precedes edges) x k) :
    visit children detect fuel path s k ≠ .error .cycle := by
  induction fuel generalizing path s k with
  | zero => nofun
  | succ fuel ih =>
      have hbelow : ∀ c ∈ children k, ∀ x ∈ k :: path,
          Relation.TransGen (Precedes edges) x c := by
        intro c hc x hx
        have hedge : Precedes edges k c := (hchildren k c).mp hc
        rcases List.mem_cons.mp hx with rfl | hx
        · exact Relation.TransGen.single hedge
        · exact (hpath x hx).tail hedge
      have hloop := visitChildren_ne_cycle detect (k :: path) (children k)
        (fun c hc s => ih (k :: path) s c (hbelow c hc))
        (fun c hc hmem => hacyclic c (hbelow c hc c hmem)) ⟨k :: s.visited, s.finished⟩
      unfold visit
      split
      · next e he =>
          intro h
          cases Except.error.inj h
          exact hloop he
      · nofun

end

/-- The keys that are not visited yet. -/
def unvisited (keys : Finset κ) (s : Visits κ) : Finset κ := keys.filter (· ∉ s.visited)

theorem unvisited_mono {keys : Finset κ} {s s' : Visits κ}
    (h : ∀ k ∈ s.visited, k ∈ s'.visited) : unvisited keys s' ⊆ unvisited keys s := by
  intro k hk
  rw [unvisited, Finset.mem_filter] at hk ⊢
  exact ⟨hk.1, fun hmem => hk.2 (h k hmem)⟩

/-- What was visited stays visited, and only keys are added. -/
structure Grows (keys : Finset κ) (s s' : Visits κ) : Prop where
  kept : ∀ k ∈ s.visited, k ∈ s'.visited
  added : ∀ k ∈ s'.visited, k ∈ s.visited ∨ k ∈ keys

omit [DecidableEq κ] in
theorem Grows.trans {keys : Finset κ} {s s₁ s' : Visits κ} (h : Grows keys s s₁)
    (h' : Grows keys s₁ s') : Grows keys s s' :=
  ⟨fun k hk => h'.kept k (h.kept k hk), fun k hk =>
    (h'.added k hk).elim (h.added k) Or.inr⟩

/-- Entering a key with room for the keys that are left comes to an end. -/
def Ends (visit : Visits κ → κ → Except VisitEnd (Visits κ)) (keys : Finset κ) (fuel : Nat)
    (c : κ) : Prop :=
  ∀ s, c ∉ s.visited → (unvisited keys s).card ≤ fuel →
    visit s c ≠ .error .stuck ∧ ∀ s', visit s c = .ok s' → Grows keys s s'

variable (detect) in
theorem ends_visitChildren {visit : Visits κ → κ → Except VisitEnd (Visits κ)}
    (path cs : List κ) {keys : Finset κ} {fuel : Nat}
    (hvisit : ∀ c ∈ cs, Ends visit keys fuel c) (s : Visits κ)
    (hfuel : (unvisited keys s).card ≤ fuel) :
    visitChildren detect visit path s cs ≠ .error .stuck ∧
      ∀ s', visitChildren detect visit path s cs = .ok s' → Grows keys s s' := by
  induction cs generalizing s with
  | nil =>
      refine ⟨nofun, fun s' h => ?_⟩
      cases h
      exact ⟨fun _ hk => hk, fun _ hk => Or.inl hk⟩
  | cons c rest ih =>
      have hrest := fun s hs => ih (fun c hc => hvisit c (List.mem_cons_of_mem _ hc)) s hs
      unfold visitChildren
      split
      · next hnew =>
          obtain ⟨hends, hgrows⟩ := hvisit c List.mem_cons_self s hnew hfuel
          split
          · next e he =>
              refine ⟨fun h => hends ?_, nofun⟩
              rw [he, Except.error.inj h]
          · next s₁ hs₁ =>
              have hless : (unvisited keys s₁).card ≤ (unvisited keys s).card :=
                Finset.card_le_card (unvisited_mono (hgrows s₁ hs₁).kept)
              obtain ⟨hends', hgrows'⟩ := hrest s₁ (hless.trans hfuel)
              exact ⟨hends', fun s' h => (hgrows s₁ hs₁).trans (hgrows' s' h)⟩
      · split
        · exact ⟨nofun, nofun⟩
        · exact hrest s hfuel

/-- **A search ends**: every nested call visits one more of the keys. -/
theorem ends_visit {keys : Finset κ} (hkeys : ∀ k, ∀ c ∈ children k, c ∈ keys) (fuel : Nat)
    (path : List κ) (k : κ) (hk : k ∈ keys) :
    Ends (visit children detect fuel path) keys fuel k := by
  induction fuel generalizing path k with
  | zero =>
      intro s hnew hfuel
      have hmem : k ∈ unvisited keys s := Finset.mem_filter.mpr ⟨hk, hnew⟩
      exact absurd (Finset.card_pos.mpr ⟨k, hmem⟩) (by omega)
  | succ fuel ih =>
      intro s hnew hfuel
      have hentered : (unvisited keys ⟨k :: s.visited, s.finished⟩).card ≤ fuel := by
        have hlt : (unvisited keys ⟨k :: s.visited, s.finished⟩).card <
            (unvisited keys s).card := by
          refine Finset.card_lt_card ⟨unvisited_mono fun x hx => List.mem_cons_of_mem _ hx, ?_⟩
          intro hsub
          have hmem := hsub (Finset.mem_filter.mpr ⟨hk, hnew⟩)
          exact (Finset.mem_filter.mp hmem).2 List.mem_cons_self
        omega
      obtain ⟨hends, hgrows⟩ := ends_visitChildren detect (k :: path) (children k)
        (fun c hc => ih (k :: path) c (hkeys k c hc))
        ⟨k :: s.visited, s.finished⟩ hentered
      unfold visit
      split
      · next e he =>
          refine ⟨fun h => hends ?_, nofun⟩
          rw [he, Except.error.inj h]
      · next s₁ hs₁ =>
          refine ⟨nofun, fun s' h => ?_⟩
          cases h
          have hs := hgrows s₁ hs₁
          refine ⟨fun x hx => hs.kept x (List.mem_cons_of_mem _ hx), fun x hx => ?_⟩
          rcases hs.added x hx with hx | hx
          · exact (List.mem_cons.mp hx).elim (fun heq => Or.inr (heq ▸ hk)) Or.inl
          · exact Or.inr hx

end Ends

/-! ## Whole searches -/

section Search

variable {children : κ → List κ} {edges : List (κ × κ)} {roots : List κ}
  (hchildren : ∀ p c, c ∈ children p ↔ (p, c) ∈ edges)
  (hends : ∀ edge ∈ edges, edge.1 ∈ roots ∧ edge.2 ∈ roots)
include hchildren

theorem searched_search {detect : Bool} (hsafe : detect = true ∨ Acyclic edges)
    {s : Visits κ} (h : search children detect roots = .ok s) :
    Searched edges [] s ∧ ∀ r ∈ roots, r ∈ s.finished := by
  have hguarded : ∀ c ∈ roots, Guarded detect edges [] c :=
    fun c _ => hsafe.imp_right fun hacyclic => ⟨hacyclic, nofun⟩
  have hstart : Searched edges [] ⟨[], []⟩ :=
    ⟨nofun, fun k => by simp, List.nodup_nil, nofun⟩
  obtain ⟨hs, hroots, -⟩ := searched_visitChildren roots
    (fun c hc => searched_visit hchildren roots.length [] c (hguarded c hc)) hguarded _ _ h hstart
  exact ⟨hs, hroots⟩

include hends

theorem ends_search (detect : Bool) :
    search children detect roots ≠ .error .stuck ∧
      ∀ s, search children detect roots = .ok s → ∀ k ∈ s.visited, k ∈ roots := by
  have hkeys : ∀ k, ∀ c ∈ children k, c ∈ roots.toFinset := fun k c hc =>
    List.mem_toFinset.mpr (hends (k, c) ((hchildren k c).mp hc)).2
  have hfuel : (unvisited roots.toFinset ⟨[], []⟩).card ≤ roots.length :=
    (Finset.card_filter_le _ _).trans (List.toFinset_card_le roots)
  obtain ⟨hstuck, hgrows⟩ := ends_visitChildren detect [] roots
    (fun c hc => ends_visit hkeys roots.length [] c (List.mem_toFinset.mpr hc)) ⟨[], []⟩ hfuel
  refine ⟨hstuck, fun s h k hk => ?_⟩
  rcases (hgrows s h).added k hk with hk | hk
  · cases hk
  · exact List.mem_toFinset.mp hk

/-- A search over an acyclic graph has a result. -/
theorem search_isOk_of_acyclic (hacyclic : Acyclic edges) (detect : Bool) :
    ∃ s, search children detect roots = .ok s := by
  cases h : search children detect roots with
  | ok s => exact ⟨s, rfl⟩
  | error e =>
      cases e with
      | stuck => exact absurd h (ends_search hchildren hends detect).1
      | cycle =>
          refine absurd h (visitChildren_ne_cycle detect [] roots (fun c _ s => ?_)
            (fun _ _ => List.not_mem_nil) _)
          exact visit_ne_cycle hchildren hacyclic roots.length [] s c nofun

/-- **Cycle detection is exact.** -/
theorem search_isOk_iff : (∃ s, search children true roots = .ok s) ↔ Acyclic edges := by
  constructor
  · rintro ⟨s, h⟩
    obtain ⟨hs, hroots⟩ := searched_search hchildren (Or.inl rfl) h
    -- The place in the order is a rank that grows along the edges.
    refine acyclic_of_rank s.finished.idxOf fun edge hedge => ?_
    exact (hs.parentsFirst edge.1 (hroots _ (hends edge hedge).1) edge.2 hedge).2
  · exact fun hacyclic => search_isOk_of_acyclic hchildren hends hacyclic true

/-- **The order of a search** over an acyclic graph: every root once, and every key in
    front of its children. -/
theorem search_order (hacyclic : Acyclic edges) (hnodup : roots.Nodup) :
    ∃ s, search children false roots = .ok s ∧ s.finished.Perm roots ∧
      ∀ edge ∈ edges, s.finished.idxOf edge.1 < s.finished.idxOf edge.2 := by
  obtain ⟨s, h⟩ := search_isOk_of_acyclic hchildren hends hacyclic false
  obtain ⟨hs, hroots⟩ := searched_search hchildren (Or.inr hacyclic) h
  refine ⟨s, h, (List.perm_ext_iff_of_nodup hs.nodup hnodup).mpr fun k => ?_, ?_⟩
  · refine ⟨fun hk => ?_, hroots k⟩
    exact (ends_search hchildren hends false).2 s h k ((hs.mem_finished k).mp hk).1
  · intro edge hedge
    exact (hs.parentsFirst edge.1 (hroots _ (hends edge hedge).1) edge.2 hedge).2

end Search

end Eag.Foundation
