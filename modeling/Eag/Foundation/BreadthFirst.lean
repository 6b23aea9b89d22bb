/-
  Eag.Foundation.BreadthFirst

  A bounded breadth-first expansion. A round adds to what was visited the neighbours of the
  frontier that were not; they are the next frontier, and a round that finds none ends the
  expansion early.

  `mem_rounds`: what has been visited after `n` rounds is what can be reached in `n` steps.
  `levels_spec`: the number of rounds that find something is the greatest distance.
-/

import Mathlib.Data.List.Basic
import Mathlib.Logic.Relation

namespace Eag.Foundation

variable {α : Type _}

/-- What can be reached from a start in a number of steps. -/
inductive WithinSteps (start : α → Prop) (adjacent : α → α → Prop) : Nat → α → Prop where
  | start {n : Nat} {x : α} : start x → WithinSteps start adjacent n x
  | step {n : Nat} {x y : α} : WithinSteps start adjacent n x → adjacent x y →
      WithinSteps start adjacent (n + 1) y

namespace WithinSteps

variable {start : α → Prop} {adjacent : α → α → Prop} {n m : Nat} {x : α}

@[simp] theorem zero_iff : WithinSteps start adjacent 0 x ↔ start x := by
  constructor
  · intro h
    cases h with
    | start hx => exact hx
  · exact .start

theorem succ (h : WithinSteps start adjacent n x) : WithinSteps start adjacent (n + 1) x := by
  induction h with
  | start hx => exact .start hx
  | step _ hadjacent ih => exact .step ih hadjacent

/-- One more step reaches what was within reach, and its neighbours. -/
theorem succ_iff : WithinSteps start adjacent (n + 1) x ↔
    WithinSteps start adjacent n x ∨ ∃ y, WithinSteps start adjacent n y ∧ adjacent y x := by
  constructor
  · intro h
    cases h with
    | start hx => exact .inl (.start hx)
    | step hy hadjacent => exact .inr ⟨_, hy, hadjacent⟩
  · rintro (h | ⟨y, hy, hadjacent⟩)
    · exact h.succ
    · exact .step hy hadjacent

/-- Where a step leads nowhere new, no number of steps does. -/
theorem of_closed (hclosed : ∀ y, WithinSteps start adjacent n y → ∀ z, adjacent y z →
      WithinSteps start adjacent n z) (h : WithinSteps start adjacent (n + m) x) :
    WithinSteps start adjacent n x := by
  induction m generalizing x with
  | zero => exact h
  | succ m ih =>
      rcases succ_iff.mp h with h | ⟨y, hy, hadjacent⟩
      · exact ih h
      · exact hclosed y (ih hy) x hadjacent

end WithinSteps

variable [DecidableEq α]

/-- The rounds: `around` gives the neighbours of a frontier. -/
def rounds (around : List α → List α) : Nat → List α → List α → List α
  | 0, _, visited => visited
  | n + 1, frontier, visited =>
      let next := (around frontier).filter (· ∉ visited)
      if next = [] then visited else rounds around n next (visited ++ next)

/-- The rounds so far: everything within reach was visited, and only the frontier can lead to
    something new. -/
structure Expanded (start : α → Prop) (adjacent : α → α → Prop) (n : Nat)
    (frontier visited : List α) : Prop where
  visited_iff : ∀ x, x ∈ visited ↔ WithinSteps start adjacent n x
  frontier_visited : frontier ⊆ visited
  settled : ∀ x ∈ visited, x ∉ frontier → ∀ y, adjacent x y → y ∈ visited

section Rounds

variable {start : α → Prop} {adjacent : α → α → Prop} {around : List α → List α}
  {frontier visited : List α} {n m : Nat}

omit [DecidableEq α] in
theorem expanded_start {starts : List α} (hstart : ∀ x, x ∈ starts ↔ start x) :
    Expanded start adjacent 0 starts starts where
  visited_iff x := by rw [WithinSteps.zero_iff, hstart]
  frontier_visited := fun _ h => h
  settled x hx hnot := absurd hx hnot

variable (haround : ∀ frontier y, y ∈ around frontier ↔ ∃ x ∈ frontier, adjacent x y)

include haround

/-- One round. -/
theorem Expanded.round (h : Expanded start adjacent n frontier visited) :
    Expanded start adjacent (n + 1) ((around frontier).filter (· ∉ visited))
      (visited ++ (around frontier).filter (· ∉ visited)) := by
  have hnext : ∀ y, y ∈ (around frontier).filter (· ∉ visited) ↔
      (∃ x ∈ frontier, adjacent x y) ∧ y ∉ visited := by
    intro y
    rw [List.mem_filter, haround, decide_eq_true_eq]
  -- A neighbour of something visited is visited or found in this round.
  have hfound : ∀ x ∈ visited, ∀ y, adjacent x y →
      y ∈ visited ++ (around frontier).filter (· ∉ visited) := by
    intro x hx y hadjacent
    rw [List.mem_append, hnext]
    by_cases hy : y ∈ visited
    · exact .inl hy
    · by_cases hfrontier : x ∈ frontier
      · exact .inr ⟨⟨x, hfrontier, hadjacent⟩, hy⟩
      · exact absurd (h.settled x hx hfrontier y hadjacent) hy
  refine ⟨fun y => ?_, fun y hy => List.mem_append_right _ hy, fun x hx hnot y hadjacent => ?_⟩
  · rw [WithinSteps.succ_iff]
    constructor
    · intro hy
      rcases List.mem_append.mp hy with hy | hy
      · exact .inl ((h.visited_iff y).mp hy)
      · obtain ⟨⟨x, hx, hadjacent⟩, -⟩ := (hnext y).mp hy
        exact .inr ⟨x, (h.visited_iff x).mp (h.frontier_visited hx), hadjacent⟩
    · rintro (hy | ⟨x, hx, hadjacent⟩)
      · exact List.mem_append_left _ ((h.visited_iff y).mpr hy)
      · exact hfound x ((h.visited_iff x).mpr hx) y hadjacent
  · rcases List.mem_append.mp hx with hx | hx
    · exact hfound x hx y hadjacent
    · exact absurd hx hnot

/-- A round that finds nothing new ends the expansion. -/
theorem Expanded.closed (h : Expanded start adjacent n frontier visited)
    (hnone : (around frontier).filter (· ∉ visited) = []) (x : α) :
    x ∈ visited ↔ WithinSteps start adjacent (n + m) x := by
  have hround := h.round haround
  rw [hnone, List.append_nil] at hround
  rw [h.visited_iff]
  constructor
  · intro hx
    induction m with
    | zero => exact hx
    | succ m ih => exact ih.succ
  · refine WithinSteps.of_closed fun y hy z hadjacent => ?_
    rw [← h.visited_iff, hround.visited_iff]
    exact .step hy hadjacent

/-- **What the rounds visit** is what can be reached in as many steps. -/
theorem Expanded.mem_rounds (h : Expanded start adjacent n frontier visited) (x : α) :
    x ∈ rounds around m frontier visited ↔ WithinSteps start adjacent (n + m) x := by
  induction m generalizing n frontier visited with
  | zero => exact h.visited_iff x
  | succ m ih =>
      rw [rounds]
      split
      · next hnone => exact h.closed haround hnone x
      · rw [ih (h.round haround), Nat.add_right_comm]
        rfl

end Rounds

/-! ## Distances -/

/-- `n` is the least number of steps that reaches `x`. -/
def AtDistance (start : α → Prop) (adjacent : α → α → Prop) (x : α) (n : Nat) : Prop :=
  WithinSteps start adjacent n x ∧ ∀ m < n, ¬WithinSteps start adjacent m x

section Levels

variable {start : α → Prop} {adjacent : α → α → Prop} {n m : Nat} {x : α}

omit [DecidableEq α] in
theorem WithinSteps.mono (h : WithinSteps start adjacent n x) (hle : n ≤ m) :
    WithinSteps start adjacent m x := by
  induction hle with
  | refl => exact h
  | step _ ih => exact ih.succ

omit [DecidableEq α] in
/-- What is within reach is at some distance. -/
theorem WithinSteps.atDistance (h : WithinSteps start adjacent n x) :
    ∃ m ≤ n, AtDistance start adjacent x m := by
  induction n with
  | zero => exact ⟨0, Nat.le_refl 0, h, fun m hm => absurd hm (Nat.not_lt_zero m)⟩
  | succ n ih =>
      by_cases hearlier : WithinSteps start adjacent n x
      · obtain ⟨m, hle, hm⟩ := ih hearlier
        exact ⟨m, Nat.le_succ_of_le hle, hm⟩
      · exact ⟨n + 1, Nat.le_refl _, h, fun m hm hwithin =>
          hearlier (hwithin.mono (Nat.le_of_lt_succ hm))⟩

omit [DecidableEq α] in
/-- What can be reached is within some number of steps. -/
theorem exists_withinSteps_iff {s : α} :
    (∃ n, WithinSteps (· = s) adjacent n x) ↔ Relation.ReflTransGen adjacent s x := by
  constructor
  · rintro ⟨n, h⟩
    induction h with
    | start hx => rw [hx]
    | step _ hadjacent ih => exact ih.tail hadjacent
  · intro h
    induction h with
    | refl => exact ⟨0, .start rfl⟩
    | tail _ hadjacent ih =>
        obtain ⟨n, hn⟩ := ih
        exact ⟨n + 1, .step hn hadjacent⟩

/-- The number of rounds that find something. -/
def levels (around : List α → List α) : Nat → List α → List α → Nat
  | 0, _, _ => 0
  | fuel + 1, frontier, visited =>
      let next := (around frontier).filter (· ∉ visited)
      if next = [] then 0 else levels around fuel next (visited ++ next) + 1

/-- A depth at which everything is within reach, and each level down to it has something new. -/
structure Deepest (start : α → Prop) (adjacent : α → α → Prop) (n depth : Nat) : Prop where
  within : ∀ m x, WithinSteps start adjacent m x → WithinSteps start adjacent (n + depth) x
  reached : ∀ k < depth, ∃ x, AtDistance start adjacent x (n + k + 1)

variable {around : List α → List α} {frontier visited nodes : List α} {fuel : Nat}

/-- A round that finds nothing new leaves nothing deeper. -/
theorem Expanded.deepest_zero
    (haround : ∀ frontier y, y ∈ around frontier ↔ ∃ x ∈ frontier, adjacent x y)
    (h : Expanded start adjacent n frontier visited)
    (hnone : (around frontier).filter (· ∉ visited) = []) : Deepest start adjacent n 0 := by
  refine ⟨fun m x hx => ?_, fun k hk => absurd hk (Nat.not_lt_zero k)⟩
  have hclosed := h.closed haround hnone (m := m) x
  exact (h.visited_iff x).mp (hclosed.mpr (hx.mono (Nat.le_add_left m n)))

/-- What a round finds is not among the nodes left afterwards. -/
theorem filter_visited_lt {next : List α} {y : α} (hnode : y ∈ nodes) (hnew : y ∉ visited)
    (hy : y ∈ next) : (nodes.filter (· ∉ visited ++ next)).length <
      (nodes.filter (· ∉ visited)).length := by
  have htwice : nodes.filter (· ∉ visited ++ next) =
      (nodes.filter (· ∉ visited)).filter (· ∉ next) := by
    rw [List.filter_filter]
    refine List.filter_congr fun z _ => ?_
    simp only [List.mem_append, not_or, Bool.decide_and, Bool.and_comm]
  rw [htwice, List.length_filter_lt_length_iff_exists]
  exact ⟨y, List.mem_filter.mpr ⟨hnode, decide_eq_true hnew⟩, by simpa using hy⟩

/-- **The number of levels**, given fuel for every node that was not visited yet. -/
theorem Expanded.levels_spec
    (haround : ∀ frontier y, y ∈ around frontier ↔ ∃ x ∈ frontier, adjacent x y)
    (hnodes : ∀ frontier, around frontier ⊆ nodes)
    (h : Expanded start adjacent n frontier visited)
    (hfuel : (nodes.filter (· ∉ visited)).length ≤ fuel) :
    Deepest start adjacent n (levels around fuel frontier visited) := by
  induction fuel generalizing n frontier visited with
  | zero =>
      refine h.deepest_zero haround (List.filter_eq_nil_iff.mpr fun y hy hnew => ?_)
      have hmem : y ∈ nodes.filter (· ∉ visited) := List.mem_filter.mpr ⟨hnodes frontier hy, hnew⟩
      rw [List.length_eq_zero_iff.mp (Nat.le_zero.mp hfuel)] at hmem
      cases hmem
  | succ fuel ih =>
      rw [levels]
      split
      · next hnone => exact h.deepest_zero haround hnone
      · next hsome =>
          obtain ⟨y, hy⟩ := List.exists_mem_of_ne_nil _ hsome
          obtain ⟨hyAround, hyNew⟩ := List.mem_filter.mp hy
          have hyNew : y ∉ visited := of_decide_eq_true hyNew
          have hfewer := filter_visited_lt (hnodes frontier hyAround) hyNew hy
          have hround := h.round haround
          have hrest := ih hround (by omega)
          refine ⟨fun m x hx => ?_, fun k hk => ?_⟩
          · have hwithin := hrest.within m x hx
            rwa [Nat.add_assoc, Nat.add_comm 1] at hwithin
          · cases k with
            | zero =>
                -- What this round finds is one step further than what was visited.
                have hmem : y ∈ visited ++ (around frontier).filter (· ∉ visited) :=
                  List.mem_append_right _ hy
                refine ⟨y, (hround.visited_iff y).mp hmem, fun m hm hwithin => hyNew ?_⟩
                exact (h.visited_iff y).mpr (hwithin.mono (Nat.le_of_lt_succ hm))
            | succ k =>
                obtain ⟨x, hx⟩ := hrest.reached k (Nat.lt_of_succ_lt_succ hk)
                rw [Nat.add_right_comm n 1 k] at hx
                exact ⟨x, hx⟩

end Levels

end Eag.Foundation
