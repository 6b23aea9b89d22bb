/-
  Eag.Foundation.PreorderWalk

  Depth-first search with an explicit stack, and the recursive preorder walk it stands
  for. The walk is given by its rules (`Walk`): a node that was visited is passed over,
  any other is visited, then its neighbours are walked, then the nodes after it.

  `stackSearch_walk`: with enough fuel the stack search visits in the order of the walk.
  `mem_walk`: a walk from one node visits what can be reached from it.
-/

import Mathlib.Algebra.BigOperators.Group.List.Basic
import Mathlib.Algebra.GroupWithZero.Nat
import Mathlib.Data.List.Nodup
import Mathlib.Logic.Relation

namespace Eag.Foundation

open Relation (ReflTransGen)

variable {α : Type _}

/-! ## The recursive walk -/

/-- Walking the nodes of a list in order, recursively, takes what was visited before to what was
    visited after. -/
inductive Walk (around : α → List α) : List α → List α → List α → Prop
  | nil {visited : List α} : Walk around visited [] visited
  | seen {visited rest after : List α} {x : α} (hseen : x ∈ visited)
      (hrest : Walk around visited rest after) : Walk around visited (x :: rest) after
  | visit {visited middle rest after : List α} {x : α} (hnew : x ∉ visited)
      (hbelow : Walk around (visited ++ [x]) (around x) middle)
      (hrest : Walk around middle rest after) : Walk around visited (x :: rest) after

namespace Walk

variable {around : α → List α} {visited after : List α}

/-- What was visited stays so. -/
theorem subset {todo : List α} (h : Walk around visited todo after) : visited ⊆ after := by
  induction h with
  | nil => exact fun _ hx => hx
  | seen _ _ ih => exact ih
  | visit _ _ _ ihBelow ihRest =>
      exact fun _ hx => ihRest (ihBelow (List.mem_append_left _ hx))

/-- No node is visited twice. -/
theorem nodup {todo : List α} (h : Walk around visited todo after) (hnodup : visited.Nodup) :
    after.Nodup := by
  induction h with
  | nil => exact hnodup
  | seen _ _ ih => exact ih hnodup
  | @visit visited middle rest after x hnew _ _ ihBelow ihRest =>
      refine ihRest (ihBelow (List.nodup_append.mpr ⟨hnodup, List.nodup_singleton x, ?_⟩))
      intro a ha b hb heq
      rw [List.mem_singleton.mp hb] at heq
      exact hnew (heq ▸ ha)

/-- Walking two lists is walking the one and then the other. -/
theorem append_iff {todo rest : List α} :
    Walk around visited (todo ++ rest) after ↔
      ∃ middle, Walk around visited todo middle ∧ Walk around middle rest after := by
  constructor
  · induction todo generalizing visited with
    | nil => exact fun h => ⟨visited, .nil, h⟩
    | cons x todo ih =>
        intro h
        cases h with
        | seen hseen hmore =>
            obtain ⟨middle, hfirst, hrest⟩ := ih hmore
            exact ⟨middle, .seen hseen hfirst, hrest⟩
        | visit hnew hbelow hmore =>
            obtain ⟨middle, hfirst, hrest⟩ := ih hmore
            exact ⟨middle, .visit hnew hbelow hfirst, hrest⟩
  · rintro ⟨middle, hfirst, hrest⟩
    induction hfirst with
    | nil => exact hrest
    | seen hseen _ ih => exact .seen hseen (ih hrest)
    | visit hnew hbelow _ _ ih => exact .visit hnew hbelow (ih hrest)

/-- Nodes that were visited before can be put back into the list. -/
theorem of_filter [DecidableEq α] {before todo : List α} (hbefore : before ⊆ visited)
    (h : Walk around visited (todo.filter (· ∉ before)) after) :
    Walk around visited todo after := by
  induction todo generalizing visited with
  | nil => exact h
  | cons x todo ih =>
      by_cases hx : x ∈ before
      · rw [List.filter_cons_of_neg (by simpa using hx)] at h
        exact .seen (hbefore hx) (ih hbefore h)
      · rw [List.filter_cons_of_pos (by simpa using hx)] at h
        cases h with
        | seen hseen hrest => exact .seen hseen (ih hbefore hrest)
        | visit hnew hbelow hrest =>
            refine .visit hnew hbelow (ih (fun y hy => hbelow.subset ?_) hrest)
            exact List.mem_append_left _ (hbefore hy)

/-- What is visited was visited before, or can be reached from a node of the list. -/
theorem reachable {todo : List α} (h : Walk around visited todo after) :
    ∀ y ∈ after, y ∈ visited ∨ ∃ x ∈ todo, ReflTransGen (fun x y => y ∈ around x) x y := by
  induction h with
  | nil => exact fun y hy => .inl hy
  | seen _ _ ih =>
      intro y hy
      refine (ih y hy).imp_right ?_
      rintro ⟨x, hx, hreach⟩
      exact ⟨x, List.mem_cons_of_mem _ hx, hreach⟩
  | @visit visited middle rest after x _ _ _ ihBelow ihRest =>
      intro y hy
      rcases ihRest y hy with hmiddle | ⟨z, hz, hreach⟩
      · rcases ihBelow y hmiddle with hvisited | ⟨z, hz, hreach⟩
        · rcases List.mem_append.mp hvisited with hvisited | hy
          · exact .inl hvisited
          · rw [List.mem_singleton.mp hy]
            exact .inr ⟨x, List.mem_cons_self, .refl⟩
        · exact .inr ⟨x, List.mem_cons_self, .head hz hreach⟩
      · exact .inr ⟨z, List.mem_cons_of_mem _ hz, hreach⟩

/-- The nodes of the list are visited, and so are the neighbours of every node that is visited
    on the way. -/
theorem closed {todo : List α} (h : Walk around visited todo after) :
    todo ⊆ after ∧ ∀ x ∈ after, x ∉ visited → around x ⊆ after := by
  induction h with
  | nil => exact ⟨List.nil_subset _, fun x hx hnot => absurd hx hnot⟩
  | seen hseen hrest ih =>
      exact ⟨List.cons_subset.mpr ⟨hrest.subset hseen, ih.1⟩, ih.2⟩
  | @visit visited middle rest after x _ hbelow hrest ihBelow ihRest =>
      have hx : x ∈ after := hrest.subset (hbelow.subset
        (List.mem_append_right _ (List.mem_singleton_self x)))
      refine ⟨List.cons_subset.mpr ⟨hx, ihRest.1⟩, fun z hz hnot => ?_⟩
      by_cases hmiddle : z ∈ middle
      · refine List.Subset.trans ?_ hrest.subset
        by_cases hzx : z = x
        · rw [hzx]
          exact ihBelow.1
        · refine ihBelow.2 z hmiddle fun hmem => ?_
          rcases List.mem_append.mp hmem with hmem | hmem
          · exact hnot hmem
          · exact hzx (List.mem_singleton.mp hmem)
      · exact ihRest.2 z hz hmiddle

end Walk

/-- **What a walk from one node visits** is what can be reached from it. -/
theorem mem_walk {around : α → List α} {start : α} {after : List α}
    (h : Walk around [] [start] after) (x : α) :
    x ∈ after ↔ ReflTransGen (fun x y => y ∈ around x) start x := by
  constructor
  · intro hx
    rcases h.reachable x hx with hnil | ⟨y, hy, hreach⟩
    · cases hnil
    · rwa [List.mem_singleton.mp hy] at hreach
  · intro hreach
    induction hreach with
    | refl => exact h.closed.1 (List.mem_singleton_self start)
    | tail _ hstep ih => exact h.closed.2 _ ih List.not_mem_nil hstep

/-! ## The search with a stack -/

variable [DecidableEq α]

/-- The search: the top of the stack is its first. A node that was not visited is, and those of its
    neighbours that were not are pushed, the last one first. -/
def stackSearch (around : α → List α) : Nat → List α → List α → List α
  | 0, _, visited => visited
  | _ + 1, [], visited => visited
  | fuel + 1, x :: stack, visited =>
      if x ∈ visited then stackSearch around fuel stack visited
      else
        stackSearch around fuel
          ((around x).reverse.foldl
            (fun stack y => if y ∉ visited ++ [x] then y :: stack else stack) stack)
          (visited ++ [x])

/-- Pushing the last first leaves them on the stack in their order. -/
theorem push_reverse (visited ys stack : List α) :
    ys.reverse.foldl (fun stack y => if y ∉ visited then y :: stack else stack) stack
      = ys.filter (· ∉ visited) ++ stack := by
  induction ys with
  | nil => rfl
  | cons y ys ih =>
      rw [List.reverse_cons, List.foldl_append, ih, List.foldl_cons, List.foldl_nil]
      by_cases hy : y ∈ visited
      · rw [if_neg (not_not.mpr hy), List.filter_cons_of_neg (by simpa using hy)]
      · rw [if_pos hy, List.filter_cons_of_pos (by simpa using hy), List.cons_append]

/-- The neighbours of the nodes that were not visited. -/
def neighboursLeft (around : α → List α) (nodes visited : List α) : Nat :=
  ((nodes.filter (· ∉ visited)).map fun x => (around x).length).sum

theorem neighboursLeft_cons_of_mem {around : α → List α} {nodes visited : List α} {y : α}
    (hy : y ∈ visited) : neighboursLeft around (y :: nodes) visited = neighboursLeft around nodes visited := by
  unfold neighboursLeft
  rw [List.filter_cons_of_neg (by simpa using hy)]

theorem neighboursLeft_cons_of_not_mem {around : α → List α} {nodes visited : List α} {y : α}
    (hy : y ∉ visited) : neighboursLeft around (y :: nodes) visited
      = (around y).length + neighboursLeft around nodes visited := by
  unfold neighboursLeft
  rw [List.filter_cons_of_pos (by simpa using hy), List.map_cons, List.sum_cons]

/-- The more was visited, the fewer neighbours are left. -/
theorem neighboursLeft_antitone {around : α → List α} {nodes visited after : List α}
    (h : visited ⊆ after) : neighboursLeft around nodes after ≤ neighboursLeft around nodes visited := by
  induction nodes with
  | nil => exact Nat.le_refl _
  | cons y nodes ih =>
      by_cases hafter : y ∈ after
      · rw [neighboursLeft_cons_of_mem hafter]
        by_cases hy : y ∈ visited
        · rwa [neighboursLeft_cons_of_mem hy]
        · rw [neighboursLeft_cons_of_not_mem hy]
          omega
      · rw [neighboursLeft_cons_of_not_mem hafter, neighboursLeft_cons_of_not_mem fun hy => hafter (h hy)]
        omega

/-- A visit takes the neighbours of its node from those that are left. -/
theorem neighboursLeft_visit {around : α → List α} {nodes visited : List α} {x : α} (hx : x ∈ nodes)
    (hnew : x ∉ visited) :
    neighboursLeft around nodes (visited ++ [x]) + (around x).length
      ≤ neighboursLeft around nodes visited := by
  have hmem : ∀ {y}, y ∈ visited ++ [x] ↔ y ∈ visited ∨ y = x := by
    intro y
    rw [List.mem_append, List.mem_singleton]
  induction nodes with
  | nil => cases hx
  | cons y nodes ih =>
      by_cases heq : y = x
      · rw [neighboursLeft_cons_of_mem (hmem.mpr (.inr heq)), heq, neighboursLeft_cons_of_not_mem hnew]
        have hle : neighboursLeft around nodes (visited ++ [x])
            ≤ neighboursLeft around nodes visited :=
          neighboursLeft_antitone (List.subset_append_left visited [x])
        omega
      · have hrest := ih ((List.mem_cons.mp hx).resolve_left (Ne.symm heq))
        by_cases hy : y ∈ visited
        · rwa [neighboursLeft_cons_of_mem (hmem.mpr (.inl hy)), neighboursLeft_cons_of_mem hy]
        · have hnot : y ∉ visited ++ [x] := fun h => (hmem.mp h).elim hy heq
          rw [neighboursLeft_cons_of_not_mem hnot, neighboursLeft_cons_of_not_mem hy]
          omega

/-- **The stack search is the recursive walk**, given fuel for the stack and for the neighbours of
    every node that can come up. -/
theorem stackSearch_walk {around : α → List α} {nodes : List α}
    (haround : ∀ x ∈ nodes, around x ⊆ nodes) {fuel : Nat} {stack visited : List α}
    (hstack : stack ⊆ nodes) (hfuel : stack.length + neighboursLeft around nodes visited ≤ fuel) :
    Walk around visited stack (stackSearch around fuel stack visited) := by
  induction fuel generalizing stack visited with
  | zero =>
      have hempty : stack = [] := List.length_eq_zero_iff.mp (by omega)
      rw [hempty]
      exact .nil
  | succ fuel ih =>
      cases stack with
      | nil => exact .nil
      | cons x stack =>
          obtain ⟨hx, hstack⟩ := List.cons_subset.mp hstack
          rw [List.length_cons] at hfuel
          rw [stackSearch]
          split
          · next hseen => exact .seen hseen (ih hstack (by omega))
          · next hnew =>
              rw [push_reverse]
              have hpushed := List.length_filter_le (· ∉ visited ++ [x]) (around x)
              have hleft : neighboursLeft around nodes (visited ++ [x]) + (around x).length
                  ≤ neighboursLeft around nodes visited := neighboursLeft_visit hx hnew
              have hsubset : (around x).filter (· ∉ visited ++ [x]) ++ stack ⊆ nodes :=
                List.append_subset.mpr
                  ⟨List.Subset.trans (List.filter_subset_self _) (haround x hx), hstack⟩
              have hwalk := @ih _ (visited ++ [x]) hsubset (by rw [List.length_append]; omega)
              obtain ⟨middle, hbelow, hrest⟩ := Walk.append_iff.mp hwalk
              exact .visit hnew (hbelow.of_filter fun _ hy => hy) hrest

end Eag.Foundation
