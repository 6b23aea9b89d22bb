/-
  Eag.Foundation.QueueSearch

  A search that keeps the nodes it has found in a queue: the first of the queue is taken, and
  those of its neighbours that were not found yet are appended, to what was found and to the
  queue.

  `mem_queueSearch`: with enough fuel it finds what can be reached from the start.
-/

import Mathlib.Data.List.Basic
import Mathlib.Data.List.Nodup
import Mathlib.Data.List.Perm.Subperm
import Mathlib.Logic.Relation

namespace Eag.Foundation

open Relation (ReflTransGen)

variable {α : Type _} [DecidableEq α]

/-- The neighbours that were not found yet, each once. -/
def newcomers (found : List α) : List α → List α
  | [] => []
  | y :: rest => if y ∈ found then newcomers found rest else y :: newcomers (found ++ [y]) rest

/-- The search: `around` gives the neighbours of a node. -/
def queueSearch (around : α → List α) : Nat → List α → List α → List α
  | 0, _, found => found
  | _ + 1, [], found => found
  | fuel + 1, x :: queue, found =>
      let fresh := newcomers found (around x)
      queueSearch around fuel (queue ++ fresh) (found ++ fresh)

/-! ## Newcomers -/

theorem mem_newcomers {found ys : List α} {y : α} :
    y ∈ newcomers found ys ↔ y ∈ ys ∧ y ∉ found := by
  induction ys generalizing found with
  | nil => simp [newcomers]
  | cons z rest ih =>
      rw [newcomers]
      split
      · next hz =>
          rw [ih, List.mem_cons]
          constructor
          · rintro ⟨hy, hnot⟩
            exact ⟨.inr hy, hnot⟩
          · rintro ⟨rfl | hy, hnot⟩
            · exact absurd hz hnot
            · exact ⟨hy, hnot⟩
      · next hz =>
          rw [List.mem_cons, List.mem_cons, ih, List.mem_append, List.mem_singleton, not_or]
          constructor
          · rintro (rfl | ⟨hy, hnot, -⟩)
            · exact ⟨.inl rfl, hz⟩
            · exact ⟨.inr hy, hnot⟩
          · rintro ⟨rfl | hy, hnot⟩
            · exact .inl rfl
            · by_cases heq : y = z
              · exact .inl heq
              · exact .inr ⟨hy, hnot, heq⟩

theorem nodup_append_newcomers {found ys : List α} (h : found.Nodup) :
    (found ++ newcomers found ys).Nodup := by
  induction ys generalizing found with
  | nil => simpa [newcomers] using h
  | cons z rest ih =>
      rw [newcomers]
      split
      · exact ih h
      · next hz =>
          have hmore : (found ++ [z]).Nodup :=
            List.nodup_append.mpr ⟨h, List.nodup_singleton z, fun a ha b hb => by
              rw [List.mem_singleton.mp hb]
              exact fun heq => hz (heq ▸ ha)⟩
          have happend : found ++ z :: newcomers (found ++ [z]) rest =
              found ++ [z] ++ newcomers (found ++ [z]) rest := by simp
          rw [happend]
          exact ih hmore

/-! ## The search -/

/-- The search so far: what was found can be reached, and what is no longer in the queue led to
    nothing that was not found. -/
structure Found (around : α → List α) (start : α) (queue found : List α) : Prop where
  nodup : found.Nodup
  start_found : start ∈ found
  queued : queue ⊆ found
  reachable : ∀ x ∈ found, ReflTransGen (fun x y => y ∈ around x) start x
  settled : ∀ x ∈ found, x ∉ queue → ∀ y ∈ around x, y ∈ found

section Search

variable {around : α → List α} {start : α} {queue found : List α}

omit [DecidableEq α] in
theorem found_start (around : α → List α) (start : α) : Found around start [start] [start] where
  nodup := List.nodup_singleton start
  start_found := List.mem_singleton_self start
  queued := fun _ h => h
  reachable x hx := by rw [List.mem_singleton.mp hx]
  settled x hx hnot := absurd hx hnot

/-- The first of the queue is settled. -/
theorem Found.next {x : α} (h : Found around start (x :: queue) found) :
    Found around start (queue ++ newcomers found (around x))
      (found ++ newcomers found (around x)) where
  nodup := nodup_append_newcomers h.nodup
  start_found := List.mem_append_left _ h.start_found
  queued := by
    intro y hy
    rcases List.mem_append.mp hy with hy | hy
    · exact List.mem_append_left _ (h.queued (List.mem_cons_of_mem x hy))
    · exact List.mem_append_right _ hy
  reachable := by
    intro y hy
    rcases List.mem_append.mp hy with hy | hy
    · exact h.reachable y hy
    · exact (h.reachable x (h.queued List.mem_cons_self)).tail (mem_newcomers.mp hy).1
  settled := by
    intro z hz hnot y hy
    by_cases hfound : y ∈ found
    · exact List.mem_append_left _ hfound
    · rcases List.mem_append.mp hz with hz | hz
      · by_cases hzx : z = x
        · rw [hzx] at hy
          exact List.mem_append_right _ (mem_newcomers.mpr ⟨hy, hfound⟩)
        · -- A node that has left the queue before was settled then.
          have hgone : z ∉ x :: queue := by
            rw [List.mem_cons, not_or]
            exact ⟨hzx, fun hmem => hnot (List.mem_append_left _ hmem)⟩
          exact absurd (h.settled z hz hgone y hy) hfound
      · exact absurd (List.mem_append_right _ hz) hnot

omit [DecidableEq α] in
/-- When the queue is empty, everything that can be reached was found. -/
theorem Found.complete (h : Found around start [] found) (x : α) :
    x ∈ found ↔ ReflTransGen (fun x y => y ∈ around x) start x := by
  refine ⟨h.reachable x, fun hreach => ?_⟩
  induction hreach with
  | refl => exact h.start_found
  | tail _ hstep ih => exact h.settled _ ih List.not_mem_nil _ hstep

omit [DecidableEq α] in
/-- No more is found than can come up. -/
theorem Found.length_le (h : Found around start queue found) (nodes : List α)
    (hstart : start ∈ nodes) (haround : ∀ x, ∀ y ∈ around x, y ∈ nodes) :
    found.length ≤ nodes.length := by
  have hsubset : found ⊆ nodes := by
    intro y hy
    rcases Relation.ReflTransGen.cases_tail (h.reachable y hy) with rfl | ⟨z, -, hstep⟩
    · exact hstart
    · exact haround z y hstep
  exact (h.nodup.subperm hsubset).length_le

/-- Nothing is found twice. -/
theorem Found.nodup_queueSearch (h : Found around start queue found) (fuel : Nat) :
    (queueSearch around fuel queue found).Nodup := by
  induction fuel generalizing queue found with
  | zero => exact h.nodup
  | succ fuel ih =>
      cases queue with
      | nil => exact h.nodup
      | cons x queue => exact ih h.next

/-- **What the search finds** is what can be reached, given fuel for every node that can come
    up. -/
theorem mem_queueSearch (nodes : List α) (hstart : start ∈ nodes)
    (haround : ∀ x, ∀ y ∈ around x, y ∈ nodes) {fuel : Nat} (h : Found around start queue found)
    (hlength : queue.length ≤ found.length)
    (hfuel : nodes.length ≤ fuel + (found.length - queue.length)) (x : α) :
    x ∈ queueSearch around fuel queue found ↔
      ReflTransGen (fun x y => y ∈ around x) start x := by
  induction fuel generalizing queue found with
  | zero =>
      -- No fuel is left, so as many nodes are settled as can come up.
      have hle := h.length_le nodes hstart haround
      have hempty : queue = [] := by
        rw [← List.length_eq_zero_iff]
        omega
      subst hempty
      exact h.complete x
  | succ fuel ih =>
      cases queue with
      | nil => exact h.complete x
      | cons first queue =>
          rw [List.length_cons] at hlength hfuel
          refine ih h.next ?_ ?_
          · rw [List.length_append, List.length_append]
            omega
          · rw [List.length_append, List.length_append]
            omega

end Search

end Eag.Foundation
