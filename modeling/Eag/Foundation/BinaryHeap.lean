/-
  Eag.Foundation.BinaryHeap

  The heap operations of `heapq` on an array. The children of position `i` are at `2 * i + 1` and
  `2 * i + 2`; an element that is moved up or down is swapped with the one in its place.

  Every operation permutes the array (`heapify_perm`, `heappush_perm`).
-/

import Mathlib.Data.List.Perm.Basic

namespace Eag.Foundation

variable {α : Type _} (lt : α → α → Bool)

/-- `heap[i] < heap[j]`. -/
def lessAt (heap : Array α) (i j : Nat) : Bool :=
  match heap[i]?, heap[j]? with
  | some a, some b => lt a b
  | _, _ => false

/-- `_siftdown`: the element at `pos` moves up to `start`, as long as it is less than its parent.
    A parent stands before its child, so `pos` rounds suffice. -/
def siftDown (start : Nat) : Nat → Array α → Nat → Array α
  | 0, heap, _ => heap
  | fuel + 1, heap, pos =>
      let parent := (pos - 1) / 2
      if start < pos && lessAt lt heap pos parent
      then siftDown start fuel (heap.swapIfInBounds pos parent) parent
      else heap

/-- The first part of `_siftup`: the element at `pos` moves down to a leaf, each time in the place
    of its lesser child; where it ends. -/
def sinkToLeaf : Nat → Array α → Nat → Array α × Nat
  | 0, heap, pos => (heap, pos)
  | fuel + 1, heap, pos =>
      let left := 2 * pos + 1
      if left < heap.size then
        let child := if left + 1 < heap.size && !lessAt lt heap left (left + 1)
          then left + 1 else left
        sinkToLeaf fuel (heap.swapIfInBounds pos child) child
      else (heap, pos)

/-- `_siftup`: down to a leaf and up again to where it belongs. -/
def siftUp (heap : Array α) (pos : Nat) : Array α :=
  let (sunk, leaf) := sinkToLeaf lt heap.size heap pos
  siftDown lt pos leaf sunk leaf

/-- `heappush`. -/
def heappush (heap : Array α) (item : α) : Array α :=
  siftDown lt 0 heap.size (heap.push item) heap.size

/-- `heapify`: the positions that have children, from the last to the first. -/
def heapify (heap : Array α) : Array α :=
  (List.range (heap.size / 2)).reverse.foldl (siftUp lt) heap

/-! ## The elements are kept -/

theorem swapIfInBounds_perm (heap : Array α) (i j : Nat) :
    (heap.swapIfInBounds i j).Perm heap := by
  rw [Array.swapIfInBounds]
  split
  · split
    · exact Array.swap_perm _ _
    · exact .refl heap
  · exact .refl heap

theorem siftDown_perm (start fuel : Nat) (heap : Array α) (pos : Nat) :
    (siftDown lt start fuel heap pos).Perm heap := by
  induction fuel generalizing heap pos with
  | zero => exact .refl heap
  | succ fuel ih =>
      rw [siftDown]
      split
      · exact (ih _ _).trans (swapIfInBounds_perm heap _ _)
      · exact .refl heap

theorem sinkToLeaf_perm (fuel : Nat) (heap : Array α) (pos : Nat) :
    (sinkToLeaf lt fuel heap pos).1.Perm heap := by
  induction fuel generalizing heap pos with
  | zero => exact .refl heap
  | succ fuel ih =>
      rw [sinkToLeaf]
      dsimp only
      split
      · exact (ih _ _).trans (swapIfInBounds_perm heap _ _)
      · exact .refl heap

theorem siftUp_perm (heap : Array α) (pos : Nat) : (siftUp lt heap pos).Perm heap :=
  (siftDown_perm lt pos _ _ _).trans (sinkToLeaf_perm lt heap.size heap pos)

theorem heappush_perm (heap : Array α) (item : α) :
    (heappush lt heap item).Perm (heap.push item) := siftDown_perm lt 0 _ _ _

theorem heapify_perm (heap : Array α) : (heapify lt heap).Perm heap := by
  have hloop : ∀ (positions : List Nat) (other : Array α),
      (positions.foldl (siftUp lt) other).Perm other := by
    intro positions
    induction positions with
    | nil => exact fun other => .refl other
    | cons pos rest ih => exact fun other => (ih _).trans (siftUp_perm lt other pos)
  exact hloop _ heap

end Eag.Foundation
