/-
  Eag.Foundation.ShortestPaths

  Distances in a breadth-first search. The nodes of the queue are at one distance from
  the start or at two consecutive ones (`Levelled`). So nodes are found in the order of
  their distances, and a path that is extended by one step for every node found is a
  shortest one.

  `queueSearch_sorted`: the order of what a search finds. `pathSearch_spec`: a search that
  carries its paths gives a shortest path to its target, and none when there is none.
-/

import Mathlib.Order.Lattice.Nat
import Eag.Foundation.BreadthFirst
import Eag.Foundation.QueueSearch

namespace Eag.Foundation

open Relation (ReflTransGen)

variable {α : Type _}

/-! ## Paths -/

/-- The nodes of a path, from the first to the last. -/
structure IsPath (adjacent : α → α → Prop) (first last : α) (nodes : List α) : Prop where
  chain : nodes.IsChain adjacent
  head : nodes.head? = some first
  getLast : nodes.getLast? = some last

section Paths

variable {adjacent : α → α → Prop} {x y z : α} {p : List α}

theorem isPath_singleton (adjacent : α → α → Prop) (x : α) : IsPath adjacent x x [x] :=
  ⟨.singleton x, rfl, rfl⟩

/-- A path with one more node. -/
theorem IsPath.snoc (h : IsPath adjacent x y p) (hadjacent : adjacent y z) :
    IsPath adjacent x z (p ++ [z]) where
  chain := by
    refine List.isChain_append.mpr ⟨h.chain, .singleton z, fun a ha b hb => ?_⟩
    rw [h.getLast] at ha
    cases ha
    cases hb
    exact hadjacent
  head := by rw [List.head?_append, h.head]; rfl
  getLast := List.getLast?_concat

/-- A path takes a step for every node but the first. -/
theorem IsPath.withinSteps (h : IsPath adjacent x y p) :
    WithinSteps (· = x) adjacent (p.length - 1) y := by
  induction p using List.reverseRecOn generalizing y with
  | nil => cases h.head
  | append_singleton p z ih =>
      obtain rfl : z = y := by simpa using h.getLast
      rw [List.length_append, List.length_singleton, Nat.add_sub_cancel]
      cases p using List.reverseRecOn with
      | nil =>
          refine .start ?_
          simpa using h.head
      | append_singleton p w =>
          obtain ⟨hchain, -, hjoin⟩ := List.isChain_append.mp h.chain
          have hhead : (p ++ [w]).head? = some x := by
            have hhead := h.head
            rw [List.head?_append_of_ne_nil _ (by simp)] at hhead
            exact hhead
          have hstep := ih ⟨hchain, hhead, List.getLast?_concat⟩
          rw [List.length_append, List.length_singleton, Nat.add_sub_cancel] at hstep
          rw [List.length_append, List.length_singleton]
          exact .step hstep (hjoin w List.getLast?_concat z rfl)

/-- What holds of the first node and wherever a step leads holds of every node of a path. -/
theorem IsPath.forall_mem (h : IsPath adjacent x y p) {P : α → Prop} (hfirst : P x)
    (hstep : ∀ a b, adjacent a b → P b) : ∀ z ∈ p, P z := by
  obtain ⟨hchain, hhead, -⟩ := h
  induction p generalizing x with
  | nil => exact fun z hz => nomatch hz
  | cons first rest ih =>
      obtain rfl : first = x := Option.some.inj hhead
      refine List.forall_mem_cons.mpr ⟨hfirst, ?_⟩
      cases rest with
      | nil => exact fun z hz => nomatch hz
      | cons second rest =>
          obtain ⟨hadjacent, hrest⟩ := List.isChain_cons_cons.mp hchain
          exact ih (hstep first second hadjacent) hrest rfl

/-- There is a path exactly to what can be reached. -/
theorem exists_isPath_iff : (∃ p, IsPath adjacent x y p) ↔ ReflTransGen adjacent x y := by
  constructor
  · rintro ⟨p, h⟩
    exact exists_withinSteps_iff.mp ⟨_, h.withinSteps⟩
  · intro h
    induction h with
    | refl => exact ⟨[x], isPath_singleton adjacent x⟩
    | tail _ hstep ih =>
        obtain ⟨p, hp⟩ := ih
        exact ⟨_, hp.snoc hstep⟩

/-- No path with the same ends is shorter. -/
def IsShortest (adjacent : α → α → Prop) (first last : α) (nodes : List α) : Prop :=
  IsPath adjacent first last nodes ∧
    ∀ others, IsPath adjacent first last others → nodes.length ≤ others.length

end Paths

/-! ## Distances -/

/-- The least number of steps that reaches a node. -/
noncomputable def distance (adjacent : α → α → Prop) (start x : α) : Nat :=
  sInf {n | WithinSteps (· = start) adjacent n x}

section Distances

variable {adjacent : α → α → Prop} {start x y : α} {n : Nat}

theorem distance_le (h : WithinSteps (· = start) adjacent n x) :
    distance adjacent start x ≤ n := Nat.sInf_le h

theorem withinSteps_distance (h : ReflTransGen adjacent start x) :
    WithinSteps (· = start) adjacent (distance adjacent start x) x :=
  Nat.sInf_mem (exists_withinSteps_iff.mpr h)

/-- A step leads at most one further. -/
theorem distance_step (h : ReflTransGen adjacent start x) (hadjacent : adjacent x y) :
    distance adjacent start y ≤ distance adjacent start x + 1 :=
  distance_le (.step (withinSteps_distance h) hadjacent)

theorem distance_start (adjacent : α → α → Prop) (start : α) :
    distance adjacent start start = 0 :=
  Nat.le_zero.mp (distance_le (.start rfl))

/-- A path with as many steps as the distance is a shortest one. -/
theorem IsPath.isShortest {p : List α} (h : IsPath adjacent start x p)
    (hlength : p.length = distance adjacent start x + 1) : IsShortest adjacent start x p := by
  refine ⟨h, fun others hothers => ?_⟩
  have hle := distance_le hothers.withinSteps
  have hpos : others.length ≠ 0 := by
    intro hzero
    rw [List.length_eq_zero_iff.mp hzero] at hothers
    cases hothers.head
  omega

end Distances

/-! ## The levels of a search -/

/-- The edges that a search follows. -/
abbrev Around (around : α → List α) (x y : α) : Prop := y ∈ around x

variable [DecidableEq α]

/-- The distances of what was found, and of the queue. -/
structure Levelled (around : α → List α) (start : α) (queue found : List α) : Prop
    extends Found around start queue found where
  sorted : found.Pairwise fun x y =>
    distance (Around around) start x ≤ distance (Around around) start y
  queue_last : ∃ settled, found = settled ++ queue
  window : ∀ x ∈ queue, ∀ y ∈ found,
    distance (Around around) start y ≤ distance (Around around) start x + 1
  covered : ∀ x ∈ queue.head?, ∀ y,
    WithinSteps (· = start) (Around around) (distance (Around around) start x) y → y ∈ found

section Levels

variable {around : α → List α} {start : α} {queue found : List α}

omit [DecidableEq α] in
theorem levelled_start (around : α → List α) (start : α) :
    Levelled around start [start] [start] where
  toFound := found_start around start
  sorted := List.pairwise_singleton _ start
  queue_last := ⟨[], rfl⟩
  window := by
    intro x hx y hy
    rw [List.mem_singleton.mp hx, List.mem_singleton.mp hy]
    exact Nat.le_succ _
  covered := by
    intro x hx y hy
    obtain rfl : start = x := Option.some.inj hx
    rw [distance_start, WithinSteps.zero_iff] at hy
    rw [hy]
    exact List.mem_singleton_self start

/-- A newcomer is one step further than the first of the queue. -/
theorem Levelled.distance_newcomer {x : α} (h : Levelled around start (x :: queue) found) {y : α}
    (hy : y ∈ newcomers found (around x)) :
    distance (Around around) start y = distance (Around around) start x + 1 := by
  obtain ⟨haround, hnew⟩ := mem_newcomers.mp hy
  have hx := h.reachable x (h.queued List.mem_cons_self)
  refine Nat.le_antisymm (distance_step hx haround) (Nat.lt_of_not_le fun hle => hnew ?_)
  exact h.covered x rfl y ((withinSteps_distance (hx.tail haround)).mono hle)

/-- **Step lemma.** -/
theorem Levelled.next {x : α} (h : Levelled around start (x :: queue) found) :
    Levelled around start (queue ++ newcomers found (around x))
      (found ++ newcomers found (around x)) := by
  obtain ⟨settled, hfound⟩ := h.queue_last
  have hbound : ∀ y ∈ found ++ newcomers found (around x),
      distance (Around around) start y ≤ distance (Around around) start x + 1 := by
    intro y hy
    rcases List.mem_append.mp hy with hy | hy
    · exact h.window x List.mem_cons_self y hy
    · exact Nat.le_of_eq (h.distance_newcomer hy)
  have hsorted : (found ++ newcomers found (around x)).Pairwise fun x y =>
      distance (Around around) start x ≤ distance (Around around) start y := by
    refine List.pairwise_append.mpr ⟨h.sorted, ?_, ?_⟩
    · refine List.pairwise_of_forall_mem_list fun y hy z hz => ?_
      rw [h.distance_newcomer hy, h.distance_newcomer hz]
    · intro y hy z hz
      rw [h.distance_newcomer hz]
      exact h.window x List.mem_cons_self y hy
  have hsplit : found ++ newcomers found (around x)
      = settled ++ x :: (queue ++ newcomers found (around x)) := by
    rw [hfound, List.append_assoc, List.cons_append]
  have hqueue := (List.pairwise_append.mp (hsplit ▸ hsorted)).2.1
  -- nothing in the queue is closer than what was first in it
  have hfirst := (List.pairwise_cons.mp hqueue).1
  refine ⟨h.toFound.next, hsorted, ⟨settled ++ [x], by rw [hsplit]; simp⟩, ?_, ?_⟩
  · intro y hy z hz
    exact (hbound z hz).trans (Nat.succ_le_succ (hfirst y hy))
  · intro y hy z hz
    have hyQueue := List.mem_of_head? hy
    rcases Nat.eq_or_lt_of_le (hfirst y hyQueue) with hsame | hfurther
    · -- the next in the queue is at the same distance
      rw [← hsame] at hz
      exact List.mem_append_left _ (h.covered x rfl z hz)
    · -- nothing at the distance of `x` is left in the queue
      have hy1 : distance (Around around) start y = distance (Around around) start x + 1 :=
        Nat.le_antisymm (hbound y (h.toFound.next.queued hyQueue)) hfurther
      rw [hy1, WithinSteps.succ_iff] at hz
      rcases hz with hz | ⟨w, hw, hstep⟩
      · exact List.mem_append_left _ (h.covered x rfl z hz)
      · refine h.toFound.next.settled w (List.mem_append_left _ (h.covered x rfl w hw)) ?_ z hstep
        intro hwQueue
        have hge : distance (Around around) start y ≤ distance (Around around) start w := by
          obtain ⟨rest, hrest⟩ := List.head?_eq_some_iff.mp hy
          have hleast := (List.pairwise_cons.mp hqueue).2
          rw [hrest] at hleast hwQueue
          rcases List.mem_cons.mp hwQueue with rfl | hwRest
          · exact Nat.le_refl _
          · exact (List.pairwise_cons.mp hleast).1 w hwRest
        have hle := distance_le hw
        omega

/-- **The order of the search** is that of the distances. -/
theorem Levelled.queueSearch_sorted (h : Levelled around start queue found) (fuel : Nat) :
    (queueSearch around fuel queue found).Pairwise fun x y =>
      distance (Around around) start x ≤ distance (Around around) start y := by
  induction fuel generalizing queue found with
  | zero => exact h.sorted
  | succ fuel ih =>
      cases queue with
      | nil => exact h.sorted
      | cons x queue => exact ih h.next

end Levels

/-! ## A search that carries its paths -/

/-- The search for a target: with every node of the queue the path that led to it. -/
def pathSearch (around : α → List α) (target : α) :
    Nat → List (α × List α) → List α → Option (List α)
  | 0, _, _ => none
  | _ + 1, [], _ => none
  | fuel + 1, (x, path) :: queue, found =>
      if x = target then some path
      else
        let fresh := newcomers found (around x)
        pathSearch around target fuel (queue ++ fresh.map fun y => (y, path ++ [y]))
          (found ++ fresh)

/-- The search so far: the paths of the queue are as long as their nodes are far, and the target
    did not come up. -/
structure Carried (around : α → List α) (start target : α) (queue : List (α × List α))
    (found : List α) : Prop where
  levelled : Levelled around start (queue.map Prod.fst) found
  path : ∀ item ∈ queue, IsPath (Around around) start item.1 item.2 ∧
    item.2.length = distance (Around around) start item.1 + 1
  pending : target ∈ found → target ∈ queue.map Prod.fst

section Carried

variable {around : α → List α} {start target : α} {queue : List (α × List α)} {found : List α}

omit [DecidableEq α] in
theorem carried_start (around : α → List α) (start target : α) :
    Carried around start target [(start, [start])] [start] where
  levelled := levelled_start around start
  path := by
    intro item hitem
    rw [List.mem_singleton.mp hitem]
    exact ⟨isPath_singleton _ start, by rw [distance_start]; rfl⟩
  pending := fun h => h

/-- **Step lemma.** -/
theorem Carried.next {x : α} {path : List α} (h : Carried around start target ((x, path) :: queue)
      found) (hx : x ≠ target) :
    Carried around start target
      (queue ++ (newcomers found (around x)).map fun y => (y, path ++ [y]))
      (found ++ newcomers found (around x)) := by
  have hnodes : (queue ++ (newcomers found (around x)).map fun y => (y, path ++ [y])).map Prod.fst
      = queue.map Prod.fst ++ newcomers found (around x) := by
    rw [List.map_append, List.map_map]
    exact congrArg _ (List.map_id _)
  have hlevelled : Levelled around start (x :: queue.map Prod.fst) found := h.levelled
  refine ⟨?_, ?_, ?_⟩
  · rw [hnodes]
    exact hlevelled.next
  · intro item hitem
    rcases List.mem_append.mp hitem with hitem | hitem
    · exact h.path item (List.mem_cons_of_mem _ hitem)
    · obtain ⟨y, hy, rfl⟩ := List.mem_map.mp hitem
      obtain ⟨hpath, hlength⟩ := h.path (x, path) List.mem_cons_self
      refine ⟨hpath.snoc (mem_newcomers.mp hy).1, ?_⟩
      rw [hlevelled.distance_newcomer hy, List.length_append, hlength]
      rfl
  · intro htarget
    rw [hnodes]
    rcases List.mem_append.mp htarget with hearlier | hnew
    · have hqueue : target ∈ x :: queue.map Prod.fst := h.pending hearlier
      exact List.mem_append_left _ ((List.mem_cons.mp hqueue).resolve_left (Ne.symm hx))
    · exact List.mem_append_right _ hnew

omit [DecidableEq α] in
/-- When the queue is empty, the target cannot be reached. -/
theorem Carried.unreachable (h : Carried around start target [] found) :
    ¬ ReflTransGen (Around around) start target := by
  intro hreach
  have hfound := (h.levelled.toFound.complete target).mpr hreach
  cases h.pending hfound

/-- **A search that carries its paths** gives a shortest path to its target, and none if there is
    none, given fuel for every node that can come up. -/
theorem pathSearch_spec (nodes : List α) (hstart : start ∈ nodes)
    (haround : ∀ x, ∀ y ∈ around x, y ∈ nodes) {fuel : Nat}
    (h : Carried around start target queue found) (hlength : queue.length ≤ found.length)
    (hfuel : nodes.length ≤ fuel + (found.length - queue.length)) :
    (∃ path, pathSearch around target fuel queue found = some path ∧
      IsShortest (Around around) start target path) ∨
    (pathSearch around target fuel queue found = none ∧
      ¬ ReflTransGen (Around around) start target) := by
  induction fuel generalizing queue found with
  | zero =>
      have hle := h.levelled.toFound.length_le nodes hstart haround
      have hempty : queue = [] := by
        rw [← List.length_eq_zero_iff]
        omega
      subst hempty
      exact .inr ⟨rfl, h.unreachable⟩
  | succ fuel ih =>
      cases queue with
      | nil => exact .inr ⟨rfl, h.unreachable⟩
      | cons item queue =>
          obtain ⟨x, path⟩ := item
          rw [pathSearch]
          by_cases hx : x = target
          · rw [if_pos hx]
            obtain ⟨hpath, hshort⟩ := h.path (x, path) List.mem_cons_self
            rw [← hx]
            exact .inl ⟨path, rfl, hpath.isShortest hshort⟩
          · rw [if_neg hx]
            rw [List.length_cons] at hlength hfuel
            refine ih (h.next hx) ?_ ?_
            · rw [List.length_append, List.length_append, List.length_map]
              omega
            · rw [List.length_append, List.length_append, List.length_map]
              omega

end Carried

end Eag.Foundation
