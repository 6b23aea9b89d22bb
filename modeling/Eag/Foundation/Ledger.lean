/-
  Eag.Foundation.Ledger

  Resources that are opened and released. A resource is known by its number, the count of
  the ones opened before it; releases are recorded as they are made, also a second one of
  the same resource.

  `Balanced held` is what code that owns the resources `held` keeps true: these are not
  released yet, all others were released once. `Leaks held` is what cannot be repaired by
  releasing `held`: some other resource was never released.
-/

import Mathlib.Data.List.Basic
import Mathlib.Data.List.Nodup

namespace Eag.Foundation

/-- What was opened, and the numbers of what was released, the latest first. -/
structure Ledger (ρ : Type _) where
  opened : List ρ
  released : List Nat

namespace Ledger

variable {ρ : Type _}

/-- Nothing was opened. -/
def empty : Ledger ρ := ⟨[], []⟩

/-- Open a resource; its number is `opened.length`. -/
def acquire (ledger : Ledger ρ) (resource : ρ) : Ledger ρ :=
  { ledger with opened := ledger.opened ++ [resource] }

/-- Release a number. -/
def release (ledger : Ledger ρ) (number : Nat) : Ledger ρ :=
  { ledger with released := number :: ledger.released }

/-- Release numbers one after the other. -/
def releaseAll (ledger : Ledger ρ) (numbers : List Nat) : Ledger ρ :=
  numbers.foldl release ledger

/-- The resource behind a number that was not released. -/
def live? (ledger : Ledger ρ) (number : Nat) : Option ρ :=
  if number ∈ ledger.released then none else ledger.opened[number]?

@[simp] theorem opened_releaseAll (ledger : Ledger ρ) (numbers : List Nat) :
    (ledger.releaseAll numbers).opened = ledger.opened := by
  induction numbers generalizing ledger with
  | nil => rfl
  | cons n rest ih => exact ih (ledger.release n)

/-- All that was opened was released exactly once, except the one resource that is owned. -/
def ReleasedOnce (owned : Option Nat) (ledger : Ledger ρ) : Prop :=
  ∀ number < ledger.opened.length,
    ledger.released.count number = if owned = some number then 0 else 1

/-! ## Balance -/

/-- The resources `held` are open, all others were released exactly once. -/
structure Balanced (held : List Nat) (ledger : Ledger ρ) : Prop where
  distinct : held.Nodup
  known : ∀ number ∈ held, number < ledger.opened.length
  past : ∀ number ∈ ledger.released, number < ledger.opened.length
  once : ∀ number < ledger.opened.length,
    ledger.released.count number = if number ∈ held then 0 else 1

theorem balanced_empty : Balanced [] (empty : Ledger ρ) where
  distinct := List.nodup_nil
  known _ h := nomatch h
  past _ h := nomatch h
  once number h := absurd h (Nat.not_lt_zero number)

variable {ledger : Ledger ρ} {held : List Nat} {number : Nat}

theorem Balanced.not_released (h : Balanced held ledger) (hmem : number ∈ held) :
    number ∉ ledger.released := by
  have hcount := h.once number (h.known number hmem)
  rw [if_pos hmem] at hcount
  exact List.count_eq_zero.mp hcount

/-- What is held is live. -/
theorem Balanced.live (h : Balanced held ledger) (hmem : number ∈ held) :
    ledger.live? number = ledger.opened[number]? := by
  rw [live?, if_neg (h.not_released hmem)]

theorem Balanced.acquire (h : Balanced held ledger) (resource : ρ) :
    Balanced (ledger.opened.length :: held) (ledger.acquire resource) := by
  have hlength : (ledger.acquire resource).opened.length = ledger.opened.length + 1 := by
    rw [Ledger.acquire, List.length_append, List.length_singleton]
  refine ⟨?_, ?_, ?_, ?_⟩
  · refine List.nodup_cons.mpr ⟨fun hmem => ?_, h.distinct⟩
    exact Nat.lt_irrefl _ (h.known _ hmem)
  · intro n hn
    rw [hlength]
    rcases List.mem_cons.mp hn with rfl | hn
    · exact Nat.lt_succ_self _
    · exact Nat.lt_succ_of_lt (h.known n hn)
  · intro n hn
    rw [hlength]
    exact Nat.lt_succ_of_lt (h.past n hn)
  · intro n hn
    rw [hlength] at hn
    show ledger.released.count n = _
    by_cases hnew : n = ledger.opened.length
    · subst hnew
      rw [if_pos List.mem_cons_self]
      refine List.count_eq_zero.mpr fun hmem => ?_
      exact Nat.lt_irrefl _ (h.past _ hmem)
    · rw [h.once n (by omega)]
      simp only [List.mem_cons, hnew, false_or]

theorem Balanced.release (h : Balanced (number :: held) ledger) :
    Balanced held (ledger.release number) := by
  obtain ⟨hfresh, hdistinct⟩ := List.nodup_cons.mp h.distinct
  refine ⟨hdistinct, fun n hn => h.known n (List.mem_cons_of_mem _ hn), ?_, ?_⟩
  · intro n hn
    rcases List.mem_cons.mp hn with rfl | hn
    · exact h.known _ List.mem_cons_self
    · exact h.past n hn
  · intro n hn
    have hcount := h.once n hn
    show (number :: ledger.released).count n = _
    by_cases heq : n = number
    · subst heq
      rw [if_pos List.mem_cons_self] at hcount
      rw [List.count_cons_self, hcount, if_neg hfresh]
    · rw [List.count_cons_of_ne (Ne.symm heq), hcount]
      simp only [List.mem_cons, heq, false_or]

theorem Balanced.perm {held' : List Nat} (h : Balanced held ledger) (hperm : held.Perm held') :
    Balanced held' ledger where
  distinct := hperm.nodup_iff.mp h.distinct
  known n hn := h.known n (hperm.mem_iff.mpr hn)
  past := h.past
  once n hn := by
    rw [h.once n hn]
    simp only [hperm.mem_iff]

/-- Releasing what is held settles the ledger. -/
theorem Balanced.releaseAll {rest : List Nat} (h : Balanced (held ++ rest) ledger) :
    Balanced rest (ledger.releaseAll held) := by
  induction held generalizing ledger with
  | nil => exact h
  | cons n held ih => exact ih h.release

theorem Balanced.releasedOnce (h : Balanced [] ledger) : ReleasedOnce none ledger := by
  intro n hn
  rw [h.once n hn, if_neg List.not_mem_nil, if_neg (by simp)]

theorem Balanced.releasedOnce_except (h : Balanced [number] ledger) :
    ReleasedOnce (some number) ledger := by
  intro n hn
  rw [h.once n hn]
  simp only [List.mem_singleton, Option.some.injEq, eq_comm]

/-! ## Leaks -/

/-- A resource other than `held` was never released. -/
def Leaks (held : List Nat) (ledger : Ledger ρ) : Prop :=
  ∃ number < ledger.opened.length, number ∉ held ∧ number ∉ ledger.released

theorem Balanced.leaks {held' : List Nat} (h : Balanced held ledger) (hmem : number ∈ held)
    (hnot : number ∉ held') : Leaks held' ledger :=
  ⟨number, h.known number hmem, hnot, h.not_released hmem⟩

theorem Leaks.release (h : Leaks (number :: held) ledger) :
    Leaks held (ledger.release number) := by
  obtain ⟨n, hn, hnot, hopen⟩ := h
  rw [List.mem_cons, not_or] at hnot
  refine ⟨n, hn, hnot.2, fun hmem => ?_⟩
  rcases List.mem_cons.mp hmem with heq | hmem
  · exact hnot.1 heq
  · exact hopen hmem

theorem Leaks.releaseAll {rest : List Nat} (h : Leaks (held ++ rest) ledger) :
    Leaks rest (ledger.releaseAll held) := by
  induction held generalizing ledger with
  | nil => exact h
  | cons n held ih => exact ih h.release

theorem Leaks.not_releasedOnce (h : Leaks [] ledger) : ¬ReleasedOnce none ledger := by
  obtain ⟨n, hn, -, hopen⟩ := h
  intro honce
  have hcount := honce n hn
  rw [if_neg (by simp), List.count_eq_zero.mpr hopen] at hcount
  exact absurd hcount (by decide)

end Ledger

end Eag.Foundation
