/-
  Eag.Foundation.WriteOnce

  A store of files that are created once and never replaced. A locked claim
  reads the path of its record and writes the record when the path is free; a
  locked read only reads. The file system may refuse the operation, stop a write
  half way, or report a complete write as failed.

  Whatever it does, a path that holds something keeps it (`Store.Extends`), so a
  path is claimed at most once in any sequence of operations.
-/

import Mathlib.Logic.Function.Basic

namespace Eag.Foundation.WriteOnce

variable {κ ρ : Type _}

/-- What stands at a path: a complete record, or the remains of a write that
    stopped half way. -/
inductive Slot (ρ : Type _) where
  | whole (record : ρ)
  | torn
  deriving DecidableEq, Repr

/-- The files of the store. -/
abbrev Store (κ ρ : Type _) := κ → Option (Slot ρ)

/-- What the file system does to an operation. -/
inductive Fault where
  /-- The root or its lock file cannot be opened or locked. -/
  | unlocked
  /-- The record file cannot be read. -/
  | unread
  /-- The record file cannot be created. -/
  | uncreated
  /-- The write stops half way. -/
  | torn
  /-- The record is written in full and the final flush fails. -/
  | unsynced
  deriving DecidableEq, Repr

/-- The two errors a locked operation raises. -/
inductive Failure where
  | unavailable
  | corrupt
  deriving DecidableEq, Repr

/-- Read a path: `valid` says whether a complete record belongs there. -/
def read (valid : ρ → Bool) (fault : Option Fault) (s : Store κ ρ) (k : κ) :
    Except Failure (Option ρ) :=
  if fault = some .unlocked ∨ fault = some .unread then .error .unavailable
  else
    match s k with
    | none => .ok none
    | some .torn => .error .corrupt
    | some (.whole record) => if valid record then .ok (some record) else .error .corrupt

section

variable [DecidableEq κ]

/-- The store with something new at a path. -/
def Store.put (s : Store κ ρ) (k : κ) (slot : Slot ρ) : Store κ ρ :=
  Function.update s k (some slot)

@[simp] theorem Store.put_self (s : Store κ ρ) (k : κ) (slot : Slot ρ) :
    s.put k slot k = some slot :=
  Function.update_self ..

theorem Store.put_of_ne (s : Store κ ρ) {k l : κ} (h : l ≠ k) (slot : Slot ρ) :
    s.put k slot l = s l :=
  Function.update_of_ne h ..

/-- Create the file of a free path and write the record. -/
def write (fault : Option Fault) (s : Store κ ρ) (k : κ) (record : ρ) :
    Store κ ρ × Except Failure Unit :=
  match fault with
  | none => (s.put k (.whole record), .ok ())
  | some .torn => (s.put k .torn, .error .unavailable)
  | some .unsynced => (s.put k (.whole record), .error .unavailable)
  | some _ => (s, .error .unavailable)

/-- Claim a path: `none` when the record was written, and the standing record
    when there is one. -/
def claim (valid : ρ → Bool) (fault : Option Fault) (s : Store κ ρ) (k : κ) (record : ρ) :
    Store κ ρ × Except Failure (Option ρ) :=
  match read valid fault s k with
  | .error failure => (s, .error failure)
  | .ok (some standing) => (s, .ok (some standing))
  | .ok none =>
      match write fault s k record with
      | (s', .ok ()) => (s', .ok none)
      | (s', .error failure) => (s', .error failure)

end

/-! ## What an operation can do -/

theorem read_eq_ok_none {valid : ρ → Bool} {fault : Option Fault} {s : Store κ ρ} {k : κ}
    (h : read valid fault s k = .ok none) : s k = none := by
  unfold read at h
  split at h
  · cases h
  split at h
  · assumption
  · cases h
  · split at h <;> cases h

theorem read_eq_ok_some {valid : ρ → Bool} {fault : Option Fault} {s : Store κ ρ} {k : κ}
    {record : ρ} (h : read valid fault s k = .ok (some record)) :
    s k = some (.whole record) ∧ valid record = true := by
  unfold read at h
  split at h
  · cases h
  split at h
  · cases h
  · cases h
  · split at h
    · cases h
      exact ⟨by assumption, by assumption⟩
    · cases h

/-- A read that the file system lets through returns the valid record that
    stands there. -/
theorem read_of_whole {valid : ρ → Bool} {fault : Option Fault} {s : Store κ ρ} {k : κ}
    {record : ρ} (hs : s k = some (.whole record)) (hv : valid record = true)
    (hf : fault ≠ some .unlocked ∧ fault ≠ some .unread) :
    read valid fault s k = .ok (some record) := by
  simp [read, hf, hs, hv]

section

variable [DecidableEq κ]

/-- **What a claim can do**: nothing, or put something at its own free path. -/
theorem claim_cases (valid : ρ → Bool) (fault : Option Fault) (s : Store κ ρ) (k : κ)
    (record : ρ) :
    ((claim valid fault s k record).1 = s ∧ (claim valid fault s k record).2 ≠ .ok none ∧
      ∀ standing, (claim valid fault s k record).2 = .ok (some standing) →
        s k = some (.whole standing) ∧ valid standing = true) ∨
    (s k = none ∧ (claim valid fault s k record).1 = s.put k (.whole record) ∧
      ((claim valid fault s k record).2 = .ok none ∨
        (claim valid fault s k record).2 = .error .unavailable)) ∨
    (s k = none ∧ (claim valid fault s k record).1 = s.put k .torn ∧
      (claim valid fault s k record).2 = .error .unavailable) := by
  unfold claim
  cases hr : read valid fault s k with
  | error failure => exact Or.inl ⟨rfl, by simp, by simp⟩
  | ok standing =>
      cases standing with
      | some standing =>
          refine Or.inl ⟨rfl, by simp, ?_⟩
          rintro _ ⟨⟩
          exact read_eq_ok_some hr
      | none =>
          have hk := read_eq_ok_none hr
          cases fault with
          | none => exact Or.inr (Or.inl ⟨hk, rfl, Or.inl rfl⟩)
          | some fault =>
              cases fault with
              | torn => exact Or.inr (Or.inr ⟨hk, rfl, rfl⟩)
              | unsynced => exact Or.inr (Or.inl ⟨hk, rfl, Or.inr rfl⟩)
              | _ => exact Or.inl ⟨rfl, by simp [write], by simp [write]⟩

/-- Everything in `s` still stands in `s'`. -/
def Store.Extends (s s' : Store κ ρ) : Prop := ∀ k slot, s k = some slot → s' k = some slot

omit [DecidableEq κ] in
theorem Store.Extends.refl (s : Store κ ρ) : s.Extends s := fun _ _ h => h

omit [DecidableEq κ] in
theorem Store.Extends.trans {s s' s'' : Store κ ρ} (h : s.Extends s') (h' : s'.Extends s'') :
    s.Extends s'' :=
  fun k slot hk => h' k slot (h k slot hk)

theorem Store.extends_put {s : Store κ ρ} {k : κ} (hk : s k = none) (slot : Slot ρ) :
    s.Extends (s.put k slot) := by
  intro l sl hl
  rw [s.put_of_ne (by rintro rfl; rw [hk] at hl; cases hl)]
  exact hl

/-- A claim never removes or replaces anything. -/
theorem extends_claim (valid : ρ → Bool) (fault : Option Fault) (s : Store κ ρ) (k : κ)
    (record : ρ) : s.Extends (claim valid fault s k record).1 := by
  rcases claim_cases valid fault s k record with ⟨h, -⟩ | ⟨hk, h, -⟩ | ⟨hk, h, -⟩
  · rw [h]; exact .refl s
  · rw [h]; exact Store.extends_put hk _
  · rw [h]; exact Store.extends_put hk _

/-- A claim leaves every other path alone. -/
theorem claim_of_ne (valid : ρ → Bool) (fault : Option Fault) (s : Store κ ρ) {k l : κ}
    (record : ρ) (h : l ≠ k) : (claim valid fault s k record).1 l = s l := by
  rcases claim_cases valid fault s k record with ⟨hs, -⟩ | ⟨-, hs, -⟩ | ⟨-, hs, -⟩
  · rw [hs]
  · rw [hs, s.put_of_ne h]
  · rw [hs, s.put_of_ne h]

/-- A claim sees nothing but its own path. -/
theorem claim_congr (valid : ρ → Bool) (fault : Option Fault) {s t : Store κ ρ} {k : κ}
    (record : ρ) (h : s k = t k) :
    (claim valid fault s k record).2 = (claim valid fault t k record).2 ∧
      (claim valid fault s k record).1 k = (claim valid fault t k record).1 k := by
  have hread : read valid fault s k = read valid fault t k := by simp only [read, h]
  unfold claim
  rw [hread]
  cases read valid fault t k with
  | error failure => exact ⟨rfl, h⟩
  | ok standing =>
      cases standing with
      | some standing => exact ⟨rfl, h⟩
      | none =>
          cases fault with
          | none => exact ⟨rfl, by simp only [write, Store.put_self]⟩
          | some fault =>
              cases fault with
              | torn => exact ⟨rfl, by simp only [write, Store.put_self]⟩
              | unsynced => exact ⟨rfl, by simp only [write, Store.put_self]⟩
              | _ => exact ⟨rfl, h⟩

/-- A claim that reports success found its path free and left its record there. -/
theorem claim_eq_ok_none {valid : ρ → Bool} {fault : Option Fault} {s : Store κ ρ} {k : κ}
    {record : ρ} (h : (claim valid fault s k record).2 = .ok none) :
    s k = none ∧ (claim valid fault s k record).1 = s.put k (.whole record) := by
  rcases claim_cases valid fault s k record with ⟨-, hn, -⟩ | ⟨hk, hs, -⟩ | ⟨-, -, he⟩
  · exact absurd h hn
  · exact ⟨hk, hs⟩
  · rw [he] at h; cases h

end

end Eag.Foundation.WriteOnce
