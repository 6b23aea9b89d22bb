/-
  Eag.Foundation.Evidence

  The parts that evidence documents share: typed findings, and sequences that
  are kept strictly ordered so that a document has one text. `sortedSet` is what
  `tuple(sorted(set(xs), key=key))` returns.
-/

import Mathlib.Data.List.Dedup
import Mathlib.Data.List.Sort
import Mathlib.Data.Prod.Lex
import Mathlib.Data.String.Basic
import Eag.Foundation.Json
import Eag.Foundation.Text

namespace Eag.Foundation

/-! ## Sorted sets -/

section SortedSet

variable {α β : Type} [DecidableEq α] [LinearOrder β] (key : α → β)

/-- The distinct elements in the order of their keys. -/
def sortedSet (xs : List α) : List α :=
  xs.dedup.insertionSort fun a b => key a ≤ key b

@[simp] theorem mem_sortedSet {xs : List α} {a : α} : a ∈ sortedSet key xs ↔ a ∈ xs := by
  rw [sortedSet, List.mem_insertionSort, List.mem_dedup]

@[simp] theorem sortedSet_nil : sortedSet key [] = [] := rfl

/-- Elements with distinct keys come out strictly ordered. -/
theorem sortedSet_strict (hkey : Function.Injective key) (xs : List α) :
    (sortedSet key xs).Pairwise fun a b => key a < key b := by
  have hle : (sortedSet key xs).Pairwise fun a b => key a ≤ key b :=
    haveI : Std.Total fun a b : α => key a ≤ key b := ⟨fun a b => le_total (key a) (key b)⟩
    haveI : IsTrans α fun a b => key a ≤ key b := ⟨fun _ _ _ h h' => le_trans h h'⟩
    List.pairwise_insertionSort _ _
  have hne : (sortedSet key xs).Pairwise (· ≠ ·) :=
    (List.perm_insertionSort _ _).nodup_iff.mpr (List.nodup_dedup xs)
  exact hle.imp₂ (fun _ _ h h' => lt_of_le_of_ne h (hkey.ne h')) hne

end SortedSet

/-! ## Findings -/

/-- One typed finding about a piece of evidence. -/
structure Finding (Code : Type) where
  code : Code
  evidenceReference : String
  evidenceReference_nonBlank : NonBlank evidenceReference
  deriving DecidableEq

namespace Finding

variable {Code : Type} (value : Code → String)

/-- What findings are sorted by. -/
def key (finding : Finding Code) : Lex (String × String) :=
  toLex (value finding.code, finding.evidenceReference)

theorem key_injective (hvalue : Function.Injective value) : Function.Injective (key value) := by
  intro f g h
  obtain ⟨hvalues, href⟩ := Prod.mk.inj (toLex.injective h)
  have hcode := hvalue hvalues
  cases f
  cases g
  simp_all

/-- `to_payload`. -/
def toPayload (finding : Finding Code) : Json :=
  .object [("code", .str (value finding.code)),
    ("evidence_reference", .str finding.evidenceReference)]

/-- A finding of `code` about `reference` where `failed` holds. -/
def when (failed : Prop) [Decidable failed] (code : Code) (reference : String)
    (nonBlank : NonBlank reference) : List (Finding Code) :=
  if failed then [⟨code, reference, nonBlank⟩] else []

@[simp] theorem mem_when {failed : Prop} [Decidable failed] {code : Code} {reference : String}
    {nonBlank : NonBlank reference} {finding : Finding Code} :
    finding ∈ when failed code reference nonBlank ↔
      failed ∧ finding = ⟨code, reference, nonBlank⟩ := by
  by_cases h : failed
  · simp [when, h]
  · simp [when, h]

/-- Findings are strictly ordered by code and reference. -/
abbrev Ordered (findings : List (Finding Code)) : Prop :=
  findings.Pairwise fun f g => key value f < key value g

end Finding

/-- `_ordered_unique_strings` accepts the sequence: no blank text, strictly
    ordered. -/
abbrev OrderedUnique (values : List String) : Prop :=
  (∀ value ∈ values, NonBlank value) ∧ values.Pairwise (· < ·)

theorem orderedUnique_sortedSet {values : List String} (h : ∀ value ∈ values, NonBlank value) :
    OrderedUnique (sortedSet id values) :=
  ⟨fun value hm => h value ((mem_sortedSet id).mp hm),
    sortedSet_strict id Function.injective_id values⟩

end Eag.Foundation
