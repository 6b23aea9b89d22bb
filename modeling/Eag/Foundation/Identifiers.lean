/-
  Eag.Foundation.Identifiers

  The texts that evidence classes take: compact identifiers, and sequences of texts kept
  strictly ordered so that evidence has one canonical form. Several `canonical.py` modules of
  the source define `require_identifier` and `_ordered_unique_values` alike.
-/

import Eag.Foundation.FailedChecks
import Eag.Foundation.JsonEncoder

namespace Eag.Foundation

/-! ## Compact identifiers -/

/-- No space and no slash. -/
def Unbroken (t : PyText) : Prop := ∀ c ∈ t, PyText.isSpace c = false ∧ c ≠ .scalar '/'

instance (t : PyText) : Decidable (Unbroken t) :=
  inferInstanceAs (Decidable (∀ c ∈ t, _))

@[simp] theorem unbroken_append {s t : PyText} :
    Unbroken (s ++ t) ↔ Unbroken s ∧ Unbroken t := List.forall_mem_append

/-- `require_identifier` accepts the text. Looking for `"://"` adds nothing to looking for a
    slash. -/
def Compact (t : PyText) : Prop := t.NonBlank ∧ Unbroken t

instance (t : PyText) : Decidable (Compact t) := inferInstanceAs (Decidable (_ ∧ _))

/-- What `require_identifier` returns. -/
abbrev CompactIdentifier := { value : PyText // Compact value }

namespace PyText

theorem nonBlank_of_mem {t : PyText} {c : CodePoint} (hc : c ∈ t) (hs : isSpace c = false) :
    t.NonBlank := by
  unfold NonBlank isBlank
  rw [List.all_eq_false]
  exact ⟨c, hc, by simp [hs]⟩

theorem nonBlank_ofString {s : String} : NonBlank (ofString s) ↔ Foundation.NonBlank s := by
  rw [NonBlank, isBlank, ofString, List.all_map]
  rfl

theorem nonBlank_append_left {s : PyText} (h : s.NonBlank) (t : PyText) :
    NonBlank (s ++ t) := by
  unfold NonBlank isBlank at *
  rw [List.all_append, h, Bool.false_and]

end PyText

/-- A text that starts with a compact one is compact when the rest is unbroken. -/
theorem compact_append_iff {s t : PyText} (h : Compact s) : Compact (s ++ t) ↔ Unbroken t := by
  constructor
  · intro hcompact
    exact (unbroken_append.mp hcompact.2).2
  · intro ht
    exact ⟨PyText.nonBlank_append_left h.1 t, unbroken_append.mpr ⟨h.2, ht⟩⟩

/-- A digest has neither spaces nor slashes. -/
theorem unbroken_of_isDigest {s : String} (h : IsDigest s) : Unbroken (.ofString s) := by
  have hall : ∀ d ∈ "0123456789abcdef".toList,
      PyText.isSpace (.scalar d) = false ∧ CodePoint.scalar d ≠ .scalar '/' := by
    simp [PyText.isSpace, isSpace]
  intro c hc
  obtain ⟨d, hd, rfl⟩ := List.mem_map.mp hc
  exact hall d (h.2 d hd)

/-- The text of the error for a text that `require_non_empty` refuses. -/
def nonEmptyError (fieldName : String) : String := fieldName ++ " must be a non-empty string"

/-- The text of the error for a text that `require_identifier` refuses. -/
def identifierError (fieldName : String) (value : PyText) : String :=
  if value.NonBlank then fieldName ++ " must be a compact identifier"
  else nonEmptyError fieldName

/-! ## Ordered texts -/

/-- Each text is admitted, and the texts are strictly ordered. -/
def OrderedTexts (Admits : PyText → Prop) (values : List PyText) : Prop :=
  (∀ value ∈ values, Admits value) ∧ values.Pairwise fun a b => a.order < b.order

instance (Admits : PyText → Prop) [DecidablePred Admits] (values : List PyText) :
    Decidable (OrderedTexts Admits values) := inferInstanceAs (Decidable (_ ∧ _))

/-- The text of the error for a sequence that `_ordered_unique_values` refuses, where
    `refused` is the text for a refused element. -/
def orderedTextsError (Admits : PyText → Prop) [DecidablePred Admits]
    (refused : PyText → String) (fieldName : String) (values : List PyText) : String :=
  match values.find? fun value => ¬Admits value with
  | some value => refused value
  | none => fieldName ++ " must be strictly ordered and unique"

/-- `tuple(sorted(set(values)))`. -/
def sortedTexts (values : List PyText) : List PyText := sortedSet PyText.order values

theorem orderedTexts_sortedTexts {Admits : PyText → Prop} {values : List PyText} :
    OrderedTexts Admits (sortedTexts values) ↔ ∀ value ∈ values, Admits value := by
  constructor
  · rintro ⟨hadmits, -⟩ value hvalue
    exact hadmits value ((mem_sortedSet _).mpr hvalue)
  · intro h
    exact ⟨fun value hvalue => h value ((mem_sortedSet _).mp hvalue),
      sortedSet_strict _ PyText.order_injective values⟩

/-! ## Payloads -/

/-- `to_payload` of a finding. -/
def EvidenceFinding.toPayload {Code : Type} {Admits : PyText → Prop} (value : Code → String)
    (finding : EvidenceFinding Code Admits) : Payload :=
  .object [("code", .text (value finding.code)),
    ("evidence_reference", .str finding.evidenceReference)]

/-- Findings in the order of their codes and references, none twice. -/
abbrev EvidenceFinding.Ordered {Code : Type} {Admits : PyText → Prop} (value : Code → String)
    (findings : List (EvidenceFinding Code Admits)) : Prop :=
  findings.Pairwise fun f g => f.key value < g.key value

end Eag.Foundation
