/-
  Eag.Foundation.DottedNames

  Stripping a text and reading a dotted name: its last segment, what stands
  before the last dot, and the segments themselves.  A name joined from segments
  without a dot is read back segment by segment.
-/

import Mathlib.Data.List.TakeWhile
import Eag.Foundation.PyText

namespace Eag.Foundation.PyText

/-! ## Stripping -/

/-- `value.lstrip()`. -/
def lstrip (t : PyText) : PyText := t.dropWhile isSpace

/-- `value.rstrip()`. -/
def rstrip (t : PyText) : PyText := (t.reverse.dropWhile isSpace).reverse

/-- `value.strip()`. -/
def strip (t : PyText) : PyText := rstrip (lstrip t)

/-- A text in which nothing is a space. -/
def Spaceless (t : PyText) : Prop := ∀ c ∈ t, isSpace c = false

instance (t : PyText) : Decidable t.Spaceless := inferInstanceAs (Decidable (∀ _ ∈ t, _ = _))

theorem Spaceless.append {a b : PyText} (ha : a.Spaceless) (hb : b.Spaceless) :
    Spaceless (a ++ b) := by
  intro c hc
  rcases List.mem_append.mp hc with h | h
  · exact ha c h
  · exact hb c h

/-- A text that starts with something other than a space has nothing to strip there, and
    what is stripped at its end is not its start. -/
theorem strip_append {start : PyText} (hne : start ≠ []) (hstart : start.Spaceless)
    (t : PyText) : strip (start ++ t) = start ++ rstrip t := by
  have hleft : lstrip (start ++ t) = start ++ t := by
    cases start with
    | nil => exact absurd rfl hne
    | cons c rest =>
        rw [lstrip, List.cons_append, List.dropWhile_cons,
          if_neg (by rw [hstart c List.mem_cons_self]; exact Bool.false_ne_true)]
  have hkept : start.reverse.dropWhile isSpace = start.reverse := by
    rw [List.dropWhile_eq_self_iff]
    intro hpos
    have hspace := hstart _ (List.mem_reverse.mp (List.getElem_mem hpos))
    rw [hspace]
    exact Bool.false_ne_true
  rw [strip, hleft, rstrip, List.reverse_append, List.dropWhile_append]
  cases hrest : t.reverse.dropWhile isSpace with
  | nil => simp [rstrip, hrest, hkept]
  | cons c rest =>
      rw [List.isEmpty_cons, if_neg Bool.false_ne_true, List.reverse_append, List.reverse_reverse,
        rstrip, hrest]

theorem rstrip_of_spaceless {t : PyText} (h : t.Spaceless) : rstrip t = t := by
  have hkept : t.reverse.dropWhile isSpace = t.reverse := by
    rw [List.dropWhile_eq_self_iff]
    intro hpos
    rw [h _ (List.mem_reverse.mp (List.getElem_mem hpos))]
    exact Bool.false_ne_true
  rw [rstrip, hkept, List.reverse_reverse]

theorem strip_of_spaceless {t : PyText} (h : t.Spaceless) : strip t = t := by
  cases t with
  | nil => rfl
  | cons c rest =>
      have hstrip := strip_append (List.cons_ne_nil c rest) h []
      rwa [List.append_nil, rstrip, List.reverse_nil, List.dropWhile_nil, List.reverse_nil,
        List.append_nil] at hstrip

theorem nonBlank_of_spaceless {t : PyText} (hne : t ≠ []) (h : t.Spaceless) : t.NonBlank := by
  cases t with
  | nil => exact absurd rfl hne
  | cons c rest =>
      rw [NonBlank, isBlank, List.all_cons, h c List.mem_cons_self, Bool.false_and]

/-- A text with a start that is no space is not blank. -/
theorem nonBlank_append {start : PyText} (hne : start ≠ []) (hstart : start.Spaceless)
    (t : PyText) : NonBlank (start ++ t) := by
  have hstart := nonBlank_of_spaceless hne hstart
  rw [NonBlank, isBlank] at hstart ⊢
  rw [List.all_append, hstart, Bool.false_and]

/-! ## Dotted names -/

/-- The `"."` between the segments. -/
def dot : CodePoint := .scalar '.'

/-- `".".join(segments)`. -/
def dotted (segments : List PyText) : PyText := join dot segments

/-- `name.split(".")[-1]`. -/
def lastSegment (name : PyText) : PyText := (split dot name).getLast (split_ne_nil dot name)

/-- `name.rsplit(".", 1)` where it has two parts. -/
def rsplitDot (name : PyText) : Option (PyText × PyText) :=
  match name.reverse.dropWhile (· ≠ dot) with
  | [] => none
  | _ :: owner => some (owner.reverse, (name.reverse.takeWhile (· ≠ dot)).reverse)

/-- A segment of a dotted name. -/
def Dotless (t : PyText) : Prop := dot ∉ t

instance (t : PyText) : Decidable t.Dotless := inferInstanceAs (Decidable (dot ∉ t))

theorem mem_of_mem_split {separator c : CodePoint} {t piece : PyText}
    (hpiece : piece ∈ split separator t) (hc : c ∈ piece) : c ∈ t := by
  induction t generalizing piece with
  | nil =>
      rw [split, List.mem_singleton] at hpiece
      rwa [hpiece] at hc
  | cons first rest ih =>
      rw [split] at hpiece
      split at hpiece
      case isTrue =>
        rcases List.mem_cons.mp hpiece with rfl | hpiece
        · exact absurd hc List.not_mem_nil
        · exact List.mem_cons_of_mem first (ih hpiece hc)
      case isFalse =>
        cases hrest : split separator rest with
        | nil => exact absurd hrest (split_ne_nil separator rest)
        | cons next others =>
            rw [hrest, consPiece] at hpiece
            rcases List.mem_cons.mp hpiece with rfl | hpiece
            · rcases List.mem_cons.mp hc with rfl | hc
              · exact List.mem_cons_self
              · exact List.mem_cons_of_mem _ (ih (by rw [hrest]; exact List.mem_cons_self) hc)
            · exact List.mem_cons_of_mem _ (ih (by rw [hrest]; exact List.mem_cons_of_mem _ hpiece) hc)

/-- A name whose last segment is not blank is not blank. -/
theorem nonBlank_of_lastSegment {name : PyText} (h : (lastSegment name).NonBlank) :
    name.NonBlank := by
  rw [NonBlank, isBlank, List.all_eq_false] at h ⊢
  obtain ⟨c, hc, hspace⟩ := h
  exact ⟨c, mem_of_mem_split (List.getLast_mem _) hc, hspace⟩

theorem lastSegment_dotted {segments : List PyText} (hne : segments ≠ [])
    (h : ∀ s ∈ segments, s.Dotless) : lastSegment (dotted segments) = segments.getLast hne := by
  simp only [lastSegment, dotted, split_join hne h]

theorem dotted_concat {segments : List PyText} (hne : segments ≠ []) (last : PyText) :
    dotted (segments ++ [last]) = dotted segments ++ dot :: last := by
  induction segments with
  | nil => exact absurd rfl hne
  | cons first rest ih =>
      cases rest with
      | nil => rfl
      | cons next rest =>
          have hrest := ih (List.cons_ne_nil next rest)
          rw [dotted, List.cons_append] at hrest
          rw [dotted, List.cons_append, List.cons_append, join, hrest, dotted, dotted, join,
            List.append_assoc, List.cons_append]

theorem dropWhile_append_stop {p : CodePoint → Bool} {front : PyText} {stop : CodePoint}
    (hfront : ∀ c ∈ front, p c = true) (hstop : p stop = false) (rest : PyText) :
    (front ++ stop :: rest).dropWhile p = stop :: rest
      ∧ (front ++ stop :: rest).takeWhile p = front := by
  constructor
  · rw [List.dropWhile_append_of_pos hfront, List.dropWhile_cons,
      if_neg (by rw [hstop]; exact Bool.false_ne_true)]
  · rw [List.takeWhile_append_of_pos hfront, List.takeWhile_cons,
      if_neg (by rw [hstop]; exact Bool.false_ne_true), List.append_nil]

theorem rsplitDot_append (owner : PyText) {last : PyText} (h : last.Dotless) :
    rsplitDot (owner ++ dot :: last) = some (owner, last) := by
  have hreverse : (owner ++ dot :: last).reverse = last.reverse ++ dot :: owner.reverse := by
    rw [List.reverse_append, List.reverse_cons, List.append_assoc, List.singleton_append]
  have hfront : ∀ c ∈ last.reverse, decide (c ≠ dot) = true := by
    intro c hc
    exact decide_eq_true fun heq => h (heq ▸ List.mem_reverse.mp hc)
  obtain ⟨hdrop, htake⟩ := dropWhile_append_stop hfront (decide_eq_false (not_not.mpr rfl))
    owner.reverse
  rw [rsplitDot, hreverse, hdrop, htake, List.reverse_reverse]
  show some (owner.reverse.reverse, last) = some (owner, last)
  rw [List.reverse_reverse]

/-- What stands before the last segment of a dotted name. -/
theorem rsplitDot_dotted {segments : List PyText} (hne : segments ≠ []) {last : PyText}
    (h : last.Dotless) : rsplitDot (dotted (segments ++ [last])) = some (dotted segments, last) := by
  rw [dotted_concat hne]
  exact rsplitDot_append (dotted segments) h

theorem mem_join_of_mem {separator c : CodePoint} {pieces : List PyText} {piece : PyText}
    (hpiece : piece ∈ pieces) (hc : c ∈ piece) : c ∈ join separator pieces := by
  induction pieces with
  | nil => exact nomatch hpiece
  | cons first rest ih =>
      cases rest with
      | nil =>
          rw [List.mem_singleton.mp hpiece] at hc
          exact hc
      | cons next rest =>
          rw [join]
          rcases List.mem_cons.mp hpiece with rfl | hpiece
          · exact List.mem_append_left _ hc
          · exact List.mem_append_right _ (List.mem_cons_of_mem _ (ih hpiece))

/-- A dotted name has no spaces where its segments have none. -/
theorem spaceless_dotted {segments : List PyText} (h : ∀ s ∈ segments, s.Spaceless) :
    (dotted segments).Spaceless := by
  induction segments with
  | nil => exact fun c hc => nomatch hc
  | cons first rest ih =>
      cases rest with
      | nil => exact h first List.mem_cons_self
      | cons next rest =>
          have hrest := ih fun s hs => h s (List.mem_cons_of_mem _ hs)
          refine Spaceless.append (h first List.mem_cons_self) ?_
          intro c hc
          rcases List.mem_cons.mp hc with rfl | hc
          · rfl
          · exact hrest c hc

end Eag.Foundation.PyText
