/-
  Eag.Foundation.LineSpans

  Replacing spans of a text that is kept as a list of lines.

  `substitute` says what it means to replace several spans of a list at once.
  `replaceSpan` replaces one span of a list of lines, joining the lines it covers.  A
  replacement leaves what comes before its start as it was (`Kept`), so replacements done
  from the last to the first do what the substitution says (`foldr_replaceSpan`).
-/

import Mathlib.Data.List.Basic
import Mathlib.Data.List.TakeDrop

namespace Eag.Foundation

variable {α : Type _}

/-! ## Substitution -/

/-- A text in place of the elements from `start` up to `stop`. -/
structure Replacement (α : Type _) where
  start : Nat
  stop : Nat
  text : List α
  deriving DecidableEq, Repr

/-- The content from `pos` on with the spans, given in ascending order, replaced by their
    texts and everything between them kept. -/
def substitute (content : List α) : Nat → List (Replacement α) → List α
  | pos, [] => content.drop pos
  | pos, r :: rest =>
      (content.drop pos).take (r.start - pos) ++ r.text ++ substitute content r.stop rest

/-! ## Positions -/

/-- A place in a list of lines: the line, counted from zero, and the column. -/
structure LinePosition where
  line : Nat
  column : Nat
  deriving DecidableEq, Repr

namespace LinePosition

instance : LE LinePosition where
  le p q := p.line < q.line ∨ p.line = q.line ∧ p.column ≤ q.column

instance : LT LinePosition where
  lt p q := p.line < q.line ∨ p.line = q.line ∧ p.column < q.column

theorem le_def {p q : LinePosition} :
    p ≤ q ↔ p.line < q.line ∨ p.line = q.line ∧ p.column ≤ q.column := Iff.rfl

theorem lt_def {p q : LinePosition} :
    p < q ↔ p.line < q.line ∨ p.line = q.line ∧ p.column < q.column := Iff.rfl

instance (p q : LinePosition) : Decidable (p ≤ q) := decidable_of_iff _ le_def.symm

instance (p q : LinePosition) : Decidable (p < q) := decidable_of_iff _ lt_def.symm

theorem le_refl (p : LinePosition) : p ≤ p := .inr ⟨rfl, Nat.le_refl _⟩

theorem le_trans {p q r : LinePosition} (hpq : p ≤ q) (hqr : q ≤ r) : p ≤ r := by
  rw [le_def] at *
  omega

theorem le_of_lt {p q : LinePosition} (h : p < q) : p ≤ q := by
  rw [lt_def] at h
  rw [le_def]
  omega

theorem not_lt {p q : LinePosition} : ¬ p < q ↔ q ≤ p := by
  rw [lt_def, le_def]
  omega

theorem lt_of_le_of_ne {p q : LinePosition} (h : p ≤ q) (hne : p ≠ q) : p < q := by
  have hfields : ¬ (p.line = q.line ∧ p.column = q.column) := by
    rintro ⟨hline, hcolumn⟩
    cases p
    cases q
    cases hline
    cases hcolumn
    exact hne rfl
  rw [le_def] at h
  rw [lt_def]
  omega

theorem le_total (p q : LinePosition) : p ≤ q ∨ q ≤ p := by
  rw [le_def, le_def]
  omega

end LinePosition

/-- The place is in the lines: the line exists and the column is not behind its end. -/
def Within (lines : List (List α)) (p : LinePosition) : Prop :=
  ∃ line, lines[p.line]? = some line ∧ p.column ≤ line.length

/-- How many elements stand before a place. -/
def offset (lines : List (List α)) (p : LinePosition) : Nat :=
  (lines.take p.line).flatten.length + p.column

theorem split_at_line {lines : List (List α)} {i : Nat} {line : List α}
    (h : lines[i]? = some line) : lines = lines.take i ++ line :: lines.drop (i + 1) := by
  obtain ⟨hlt, hget⟩ := List.getElem?_eq_some_iff.mp h
  rw [← hget, List.cons_getElem_drop_succ, List.take_append_drop]

/-- The lines before a later one. -/
theorem take_split {lines : List (List α)} {i k : Nat} {line : List α} (h : lines[i]? = some line)
    (hik : i < k) : lines.take k = lines.take i ++ line :: (lines.take k).drop (i + 1) := by
  have htake : (lines.take k)[i]? = some line := by
    rw [List.getElem?_take_of_lt hik, h]
  have hsplit := split_at_line htake
  rwa [List.take_take, Nat.min_eq_left (Nat.le_of_lt hik)] at hsplit

/-- The elements before a place. -/
theorem take_offset {lines : List (List α)} {p : LinePosition} {line : List α}
    (hline : lines[p.line]? = some line) (hcolumn : p.column ≤ line.length) :
    lines.flatten.take (offset lines p) = (lines.take p.line).flatten ++ line.take p.column := by
  have hflatten : lines.flatten
      = (lines.take p.line).flatten ++ (line ++ (lines.drop (p.line + 1)).flatten) := by
    conv_lhs => rw [split_at_line hline]
    rw [List.flatten_append, List.flatten_cons]
  rw [hflatten, offset, List.take_length_add_append, List.take_append_of_le_length hcolumn]

theorem offset_mono {lines : List (List α)} {p q : LinePosition} (hp : Within lines p)
    (h : p ≤ q) : offset lines p ≤ offset lines q := by
  obtain ⟨line, hline, hcolumn⟩ := hp
  rcases LinePosition.le_def.mp h with hless | ⟨hsame, hle⟩
  · -- the whole line of `p` is before `q`
    rw [offset, offset, take_split hline hless, List.flatten_append, List.flatten_cons,
      List.length_append, List.length_append]
    omega
  · rw [offset, offset, hsame]
    omega

/-! ## Lines kept up to a place -/

/-- Up to the place the lines are the given ones. -/
def Kept (lines : List (List α)) (p : LinePosition) (edited : List (List α)) : Prop :=
  ∃ line x rest, lines[p.line]? = some line ∧ p.column ≤ line.length
    ∧ edited = lines.take p.line ++ (line.take p.column ++ x) :: rest

theorem kept_self {lines : List (List α)} {p : LinePosition} (h : Within lines p) :
    Kept lines p lines := by
  obtain ⟨line, hline, hcolumn⟩ := h
  refine ⟨line, line.drop p.column, lines.drop (p.line + 1), hline, hcolumn, ?_⟩
  rw [List.take_append_drop]
  exact split_at_line hline

/-- What is kept up to a place is kept up to every earlier place. -/
theorem Kept.mono {lines edited : List (List α)} {p q : LinePosition} (h : Kept lines p edited)
    (hq : Within lines q) (hqp : q ≤ p) : Kept lines q edited := by
  obtain ⟨line, x, rest, hline, hcolumn, rfl⟩ := h
  obtain ⟨before, hbefore, hwithin⟩ := hq
  rcases LinePosition.le_def.mp hqp with hless | ⟨hsame, hle⟩
  · refine ⟨before, before.drop q.column, (lines.take p.line).drop (q.line + 1) ++
      (line.take p.column ++ x) :: rest, hbefore, hwithin, ?_⟩
    rw [List.take_append_drop]
    conv_lhs => rw [take_split hbefore hless]
    rw [List.append_assoc, List.cons_append]
  · have hsplit : line.take p.column
        = line.take q.column ++ (line.drop q.column).take (p.column - q.column) := by
      rw [← List.take_add, Nat.add_sub_cancel' hle]
    refine ⟨line, (line.drop q.column).take (p.column - q.column) ++ x, rest,
      hsame ▸ hline, Nat.le_trans hle hcolumn, ?_⟩
    rw [hsame, hsplit, List.append_assoc]

theorem Kept.line_lt {lines edited : List (List α)} {p : LinePosition} (h : Kept lines p edited) :
    p.line < edited.length := by
  obtain ⟨line, x, rest, hline, -, rfl⟩ := h
  have hlt := (List.getElem?_eq_some_iff.mp hline).1
  rw [List.length_append, List.length_take_of_le (Nat.le_of_lt hlt), List.length_cons]
  omega

/-! ## Replacing a span -/

/-- The lines with the text in place of what stands between the two places, whose lines are
    joined. -/
def replaceSpan (lines : List (List α)) (start stop : LinePosition) (text : List α) :
    List (List α) :=
  lines.take start.line ++
    (((lines[start.line]?).getD []).take start.column ++ text ++
      ((lines[stop.line]?).getD []).drop stop.column) :: lines.drop (stop.line + 1)

/-- **One replacement.**  On lines kept up to the end of the span, a replacement keeps what is
    before its start, and puts its text before what stood behind the end. -/
theorem Kept.replaceSpan {lines edited : List (List α)} {start stop : LinePosition}
    (h : Kept lines stop edited) (hstart : Within lines start) (hle : start ≤ stop)
    (text : List α) :
    Kept lines start (replaceSpan edited start stop text)
      ∧ (replaceSpan edited start stop text).flatten
        = lines.flatten.take (offset lines start) ++ text ++
          edited.flatten.drop (offset lines stop) := by
  have hbefore := h.mono hstart hle
  obtain ⟨first, x, rest, hfirst, hcolumn, hedited⟩ := hbefore
  obtain ⟨last, y, rest', hlast, hcolumn', hedited'⟩ := h
  have hlength : (lines.take start.line).length = start.line :=
    List.length_take_of_le (Nat.le_of_lt (List.getElem?_eq_some_iff.mp hfirst).1)
  have hlength' : (lines.take stop.line).length = stop.line :=
    List.length_take_of_le (Nat.le_of_lt (List.getElem?_eq_some_iff.mp hlast).1)
  have htake : edited.take start.line = lines.take start.line := by
    rw [hedited, List.take_left' hlength]
  have hget : edited[start.line]? = some (first.take start.column ++ x) := by
    rw [hedited, List.getElem?_append_right (Nat.le_of_eq hlength), hlength, Nat.sub_self]
    rfl
  have hget' : edited[stop.line]? = some (last.take stop.column ++ y) := by
    rw [hedited', List.getElem?_append_right (Nat.le_of_eq hlength'), hlength', Nat.sub_self]
    rfl
  have hdrop : edited.drop (stop.line + 1) = rest' := by
    rw [hedited', List.drop_append, hlength', List.drop_of_length_le (by omega),
      Nat.add_sub_cancel_left]
    rfl
  have hfront : (first.take start.column ++ x).take start.column = first.take start.column :=
    List.take_left' (List.length_take_of_le hcolumn)
  have hback : (last.take stop.column ++ y).drop stop.column = y :=
    List.drop_left' (List.length_take_of_le hcolumn')
  have hreplaced : Foundation.replaceSpan edited start stop text
      = lines.take start.line ++ (first.take start.column ++ (text ++ y)) :: rest' := by
    rw [Foundation.replaceSpan, htake, hget, hget', Option.getD_some, Option.getD_some, hfront,
      hback, hdrop, List.append_assoc]
  have htail : edited.flatten.drop (offset lines stop) = y ++ rest'.flatten := by
    have hprefix : offset lines stop
        = ((lines.take stop.line).flatten ++ last.take stop.column).length := by
      rw [List.length_append, List.length_take_of_le hcolumn', offset]
    rw [hedited', List.flatten_append, List.flatten_cons, List.append_assoc, ← List.append_assoc,
      hprefix, List.drop_left]
  rw [hreplaced]
  refine ⟨⟨first, text ++ y, rest', hfirst, hcolumn, rfl⟩, ?_⟩
  rw [htail, take_offset hfirst hcolumn, List.flatten_append, List.flatten_cons]
  simp only [List.append_assoc]

/-! ## Replacing several spans -/

/-- A text in place of what stands between two places. -/
structure LineEdit (α : Type _) where
  start : LinePosition
  stop : LinePosition
  text : List α

/-- The span of an edit in the flat text. -/
def LineEdit.replacement (lines : List (List α)) (edit : LineEdit α) : Replacement α where
  start := offset lines edit.start
  stop := offset lines edit.stop
  text := edit.text

/-- The places of an edit are in the lines, in order. -/
structure LineEdit.Placed (lines : List (List α)) (edit : LineEdit α) : Prop where
  start : Within lines edit.start
  stop : Within lines edit.stop
  ordered : edit.start ≤ edit.stop

theorem take_offset_append {lines : List (List α)} {p q : LinePosition} (hp : Within lines p)
    (h : p ≤ q) :
    lines.flatten.take (offset lines q) = lines.flatten.take (offset lines p) ++
      (lines.flatten.drop (offset lines p)).take (offset lines q - offset lines p) := by
  rw [← List.take_add, Nat.add_sub_cancel' (offset_mono hp h)]

/-- **Replacing from the last to the first** is the simultaneous substitution.  Up to any
    place before all spans the lines are kept. -/
theorem foldr_replaceSpan {lines : List (List α)} {edits : List (LineEdit α)}
    (hplaced : ∀ edit ∈ edits, edit.Placed lines)
    (hordered : edits.Pairwise fun a b => a.stop ≤ b.start)
    {p : LinePosition} (hp : Within lines p) (hbefore : ∀ edit ∈ edits, p ≤ edit.start) :
    let edited := edits.foldr (fun edit lines => replaceSpan lines edit.start edit.stop edit.text)
      lines
    Kept lines p edited ∧ edited.flatten = lines.flatten.take (offset lines p) ++
      substitute lines.flatten (offset lines p) (edits.map (LineEdit.replacement lines)) := by
  induction edits generalizing p with
  | nil => exact ⟨kept_self hp, (List.take_append_drop _ _).symm⟩
  | cons edit rest ih =>
      obtain ⟨hedit, hrest⟩ := List.forall_mem_cons.mp hplaced
      obtain ⟨hafter, hordered⟩ := List.pairwise_cons.mp hordered
      obtain ⟨hkept, hflatten⟩ := ih hrest hordered hedit.stop hafter
      obtain ⟨hstart, hreplaced⟩ := hkept.replaceSpan hedit.start hedit.ordered edit.text
      have hle := hbefore edit List.mem_cons_self
      refine ⟨hstart.mono hp hle, ?_⟩
      -- what stands behind the span is the substitution of the rest
      have htail : (rest.foldr
          (fun edit lines => replaceSpan lines edit.start edit.stop edit.text) lines).flatten.drop
            (offset lines edit.stop)
          = substitute lines.flatten (offset lines edit.stop)
              (rest.map (LineEdit.replacement lines)) := by
        obtain ⟨line, hline, hcolumn⟩ := hedit.stop
        have hlength : (lines.flatten.take (offset lines edit.stop)).length
            = offset lines edit.stop := by
          rw [take_offset hline hcolumn, List.length_append, List.length_take_of_le hcolumn, offset]
        rw [hflatten, List.drop_left' hlength]
      rw [List.foldr_cons, hreplaced, htail, take_offset_append hp hle, List.map_cons, substitute]
      simp only [LineEdit.replacement, List.append_assoc]

end Eag.Foundation
