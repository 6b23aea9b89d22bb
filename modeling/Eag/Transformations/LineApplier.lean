/-
  Eag.Transformations.LineApplier

  The other `apply_text_edits`, of `transformations/models.py`, which `TextEdit.apply_to`,
  `SourceEdit.from_text_edits` and `SourceEdit.apply_to_file` use, and when it does what the
  one of `text_applier.py` does.

  Both take the edits from the last start to the first. This one removes a whole line for an
  edit that deletes from its first column, and strips the line end of a text of one line that
  replaces several. A turn of its loop writes as much as the other exactly when it neither
  removes nor strips anything that is to stay (`Keeps`).
-/

import Mathlib.Data.List.DropRight
import Eag.Transformations.Simultaneous

namespace Eag.Transformations

open Eag.Foundation ConflictDetector
open Eag.Foundation.PyText (ofString)

/-! ## The loop -/

namespace LineApplier

/-- `"\n"`. -/
def isNewline (c : CodePoint) : Bool := c = .scalar '\n'

/-- `new_lines`: the lines that stand for the lines of an edit over several lines. -/
def newLines (startPart endPart newText : PyText) : List PyText :=
  match newText.splitLines with
  | [] => [startPart ++ endPart]
  | [line] => [(startPart ++ line).rdropWhile isNewline ++ endPart]
  | first :: next :: rest =>
      (startPart ++ first) ::
        ((next :: rest).dropLast ++ [(next :: rest).getLast (List.cons_ne_nil _ _) ++ endPart])

/-- The edit is taken for the deletion of a whole line, whatever its end column is. -/
def RemovesLine (edit : TextEdit) : Prop :=
  edit.startLine - 1 = edit.endLine - 1 ∧ edit.newText = [] ∧ edit.startCol = 0

instance (edit : TextEdit) : Decidable (RemovesLine edit) :=
  inferInstanceAs (Decidable (_ ∧ _ ∧ _))

/-- One turn of the loop; `none` for an `IndexError`. -/
def turn (edit : TextEdit) (lines : List PyText) : Option (List PyText) :=
  let startLine := edit.startLine - 1
  let endLine := edit.endLine - 1
  if RemovesLine edit then some (lines.eraseIdx startLine)
  else if startLine = endLine then
    lines[startLine]?.map fun line =>
      lines.set startLine (line.take edit.startCol ++ edit.newText ++ line.drop edit.endCol)
  else
    lines[startLine]?.bind fun firstLine => lines[endLine]?.map fun lastLine =>
      lines.take startLine ++
        newLines (firstLine.take edit.startCol) (lastLine.drop edit.endCol) edit.newText ++
          lines.drop (endLine + 1)

/-- `apply_text_edits` of `models.py`. -/
def applyTextEdits (content : PyText) (edits : List TextEdit) : Option PyText :=
  if edits = [] then some content
  else ((sortReversed edits).foldlM (fun lines edit => turn edit lines)
    content.splitLines).map List.flatten

/-! ## What a turn keeps -/

/-- The text of an edit is one line with its end. -/
def EndsItsLine (newText : PyText) : Prop :=
  newText.splitLines.length = 1 ∧ ∃ front, newText = front ++ [.scalar '\n']

/-- The turn deletes nothing that the edit does not delete: a line that is removed ends where
    the edit ends, and of a text over several lines no line end is stripped and the last line
    is there. -/
def Keeps (edit : TextEdit) (lines : List PyText) : Prop :=
  if RemovesLine edit then ((lines[edit.startLine - 1]?).getD []).drop edit.endCol = []
  else edit.startLine - 1 ≠ edit.endLine - 1 →
    edit.endLine - 1 < lines.length ∧ ¬EndsItsLine edit.newText

/-- Where no line end is stripped, the lines that are written are what stands before the edit,
    its text, and what stands behind it. -/
theorem newLines_of_not_endsItsLine {newText : PyText} (h : ¬EndsItsLine newText)
    (startPart endPart : PyText) :
    ∃ head more, newLines startPart endPart newText = (startPart ++ head) :: more ∧
      head ++ more.flatten = newText ++ endPart := by
  have hflatten := PyText.flatten_splitLines newText
  unfold newLines
  split
  · next hnone =>
      rw [hnone, List.flatten_nil] at hflatten
      exact ⟨endPart, [], rfl, by rw [← hflatten, List.flatten_nil, List.append_nil]; rfl⟩
  · next line hone =>
      rw [hone, List.flatten_singleton] at hflatten
      subst hflatten
      have hself : (startPart ++ line).rdropWhile isNewline = startPart ++ line := by
        rw [List.rdropWhile_eq_self_iff]
        intro hne hlast
        -- A text of one line is not empty, so its last character is the last of all.
        have hline : line ≠ [] := by
          rintro rfl
          cases hone
        rw [List.getLast_append_of_ne_nil hne hline] at hlast
        have hend : line.getLast hline = .scalar '\n' := of_decide_eq_true hlast
        refine h ⟨by rw [hone]; rfl, line.dropLast, ?_⟩
        rw [← hend, List.dropLast_append_getLast]
      refine ⟨line ++ endPart, [], ?_, List.append_nil _⟩
      rw [hself, List.append_assoc]
  · next first next rest hmany =>
      rw [hmany] at hflatten
      have hlast := List.dropLast_append_getLast (List.cons_ne_nil next rest)
      refine ⟨first, _, rfl, ?_⟩
      rw [← hflatten, List.flatten_cons, List.flatten_append, List.flatten_singleton]
      conv_rhs => rw [← hlast]
      simp

/-- A text of one line with its end loses the end. -/
theorem newLines_of_endsItsLine {newText : PyText} (h : EndsItsLine newText)
    (startPart endPart : PyText) :
    ∃ line, newLines startPart endPart newText = [line] ∧
      line.length < startPart.length + newText.length + endPart.length := by
  obtain ⟨hone, front, hfront⟩ := h
  obtain ⟨line, hline⟩ := List.length_eq_one_iff.mp hone
  have hflatten := PyText.flatten_splitLines newText
  rw [hline, List.flatten_singleton] at hflatten
  have hstripped : ((startPart ++ line).rdropWhile isNewline).length ≤
      (startPart ++ front).length := by
    rw [hflatten, hfront, ← List.append_assoc, List.rdropWhile_concat_pos _ _ _ rfl]
    exact (List.rdropWhile_prefix isNewline (startPart ++ front)).length_le
  refine ⟨(startPart ++ line).rdropWhile isNewline ++ endPart, ?_, ?_⟩
  · unfold newLines
    rw [hline]
  · rw [hfront]
    simp only [List.length_append, List.length_singleton] at hstripped ⊢
    omega

/-! ## One turn -/

/-- The lines are the given ones before a place, and the line of the place has its beginning;
    after a removed line there may be no further line. -/
def KeptBefore (lines : List PyText) (p : LinePosition) (edited : List PyText) : Prop :=
  Kept lines p edited ∨ p.column = 0 ∧ edited = lines.take p.line

section KeptBefore

variable {lines edited : List PyText} {p q : LinePosition}

theorem KeptBefore.kept_of_lt (h : KeptBefore lines p edited) (hq : Within lines q)
    (hlt : q < p) : Kept lines q edited := by
  rcases h with hkept | ⟨hzero, hedited⟩
  · exact hkept.mono hq (LinePosition.le_of_lt hlt)
  · obtain ⟨line, hline, hcolumn⟩ := hq
    have hless : q.line < p.line := by
      rw [LinePosition.lt_def] at hlt
      omega
    refine ⟨line, line.drop q.column, (lines.take p.line).drop (q.line + 1), hline, hcolumn, ?_⟩
    rw [List.take_append_drop, hedited]
    exact take_split hline hless

theorem KeptBefore.kept_of_line_lt (h : KeptBefore lines p edited)
    (hlength : p.line < edited.length) : Kept lines p edited := by
  rcases h with hkept | ⟨-, hedited⟩
  · exact hkept
  · rw [hedited, List.length_take] at hlength
    omega

end KeptBefore

/-- How much stands behind a place, where a line that is too short ends at the place. -/
def behind (edited : List PyText) (p : LinePosition) : Nat :=
  ((edited[p.line]?).getD []).length - p.column + (edited.drop (p.line + 1)).flatten.length

/-- The lines of several that an edit writes hold no more than they are to hold, and less where
    a line end is stripped. -/
theorem newLines_behind {startPart : PyText} {column : Nat}
    (hcolumn : startPart.length ≤ column) (endPart newText : PyText) :
    ∃ first more, newLines startPart endPart newText = first :: more ∧
      first.length - column + more.flatten.length ≤ newText.length + endPart.length ∧
      (EndsItsLine newText →
        first.length - column + more.flatten.length < newText.length + endPart.length) := by
  by_cases hends : EndsItsLine newText
  · obtain ⟨line, hline, hless⟩ := newLines_of_endsItsLine hends startPart endPart
    obtain ⟨front, hfront⟩ := hends.2
    have hpositive : 0 < newText.length := by
      rw [hfront, List.length_append]
      exact Nat.lt_of_lt_of_le Nat.one_pos (Nat.le_add_left _ _)
    refine ⟨line, [], hline, ?_⟩
    rw [List.flatten_nil, List.length_nil]
    omega
  · obtain ⟨head, more, hlines, hwritten⟩ :=
      newLines_of_not_endsItsLine hends startPart endPart
    have hlength := congrArg List.length hwritten
    rw [List.length_append, List.length_append] at hlength
    refine ⟨startPart ++ head, more, hlines, ?_, fun hcontra => absurd hcontra hends⟩
    rw [List.length_append]
    omega

theorem behind_of_split {edited front rest : List PyText} {line : PyText} {p : LinePosition}
    (hsplit : edited = front ++ line :: rest) (hfront : front.length = p.line) :
    behind edited p = line.length - p.column + rest.flatten.length := by
  have hline : edited[p.line]? = some line := by
    rw [hsplit, List.getElem?_append_right (Nat.le_of_eq hfront), hfront, Nat.sub_self]
    rfl
  have hrest : edited.drop (p.line + 1) = rest := by
    rw [hsplit, ← hfront, List.drop_append, List.drop_of_length_le (Nat.le_succ _),
      Nat.add_sub_cancel_left]
    rfl
  rw [behind, hline, hrest, Option.getD_some]

/-- Behind the start of a line there is the line and all that follow. -/
theorem behind_line_start (edited : List PyText) (i : Nat) :
    behind edited ⟨i, 0⟩ = (edited.drop i).flatten.length := by
  cases hline : edited[i]? with
  | none =>
      have hend : edited.length ≤ i := List.getElem?_eq_none_iff.mp hline
      rw [behind, hline, List.drop_of_length_le (Nat.le_succ_of_le hend),
        List.drop_of_length_le hend]
      rfl
  | some line =>
      have hdrop : edited.drop i = line :: edited.drop (i + 1) := by
        obtain ⟨hlt, rfl⟩ := List.getElem?_eq_some_iff.mp hline
        exact List.drop_eq_getElem_cons hlt
      rw [behind, hline, hdrop, List.flatten_cons, List.length_append]
      rfl

section Turns

variable {lines edited next : List PyText} {edit : TextEdit}

/-- The line of the start of an edit is no later than that of its end. -/
theorem startLine_le (hplaced : edit.lineEdit.Placed lines) :
    edit.startLine - 1 ≤ edit.endLine - 1 := by
  rcases LinePosition.le_def.mp hplaced.ordered with hless | ⟨hsame, -⟩
  · exact Nat.le_of_lt hless
  · exact Nat.le_of_eq hsame

/-- **A turn never writes more than its text**, and less where it does not keep what it should:
    whatever the lines are, behind the start of the edit there is at most the text and what was
    behind its end. -/
theorem turn_behind (hplaced : edit.lineEdit.Placed lines)
    (hintact : edited.take (edit.endLine - 1) = lines.take (edit.endLine - 1))
    (hturn : turn edit edited = some next) :
    next.take (edit.startLine - 1) = lines.take (edit.startLine - 1) ∧
      behind next edit.lineEdit.start ≤
        edit.newText.length + behind edited edit.lineEdit.stop ∧
      (¬Keeps edit edited → behind next edit.lineEdit.start <
        edit.newText.length + behind edited edit.lineEdit.stop) := by
  have hle := startLine_le hplaced
  obtain ⟨startLine, hstartLine, -⟩ := hplaced.start
  have hbound : edit.startLine - 1 < lines.length :=
    (List.getElem?_eq_some_iff.mp hstartLine).1
  have hfront : edited.take (edit.startLine - 1) = lines.take (edit.startLine - 1) := by
    have htake := congrArg (List.take (edit.startLine - 1)) hintact
    rwa [List.take_take, List.take_take, Nat.min_eq_left hle] at htake
  have hlength : (edited.take (edit.startLine - 1)).length = edit.startLine - 1 := by
    rw [hfront, List.length_take_of_le (Nat.le_of_lt hbound)]
  have htake : ∀ rest : List PyText,
      (edited.take (edit.startLine - 1) ++ rest).take (edit.startLine - 1) =
        lines.take (edit.startLine - 1) := by
    intro rest
    rw [List.take_left' hlength, hfront]
  unfold turn at hturn
  by_cases hremoves : RemovesLine edit
  · -- The line is removed with what is behind the edit.
    rw [if_pos hremoves, Option.some.injEq, List.eraseIdx_eq_take_drop_succ] at hturn
    subst hturn
    obtain ⟨hsame, htext, hzero⟩ := hremoves
    have hstart : edit.lineEdit.start = ⟨edit.startLine - 1, 0⟩ := by
      simp only [TextEdit.lineEdit, hzero]
    have hstop : edit.lineEdit.stop = ⟨edit.startLine - 1, edit.endCol⟩ := by
      simp only [TextEdit.lineEdit, hsame]
    have hbehind : behind edited ⟨edit.startLine - 1, edit.endCol⟩ =
        ((edited[edit.startLine - 1]?).getD []).length - edit.endCol +
          (edited.drop (edit.startLine - 1 + 1)).flatten.length := rfl
    rw [hstart, hstop, behind_line_start, List.drop_left' hlength, htext, List.length_nil,
      hbehind]
    refine ⟨htake _, by omega, fun hkeeps => ?_⟩
    rw [Keeps, if_pos ⟨hsame, htext, hzero⟩] at hkeeps
    have hpositive := List.length_pos_iff.mpr hkeeps
    rw [List.length_drop] at hpositive
    omega
  · rw [if_neg hremoves] at hturn
    by_cases hsame : edit.startLine - 1 = edit.endLine - 1
    · -- The text goes between the two parts of the line.
      rw [if_pos hsame, Option.map_eq_some_iff] at hturn
      obtain ⟨line, hline, rfl⟩ := hturn
      have hlt := (List.getElem?_eq_some_iff.mp hline).1
      have hset : edited.set (edit.startLine - 1)
          (line.take edit.startCol ++ edit.newText ++ line.drop edit.endCol) =
          edited.take (edit.startLine - 1) ++
            (line.take edit.startCol ++ edit.newText ++ line.drop edit.endCol) ::
              edited.drop (edit.startLine - 1 + 1) := by
        rw [List.set_eq_take_append_cons_drop, if_pos hlt]
      have hstop : edit.lineEdit.stop.line = edit.startLine - 1 := hsame.symm
      rw [hset, behind_of_split rfl hlength,
        behind_of_split (split_at_line hline) (hlength.trans hstop.symm)]
      refine ⟨htake _, ?_, fun hkeeps => absurd ?_ hkeeps⟩
      · simp only [List.length_append, List.length_take, List.length_drop, TextEdit.lineEdit]
        omega
      · rw [Keeps, if_neg hremoves]
        exact fun hne => absurd hsame hne
    · -- The lines of the edit give way to the lines that are written.
      rw [if_neg hsame, Option.bind_eq_some_iff] at hturn
      obtain ⟨firstLine, hfirst, hturn⟩ := hturn
      obtain ⟨lastLine, hlast, rfl⟩ := Option.map_eq_some_iff.mp hturn
      have hlt := (List.getElem?_eq_some_iff.mp hlast).1
      have hlastLength : (edited.take (edit.endLine - 1)).length = edit.endLine - 1 :=
        List.length_take_of_le (Nat.le_of_lt hlt)
      have hcolumn : (firstLine.take edit.startCol).length ≤ edit.startCol := by
        rw [List.length_take]
        exact Nat.min_le_left _ _
      obtain ⟨first, more, hlines, hwritten, hstripped⟩ :=
        newLines_behind hcolumn (lastLine.drop edit.endCol) edit.newText
      rw [hlines, List.append_assoc, List.cons_append, behind_of_split rfl hlength,
        behind_of_split (split_at_line hlast) hlastLength, List.flatten_append,
        List.length_append]
      rw [List.length_drop] at hwritten hstripped
      simp only [TextEdit.lineEdit]
      refine ⟨htake _, by omega, fun hkeeps => ?_⟩
      rw [Keeps, if_neg hremoves] at hkeeps
      have hends : EndsItsLine edit.newText := by
        by_contra hnot
        exact hkeeps fun _ => ⟨hlt, hnot⟩
      have hless := hstripped hends
      omega

/-- **A turn that keeps what it should** replaces the span of the edit. -/
theorem turn_exact (hplaced : edit.lineEdit.Placed lines)
    (hkept : Kept lines edit.lineEdit.stop edited) (hkeeps : Keeps edit edited) :
    ∃ next, turn edit edited = some next ∧ KeptBefore lines edit.lineEdit.start next ∧
      next.flatten = lines.flatten.take (offset lines edit.lineEdit.start) ++ edit.newText ++
        edited.flatten.drop (offset lines edit.lineEdit.stop) := by
  have hle := startLine_le hplaced
  have hlt : edit.endLine - 1 < edited.length := hkept.line_lt
  obtain ⟨firstLine, hfirst⟩ : ∃ line, edited[edit.startLine - 1]? = some line :=
    ⟨_, List.getElem?_eq_getElem (Nat.lt_of_le_of_lt hle hlt)⟩
  obtain ⟨lastLine, hlast⟩ : ∃ line, edited[edit.endLine - 1]? = some line :=
    ⟨_, List.getElem?_eq_getElem hlt⟩
  obtain ⟨hstart, hflatten⟩ := hkept.replaceSpan hplaced.start hplaced.ordered edit.newText
  have hspan : replaceSpan edited edit.lineEdit.start edit.lineEdit.stop edit.newText =
      edited.take (edit.startLine - 1) ++ (firstLine.take edit.startCol ++ edit.newText ++
        lastLine.drop edit.endCol) :: edited.drop (edit.endLine - 1 + 1) := by
    simp only [replaceSpan, TextEdit.lineEdit, hfirst, hlast, Option.getD_some]
  rw [hspan] at hstart hflatten
  obtain ⟨line, x, rest, hline, hcolumn, hedited⟩ :=
    hkept.mono hplaced.start hplaced.ordered
  have hlength : (lines.take (edit.startLine - 1)).length = edit.startLine - 1 :=
    List.length_take_of_le (Nat.le_of_lt (List.getElem?_eq_some_iff.mp hline).1)
  simp only [TextEdit.lineEdit] at hline hcolumn hedited
  unfold turn
  by_cases hremoves : RemovesLine edit
  · rw [if_pos hremoves]
    rw [Keeps, if_pos hremoves, hfirst, Option.getD_some] at hkeeps
    obtain ⟨hsame, htext, hzero⟩ := hremoves
    rw [← hsame, hfirst, Option.some.injEq] at hlast
    subst hlast
    refine ⟨_, rfl, ?_, ?_⟩
    · have hrest : edited.eraseIdx (edit.startLine - 1) =
          lines.take (edit.startLine - 1) ++ rest := by
        rw [hedited, List.eraseIdx_append_of_length_le (Nat.le_of_eq hlength), hlength,
          Nat.sub_self, List.eraseIdx_cons_zero]
      rw [hrest]
      cases rest with
      | nil => exact Or.inr ⟨hzero, List.append_nil _⟩
      | cons following others =>
          refine Or.inl ⟨line, following, others, hline, hcolumn, ?_⟩
          simp only [TextEdit.lineEdit, hzero, List.take_zero, List.nil_append]
    · rw [← hflatten, List.eraseIdx_eq_take_drop_succ, htext, hzero, hkeeps, ← hsame]
      simp
  · rw [if_neg hremoves]
    by_cases hsame : edit.startLine - 1 = edit.endLine - 1
    · rw [if_pos hsame, hfirst, Option.map_some]
      rw [← hsame, hfirst, Option.some.injEq] at hlast
      subst hlast
      refine ⟨_, rfl, ?_⟩
      rw [List.set_eq_take_append_cons_drop, if_pos (Nat.lt_of_le_of_lt hle hlt), hsame]
      rw [hsame] at hstart hflatten
      exact ⟨Or.inl hstart, hflatten⟩
    · rw [if_neg hsame, hfirst, hlast, Option.bind_some, Option.map_some]
      rw [Keeps, if_neg hremoves] at hkeeps
      obtain ⟨head, more, hlines, hwritten⟩ := newLines_of_not_endsItsLine (hkeeps hsame).2
        (firstLine.take edit.startCol) (lastLine.drop edit.endCol)
      refine ⟨_, rfl, ?_, ?_⟩
      · have hfirstLine : firstLine = line.take edit.startCol ++ x := by
          rw [hedited, List.getElem?_append_right (Nat.le_of_eq hlength), hlength,
            Nat.sub_self] at hfirst
          exact (Option.some.inj hfirst).symm
        refine Or.inl ⟨line, head, more ++ edited.drop (edit.endLine - 1 + 1), hline, hcolumn, ?_⟩
        have hfront : edited.take (edit.startLine - 1) = lines.take (edit.startLine - 1) := by
          rw [hedited, List.take_left' hlength]
        rw [hlines, hfront, hfirstLine, List.take_left' (List.length_take_of_le hcolumn)]
        simp only [TextEdit.lineEdit, List.append_assoc, List.cons_append]
      · rw [← hflatten, hlines]
        simp only [List.flatten_append, List.flatten_cons, List.append_assoc]
        rw [← List.append_assoc head, hwritten, List.append_assoc]

end Turns

/-! ## The lines behind a place -/

section Behind

variable {lines edited : List PyText} {p q : LinePosition}

/-- Nothing is longer than what stands before a place and what stands behind it. -/
theorem length_le_behind (hintact : edited.take q.line = lines.take q.line) :
    edited.flatten.length ≤ offset lines q + behind edited q := by
  have hsplit : edited.flatten.length =
      (edited.take q.line).flatten.length + (edited.drop q.line).flatten.length := by
    rw [← List.length_append, ← List.flatten_append, List.take_append_drop]
  have hrest : (edited.drop q.line).flatten.length ≤ q.column + behind edited q := by
    have hline : behind edited ⟨q.line, 0⟩ = ((edited[q.line]?).getD []).length +
        (edited.drop (q.line + 1)).flatten.length := rfl
    rw [← behind_line_start, hline, behind]
    omega
  rw [hsplit, hintact, offset]
  omega

/-- At a place in its line nothing is counted twice. -/
theorem length_eq_behind {line : PyText} (hintact : edited.take p.line = lines.take p.line)
    (hline : edited[p.line]? = some line) (hcolumn : p.column ≤ line.length) :
    edited.flatten.length = offset lines p + behind edited p := by
  have hlength : (edited.take p.line).length = p.line :=
    List.length_take_of_le (Nat.le_of_lt (List.getElem?_eq_some_iff.mp hline).1)
  have hflatten := congrArg (List.length ∘ List.flatten) (split_at_line hline)
  simp only [Function.comp_apply, List.flatten_append, List.flatten_cons,
    List.length_append] at hflatten
  rw [behind_of_split (split_at_line hline) hlength, hflatten, hintact, offset]
  omega

/-- An earlier place has no more before and behind it than a later one. -/
theorem behind_mono (hintact : edited.take q.line = lines.take q.line) (hp : Within lines p)
    (hle : p ≤ q) : offset lines p + behind edited p ≤ offset lines q + behind edited q := by
  obtain ⟨line, hline, hcolumn⟩ := hp
  rcases LinePosition.le_def.mp hle with hless | ⟨hsame, hcolumns⟩
  · have hearlier : edited.take p.line = lines.take p.line := by
      have htake := congrArg (List.take p.line) hintact
      rwa [List.take_take, List.take_take, Nat.min_eq_left (Nat.le_of_lt hless)] at htake
    have hget : edited[p.line]? = some line := by
      rw [← List.getElem?_take_of_lt hless, hintact, List.getElem?_take_of_lt hless, hline]
    rw [← length_eq_behind hearlier hget hcolumn]
    exact length_le_behind hintact
  · rw [offset, offset, behind, behind, hsame]
    omega

end Behind

/-! ## The whole loop -/

/-- The lines after the edits, given in ascending order, by the other applier. -/
def applied (lines : List PyText) (edits : List TextEdit) : List PyText :=
  edits.foldr (fun edit lines => applyTextEdit lines edit) lines

/-- Every turn of the loop, which comes to the last edit first, keeps what it should of the
    lines as it finds them. -/
def EveryTurnKeeps (lines : List PyText) : List TextEdit → Prop
  | [] => True
  | edit :: later => EveryTurnKeeps lines later ∧
      ∀ edited, later.foldrM turn lines = some edited → Keeps edit edited

/-- The other applier replaces the span of the first edit in what it has made of the rest. -/
theorem applied_cons {lines : List PyText} {edit : TextEdit} {later : List TextEdit}
    (h : Ascending lines (edit :: later)) :
    Kept lines edit.lineEdit.stop (applied lines later) ∧
      (applied lines (edit :: later)).flatten =
        lines.flatten.take (offset lines edit.lineEdit.start) ++ edit.newText ++
          (applied lines later).flatten.drop (offset lines edit.lineEdit.stop) := by
  have hplaced := (h.names edit List.mem_cons_self).placed
  have hlater : Ascending lines later :=
    ⟨fun e he => h.names e (List.mem_cons_of_mem _ he), (List.pairwise_cons.mp h.apart).2⟩
  have hafter := (List.pairwise_cons.mp h.ordered).1
  have hkept := (foldr_replaceSpan hlater.placed hlater.ordered hplaced.stop hafter).1
  rw [← foldr_applyTextEdit hlater] at hkept
  have hcons : applied lines (edit :: later) = replaceSpan (applied lines later)
      edit.lineEdit.start edit.lineEdit.stop edit.newText := by
    rw [applied, foldr_applyTextEdit h, List.map_cons, List.foldr_cons,
      ← foldr_applyTextEdit hlater]
    rfl
  refine ⟨hkept, ?_⟩
  rw [hcons]
  exact (hkept.replaceSpan hplaced.start hplaced.ordered edit.newText).2

/-- How the lines of the loop follow those of the other applier: what stands before a place is
    intact, there is at most as much text, less after a turn that did not keep what it should,
    and the same text otherwise. -/
structure Follows (lines : List PyText) (edits : List TextEdit) (edited : List PyText)
    (p : LinePosition) : Prop where
  intact : edited.take p.line = lines.take p.line
  bound : offset lines p + behind edited p ≤ (applied lines edits).flatten.length
  less : ¬EveryTurnKeeps lines edits →
    offset lines p + behind edited p < (applied lines edits).flatten.length
  same : EveryTurnKeeps lines edits → edited.flatten = (applied lines edits).flatten
  before : EveryTurnKeeps lines edits → KeptBefore lines p edited
  kept : EveryTurnKeeps lines edits → (∀ edit ∈ edits, p < edit.lineEdit.start) →
    Kept lines p edited

section Run

variable {lines edited : List PyText} {edit : TextEdit} {later : List TextEdit}

/-- The end of an edit whose turn keeps what it should is where it was. -/
theorem kept_stop (hplaced : edit.lineEdit.Placed lines)
    (hfirst : ∀ e ∈ later, edit.lineEdit.start < e.lineEdit.start)
    (hevery : EveryTurnKeeps lines later) (hkeeps : Keeps edit edited)
    (hfollows : Follows lines later edited edit.lineEdit.stop) :
    Kept lines edit.lineEdit.stop edited := by
  by_cases hsame : edit.startLine - 1 = edit.endLine - 1
  · rcases hfollows.before hevery with hkept | ⟨hzero, -⟩
    · exact hkept
    · -- The edit is empty and in column 0, where no later edit starts.
      have hempty : edit.lineEdit.stop = edit.lineEdit.start := by
        have hordered := LinePosition.le_def.mp hplaced.ordered
        simp only [TextEdit.lineEdit] at hzero hordered ⊢
        rw [← hsame]
        congr 1
        omega
      refine hfollows.kept hevery fun e he => ?_
      rw [hempty]
      exact hfirst e he
  · have hlines : edit.endLine - 1 < edited.length := by
      have hremoves : ¬RemovesLine edit := fun h => hsame h.1
      rw [Keeps, if_neg hremoves] at hkeeps
      exact (hkeeps hsame).1
    exact (hfollows.before hevery).kept_of_line_lt hlines

/-- A turn that keeps what it should, on lines that follow the other applier, writes what that
    one writes. -/
theorem turn_applied (h : Ascending lines (edit :: later))
    (hfirst : ∀ e ∈ later, edit.lineEdit.start < e.lineEdit.start)
    (hevery : EveryTurnKeeps lines later) (hkeeps : Keeps edit edited)
    (hfollows : Follows lines later edited edit.lineEdit.stop) :
    ∃ next, turn edit edited = some next ∧ KeptBefore lines edit.lineEdit.start next ∧
      next.flatten = (applied lines (edit :: later)).flatten := by
  have hplaced := (h.names edit List.mem_cons_self).placed
  obtain ⟨next, hturn, hbefore, hflatten⟩ :=
    turn_exact hplaced (kept_stop hplaced hfirst hevery hkeeps hfollows) hkeeps
  refine ⟨next, hturn, hbefore, ?_⟩
  rw [hflatten, (applied_cons h).2, hfollows.same hevery]

/-- **One turn follows one step of the other applier**, at the start of the edit. -/
theorem Follows.turn {next : List PyText} (h : Ascending lines (edit :: later))
    (hfirst : ∀ e ∈ later, edit.lineEdit.start < e.lineEdit.start)
    (hrun : later.foldrM LineApplier.turn lines = some edited)
    (hfollows : Follows lines later edited edit.lineEdit.stop)
    (hturn : LineApplier.turn edit edited = some next) {p : LinePosition}
    (hp : Within lines p) (hle : p ≤ edit.lineEdit.start) :
    Follows lines (edit :: later) next p := by
  have hplaced := (h.names edit List.mem_cons_self).placed
  obtain ⟨hkeptApplied, happlied⟩ := applied_cons h
  obtain ⟨hintact, hwritten, hless⟩ := turn_behind hplaced hfollows.intact hturn
  have hlength : (applied lines (edit :: later)).flatten.length =
      offset lines edit.lineEdit.start + edit.newText.length +
        ((applied lines later).flatten.length - offset lines edit.lineEdit.stop) := by
    have hfront : (lines.flatten.take (offset lines edit.lineEdit.start)).length =
        offset lines edit.lineEdit.start := by
      obtain ⟨line, hline, hcolumn⟩ := hplaced.start
      rw [take_offset hline hcolumn, List.length_append, List.length_take_of_le hcolumn, offset]
    rw [happlied, List.length_append, List.length_append, List.length_drop, hfront]
  have hbound := hfollows.bound
  have hplace : offset lines p + behind next p ≤
      offset lines edit.lineEdit.start + behind next edit.lineEdit.start :=
    behind_mono hintact hp hle
  have hexact : EveryTurnKeeps lines (edit :: later) →
      KeptBefore lines edit.lineEdit.start next ∧
        next.flatten = (applied lines (edit :: later)).flatten := by
    rintro ⟨hevery, hkeeps⟩
    obtain ⟨other, hother, hbefore, hflatten⟩ :=
      turn_applied h hfirst hevery (hkeeps edited hrun) hfollows
    rw [hturn, Option.some.injEq] at hother
    subst hother
    exact ⟨hbefore, hflatten⟩
  constructor
  case intact =>
    have htake := congrArg (List.take p.line) hintact
    have hline : p.line ≤ edit.startLine - 1 := by
      have hplaces := LinePosition.le_def.mp hle
      simp only [TextEdit.lineEdit] at hplaces
      omega
    rwa [List.take_take, List.take_take, Nat.min_eq_left hline] at htake
  case bound => omega
  case less =>
    intro hfails
    by_cases hkeeps : Keeps edit edited
    · have hearlier : ¬EveryTurnKeeps lines later := by
        intro hevery
        refine hfails ⟨hevery, fun other hother => ?_⟩
        rw [hrun, Option.some.injEq] at hother
        exact hother ▸ hkeeps
      have hshorter := hfollows.less hearlier
      omega
    · have hshorter := hless hkeeps
      omega
  case same => exact fun hevery => (hexact hevery).2
  case before =>
    intro hevery
    by_cases heq : p = edit.lineEdit.start
    · rw [heq]
      exact (hexact hevery).1
    · exact Or.inl ((hexact hevery).1.kept_of_lt hp (LinePosition.lt_of_le_of_ne hle heq))
  case kept =>
    intro hevery hbefore
    exact (hexact hevery).1.kept_of_lt hp (hbefore edit List.mem_cons_self)

/-- **The lines of the loop follow those of the other applier**, at every place before the
    edits that have been applied; and the loop does not fail while every turn keeps what it
    should. -/
theorem run_follows {edits : List TextEdit} (h : Ascending lines edits)
    (hstrict : edits.Pairwise fun a b => a.lineEdit.start < b.lineEdit.start) :
    (EveryTurnKeeps lines edits → ∃ edited, edits.foldrM turn lines = some edited) ∧
      ∀ edited, edits.foldrM turn lines = some edited → ∀ p, Within lines p →
        (∀ edit ∈ edits, p ≤ edit.lineEdit.start) → Follows lines edits edited p := by
  induction edits with
  | nil =>
      refine ⟨fun _ => ⟨lines, rfl⟩, ?_⟩
      rintro _ ⟨⟩ p hp -
      obtain ⟨line, hline, hcolumn⟩ := hp
      have hlength : lines.flatten.length = offset lines p + behind lines p :=
        length_eq_behind rfl hline hcolumn
      exact ⟨rfl, Nat.le_of_eq hlength.symm, fun hfails => absurd trivial hfails, fun _ => rfl,
        fun _ => Or.inl (kept_self ⟨line, hline, hcolumn⟩),
        fun _ _ => kept_self ⟨line, hline, hcolumn⟩⟩
  | cons edit later ih =>
      have hplaced := (h.names edit List.mem_cons_self).placed
      have hlater : Ascending lines later :=
        ⟨fun e he => h.names e (List.mem_cons_of_mem _ he), (List.pairwise_cons.mp h.apart).2⟩
      obtain ⟨hfirst, hstrict⟩ := List.pairwise_cons.mp hstrict
      obtain ⟨hruns, hfollows⟩ := ih hlater hstrict
      have hafter : ∀ e ∈ later, edit.lineEdit.stop ≤ e.lineEdit.start := fun e he =>
        (List.pairwise_cons.mp h.ordered).1 e.lineEdit (List.mem_map_of_mem he)
      constructor
      · rintro ⟨hevery, hkeeps⟩
        obtain ⟨edited, hrun⟩ := hruns hevery
        obtain ⟨next, hturn, -⟩ := turn_applied h hfirst hevery (hkeeps edited hrun)
          (hfollows edited hrun _ hplaced.stop hafter)
        refine ⟨next, ?_⟩
        rw [List.foldrM_cons, hrun]
        exact hturn
      · intro next hrun p hp hbefore
        rw [List.foldrM_cons] at hrun
        obtain ⟨edited, hedited, hturn⟩ := Option.bind_eq_some_iff.mp hrun
        exact (hfollows edited hedited _ hplaced.stop hafter).turn h hfirst hedited hturn hp
          (hbefore edit List.mem_cons_self)

end Run

/-- The loop as a run over the edits in ascending order. -/
theorem applyTextEdits_eq_foldrM {content : PyText} {edits : List TextEdit} (hne : edits ≠ []) :
    applyTextEdits content edits =
      ((sortReversed edits).reverse.foldrM turn content.splitLines).map List.flatten := by
  rw [applyTextEdits, if_neg hne, List.foldrM_reverse]

theorem applied_sorted (content : PyText) (edits : List TextEdit) :
    Eag.Transformations.applyTextEdits content edits =
      (applied content.splitLines (sortReversed edits).reverse).flatten := by
  rw [applied, List.foldr_reverse, Eag.Transformations.applyTextEdits]

theorem lineEdit_start_lt {lines : List PyText} {a b : TextEdit} (ha : a.Names lines)
    (h : a.start < b.start) : a.lineEdit.start < b.lineEdit.start := by
  have hpos := ha.start_pos
  rw [LinePosition.lt_def] at h ⊢
  simp only [TextEdit.start] at h
  simp only [TextEdit.lineEdit]
  omega

/-- **When the two appliers agree.** On edits that do not overlap and whose places are in the
    content, they return the same text exactly when every turn of the loop over the edits keeps
    what it should. -/
theorem applyTextEdits_agree_iff {content : PyText} {edits : List TextEdit}
    (hnames : ∀ edit ∈ edits, edit.Names content.splitLines)
    (hoverlaps : edits.Pairwise fun a b => overlaps a b = false) :
    applyTextEdits content edits = some (Eag.Transformations.applyTextEdits content edits) ↔
      EveryTurnKeeps content.splitLines (sortReversed edits).reverse := by
  have hapart := hoverlaps.imp apart_of_not_overlaps
  have hascending := ascending_of_apart hnames hapart
  have hstrict : (sortReversed edits).reverse.Pairwise
      fun a b => a.lineEdit.start < b.lineEdit.start :=
    (sorted_of_apart hapart).imp_of_mem fun ha _ hlt =>
      lineEdit_start_lt (hascending.names _ ha) hlt.1
  obtain ⟨hruns, hfollows⟩ := run_follows hascending hstrict
  cases hsorted : (sortReversed edits).reverse with
  | nil =>
    -- Without an edit both return the content.
    have hedits : edits = [] := by
      have hperm : (sortReversed edits).Perm edits := List.perm_insertionSort StartsLater edits
      rw [List.reverse_eq_nil_iff.mp hsorted] at hperm
      exact hperm.nil_eq.symm
    subst hedits
    refine iff_of_true ?_ trivial
    rw [applied_sorted]
    exact congrArg some (PyText.flatten_splitLines content).symm
  | cons first others =>
    have hedits : edits ≠ [] := by
      rintro rfl
      exact absurd hsorted (List.cons_ne_nil first others).symm
    rw [applyTextEdits_eq_foldrM hedits, applied_sorted]
    rw [hsorted] at hascending hstrict hruns hfollows ⊢
    have hplace := (hascending.names first List.mem_cons_self).placed.start
    have hbefore : ∀ e ∈ first :: others, first.lineEdit.start ≤ e.lineEdit.start := by
      intro e he
      rcases List.mem_cons.mp he with rfl | he
      · exact LinePosition.le_refl _
      · exact LinePosition.le_of_lt ((List.pairwise_cons.mp hstrict).1 e he)
    constructor
    · intro hagree
      by_contra hfails
      obtain ⟨edited, hrun, hsame⟩ := Option.map_eq_some_iff.mp hagree
      have hfollow := hfollows edited hrun _ hplace hbefore
      have hless := hfollow.less hfails
      have hlength := length_le_behind hfollow.intact
      rw [hsame] at hlength
      omega
    · intro hevery
      obtain ⟨edited, hrun⟩ := hruns hevery
      rw [hrun, Option.map_some, (hfollows edited hrun _ hplace hbefore).same hevery]

/-! ## Two edits of one line -/

/-- A module of two lines. -/
def twoLines : PyText := ofString "abc\nd\n"

/-- The deletion of the first character. -/
def deleteFirst : TextEdit := ⟨ofString "1", ofString "m.py", 1, 0, 1, 1, []⟩

/-- The replacement of the first character. -/
def replaceFirst : TextEdit := ⟨ofString "1", ofString "m.py", 1, 0, 1, 1, ofString "x"⟩

theorem names_twoLines {newText : PyText} :
    (⟨ofString "1", ofString "m.py", 1, 0, 1, 1, newText⟩ : TextEdit).Names
      twoLines.splitLines := by
  have hstart : Within twoLines.splitLines ⟨0, 0⟩ := ⟨_, rfl, by decide⟩
  have hstop : Within twoLines.splitLines ⟨0, 1⟩ := ⟨_, rfl, by decide⟩
  have hordered : (⟨0, 0⟩ : LinePosition) ≤ ⟨0, 1⟩ := by decide
  exact ⟨Nat.le_refl 1, Nat.le_refl 1, hstart, hstop, hordered⟩

/-- Where a character is replaced, the two agree. -/
theorem replaceFirst_agree : applyTextEdits twoLines [replaceFirst] =
    some (Eag.Transformations.applyTextEdits twoLines [replaceFirst]) := by
  refine (applyTextEdits_agree_iff ?_ (List.pairwise_singleton _ _)).mpr ?_
  · intro edit hmem
    rw [List.mem_singleton.mp hmem]
    exact names_twoLines
  · refine ⟨trivial, fun edited hedited => ?_⟩
    have hremoves : ¬RemovesLine replaceFirst := by decide
    rw [Keeps, if_neg hremoves]
    exact fun hlines => absurd rfl hlines

/-- Where the first character is deleted, one of the two removes the line. -/
theorem deleteFirst_disagree : deleteFirst.Names twoLines.splitLines ∧
    applyTextEdits twoLines [deleteFirst] = some (ofString "d\n") ∧
    Eag.Transformations.applyTextEdits twoLines [deleteFirst] = ofString "bc\nd\n" :=
  ⟨names_twoLines, by decide, by decide⟩

end LineApplier

end Eag.Transformations
