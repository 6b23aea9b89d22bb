/-
  Eag.Transformations.Conflicts

  Text edits and how they are applied (sorted from the last to the first, one after
  another, on the list of lines), the conflict detector, and what a list of text edits
  without a conflict is: text edits of one file then start at different places, and none
  starts inside another.

  Lines count from one, as the syntax tree counts them.  Left out: the priority and the
  metadata of an edit, which nothing here reads.
-/

import Mathlib.Data.List.Sort
import Eag.Foundation.LineSpans
import Eag.Foundation.PyText

namespace Eag.Transformations

open Eag.Foundation

/-! ## Edits -/

/-- `TextEdit`. -/
structure TextEdit where
  id : PyText
  file : PyText
  startLine : Nat
  startCol : Nat
  endLine : Nat
  endCol : Nat
  newText : PyText
  deriving DecidableEq, Repr

namespace TextEdit

/-- `(edit.start_line, edit.start_col)`. -/
def start (edit : TextEdit) : LinePosition := ⟨edit.startLine, edit.startCol⟩

/-- `(edit.end_line, edit.end_col)`. -/
def stop (edit : TextEdit) : LinePosition := ⟨edit.endLine, edit.endCol⟩

end TextEdit

/-! ## Application -/

/-- The order of `list.sort(key=..., reverse=True)`. -/
def StartsLater (a b : TextEdit) : Prop := b.start ≤ a.start

instance : DecidableRel StartsLater := fun a b => inferInstanceAs (Decidable (b.start ≤ a.start))

instance : Std.Total StartsLater := ⟨fun a b => LinePosition.le_total b.start a.start⟩

instance : IsTrans TextEdit StartsLater :=
  ⟨fun _ _ _ hab hbc => LinePosition.le_trans hbc hab⟩

/-- The edits from the last start to the first, equal ones as they were. -/
def sortReversed (edits : List TextEdit) : List TextEdit := edits.insertionSort StartsLater

/-- One edit of `apply_text_edits`. -/
def applyTextEdit (lines : List PyText) (edit : TextEdit) : List PyText :=
  let startIdx := edit.startLine - 1
  let endIdx := edit.endLine - 1
  if startIdx ≥ lines.length ∨ endIdx ≥ lines.length then lines
  else if startIdx = endIdx then
    let line := (lines[startIdx]?).getD []
    let startCol := min edit.startCol line.length
    let endCol := min edit.endCol line.length
    lines.set startIdx (line.take startCol ++ edit.newText ++ line.drop endCol)
  else
    let firstLine := (lines[startIdx]?).getD []
    let lastLine := (lines[endIdx]?).getD []
    let startCol := min edit.startCol firstLine.length
    let endCol := min edit.endCol lastLine.length
    let combined := firstLine.take startCol ++ edit.newText ++ lastLine.drop endCol
    -- the slice from `startIdx` to `endIdx + 1` is empty where the edit ends before it starts
    lines.take startIdx ++ combined :: lines.drop (max startIdx (endIdx + 1))

/-- `apply_text_edits`. -/
def applyTextEdits (content : PyText) (edits : List TextEdit) : PyText :=
  ((sortReversed edits).foldl applyTextEdit content.splitLines).flatten

namespace EditEngine

/-- `EditEngine.apply`. -/
def apply (content : PyText) (edits : List TextEdit) : PyText := applyTextEdits content edits

end EditEngine

/-! ## One edit as a replacement of a span -/

namespace TextEdit

/-- The edit with its lines counted from zero. -/
def lineEdit (edit : TextEdit) : LineEdit CodePoint where
  start := ⟨edit.startLine - 1, edit.startCol⟩
  stop := ⟨edit.endLine - 1, edit.endCol⟩
  text := edit.newText

/-- The edit names existing lines, columns within them, and does not end before it starts. -/
structure Names (edit : TextEdit) (lines : List PyText) : Prop where
  start_pos : 1 ≤ edit.startLine
  stop_pos : 1 ≤ edit.endLine
  placed : edit.lineEdit.Placed lines

end TextEdit

/-- An edit whose lines exist replaces its span; `min` keeps a column within its line. -/
theorem applyTextEdit_eq {lines : List PyText} {edit : TextEdit}
    (hstart : edit.startLine - 1 < lines.length) (hend : edit.endLine - 1 < lines.length)
    (hle : edit.startLine - 1 ≤ edit.endLine - 1) :
    applyTextEdit lines edit
      = replaceSpan lines edit.lineEdit.start edit.lineEdit.stop edit.newText := by
  have hexists : ¬ (edit.startLine - 1 ≥ lines.length ∨ edit.endLine - 1 ≥ lines.length) := by
    omega
  have htake : ∀ (line : PyText) (column : Nat), line.take (min column line.length)
      = line.take column := by
    intro line column
    rcases Nat.le_total column line.length with h | h
    · rw [Nat.min_eq_left h]
    · rw [Nat.min_eq_right h, List.take_length, List.take_of_length_le h]
  have hdrop : ∀ (line : PyText) (column : Nat), line.drop (min column line.length)
      = line.drop column := by
    intro line column
    rcases Nat.le_total column line.length with h | h
    · rw [Nat.min_eq_left h]
    · rw [Nat.min_eq_right h, List.drop_length, List.drop_of_length_le h]
  rw [applyTextEdit]
  simp only [if_neg hexists, htake, hdrop]
  split
  · rename_i hsame
    rw [List.set_eq_take_append_cons_drop, if_pos hstart, replaceSpan]
    simp only [TextEdit.lineEdit, hsame]
  · rw [Nat.max_eq_right (by omega), replaceSpan]
    rfl

open Eag.Foundation.PyText (ofString)

/-! ## Edits of every type -/

/-- `SymbolEdit`. -/
structure SymbolEdit where
  symbolId : PyText
  newName : PyText
  deriving DecidableEq, Repr

/-- `ImportEdit`. -/
structure ImportEdit where
  module_ : PyText
  oldImport : PyText
  newImport : PyText
  deriving DecidableEq, Repr

/-- An edit the detector is given. -/
inductive Edit where
  | text (edit : TextEdit)
  | symbol (edit : SymbolEdit)
  | import_ (edit : ImportEdit)
  | composite (edits : List Edit)

/-! ## The detector -/

namespace ConflictDetector

/-- Composite edits are opened once. -/
def flatten (edits : List Edit) : List Edit :=
  edits.flatMap fun
    | .composite inner => inner
    | edit => [edit]

/-- The text edits. -/
def textEdits (edits : List Edit) : List TextEdit :=
  edits.filterMap fun
    | .text edit => some edit
    | _ => none

/-- The symbol edits. -/
def symbolEdits (edits : List Edit) : List SymbolEdit :=
  edits.filterMap fun
    | .symbol edit => some edit
    | _ => none

/-- The import edits. -/
def importEdits (edits : List Edit) : List ImportEdit :=
  edits.filterMap fun
    | .import_ edit => some edit
    | _ => none

/-- Every element with every later one. -/
def pairs {α : Type} : List α → List (α × α)
  | [] => []
  | x :: rest => rest.map (fun y => (x, y)) ++ pairs rest

/-- `_overlaps`: adjacent edits do not conflict. -/
def overlaps (e1 e2 : TextEdit) : Bool :=
  if e1.start < e2.start ∧ e2.start < e1.stop then true
  else if e2.start < e1.start ∧ e1.start < e2.stop then true
  else e1.start = e2.start

/-- The conflict of two text edits. -/
def textConflict (pair : TextEdit × TextEdit) : List PyText :=
  if pair.1.file = pair.2.file ∧ overlaps pair.1 pair.2 then
    [ofString "Overlap conflict between edit " ++ pair.1.id ++ ofString " and " ++ pair.2.id]
  else []

/-- The conflict of two symbol edits. -/
def symbolConflict (pair : SymbolEdit × SymbolEdit) : List PyText :=
  if pair.1.symbolId = pair.2.symbolId ∧ pair.1.newName ≠ pair.2.newName then
    [ofString "Symbol conflict on " ++ pair.1.symbolId ++ ofString ": cannot rename to both '" ++
      pair.1.newName ++ ofString "' and '" ++ pair.2.newName ++ ofString "'"]
  else []

/-- The conflict of two import edits. -/
def importConflict (pair : ImportEdit × ImportEdit) : List PyText :=
  if pair.1.module_ = pair.2.module_ ∧ pair.1.oldImport = pair.2.oldImport
      ∧ pair.1.newImport ≠ pair.2.newImport then
    [ofString "Import conflict on " ++ pair.1.module_ ++ ofString "." ++ pair.1.oldImport ++
      ofString ": cannot update to both '" ++ pair.1.newImport ++ ofString "' and '" ++
      pair.2.newImport ++ ofString "'"]
  else []

/-- `check`. -/
def check (edits : List Edit) : List PyText :=
  let flatEdits := flatten edits
  (pairs (textEdits flatEdits)).flatMap textConflict ++
    (pairs (symbolEdits flatEdits)).flatMap symbolConflict ++
    (pairs (importEdits flatEdits)).flatMap importConflict

/-! ## Edits without a conflict -/

theorem flatten_text (edits : List TextEdit) : flatten (edits.map .text) = edits.map .text := by
  induction edits with
  | nil => rfl
  | cons edit rest ih =>
      rw [List.map_cons, flatten, List.flatMap_cons]
      exact congrArg (Edit.text edit :: ·) ih

theorem textEdits_text (edits : List TextEdit) : textEdits (edits.map .text) = edits := by
  induction edits with
  | nil => rfl
  | cons edit rest ih => exact congrArg (edit :: ·) ih

theorem pairwise_of_pairs {α : Type} {r : α → α → Prop} {xs : List α}
    (h : ∀ pair ∈ pairs xs, r pair.1 pair.2) : xs.Pairwise r := by
  induction xs with
  | nil => exact List.Pairwise.nil
  | cons x rest ih =>
      refine List.pairwise_cons.mpr ⟨fun y hy => ?_, ih fun pair hpair => ?_⟩
      · exact h (x, y) (List.mem_append_left _ (List.mem_map_of_mem hy))
      · exact h pair (List.mem_append_right _ hpair)

/-- Two edits apart: the one that starts first ends before the other starts. -/
def Apart (a b : TextEdit) : Prop :=
  a.start ≠ b.start ∧ (a.start < b.start → a.stop ≤ b.start) ∧ (b.start < a.start → b.stop ≤ a.start)

theorem Apart.symm {a b : TextEdit} (h : Apart a b) : Apart b a :=
  ⟨h.1.symm, h.2.2, h.2.1⟩

instance : Std.Symm Apart := ⟨fun _ _ => Apart.symm⟩

theorem apart_of_not_overlaps {a b : TextEdit} (h : overlaps a b = false) : Apart a b := by
  unfold overlaps at h
  split at h
  · cases h
  · rename_i hfirst
    split at h
    · cases h
    · rename_i hsecond
      refine ⟨of_decide_eq_false h, fun hlt => ?_, fun hlt => ?_⟩
      · exact LinePosition.not_lt.mp fun hin => hfirst ⟨hlt, hin⟩
      · exact LinePosition.not_lt.mp fun hin => hsecond ⟨hlt, hin⟩

/-- **No conflict.**  The text edits of one file are pairwise apart. -/
theorem apart_of_check {edits : List TextEdit} {file : PyText}
    (hfile : ∀ edit ∈ edits, edit.file = file) (h : check (edits.map .text) = []) :
    edits.Pairwise Apart := by
  rw [check, flatten_text, textEdits_text, List.append_eq_nil_iff, List.append_eq_nil_iff] at h
  have hnone := List.flatMap_eq_nil_iff.mp h.1.1
  have hfiles : edits.Pairwise fun a b => a.file = b.file := by
    refine List.pairwise_of_forall_mem_list fun a ha b hb => ?_
    rw [hfile a ha, hfile b hb]
  have hoverlaps : edits.Pairwise fun a b => a.file = b.file → overlaps a b = false := by
    refine pairwise_of_pairs fun pair hpair hsame => ?_
    have hpairNone := hnone pair hpair
    rw [textConflict] at hpairNone
    split at hpairNone
    · exact nomatch hpairNone
    · rename_i hno
      exact Bool.eq_false_iff.mpr fun hover => hno ⟨hsame, hover⟩
  exact (hfiles.and hoverlaps).imp fun hboth => apart_of_not_overlaps (hboth.2 hboth.1)

end ConflictDetector

end Eag.Transformations
