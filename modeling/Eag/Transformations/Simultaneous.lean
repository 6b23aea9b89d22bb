/-
  Eag.Transformations.Simultaneous

  Text edits without a conflict are applied as one simultaneous substitution.

  The edits are applied from the last start to the first on the edited lines.  Without a
  conflict every edit ends before the start of those already applied, where the lines are
  still the lines of the content (`Kept`), so each replaces its own span.
-/

import Mathlib.Data.List.Pairwise
import Eag.Transformations.Conflicts

namespace Eag.Transformations

open Eag.Foundation ConflictDetector
open Eag.Foundation.PyText (ofString)

/-! ## The order of application -/

/-- Edits that are apart have one order. -/
theorem sortReversed_eq_of_perm {edits shuffled : List TextEdit} (hapart : edits.Pairwise Apart)
    (h : shuffled.Perm edits) : sortReversed shuffled = sortReversed edits := by
  have hperm : ∀ list : List TextEdit, (sortReversed list).Perm list := fun list =>
    List.perm_insertionSort StartsLater list
  refine List.Perm.eq_of_pairwise ?_ (List.pairwise_insertionSort StartsLater shuffled)
    (List.pairwise_insertionSort StartsLater edits)
    ((hperm shuffled).trans (h.trans (hperm edits).symm))
  intro a b ha hb hba hab
  by_contra hne
  have hfar := hapart.forall
    (h.mem_iff.mp ((hperm shuffled).mem_iff.mp ha)) ((hperm edits).mem_iff.mp hb) hne
  exact LinePosition.not_lt.mpr hba (LinePosition.lt_of_le_of_ne hab hfar.1)

/-! ## Application as substitution -/

theorem lineEdit_ordered {lines : List PyText} {a b : TextEdit} (ha : a.Names lines)
    (hb : b.Names lines) (h : a.stop ≤ b.start) : a.lineEdit.stop ≤ b.lineEdit.start := by
  have hastop := ha.stop_pos
  have hbstart := hb.start_pos
  rw [LinePosition.le_def] at h ⊢
  simp only [TextEdit.stop, TextEdit.start] at h
  simp only [TextEdit.lineEdit]
  omega

/-- Edits in ascending order whose spans are apart. -/
structure Ascending (lines : List PyText) (edits : List TextEdit) : Prop where
  names : ∀ edit ∈ edits, edit.Names lines
  apart : edits.Pairwise fun a b => a.stop ≤ b.start

theorem Ascending.placed {lines : List PyText} {edits : List TextEdit}
    (h : Ascending lines edits) : ∀ edit ∈ edits.map TextEdit.lineEdit, edit.Placed lines := by
  intro edit hmem
  obtain ⟨named, hnamed, rfl⟩ := List.mem_map.mp hmem
  exact (h.names named hnamed).placed

theorem Ascending.ordered {lines : List PyText} {edits : List TextEdit}
    (h : Ascending lines edits) :
    (edits.map TextEdit.lineEdit).Pairwise fun a b => a.stop ≤ b.start := by
  rw [List.pairwise_map]
  refine h.apart.imp_of_mem fun ha hb hle => ?_
  exact lineEdit_ordered (h.names _ ha) (h.names _ hb) hle

/-- **Applied edits as replacements.**  Where an edit is applied the lines are those of the
    content up to its end, so its lines exist. -/
theorem foldr_applyTextEdit {lines : List PyText} {edits : List TextEdit}
    (h : Ascending lines edits) :
    edits.foldr (fun edit lines => applyTextEdit lines edit) lines
      = (edits.map TextEdit.lineEdit).foldr
          (fun edit lines => replaceSpan lines edit.start edit.stop edit.text) lines := by
  induction edits with
  | nil => rfl
  | cons edit rest ih =>
      obtain ⟨hedit, hrest⟩ := List.forall_mem_cons.mp h.names
      obtain ⟨hafter, hapart⟩ := List.pairwise_cons.mp h.apart
      have hascending : Ascending lines rest := ⟨hrest, hapart⟩
      have hbefore : ∀ later ∈ rest.map TextEdit.lineEdit, edit.lineEdit.stop ≤ later.start := by
        intro later hmem
        obtain ⟨named, hnamed, rfl⟩ := List.mem_map.mp hmem
        exact lineEdit_ordered hedit (hrest named hnamed) (hafter named hnamed)
      have hkept := (foldr_replaceSpan hascending.placed hascending.ordered hedit.placed.stop
        hbefore).1
      have hstop : edit.endLine - 1 < _ := hkept.line_lt
      have hle : edit.startLine - 1 ≤ edit.endLine - 1 := by
        rcases LinePosition.le_def.mp hedit.placed.ordered with hless | ⟨hsame, -⟩
        · exact Nat.le_of_lt hless
        · exact Nat.le_of_eq hsame
      rw [List.foldr_cons, ih hascending, List.map_cons, List.foldr_cons]
      exact applyTextEdit_eq (Nat.lt_of_le_of_lt hle hstop) hstop hle

/-- The content with the spans of ascending edits replaced at once. -/
def substituted (content : PyText) (ordered : List TextEdit) : PyText :=
  substitute content 0
    (ordered.map fun edit => edit.lineEdit.replacement content.splitLines)

theorem flatten_foldr_applyTextEdit {content : PyText} {edits : List TextEdit}
    (h : Ascending content.splitLines edits) :
    (edits.foldr (fun edit lines => applyTextEdit lines edit) content.splitLines).flatten
      = substituted content edits := by
  rw [foldr_applyTextEdit h, substituted]
  cases edits with
  | nil => exact PyText.flatten_splitLines content
  | cons edit rest =>
      -- an edit names a line, so there is a first place
      obtain ⟨line, hline, -⟩ := (h.names edit List.mem_cons_self).placed.start
      have hlength := (List.getElem?_eq_some_iff.mp hline).1
      have hfirst : Within content.splitLines ⟨0, 0⟩ := by
        exact ⟨content.splitLines[0], List.getElem?_eq_getElem (Nat.zero_lt_of_lt hlength),
          Nat.zero_le _⟩
      have hzero : ∀ place : LinePosition, (⟨0, 0⟩ : LinePosition) ≤ place := by
        intro place
        rw [LinePosition.le_def]
        dsimp only
        omega
      have hflatten := (foldr_replaceSpan h.placed h.ordered hfirst fun edit _ => hzero _).2
      rw [PyText.flatten_splitLines, List.map_map] at hflatten
      exact hflatten

/-- Edits that are apart stand one behind the other once they are sorted. -/
theorem sorted_of_apart {edits : List TextEdit} (hapart : edits.Pairwise Apart) :
    (sortReversed edits).reverse.Pairwise fun a b => a.start < b.start ∧ a.stop ≤ b.start := by
  have hperm : (sortReversed edits).reverse.Perm edits :=
    (List.reverse_perm _).trans (List.perm_insertionSort StartsLater edits)
  have hfar : (sortReversed edits).reverse.Pairwise Apart :=
    (hperm.pairwise_iff Apart.symm).mpr hapart
  have hsorted : (sortReversed edits).reverse.Pairwise fun a b => a.start ≤ b.start :=
    List.pairwise_reverse.mpr (List.pairwise_insertionSort StartsLater edits)
  refine (hsorted.and hfar).imp fun hboth => ?_
  have hlt := LinePosition.lt_of_le_of_ne hboth.1 hboth.2.1
  exact ⟨hlt, hboth.2.2.1 hlt⟩

theorem ascending_of_apart {lines : List PyText} {edits : List TextEdit}
    (hnames : ∀ edit ∈ edits, edit.Names lines) (hapart : edits.Pairwise Apart) :
    Ascending lines (sortReversed edits).reverse where
  names edit hmem := by
    have hperm : (sortReversed edits).reverse.Perm edits :=
      (List.reverse_perm _).trans (List.perm_insertionSort StartsLater edits)
    exact hnames edit (hperm.mem_iff.mp hmem)
  apart := (sorted_of_apart hapart).imp And.right

/-- **Text edits are applied at once.**  For edits of one file that name existing places and
    have no conflict there is one ascending order, and in whatever order they are given, the
    result is the content with every span replaced by its text and everything else kept. -/
theorem apply_text_edits_simultaneous {content file : PyText} {edits : List TextEdit}
    (hfile : ∀ edit ∈ edits, edit.file = file)
    (hnames : ∀ edit ∈ edits, edit.Names content.splitLines)
    (hcheck : check (edits.map .text) = []) :
    ∃ ordered : List TextEdit, ordered.Perm edits
      ∧ ordered.Pairwise (fun a b => a.start < b.start ∧ a.stop ≤ b.start)
      ∧ ∀ shuffled : List TextEdit, shuffled.Perm edits →
          applyTextEdits content shuffled = substituted content ordered
            ∧ EditEngine.apply content shuffled = substituted content ordered := by
  have hapart := apart_of_check hfile hcheck
  have hperm : (sortReversed edits).reverse.Perm edits :=
    (List.reverse_perm _).trans (List.perm_insertionSort StartsLater edits)
  have hordered := sorted_of_apart hapart
  have hascending := ascending_of_apart hnames hapart
  refine ⟨(sortReversed edits).reverse, hperm, hordered, fun shuffled hshuffled => ?_⟩
  have happly : applyTextEdits content shuffled
      = substituted content (sortReversed edits).reverse := by
    rw [← flatten_foldr_applyTextEdit hascending, List.foldr_reverse, applyTextEdits,
      sortReversed_eq_of_perm hapart hshuffled]
  exact ⟨happly, happly⟩

/-! ## Two edits, one over a line end -/

/-- Two lines. -/
def sumContent : PyText := ofString "a = b\nc\n"

/-- A longer name for `a`, and two lines in place of `b` and the line of `c`. -/
def sumEdits : List TextEdit :=
  [⟨ofString "1", ofString "sum.py", 1, 0, 1, 1, ofString "total"⟩,
    ⟨ofString "2", ofString "sum.py", 1, 4, 2, 1, ofString "x\ny"⟩]

example : applyTextEdits sumContent sumEdits = ofString "total = x\ny\n" := by decide

theorem apply_text_edits_sum :
    ∃ ordered : List TextEdit, ordered.Perm sumEdits
      ∧ ordered.Pairwise (fun a b => a.start < b.start ∧ a.stop ≤ b.start)
      ∧ ∀ shuffled : List TextEdit, shuffled.Perm sumEdits →
          applyTextEdits sumContent shuffled = substituted sumContent ordered
            ∧ EditEngine.apply sumContent shuffled = substituted sumContent ordered := by
  have hwithin : Within sumContent.splitLines ⟨0, 0⟩ ∧ Within sumContent.splitLines ⟨0, 1⟩
      ∧ Within sumContent.splitLines ⟨0, 4⟩ ∧ Within sumContent.splitLines ⟨1, 1⟩ :=
    ⟨⟨_, rfl, by decide⟩, ⟨_, rfl, by decide⟩, ⟨_, rfl, by decide⟩, ⟨_, rfl, by decide⟩⟩
  obtain ⟨h00, h01, h04, h11⟩ := hwithin
  refine @apply_text_edits_simultaneous _ (ofString "sum.py") _ (by decide) ?_ (by decide)
  intro edit hmem
  rcases List.mem_cons.mp hmem with rfl | hmem
  · exact ⟨Nat.le_refl 1, Nat.le_refl 1, ⟨h00, h01, by decide⟩⟩
  · rw [List.mem_singleton.mp hmem]
    exact ⟨Nat.le_refl 1, by decide, ⟨h04, h11, by decide⟩⟩

end Eag.Transformations
