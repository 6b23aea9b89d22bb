/-
  Eag.Transformations.NestedConflicts

  What the conflict detector finds of edits that are nested in composite edits.

  Edits conflict when two of their leaves do (`Conflicting`). The detector opens composite edits
  once, so it compares the leaves that lie in at most one composite edit (`check_iff`); what it
  reports is always a conflict, and `check_exact_iff` says when it reports every one.
-/

import Eag.Transformations.Conflicts

namespace Eag.Transformations

open Eag.Foundation

/-! ## Leaves -/

mutual

/-- The leaf edits of an edit, at any depth. -/
def Edit.leaves : Edit → List Edit
  | .text edit => [.text edit]
  | .symbol edit => [.symbol edit]
  | .import_ edit => [.import_ edit]
  | .composite edits => leavesOf edits

/-- The leaf edits of a list of edits. -/
def leavesOf : List Edit → List Edit
  | [] => []
  | edit :: rest => edit.leaves ++ leavesOf rest

end

/-- An edit that is not composite. -/
def Edit.isLeaf : Edit → Bool
  | .composite _ => false
  | _ => true

/-- The leaf edits that lie in at most so many composite edits. -/
def leavesWithin : Nat → List Edit → List Edit
  | 0, edits => edits.filter Edit.isLeaf
  | depth + 1, edits => edits.flatMap fun
      | .composite inner => leavesWithin depth inner
      | edit => [edit]

/-- Leaves to a bounded depth are leaves, in their order. -/
theorem leavesWithin_sublist (depth : Nat) (edits : List Edit) :
    (leavesWithin depth edits).Sublist (leavesOf edits) := by
  induction depth generalizing edits with
  | zero =>
      induction edits with
      | nil => exact .slnil
      | cons edit rest ih =>
          cases edit with
          | composite inner => exact ih.trans (List.sublist_append_right _ _)
          | text edit => exact ih.cons_cons _
          | symbol edit => exact ih.cons_cons _
          | import_ edit => exact ih.cons_cons _
  | succ depth ihDepth =>
      induction edits with
      | nil => exact .slnil
      | cons edit rest ih =>
          cases edit with
          | composite inner => exact (ihDepth inner).append ih
          | text edit => exact ih.cons_cons _
          | symbol edit => exact ih.cons_cons _
          | import_ edit => exact ih.cons_cons _

/-! ## Conflicts of two leaves -/

namespace TextEdit

/-- The edit starts inside the span of another one. -/
def StartsInside (a b : TextEdit) : Prop := b.start < a.start ∧ a.start < b.stop

/-- The spans overlap: one of the edits starts inside the other. -/
def Overlaps (a b : TextEdit) : Prop := a.StartsInside b ∨ b.StartsInside a

end TextEdit

/-- Two leaf edits conflict. -/
def Conflict : Edit → Edit → Prop
  | .text a, .text b => a.file = b.file ∧ (a.Overlaps b ∨ a.start = b.start)
  | .symbol a, .symbol b => a.symbolId = b.symbolId ∧ a.newName ≠ b.newName
  | .import_ a, .import_ b =>
      a.module_ = b.module_ ∧ a.oldImport = b.oldImport ∧ a.newImport ≠ b.newImport
  | _, _ => False

theorem Conflict.symm {a b : Edit} (h : Conflict a b) : Conflict b a := by
  cases a <;> cases b <;> simp only [Conflict] at h ⊢
  · exact ⟨h.1.symm, h.2.imp Or.symm Eq.symm⟩
  · exact ⟨h.1.symm, Ne.symm h.2⟩
  · exact ⟨h.1.symm, h.2.1.symm, Ne.symm h.2.2⟩

/-- Two of the edits, at different places of the list, conflict. -/
def Conflicting (leaves : List Edit) : Prop := ¬leaves.Pairwise fun a b => ¬Conflict a b

theorem Conflicting.of_sublist {shown leaves : List Edit} (h : shown.Sublist leaves)
    (hshown : Conflicting shown) : Conflicting leaves :=
  fun hleaves => hshown (hleaves.sublist h)

/-- Whether edits conflict does not depend on their order. -/
theorem conflicting_congr {leaves shuffled : List Edit} (h : leaves.Perm shuffled) :
    Conflicting leaves ↔ Conflicting shuffled :=
  not_congr (h.pairwise_iff fun hnot hconflict => hnot hconflict.symm)

/-! ## What the detector compares -/

namespace ConflictDetector

theorem flatMap_pairs_eq_nil {α β : Type} {f : α × α → List β} {xs : List α} :
    (pairs xs).flatMap f = [] ↔ xs.Pairwise fun a b => f (a, b) = [] := by
  constructor
  · intro h
    exact pairwise_of_pairs fun pair hpair => List.flatMap_eq_nil_iff.mp h pair hpair
  · intro h
    induction h with
    | nil => rfl
    | cons hfirst _ ih =>
        rw [pairs, List.flatMap_append, ih, List.append_nil, List.flatMap_eq_nil_iff]
        intro pair hpair
        obtain ⟨y, hy, rfl⟩ := List.mem_map.mp hpair
        exact hfirst y hy

theorem overlaps_iff {a b : TextEdit} : overlaps a b ↔ a.Overlaps b ∨ a.start = b.start := by
  unfold overlaps
  split
  · next h => exact iff_of_true rfl (.inl (.inr h))
  · next hfirst =>
      split
      · next h => exact iff_of_true rfl (.inl (.inl h))
      · next hsecond =>
          rw [decide_eq_true_eq]
          refine ⟨.inr, fun h => h.resolve_left ?_⟩
          rintro (h | h)
          · exact hsecond h
          · exact hfirst h

theorem textConflict_eq_nil {a b : TextEdit} :
    textConflict (a, b) = [] ↔ ¬Conflict (.text a) (.text b) := by
  simp only [textConflict, overlaps_iff, ite_eq_right_iff, reduceCtorEq, Conflict, imp_false]

theorem symbolConflict_eq_nil {a b : SymbolEdit} :
    symbolConflict (a, b) = [] ↔ ¬Conflict (.symbol a) (.symbol b) := by
  simp only [symbolConflict, ite_eq_right_iff, reduceCtorEq, Conflict, imp_false]

theorem importConflict_eq_nil {a b : ImportEdit} :
    importConflict (a, b) = [] ↔ ¬Conflict (.import_ a) (.import_ b) := by
  simp only [importConflict, ite_eq_right_iff, reduceCtorEq, Conflict, imp_false]

/-- Edits of different types do not conflict, so each type is compared by itself. -/
theorem pairwise_types (edits : List Edit) :
    (edits.Pairwise fun a b => ¬Conflict a b) ↔
      (textEdits edits).Pairwise (fun a b => textConflict (a, b) = []) ∧
      (symbolEdits edits).Pairwise (fun a b => symbolConflict (a, b) = []) ∧
      (importEdits edits).Pairwise fun a b => importConflict (a, b) = [] := by
  simp only [textConflict_eq_nil, symbolConflict_eq_nil, importConflict_eq_nil, textEdits,
    symbolEdits, importEdits, List.pairwise_filterMap, ← List.pairwise_and_iff]
  refine List.Pairwise.iff fun a b => ?_
  cases a <;> cases b <;> simp [Conflict]

/-- The leaves in at most one composite edit are those that opening once leaves. -/
theorem leavesWithin_one (edits : List Edit) :
    leavesWithin 1 edits = (flatten edits).filter Edit.isLeaf := by
  induction edits with
  | nil => rfl
  | cons edit rest ih =>
      have hflatten : flatten (edit :: rest) = flatten [edit] ++ flatten rest := by
        rw [flatten, flatten, flatten, ← List.flatMap_append, List.singleton_append]
      have hwithin : leavesWithin 1 (edit :: rest) =
          leavesWithin 1 [edit] ++ leavesWithin 1 rest := by
        rw [leavesWithin, leavesWithin, leavesWithin, ← List.flatMap_append,
          List.singleton_append]
      rw [hflatten, List.filter_append, hwithin, ih]
      congr 1
      cases edit with
      | composite inner => simp [flatten, leavesWithin]
      | text edit => rfl
      | symbol edit => rfl
      | import_ edit => rfl

/-- A composite edit conflicts with nothing, so leaving it out changes no conflict. -/
theorem pairwise_filter_isLeaf (edits : List Edit) :
    ((edits.filter Edit.isLeaf).Pairwise fun a b => ¬Conflict a b) ↔
      edits.Pairwise fun a b => ¬Conflict a b := by
  rw [List.pairwise_filter]
  refine List.Pairwise.iff fun a b => ?_
  cases a <;> cases b <;> simp [Edit.isLeaf, Conflict]

/-- **The detector reports something** exactly when two leaves conflict that lie in at most one
    composite edit each. -/
theorem check_iff (edits : List Edit) : check edits ≠ [] ↔ Conflicting (leavesWithin 1 edits) := by
  refine not_congr ?_
  rw [check, List.append_eq_nil_iff, List.append_eq_nil_iff, flatMap_pairs_eq_nil,
    flatMap_pairs_eq_nil, flatMap_pairs_eq_nil, leavesWithin_one, pairwise_filter_isLeaf,
    pairwise_types, and_assoc]

/-- **Nothing is reported that is no conflict.** -/
theorem conflicting_of_check {edits : List Edit} (h : check edits ≠ []) :
    Conflicting (leavesOf edits) :=
  ((check_iff edits).mp h).of_sublist (leavesWithin_sublist 1 edits)

/-- **Every conflict is reported**, in whatever order and grouping the leaves are given, exactly
    when leaves that conflict do so within one composite edit. -/
theorem check_exact_iff {edits shuffled : List Edit}
    (h : (leavesOf edits).Perm (leavesOf shuffled)) :
    ((check edits ≠ [] ↔ Conflicting (leavesOf edits)) ∧
        (check shuffled ≠ [] ↔ Conflicting (leavesOf shuffled)) ∧
        (check edits ≠ [] ↔ check shuffled ≠ [])) ↔
      (Conflicting (leavesOf edits) → Conflicting (leavesWithin 1 edits)) ∧
        (Conflicting (leavesOf shuffled) → Conflicting (leavesWithin 1 shuffled)) := by
  constructor
  · rintro ⟨hedits, hshuffled, -⟩
    exact ⟨fun hconflict => (check_iff edits).mp (hedits.mpr hconflict),
      fun hconflict => (check_iff shuffled).mp (hshuffled.mpr hconflict)⟩
  · rintro ⟨hedits, hshuffled⟩
    have hexact : check edits ≠ [] ↔ Conflicting (leavesOf edits) :=
      ⟨conflicting_of_check, fun hconflict => (check_iff edits).mpr (hedits hconflict)⟩
    have hexact' : check shuffled ≠ [] ↔ Conflicting (leavesOf shuffled) :=
      ⟨conflicting_of_check, fun hconflict => (check_iff shuffled).mpr (hshuffled hconflict)⟩
    refine ⟨hexact, hexact', ?_⟩
    rw [hexact, hexact']
    exact conflicting_congr h

/-! ## A conflict two composite edits deep -/

/-- A symbol is renamed to one name. -/
def renameFirst : Edit := .symbol ⟨.ofString "pkg.f", .ofString "g"⟩

/-- The symbol is renamed to another name. -/
def renameSecond : Edit := .symbol ⟨.ofString "pkg.f", .ofString "h"⟩

theorem check_exact_renames :
    ((check [renameFirst, renameSecond] ≠ [] ↔
        Conflicting (leavesOf [renameFirst, renameSecond])) ∧
      (check [.composite [renameSecond], renameFirst] ≠ [] ↔
        Conflicting (leavesOf [.composite [renameSecond], renameFirst])) ∧
      (check [renameFirst, renameSecond] ≠ [] ↔
        check [.composite [renameSecond], renameFirst] ≠ [])) ↔
    (Conflicting (leavesOf [renameFirst, renameSecond]) →
        Conflicting (leavesWithin 1 [renameFirst, renameSecond])) ∧
      (Conflicting (leavesOf [.composite [renameSecond], renameFirst]) →
        Conflicting (leavesWithin 1 [.composite [renameSecond], renameFirst])) :=
  check_exact_iff (List.Perm.swap renameSecond renameFirst [])

/-- The two renamings conflict, but inside two composite edits they are not compared. -/
theorem check_misses_nested_conflict :
    ¬(check [.composite [.composite [renameFirst, renameSecond]]] ≠ [] ↔
      Conflicting (leavesOf [.composite [.composite [renameFirst, renameSecond]]])) := by
  intro h
  refine h.mpr (fun hapart => ?_) rfl
  obtain ⟨hfirst, -⟩ := List.pairwise_cons.mp hapart
  exact hfirst renameSecond List.mem_cons_self ⟨rfl, by decide⟩

end ConflictDetector

end Eag.Transformations
