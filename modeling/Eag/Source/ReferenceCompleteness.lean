/-
  Eag.Source.ReferenceCompleteness

  Which names the references cover. `recordedNames` is what the visitor walks through and
  `passedOver` the parts that it does not visit; a visit appends one reference for every
  recorded name, whatever its scopes are (`visit_names`), and the names of a tree are the
  recorded ones and those of the parts passed over (`loadNames_perm`).
-/

import Eag.Source.References

namespace Eag.Source.References

open Eag.Foundation
open Eag.Foundation.PyText (ofString)

/-! ## What is walked through -/

mutual

/-- The places of the names in load context that the visitor comes to, in its order. -/
def recordedNames : Tree → List Span
  | .classDef _ bases rest => recordedNamesAll bases ++ recordedNamesAll rest
  | .functionDef _ _ children => recordedNamesAll children
  | .lambda _ children => recordedNamesAll children
  | .comp _ iter _ others elements =>
      recordedNames iter ++ recordedNamesAll others ++ recordedNamesAll elements
  | .generator _ iter ifs => recordedNames iter ++ recordedNamesAll ifs
  | .exceptHandler _ children => recordedNamesAll children
  | .matchAs _ children => recordedNamesAll children
  | .name span _ ctx => if ctx = .load then [span] else []
  | .attribute_ _ value _ _ => recordedNames value
  | .call func arguments => recordedNames func ++ recordedNamesAll arguments
  | .assign targets value => recordedNamesAll targets ++ recordedNames value
  | .annAssign target annotation_ value =>
      recordedNames target ++ recordedNames annotation_ ++ recordedNamesAll value
  | .sequence elts => recordedNamesAll elts
  | .import_ _ => []
  | .importFrom _ _ => []
  | .other children => recordedNamesAll children

/-- The names that the visitor comes to, tree by tree. -/
def recordedNamesAll : List Tree → List Span
  | [] => []
  | node :: rest => recordedNames node ++ recordedNamesAll rest

end

mutual

/-- The parts that the visitor passes over: of the first generator of a comprehension the
    target and the conditions, of the others the target. -/
def passedOver : Tree → List Tree
  | .classDef _ bases rest => passedOverAll bases ++ passedOverAll rest
  | .functionDef _ _ children => passedOverAll children
  | .lambda _ children => passedOverAll children
  | .comp target iter ifs others elements =>
      target :: ifs ++ (passedOver iter ++ passedOverAll others ++ passedOverAll elements)
  | .generator target iter ifs => target :: (passedOver iter ++ passedOverAll ifs)
  | .exceptHandler _ children => passedOverAll children
  | .matchAs _ children => passedOverAll children
  | .name _ _ _ => []
  | .attribute_ _ value _ _ => passedOver value
  | .call func arguments => passedOver func ++ passedOverAll arguments
  | .assign targets value => passedOverAll targets ++ passedOver value
  | .annAssign target annotation_ value =>
      passedOver target ++ passedOver annotation_ ++ passedOverAll value
  | .sequence elts => passedOverAll elts
  | .import_ _ => []
  | .importFrom _ _ => []
  | .other children => passedOverAll children

/-- The parts that the visitor passes over, tree by tree. -/
def passedOverAll : List Tree → List Tree
  | [] => []
  | node :: rest => passedOver node ++ passedOverAll rest

end

/-! ## A visit records what it comes to -/

/-- The place that a reference gives. -/
def SymbolReference.place (reference : SymbolReference) : Nat × Int × Nat × Nat :=
  (reference.line, reference.column, reference.endLine, reference.endColumn)

/-- The place of a node, as a reference to it is to give it. -/
def placeOf (span : Span) : Nat × Int × Nat × Nat :=
  (span.line, span.column, span.endLine, span.endColumn)

/-- The places of the references to names. -/
def namePlaces (references : List (Origin × SymbolReference)) : List (Nat × Int × Nat × Nat) :=
  (references.filter fun reference => reference.1 = .name).map fun reference =>
    reference.2.place

/-- The places of the names that have been recorded. -/
def Visitor.names (v : Visitor) : List (Nat × Int × Nat × Nat) := namePlaces v.references

section Names

variable (v : Visitor)

@[simp] theorem names_bind (name qname : PyText) : (v.bind name qname).names = v.names := rfl

@[simp] theorem names_inScope (change : Dict PyText PyText → Dict PyText PyText) :
    (v.inScope change).names = v.names := rfl

@[simp] theorem names_enter (name : PyText) : (v.enter name).names = v.names := rfl

@[simp] theorem names_leave : v.leave.names = v.names := rfl

@[simp] theorem names_openScope (names : Dict PyText PyText) :
    (v.openScope names).names = v.names := rfl

@[simp] theorem names_closeScope : v.closeScope.names = v.names := rfl

@[simp] theorem names_openClass (bases : List PyText) : (v.openClass bases).names = v.names := rfl

@[simp] theorem names_closeClass : v.closeClass.names = v.names := rfl

@[simp] theorem names_bindCaught (name : Option Identifier) :
    (bindCaught v name).names = v.names := by
  cases name <;> rfl

/-- Changes that record nothing record nothing together. -/
theorem names_foldl {α : Type} (change : Visitor → α → Visitor)
    (h : ∀ v a, (change v a).names = v.names) (as : List α) :
    (as.foldl change v).names = v.names := by
  induction as generalizing v with
  | nil => rfl
  | cons a as ih => rw [List.foldl_cons, ih, h]

@[simp] theorem names_noteType (type : Option PyText) (targets : List Tree) :
    (noteType v type targets).names = v.names := by
  cases type with
  | none => rfl
  | some type =>
      rw [noteType]
      exact names_foldl v (fun v name => v.inferred (v.qname name) type) (fun _ _ => rfl) _

@[simp] theorem names_visitImport (names : List Alias) :
    (visitImport v names).names = v.names := by
  unfold visitImport
  apply names_foldl
  intro v named
  rfl

@[simp] theorem names_visitImportFrom (module_ : Option PyText) (names : List Alias) :
    (visitImportFrom v module_ names).names = v.names := by
  unfold visitImportFrom
  apply names_foldl
  intro v named
  rfl

/-- A reference from an attribute is none to a name. -/
@[simp] theorem names_visitAttribute (span : Span) (value : Tree) (attr : PyText)
    (ctx : Context) : (visitAttribute v span value attr ctx).names = v.names := by
  unfold visitAttribute
  split
  · split
    · rfl
    · simp [Visitor.names, namePlaces, Visitor.refer]
  · rfl

/-- A name in load context is recorded where it stands. -/
@[simp] theorem names_visitName (span : Span) (id : PyText) (ctx : Context) :
    (visitName v span id ctx).names =
      v.names ++ (if ctx = .load then [span] else []).map placeOf := by
  cases ctx with
  | load =>
      simp only [visitName, Visitor.names, namePlaces, Visitor.refer, List.filter_append,
        List.map_append]
      rfl
  | store => exact (List.append_nil _).symm
  | del => exact (List.append_nil _).symm

end Names

mutual

/-- **A visit records every name that it comes to**, once and in order. -/
theorem visit_names (v : Visitor) (node : Tree) :
    (visit v node).names = v.names ++ (recordedNames node).map placeOf := by
  cases node with
  | classDef name bases rest =>
      simp [visit, recordedNames, visitAll_names]
  | functionDef name signature children => simp [visit, recordedNames, visitAll_names]
  | lambda signature children => simp [visit, recordedNames, visitAll_names]
  | comp target iter ifs others elements =>
      simp [visit, recordedNames, visit_names, visitAll_names]
  | generator target iter ifs => simp [visit, recordedNames, visit_names, visitAll_names]
  | exceptHandler name children => simp [visit, recordedNames, visitAll_names]
  | matchAs name children => simp [visit, recordedNames, visitAll_names]
  | name span id ctx => rw [visit, names_visitName, recordedNames]
  | attribute_ span value attr ctx => simp [visit, recordedNames, visit_names]
  | call func arguments => simp [visit, recordedNames, visit_names, visitAll_names]
  | assign targets value => simp [visit, recordedNames, visit_names, visitAll_names]
  | annAssign target annotation_ value =>
      simp [visit, recordedNames, visit_names, visitAll_names]
  | sequence elts => simp [visit, recordedNames, visitAll_names]
  | import_ names => simp [visit, recordedNames]
  | importFrom module_ names => simp [visit, recordedNames]
  | other children => simp [visit, recordedNames, visitAll_names]

/-- The children, one after another. -/
theorem visitAll_names (v : Visitor) (nodes : List Tree) :
    (visitAll v nodes).names = v.names ++ (recordedNamesAll nodes).map placeOf := by
  cases nodes with
  | nil => simp [visitAll, recordedNamesAll]
  | cons node rest =>
      rw [visitAll, visitAll_names, visit_names, recordedNamesAll, List.map_append,
        List.append_assoc]

end

/-! ## All names -/

theorem loadNamesAll_append (first second : List Tree) :
    loadNamesAll (first ++ second) = loadNamesAll first ++ loadNamesAll second := by
  induction first with
  | nil => rfl
  | cons node rest ih => rw [List.cons_append, loadNamesAll, loadNamesAll, ih, List.append_assoc]

mutual

/-- What is recorded and what stands in the parts passed over is counted. -/
theorem count_loadNames (span : Span) (node : Tree) :
    (loadNames node).count span =
      (recordedNames node).count span + (loadNamesAll (passedOver node)).count span := by
  cases node with
  | classDef name bases rest =>
      have hbases := count_loadNamesAll span bases
      have hrest := count_loadNamesAll span rest
      simp only [loadNames, recordedNames, passedOver, loadNamesAll_append, List.count_append]
      omega
  | functionDef name signature children => exact count_loadNamesAll span children
  | lambda signature children => exact count_loadNamesAll span children
  | comp target iter ifs others elements =>
      have hiter := count_loadNames span iter
      have hothers := count_loadNamesAll span others
      have helements := count_loadNamesAll span elements
      simp only [loadNames, recordedNames, passedOver, loadNamesAll_append, List.count_append,
        List.cons_append, loadNamesAll]
      omega
  | generator target iter ifs =>
      have hiter := count_loadNames span iter
      have hifs := count_loadNamesAll span ifs
      simp only [loadNames, recordedNames, passedOver, loadNamesAll_append, List.count_append,
        loadNamesAll]
      omega
  | exceptHandler name children => exact count_loadNamesAll span children
  | matchAs name children => exact count_loadNamesAll span children
  | name place id ctx => rfl
  | attribute_ place value attr ctx => exact count_loadNames span value
  | call func arguments =>
      have hfunc := count_loadNames span func
      have harguments := count_loadNamesAll span arguments
      simp only [loadNames, recordedNames, passedOver, loadNamesAll_append, List.count_append]
      omega
  | assign targets value =>
      have htargets := count_loadNamesAll span targets
      have hvalue := count_loadNames span value
      simp only [loadNames, recordedNames, passedOver, loadNamesAll_append, List.count_append]
      omega
  | annAssign target annotation_ value =>
      have htarget := count_loadNames span target
      have hnoted := count_loadNames span annotation_
      have hvalue := count_loadNamesAll span value
      simp only [loadNames, recordedNames, passedOver, loadNamesAll_append, List.count_append]
      omega
  | sequence elts => exact count_loadNamesAll span elts
  | import_ names => rfl
  | importFrom module_ names => rfl
  | other children => exact count_loadNamesAll span children

/-- The children, counted together. -/
theorem count_loadNamesAll (span : Span) (nodes : List Tree) :
    (loadNamesAll nodes).count span =
      (recordedNamesAll nodes).count span + (loadNamesAll (passedOverAll nodes)).count span := by
  cases nodes with
  | nil => rfl
  | cons node rest =>
      have hnode := count_loadNames span node
      have hrest := count_loadNamesAll span rest
      simp only [loadNamesAll, recordedNamesAll, passedOverAll, loadNamesAll_append,
        List.count_append]
      omega

end

/-- **The names of a tree** are those recorded and those in the parts passed over. -/
theorem loadNames_perm (node : Tree) :
    (loadNames node).Perm (recordedNames node ++ loadNamesAll (passedOver node)) := by
  rw [List.perm_iff_count]
  intro span
  rw [List.count_append]
  exact count_loadNames span node

theorem loadNamesAll_eq_nil {nodes : List Tree} :
    loadNamesAll nodes = [] ↔ ∀ node ∈ nodes, loadNames node = [] := by
  induction nodes with
  | nil => simp [loadNamesAll]
  | cons node rest ih => rw [loadNamesAll, List.append_eq_nil_iff, ih, List.forall_mem_cons]

/-- Every name in load context is recorded as one reference, at its place. -/
def Complete (tree : Tree) : Prop :=
  (namePlaces (references tree)).Perm ((loadNames tree).map placeOf)

instance (tree : Tree) : Decidable (Complete tree) := inferInstanceAs (Decidable (List.Perm _ _))

theorem names_references (tree : Tree) :
    namePlaces (references tree) = (recordedNames tree).map placeOf :=
  visit_names {} tree

/-- **The references are complete** exactly when no name in load context stands in a part that
    the visitor passes over. -/
theorem references_complete_iff (tree : Tree) :
    Complete tree ↔ ∀ part ∈ passedOver tree, loadNames part = [] := by
  rw [← loadNamesAll_eq_nil, Complete, names_references]
  have hperm := (loadNames_perm tree).map placeOf
  rw [List.map_append] at hperm
  constructor
  · intro h
    -- There is nothing between the recorded names and all names.
    have hlength := (h.trans hperm).length_eq
    rw [List.length_append] at hlength
    have hnone : ((loadNamesAll (passedOver tree)).map placeOf).length = 0 := by omega
    rw [List.length_map] at hnone
    exact List.length_eq_zero_iff.mp hnone
  · intro h
    rw [h, List.map_nil, List.append_nil] at hperm
    exact hperm.symm

/-! ## A filtered list -/

/-- An identifier of one letter. -/
def letter (c : Char) (h : CodePoint.scalar c ≠ .scalar '.' ∧
    PyText.isSpace (.scalar c) = false) : Identifier where
  text := [.scalar c]
  nonempty := List.cons_ne_nil _ _
  dotless := by
    intro hmem
    exact h.1 (List.mem_singleton.mp hmem).symm
  spaceless := by
    intro d hd
    rw [List.mem_singleton.mp hd]
    exact h.2

/-- `[x for x in s if f(x)]`. -/
def filteredList : Tree :=
  .comp (.name ⟨1, 7, 1, 8⟩ (letter 'x' (by decide)) .store)
    (.name ⟨1, 12, 1, 13⟩ (letter 's' (by decide)) .load)
    [.call (.name ⟨1, 17, 1, 18⟩ (letter 'f' (by decide)) .load)
      [.name ⟨1, 19, 1, 20⟩ (letter 'x' (by decide)) .load]] []
    [.name ⟨1, 1, 1, 2⟩ (letter 'x' (by decide)) .load]

/-- The names in the condition of the only generator are not recorded. -/
theorem filteredList_not_complete : ¬Complete filteredList := by
  intro h
  have hlength := h.length_eq
  rw [names_references] at hlength
  exact absurd hlength (by decide)

end Eag.Source.References
