/-
  Eag.Transformations.Batch

  Batches of transformations (`transformations/batch.py`), and the safe replacement
  (`transformations/replace.py`) as one that is put into a batch.

  A batch hands the context it was given to every transformation.  `losesNoEdit_iff`: what its
  last result holds is therefore the work of all of them exactly when all but the last leave the
  content as it is.

  What a transformation does is a parameter, as is the parser in a safe replacement.
-/

import Eag.Transformations.Scheduler

namespace Eag.Transformations

open Eag.Foundation

/-! ## The batch -/

section Batch

variable {Document Content Options : Type}

/-- `Transformation`: what a batch calls of one. -/
structure Transformation (Document Content Options : Type) where
  supports : TransformationContext Document Content Options → Bool
  apply : TransformationContext Document Content Options → TransformationResult Content

/-- The content after a result: that of its edit, the old one where it has none. -/
def TransformationResult.newContent (result : TransformationResult Content) (content : Content) :
    Content :=
  result.edits.getLastD content

namespace TransformationBatch

/-- `execute`. -/
def execute (context : TransformationContext Document Content Options) :
    List (Transformation Document Content Options) → List (TransformationResult Content)
  | [] => []
  | t :: rest =>
      if t.supports context = false then execute context rest
      else
        let result := t.apply context
        result :: if result.success then execute context rest else []

/-- The calls of `apply` that `execute` makes, each with the context it hands over. -/
def calls (context : TransformationContext Document Content Options) :
    List (Transformation Document Content Options) →
      List (Transformation Document Content Options ×
        TransformationContext Document Content Options)
  | [] => []
  | t :: rest =>
      if t.supports context = false then calls context rest
      else (t, context) :: if (t.apply context).success then calls context rest else []

/-- The results are those of the calls. -/
theorem execute_eq (context : TransformationContext Document Content Options)
    (ts : List (Transformation Document Content Options)) :
    execute context ts = (calls context ts).map fun call => call.1.apply call.2 := by
  induction ts with
  | nil => rfl
  | cons t rest ih =>
      rw [execute, calls]
      by_cases hsupports : t.supports context = false
      · rw [if_pos hsupports, if_pos hsupports, ih]
      · rw [if_neg hsupports, if_neg hsupports, List.map_cons]
        show t.apply context :: _ = t.apply context :: _
        cases (t.apply context).success with
        | false => rfl
        | true => rw [if_pos rfl, if_pos rfl, ih]

end TransformationBatch

/-! ## Edits that are kept -/

namespace Transformation

/-- The content that a transformation makes of one. -/
def contentAfter (context : TransformationContext Document Content Options) (content : Content)
    (t : Transformation Document Content Options) : Content :=
  (t.apply { context with content }).newContent content

/-- A transformation leaves the content of a context as it is. -/
def Leaves (context : TransformationContext Document Content Options)
    (t : Transformation Document Content Options) : Prop :=
  (t.apply context).newContent context.content = context.content

end Transformation

namespace TransformationBatch

/-- Every call is given the content that the one before it produced. -/
def Chained : Content → List (Transformation Document Content Options ×
    TransformationContext Document Content Options) → Prop
  | _, [] => True
  | content, (t, context) :: rest =>
      context.content = content ∧
        Chained ((t.apply context).newContent context.content) rest

/-- The content of the last result, that of the context where there is none. -/
def finalContent (context : TransformationContext Document Content Options)
    (results : List (TransformationResult Content)) : Content :=
  (results.getLast?.map fun result => result.newContent context.content).getD context.content

/-- **A batch loses no edit**: when every result is a success, each transformation was given
    what the one before it produced, and the last content is the composition of all that were
    applied; no transformation is applied after one that failed. -/
structure LosesNoEdit (context : TransformationContext Document Content Options)
    (ts : List (Transformation Document Content Options)) : Prop where
  chained : (∀ result ∈ execute context ts, result.success = true) →
    Chained context.content (calls context ts)
  composed : (∀ result ∈ execute context ts, result.success = true) →
    finalContent context (execute context ts) =
      ((calls context ts).map Prod.fst).foldl (Transformation.contentAfter context)
        context.content
  stopped : ∀ before call after, calls context ts = before ++ call :: after →
    (call.1.apply call.2).success = false → after = []

variable {context : TransformationContext Document Content Options}
  {ts : List (Transformation Document Content Options)}

/-- Nothing is applied after a failure. -/
theorem calls_stopped {before after : List (Transformation Document Content Options ×
      TransformationContext Document Content Options)}
    {call : Transformation Document Content Options ×
      TransformationContext Document Content Options}
    (h : calls context ts = before ++ call :: after)
    (hfailed : (call.1.apply call.2).success = false) : after = [] := by
  induction ts generalizing before with
  | nil => simp [calls] at h
  | cons t rest ih =>
      rw [calls] at h
      split at h
      · exact ih h
      · cases before with
        | nil =>
            obtain ⟨rfl, hrest⟩ := List.cons.inj h
            rw [if_neg (by rw [hfailed]; exact Bool.false_ne_true)] at hrest
            exact hrest.symm
        | cons first before =>
            have hrest := (List.cons.inj h).2
            split at hrest
            · exact ih hrest
            · exact absurd hrest.symm (by simp)

/-- The batch succeeds: every transformation that supports the context succeeds on it. -/
def Succeeds (context : TransformationContext Document Content Options)
    (ts : List (Transformation Document Content Options)) : Prop :=
  ∀ t ∈ ts, t.supports context = true → (t.apply context).success = true

/-- The results are successes exactly when all that are supported succeed; these are then all
    applied. -/
theorem execute_success_iff :
    (∀ result ∈ execute context ts, result.success = true) ↔ Succeeds context ts := by
  induction ts with
  | nil => simp [execute, Succeeds]
  | cons t rest ih =>
      unfold Succeeds at ih ⊢
      rw [execute, List.forall_mem_cons, ← ih]
      by_cases hsupports : t.supports context = false
      · rw [if_pos hsupports]
        simp [hsupports]
      · rw [if_neg hsupports]
        have hsupported : t.supports context = true := by simpa using hsupports
        dsimp only
        rw [List.forall_mem_cons]
        cases hsuccess : (t.apply context).success with
        | false => simp [hsupported]
        | true => simp

theorem calls_of_succeeds (h : Succeeds context ts) :
    calls context ts = (ts.filter fun t => t.supports context).map fun t => (t, context) := by
  induction ts with
  | nil => rfl
  | cons t rest ih =>
      have hrest : Succeeds context rest := fun t' ht' => h t' (List.mem_cons_of_mem _ ht')
      rw [calls, List.filter_cons]
      cases hsupports : t.supports context with
      | false => rw [if_pos rfl, if_neg Bool.false_ne_true, ih hrest]
      | true =>
          have hsuccess := h t List.mem_cons_self hsupports
          rw [if_neg (by simp), if_pos hsuccess, if_pos rfl, List.map_cons, ih hrest]

/-- Calls that are all given one content are chained when all but the last leave it. -/
theorem chained_iff (applied : List (Transformation Document Content Options)) :
    Chained context.content (applied.map fun t => (t, context)) ↔
      ∀ t ∈ applied.dropLast, t.Leaves context := by
  induction applied with
  | nil => simp [Chained]
  | cons t rest ih =>
      cases rest with
      | nil => simp [Chained]
      | cons next rest =>
          rw [List.dropLast_cons_of_ne_nil (List.cons_ne_nil next rest), List.forall_mem_cons,
            ← ih]
          show (_ ∧ Chained ((t.apply context).newContent context.content) _) ↔ _
          constructor
          · -- The next call is given the content of the batch again.
            rintro ⟨-, hchained⟩
            have hleaves : context.content = (t.apply context).newContent context.content :=
              hchained.1
            refine ⟨hleaves.symm, ?_⟩
            rwa [← hleaves] at hchained
          · rintro ⟨hleaves, hchained⟩
            have hsame : (t.apply context).newContent context.content = context.content := hleaves
            exact ⟨rfl, by rwa [hsame]⟩

/-- When all but the last leave the content, the composition is what the last makes of it. -/
theorem foldl_contentAfter (applied : List (Transformation Document Content Options))
    (h : ∀ t ∈ applied.dropLast, t.Leaves context) :
    applied.foldl (Transformation.contentAfter context) context.content =
      finalContent context (applied.map fun t => t.apply context) := by
  induction applied with
  | nil => rfl
  | cons t rest ih =>
      cases rest with
      | nil => rfl
      | cons next rest =>
          rw [List.dropLast_cons_of_ne_nil (List.cons_ne_nil next rest), List.forall_mem_cons] at h
          have hleaves : t.contentAfter context context.content = context.content := h.1
          rw [List.foldl_cons, hleaves, ih h.2]
          rfl

/-- **A batch loses no edit exactly when it fails, or all transformations that are applied but
    the last leave the content as it is.** -/
theorem losesNoEdit_iff (context : TransformationContext Document Content Options)
    (ts : List (Transformation Document Content Options)) :
    LosesNoEdit context ts ↔
      (Succeeds context ts →
        ∀ t ∈ (ts.filter fun t => t.supports context).dropLast, t.Leaves context) := by
  constructor
  · intro h hsucceeds
    have hchained := h.chained (execute_success_iff.mpr hsucceeds)
    rw [calls_of_succeeds hsucceeds] at hchained
    exact (chained_iff _).mp hchained
  · intro h
    refine ⟨fun hall => ?_, fun hall => ?_, fun _ _ _ => calls_stopped⟩
    · have hsucceeds := execute_success_iff.mp hall
      rw [calls_of_succeeds hsucceeds]
      exact (chained_iff _).mpr (h hsucceeds)
    · have hsucceeds := execute_success_iff.mp hall
      have happlied := foldl_contentAfter _ (h hsucceeds)
      rw [execute_eq, calls_of_succeeds hsucceeds, List.map_map, List.map_map]
      simpa [Function.comp_def] using happlied.symm

end TransformationBatch

end Batch

/-! ## Replacing a text -/

/-- What is replaced from here on, the first characters being skipped. -/
def replaceFrom (target replacement : PyText) : Nat → PyText → PyText
  | _, [] => []
  | skipped + 1, _ :: rest => replaceFrom target replacement skipped rest
  | 0, c :: rest =>
      if target.isPrefixOf (c :: rest) then
        replacement ++ replaceFrom target replacement (target.length - 1) rest
      else c :: replaceFrom target replacement 0 rest

/-- `value.replace(target, replacement)`; an empty target is found around every character. -/
def replaceText (t target replacement : PyText) : PyText :=
  if target = [] then replacement ++ t.flatMap fun c => c :: replacement
  else replaceFrom target replacement 0 t

/-- What is counted from here on, the first characters being skipped. -/
def countFrom (target : PyText) : Nat → PyText → Nat
  | _, [] => 0
  | skipped + 1, _ :: rest => countFrom target skipped rest
  | 0, c :: rest =>
      if target.isPrefixOf (c :: rest) then countFrom target (target.length - 1) rest + 1
      else countFrom target 0 rest

/-- `value.count(target)`. -/
def countText (t target : PyText) : Nat :=
  if target = [] then t.length + 1 else countFrom target 0 t

/-! ## The safe replacement -/

/-- `Language`. -/
inductive Language where
  | unknown
  | python
  deriving DecidableEq, Repr

/-- `SafeReplaceTransformation`. -/
structure SafeReplaceTransformation where
  targetCode : PyText
  replacementCode : PyText
  deriving DecidableEq, Repr

namespace SafeReplaceTransformation

open Eag.Foundation.PyText (ofString)

variable {Document Options : Type} (t : SafeReplaceTransformation)
  (languageOf : Document → Language) (parses : PyText → Bool)

/-- `supports`. -/
def supports (context : TransformationContext Document PyText Options) : Bool :=
  languageOf context.document = .python

/-- `validate`. -/
def validate : List PyText :=
  (if parses t.targetCode then [] else [ofString "Target code is not valid Python."]) ++
    if parses t.replacementCode then [] else [ofString "Replacement code is not valid Python."]

/-- `apply`. -/
def apply (context : TransformationContext Document PyText Options) :
    TransformationResult PyText :=
  if supports languageOf context = false then ⟨false, []⟩
  else if t.validate parses ≠ [] then ⟨false, []⟩
  else if countText context.content t.targetCode = 0 then ⟨true, [context.content]⟩
  else
    let newContent := replaceText context.content t.targetCode t.replacementCode
    if parses newContent = false then ⟨false, []⟩ else ⟨true, [newContent]⟩

/-- A safe replacement in a batch. -/
def transformation : Transformation Document PyText Options where
  supports := supports languageOf
  apply := t.apply languageOf parses

end SafeReplaceTransformation

namespace TransformationBatch

open Eag.Foundation.PyText (ofString)

/-- `a = b`, of a Python document. -/
def assignment : TransformationContext Language PyText Unit := ⟨.python, ofString "a = b", ()⟩

/-- Two safe replacements: of `a` by `x`, and of `b` by `y`. -/
def replacements : List (Transformation Language PyText Unit) :=
  [SafeReplaceTransformation.transformation ⟨ofString "a", ofString "x"⟩ id fun _ => true,
    SafeReplaceTransformation.transformation ⟨ofString "b", ofString "y"⟩ id fun _ => true]

/-- Each replacement is made in what the batch was given, so the last result lacks the first. -/
theorem first_edit_lost :
    (execute assignment replacements).map TransformationResult.edits =
        [[ofString "x = b"], [ofString "a = y"]] ∧
      ¬ LosesNoEdit assignment replacements := by
  have hall : ∀ result ∈ execute assignment replacements, result.success = true := by decide
  refine ⟨by decide, fun h => ?_⟩
  have hfinal : finalContent assignment (execute assignment replacements) = ofString "a = y" := by
    decide
  have hcomposed : ((calls assignment replacements).map Prod.fst).foldl
      (Transformation.contentAfter assignment) assignment.content = ofString "x = y" := by
    decide
  have hsame := h.composed hall
  rw [hfinal, hcomposed] at hsame
  exact absurd hsame (by decide)

end TransformationBatch

end Eag.Transformations
