/-
  Eag.Source.Analysis

  The analysis of one Python file: `SourceRuntime.analyze_file` projects the document of
  the provider into symbols and dependencies of the module of the file.

  A file is its path in the repository, its text and the tree `ast.parse` makes of it.
  Events, telemetry and diagnostics (a file that parses has none) are left out.
-/

import Eag.Foundation.Checks
import Eag.Source.PythonProvider

namespace Eag.Source

open Eag.Foundation
open Eag.Foundation.PyText (ofString dotted lastSegment Dotless Spaceless)

/-! ## Files -/

/-- A Python file of the repository: `directories/stem.py`. -/
structure SourceFile where
  absolutePath : PyText
  directories : List PyText
  stem : PyText
  content : PyText
  tree : Node

namespace SourceFile

/-- The parts of a path with `"/"` between them. -/
def posix (parts : List PyText) : PyText := PyText.join (.scalar '/') parts

/-- The path from the repository root. -/
def relativePath (file : SourceFile) : PyText :=
  posix (file.directories ++ [file.stem ++ ofString ".py"])

/-- `relative_path.with_suffix("").as_posix().replace("/", ".")`. -/
def moduleName (file : SourceFile) : PyText :=
  (posix (file.directories ++ [file.stem])).map fun c => if c = .scalar '/' then PyText.dot else c

end SourceFile

/-! ## Projection -/

/-- The `SourceLocation` of a symbol, with the line numbers raised to at least one. -/
def toSourceLocation (path : PyText) (location : Location) : SourceLocation where
  path := path
  line := max location.line 1
  column := location.column
  endLine := max location.endLine (max location.line 1)
  endColumn := location.endColumn
  line_pos := Nat.le_max_right _ _
  line_le := Nat.le_max_right _ _

/-- The `Symbol` of a symbol of the document. -/
def toSymbol (file : SourceFile) (symbol : EngineeringSymbol) : Except ValueError Symbol := do
  let identity ← SymbolIdentity.make symbol.qualifiedName file.moduleName symbol.kind
  return {
    identity := identity
    location := toSourceLocation file.relativePath symbol.location
    visibility := symbol.visibility }

/-- `SourceRuntime.analyze_file`. -/
def analyzeFile (file : SourceFile) : Except ValueError AnalysisResult := do
  let symbols ← (documentSymbols file.content file.tree).mapM (toSymbol file)
  let dependencies ← (documentImports file.tree).mapM fun target =>
    Dependency.make file.moduleName target .import_
  let module_ ← ModuleIdentity.make file.moduleName file.relativePath
  return {
    identity := { absolutePath := file.absolutePath, repositoryPath := file.relativePath }
    module_ := module_
    symbols := symbols
    dependencies := dependencies }

/-! ## What an analysis gives -/

theorem NamedIn.all_segments {path : List PyText} {symbol : EngineeringSymbol}
    (h : NamedIn path symbol) : ∀ segment ∈ path ++ [symbol.name], Segment segment := by
  intro segment hmem
  rcases List.mem_append.mp hmem with hmem | hmem
  · exact h.segments segment hmem
  · rw [List.mem_singleton.mp hmem]
    exact h.name

theorem dotted_ne_nil {segments : List PyText} (hne : segments ≠ [])
    (h : ∀ segment ∈ segments, Segment segment) : dotted segments ≠ [] := by
  cases segments with
  | nil => exact absurd rfl hne
  | cons first rest =>
      have hfirst := (h first List.mem_cons_self).nonempty
      cases rest with
      | nil => exact hfirst
      | cons next rest => exact List.append_ne_nil_of_left_ne_nil hfirst _

theorem NamedIn.spaceless {path : List PyText} {symbol : EngineeringSymbol}
    (h : NamedIn path symbol) : symbol.qualifiedName.Spaceless := by
  rw [h.qualifiedName]
  exact PyText.spaceless_dotted fun s hs => (h.all_segments s hs).spaceless

theorem NamedIn.nonBlank {path : List PyText} {symbol : EngineeringSymbol}
    (h : NamedIn path symbol) : symbol.qualifiedName.NonBlank := by
  refine PyText.nonBlank_of_spaceless ?_ h.spaceless
  rw [h.qualifiedName]
  exact dotted_ne_nil (by simp) h.all_segments

/-- The last segment of the name of a symbol is its own name. -/
theorem NamedIn.lastSegment_nonBlank {path : List PyText} {symbol : EngineeringSymbol}
    (h : NamedIn path symbol) : (lastSegment symbol.qualifiedName).NonBlank := by
  have hne : path ++ [symbol.name] ≠ [] := by simp
  rw [h.qualifiedName, PyText.lastSegment_dotted hne fun s hs => (h.all_segments s hs).dotless,
    List.getLast_append_of_ne_nil _ (List.cons_ne_nil _ _), List.getLast_singleton]
  exact PyText.nonBlank_of_spaceless h.name.nonempty h.name.spaceless

/-- The symbol an analysis makes of a symbol of the document. -/
def analyzedSymbol (file : SourceFile) (symbol : EngineeringSymbol) : Symbol where
  identity :=
    { qualifiedName := symbol.qualifiedName
      module_ := file.moduleName.strip
      kind := symbol.kind }
  location := toSourceLocation file.relativePath symbol.location
  visibility := symbol.visibility

/-- The dependency an analysis makes of an imported module. -/
def analyzedDependency (file : SourceFile) (target : PyText) : Dependency where
  source := file.moduleName.strip
  target := target
  kind := .import_

/-- The result an analysis ends with, where the module has a name. -/
def analyzedResult (file : SourceFile) : AnalysisResult where
  identity := { absolutePath := file.absolutePath, repositoryPath := file.relativePath }
  module_ := { name := file.moduleName.strip, path := file.relativePath }
  symbols := (documentSymbols file.content file.tree).map (analyzedSymbol file)
  dependencies := (documentImports file.tree).map (analyzedDependency file)

theorem toSymbol_eq {file : SourceFile} (hmodule : file.moduleName.NonBlank)
    {symbol : EngineeringSymbol} {path : List PyText} (h : NamedIn path symbol) :
    toSymbol file symbol = .ok (analyzedSymbol file symbol) := by
  rw [toSymbol, SymbolIdentity.make, validateNonEmptyStr_ok h.nonBlank,
    validateNonEmptyStr_ok hmodule, PyText.strip_of_spaceless h.spaceless]
  rfl

theorem DottedName.segments_valid (name : DottedName) :
    ∀ segment ∈ name.segments.map Identifier.text, Segment segment := by
  intro segment hmem
  obtain ⟨identifier, -, rfl⟩ := List.mem_map.mp hmem
  exact identifier.segment

theorem DottedName.text_spaceless (name : DottedName) : name.text.Spaceless :=
  PyText.spaceless_dotted fun s hs => (name.segments_valid s hs).spaceless

theorem DottedName.lastSegment_nonBlank (name : DottedName) : (lastSegment name.text).NonBlank := by
  have hne : name.segments.map Identifier.text ≠ [] :=
    fun h => name.nonempty (List.map_eq_nil_iff.mp h)
  rw [DottedName.text, PyText.lastSegment_dotted hne fun s hs => (name.segments_valid s hs).dotless]
  have hlast := name.segments_valid _ (List.getLast_mem hne)
  exact PyText.nonBlank_of_spaceless hlast.nonempty hlast.spaceless

theorem DottedName.text_ne_nil (name : DottedName) : name.text ≠ [] :=
  dotted_ne_nil (fun h => name.nonempty (List.map_eq_nil_iff.mp h)) name.segments_valid

theorem dependency_make_eq {file : SourceFile} (hmodule : file.moduleName.NonBlank)
    (name : DottedName) :
    Dependency.make file.moduleName name.text .import_
      = .ok (analyzedDependency file name.text) := by
  have htarget := PyText.nonBlank_of_spaceless name.text_ne_nil name.text_spaceless
  rw [Dependency.make, validateNonEmptyStr_ok hmodule, validateNonEmptyStr_ok htarget,
    PyText.strip_of_spaceless name.text_spaceless]
  rfl

theorem relativePath_nonBlank (file : SourceFile) : file.relativePath.NonBlank := by
  have hdot : PyText.dot ∈ file.relativePath := by
    rw [SourceFile.relativePath, SourceFile.posix]
    have hname : PyText.dot ∈ file.stem ++ ofString ".py" :=
      List.mem_append_right _ (by decide)
    exact PyText.mem_join_of_mem (List.mem_append_right _ List.mem_cons_self) hname
  rw [PyText.NonBlank, PyText.isBlank, List.all_eq_false]
  exact ⟨PyText.dot, hdot, by decide⟩

theorem analyzeFile_ok {file : SourceFile} (hmodule : file.moduleName.NonBlank) :
    analyzeFile file = .ok (analyzedResult file) := by
  have hsymbols : (documentSymbols file.content file.tree).mapM (toSymbol file)
      = .ok ((documentSymbols file.content file.tree).map (analyzedSymbol file)) := by
    refine mapM_ok fun symbol hmem => ?_
    obtain ⟨path, hnamed⟩ := documentSymbols_named _ _ symbol hmem
    exact toSymbol_eq hmodule hnamed
  have hdependencies : ((documentImports file.tree).mapM fun target =>
        Dependency.make file.moduleName target .import_)
      = .ok ((documentImports file.tree).map (analyzedDependency file)) := by
    refine mapM_ok fun target hmem => ?_
    obtain ⟨name, rfl⟩ := documentImports_named _ target hmem
    exact dependency_make_eq hmodule name
  have hpath : file.relativePath.isBlank = false := relativePath_nonBlank file
  have hname : ModuleIdentity.make file.moduleName file.relativePath
      = .ok { name := file.moduleName.strip, path := file.relativePath } := by
    rw [ModuleIdentity.make, validateNonEmptyStr_ok hmodule]
    exact if_neg (by rw [hpath]; exact Bool.false_ne_true)
  rw [analyzeFile, hsymbols, hdependencies, hname]
  rfl

theorem analyzeFile_blank {file : SourceFile} (hblank : file.moduleName.isBlank = true)
    (result : AnalysisResult) : analyzeFile file ≠ .ok result := by
  have hname : ModuleIdentity.make file.moduleName file.relativePath
      = .error "name cannot be empty or whitespace" := by
    rw [ModuleIdentity.make, validateNonEmptyStr, if_pos hblank]
    rfl
  unfold analyzeFile
  cases (documentSymbols file.content file.tree).mapM (toSymbol file) with
  | error e => exact fun h => nomatch h
  | ok symbols =>
      cases (documentImports file.tree).mapM fun target =>
          Dependency.make file.moduleName target .import_ with
      | error e => exact fun h => nomatch h
      | ok dependencies =>
          rw [hname]
          exact fun h => nomatch h

/-- **The analysis of a file.**  It succeeds exactly where the module name is not blank. -/
theorem analyzeFile_eq_ok {file : SourceFile} {result : AnalysisResult} :
    analyzeFile file = .ok result
      ↔ file.moduleName.NonBlank ∧ result = analyzedResult file := by
  cases hblank : file.moduleName.isBlank with
  | true =>
      refine iff_of_false (analyzeFile_blank hblank result) ?_
      rintro ⟨hmodule, -⟩
      exact Bool.false_ne_true (hmodule.symm.trans hblank)
  | false =>
      rw [analyzeFile_ok hblank]
      constructor
      · intro h
        exact ⟨hblank, (Except.ok.inj h).symm⟩
      · rintro ⟨-, rfl⟩
        rfl

end Eag.Source
