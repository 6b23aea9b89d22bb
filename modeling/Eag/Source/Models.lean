/-
  Eag.Source.Models

  The semantic source models: the symbols, modules and dependencies of one analysed
  file.  A location carries what its constructor checks; the names are checked by the
  `make` of their record, which strips them.

  Left out: the diagnostics, imports, metrics and generation time of a result, which
  the index does not read.
-/

import Mathlib.Data.Finset.Basic
import Eag.Foundation.DottedNames
import Eag.Foundation.JsonDecoder

namespace Eag.Source

open Eag.Foundation

/-! ## Enumerations -/

/-- `SymbolKind`. -/
inductive SymbolKind where
  | module_
  | class_
  | function
  | method
  | variable_
  | constant
  deriving DecidableEq, Repr

/-- `Visibility`. -/
inductive Visibility where
  | public_
  | private_
  | protected_
  deriving DecidableEq, Repr

/-- `DependencyKind`. -/
inductive DependencyKind where
  | import_
  | call
  | inheritance
  deriving DecidableEq, Repr

/-- `SemanticKind`. -/
inductive SemanticKind where
  | implements
  | overrides
  deriving DecidableEq, Repr

/-! ## Validated texts -/

/-- The message of a `ValueError`. -/
abbrev ValueError := String

/-- `_validate_non_empty_str`. -/
def validateNonEmptyStr (value : PyText) (fieldName : String) : Except ValueError PyText :=
  if value.isBlank then .error s!"{fieldName} cannot be empty or whitespace"
  else .ok value.strip

theorem validateNonEmptyStr_ok {value : PyText} {fieldName : String} (h : value.NonBlank) :
    validateNonEmptyStr value fieldName = .ok value.strip :=
  if_neg (by rw [PyText.NonBlank] at h; rw [h]; exact Bool.false_ne_true)

theorem validateNonEmptyStr_eq_ok {value stripped : PyText} {fieldName : String} :
    validateNonEmptyStr value fieldName = .ok stripped
      ↔ value.NonBlank ∧ stripped = value.strip := by
  unfold validateNonEmptyStr PyText.NonBlank
  cases value.isBlank <;> simp [eq_comm]

/-! ## Locations -/

/-- `SourceLocation`. -/
@[ext]
structure SourceLocation where
  path : PyText
  line : Nat
  column : Nat
  endLine : Nat
  endColumn : Nat
  line_pos : 1 ≤ line
  line_le : line ≤ endLine

instance : DecidableEq SourceLocation := fun _ _ => decidable_of_iff _ SourceLocation.ext_iff.symm

/-! ## Symbols -/

/-- `SymbolIdentity`. -/
structure SymbolIdentity where
  qualifiedName : PyText
  module_ : PyText
  kind : SymbolKind
  deriving DecidableEq, Repr

/-- `SymbolIdentity.__post_init__`. -/
def SymbolIdentity.make (qualifiedName module_ : PyText) (kind : SymbolKind) :
    Except ValueError SymbolIdentity := do
  let qualifiedName ← validateNonEmptyStr qualifiedName "qualified_name"
  let module_ ← validateNonEmptyStr module_ "module"
  return ⟨qualifiedName, module_, kind⟩

/-- `Documentation`. -/
structure Documentation where
  summary : PyText := []
  body : PyText := []
  raw : PyText := []
  deriving DecidableEq, Repr

/-- `SymbolReference`. -/
structure SymbolReference where
  source : PyText
  target : PyText
  line : Int
  column : Int := 0
  endLine : Int := 0
  endCol : Int := 0
  deriving DecidableEq, Repr

/-- `Symbol`. -/
structure Symbol where
  identity : SymbolIdentity
  location : SourceLocation
  visibility : Visibility := .public_
  documentation : Documentation := {}
  attributes : Finset String := ∅
  references : List SymbolReference := []
  metadata : PyText → Option PyValue := fun _ => none

namespace Symbol

/-- `symbol.identity.qualified_name`. -/
def qualifiedName (symbol : Symbol) : PyText := symbol.identity.qualifiedName

/-- `symbol.identity.kind`. -/
def kind (symbol : Symbol) : SymbolKind := symbol.identity.kind

end Symbol

/-! ## The other facts of a file -/

/-- `SourceFileIdentity`, less the fingerprint. -/
structure SourceFileIdentity where
  absolutePath : PyText
  repositoryPath : PyText
  deriving DecidableEq, Repr

/-- `ModuleIdentity`. -/
structure ModuleIdentity where
  name : PyText
  path : PyText
  deriving DecidableEq, Repr

/-- `ModuleIdentity.__post_init__`. -/
def ModuleIdentity.make (name path : PyText) : Except ValueError ModuleIdentity := do
  let name ← validateNonEmptyStr name "name"
  if path.isBlank then .error "path cannot be empty" else .ok ⟨name, path⟩

/-- `Dependency`. -/
structure Dependency where
  source : PyText
  target : PyText
  kind : DependencyKind
  resolved : Bool := false
  deriving DecidableEq, Repr

/-- `Dependency.__post_init__`. -/
def Dependency.make (source target : PyText) (kind : DependencyKind) :
    Except ValueError Dependency := do
  let source ← validateNonEmptyStr source "source"
  let target ← validateNonEmptyStr target "target"
  return { source, target, kind }

/-- `SemanticRelationship`. -/
structure SemanticRelationship where
  source : PyText
  target : PyText
  kind : SemanticKind
  deriving DecidableEq, Repr

/-- `AnalysisResult`: what the analysis of one file found. -/
structure AnalysisResult where
  identity : SourceFileIdentity
  module_ : ModuleIdentity
  symbols : List Symbol
  dependencies : List Dependency := []
  semanticRelationships : List SemanticRelationship := []

end Eag.Source
