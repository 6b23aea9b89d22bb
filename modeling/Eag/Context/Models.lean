/-
  Eag.Context.Models

  The contracts of repository-context selection (`context/models.py`): the snapshot that is
  selected from, the budget, and the references, excerpts and provenance records of a selected
  context, each with the checks of its constructor.

  The fields of a symbol that selection does not read are its `detail`. Left out: the
  fingerprint of the selected context, the policy versions, and the metadata of a provenance
  record, which selection leaves empty.
-/

import Eag.Foundation.Checks
import Eag.Foundation.PurePaths
import Eag.Graph.Models

namespace Eag.Context

open Eag.Foundation
open Eag.Source (SymbolIdentity SourceLocation SymbolKind Dependency DependencyKind)
open Eag.Graph (EngineeringGraph)

/-! ## Validated texts -/

/-- `_relative_path`. -/
def relativePath (value : PyText) (fieldName : String) : Except String PyText :=
  if value.isBlank then .error s!"{fieldName} cannot be empty"
  else if value.posixIsAbsolute ∨ .ofString ".." ∈ value.posixParts then
    .error s!"{fieldName} must be a relative repository path"
  else .ok value.posixText

/-- `_non_empty`. -/
def nonEmpty (value : PyText) (fieldName : String) : Except String PyText :=
  if value.isBlank then .error s!"{fieldName} cannot be empty" else .ok value.strip

theorem relativePath_eq_ok {value path : PyText} {fieldName : String}
    (h : relativePath value fieldName = .ok path) : path = value.posixText := by
  unfold relativePath at h
  split at h
  · cases h
  · split at h
    · cases h
    · exact (Except.ok.inj h).symm

theorem nonEmpty_eq_ok {value text : PyText} {fieldName : String}
    (h : nonEmpty value fieldName = .ok text) : text = value.strip := by
  unfold nonEmpty at h
  split at h
  · cases h
  · exact (Except.ok.inj h).symm

/-! ## What is selected from -/

/-- `DependencyKind`: the text of a member. -/
def dependencyKindValue : DependencyKind → String
  | .import_ => "import"
  | .call => "call"
  | .inheritance => "inheritance"

/-- `Symbol`. -/
structure IndexedSymbol (Detail : Type) where
  identity : SymbolIdentity
  location : SourceLocation
  detail : Detail
  deriving DecidableEq

/-- `symbol.location.path.as_posix()`. -/
def IndexedSymbol.path {Detail : Type} (symbol : IndexedSymbol Detail) : PyText :=
  symbol.location.path.posixText

/-- `RepositoryIndex`. -/
structure RepositoryIndex (Detail : Type) where
  symbols : List (IndexedSymbol Detail)
  dependencies : List Dependency

/-- `SourceArtifactRecord`: the file of an analysis that passed the exclusion check. -/
structure SourceArtifactRecord where
  repositoryPath : PyText
  fingerprint : PyText
  absolutePath : PyText
  relative : relativePath repositoryPath "repository_path" = .ok repositoryPath
  fingerprint_given : nonEmpty fingerprint "fingerprint" = .ok fingerprint

/-- `RepositoryKind`. -/
inductive RepositoryKind where
  | unknown
  | python
  | node
  | rust
  | go
  | java
  | mixed
  deriving DecidableEq, Repr

def RepositoryKind.value : RepositoryKind → String
  | .unknown => "unknown"
  | .python => "python"
  | .node => "node"
  | .rust => "rust"
  | .go => "go"
  | .java => "java"
  | .mixed => "mixed"

/-- `ProjectLayout`. -/
inductive ProjectLayout where
  | flat
  | srcLayout
  | monorepo
  | unknown
  deriving DecidableEq, Repr

def ProjectLayout.value : ProjectLayout → String
  | .flat => "flat"
  | .srcLayout => "src_layout"
  | .monorepo => "monorepo"
  | .unknown => "unknown"

/-- `RepositoryCapabilities`. -/
structure RepositoryCapabilities where
  git : Bool := false
  tests : Bool := false
  ci : Bool := false
  typeChecking : Bool := false
  linting : Bool := false

/-- `RepositoryProfile`. -/
structure RepositoryProfile where
  name : PyText
  kind : RepositoryKind := .unknown
  layout : ProjectLayout := .unknown
  files : Nat := 0
  tests : Nat := 0
  languages : List PyText := []
  capabilities : RepositoryCapabilities := {}

/-- `RepositoryStateEvidence`. -/
structure RepositoryStateEvidence where
  available : Bool
  stateFingerprint : PyText := .ofString "none"

/-- `RepositoryContextSnapshot`. -/
structure RepositoryContextSnapshot (Detail : Type) where
  repositoryProfile : RepositoryProfile
  repositoryState : RepositoryStateEvidence
  index : RepositoryIndex Detail
  graph : Option EngineeringGraph
  sourceArtifacts : List SourceArtifactRecord
  snapshotFingerprint : PyText

/-! ## The budget -/

/-- `ContextBudget`: no limit is negative. -/
structure ContextBudget where
  maxProfileCharacters : Nat := 1500
  maxFiles : Nat := 16
  maxSymbols : Nat := 50
  maxDependencies : Nat := 60
  maxExcerpts : Nat := 12
  maxExcerptLines : Nat := 80
  maxExcerptCharacters : Nat := 6000
  maxTotalCharacters : Nat := 24000
  maxFileBytes : Nat := 512000
  maxGraphDepth : Nat := 2

/-! ## What the security policy answers -/

/-- `SensitivityDecision`: the action and the reason of it. -/
structure SensitivityDecision where
  action : PyText
  reason : PyText

/-- `SanitizedContent`. -/
structure SanitizedContent where
  content : Option PyText
  decision : SensitivityDecision
  redactionCount : Nat := 0

/-! ## References -/

/-- The reasons for which something is selected. -/
inductive SelectionReason where
  | broadLexicalFallback
  | exactGoalPathMatch
  | contractTestEvidence
  | exactGoalSymbolMatch
  | directStructure
  | impactExpansion
  | repositoryConstraints
  deriving DecidableEq, Repr

def SelectionReason.value : SelectionReason → String
  | .broadLexicalFallback => "broad_lexical_fallback"
  | .exactGoalPathMatch => "exact_goal_path_match"
  | .contractTestEvidence => "contract_test_evidence"
  | .exactGoalSymbolMatch => "exact_goal_symbol_match"
  | .directStructure => "direct_structure"
  | .impactExpansion => "impact_expansion"
  | .repositoryConstraints => "repository_constraints"

/-- `_Candidate`. -/
structure Candidate where
  score : Int
  reason : SelectionReason
  deriving DecidableEq, Repr

/-- The roles of a file. -/
inductive FileRole where
  | test
  | entrypoint
  | source
  deriving DecidableEq, Repr

def FileRole.value : FileRole → String
  | .test => "test"
  | .entrypoint => "entrypoint"
  | .source => "source"

/-- `FileReference`. -/
structure FileReference where
  repositoryPath : PyText
  fingerprint : PyText
  role : FileRole
  selectionReason : SelectionReason
  score : Int

/-- `FileReference.__post_init__`. -/
def FileReference.make (repositoryPath fingerprint : PyText) (role : FileRole)
    (candidate : Candidate) : Except String FileReference := do
  let repositoryPath ← relativePath repositoryPath "repository_path"
  let fingerprint ← nonEmpty fingerprint "fingerprint"
  return ⟨repositoryPath, fingerprint, role, candidate.reason, candidate.score⟩

/-- `SymbolReference`. -/
structure SymbolReference where
  qualifiedName : PyText
  kind : SymbolKind
  module_ : PyText
  repositoryPath : PyText
  lineStart : Nat
  lineEnd : Nat
  selectionReason : SelectionReason
  score : Int

/-- `SymbolReference.__post_init__`; the lines are those of a location. -/
def SymbolReference.make (identity : SymbolIdentity) (repositoryPath : PyText)
    (location : SourceLocation) (candidate : Candidate) : Except String SymbolReference := do
  let qualifiedName ← nonEmpty identity.qualifiedName "qualified_name"
  let module_ ← nonEmpty identity.module_ "module"
  let repositoryPath ← relativePath repositoryPath "repository_path"
  return { qualifiedName, kind := identity.kind, module_, repositoryPath,
           lineStart := location.line, lineEnd := location.endLine,
           selectionReason := candidate.reason, score := candidate.score }

/-- `DependencyReference`. -/
structure DependencyReference where
  source : PyText
  target : PyText
  kind : DependencyKind
  resolved : Bool
  selectionReason : SelectionReason
  score : Int

/-- `DependencyReference.__post_init__`. -/
def DependencyReference.make (dependency : Dependency) (candidate : Candidate) :
    Except String DependencyReference := do
  let source ← nonEmpty dependency.source "source"
  let target ← nonEmpty dependency.target "target"
  return ⟨source, target, dependency.kind, dependency.resolved, candidate.reason,
    candidate.score⟩

/-! ## Excerpts and provenance -/

/-- `SourceExcerpt`. -/
structure SourceExcerpt where
  repositoryPath : PyText
  lineStart : Nat
  lineEnd : Nat
  content : PyText
  fingerprint : PyText
  provenanceId : PyText

/-- `SourceExcerpt.__post_init__`. -/
def SourceExcerpt.make (excerpt : SourceExcerpt) : Except String SourceExcerpt := do
  let repositoryPath ← relativePath excerpt.repositoryPath "repository_path"
  require (1 ≤ excerpt.lineStart ∧ excerpt.lineStart ≤ excerpt.lineEnd)
    "excerpt line range is invalid"
  let fingerprint ← nonEmpty excerpt.fingerprint "fingerprint"
  let provenanceId ← nonEmpty excerpt.provenanceId "provenance_id"
  return { excerpt with repositoryPath, fingerprint, provenanceId }

/-- The kinds of provenance records. -/
inductive ProvenanceKind where
  | repositoryProfile
  | gitState
  | sourceAnalysis
  | index
  | graphQuery
  | fileExcerpt
  deriving DecidableEq, Repr

/-- `ContextProvenanceRecord`. -/
structure ContextProvenanceRecord where
  provenanceId : PyText
  kind : ProvenanceKind
  subject : PyText
  sourceFingerprint : PyText
  selectionReason : SelectionReason
  locationPath : Option PyText := none
  lines : Option (Nat × Nat) := none
  derivation : String := ""
  resolutionConfidence : String := "exact"
  sensitivityAction : PyText := .ofString "included"

namespace ContextProvenanceRecord

/-- The check of `line_start` and `line_end`, which are given together. -/
def checkLines : Option (Nat × Nat) → Except String Unit
  | none => .ok ()
  | some (first, last) => do
      require (1 ≤ first) "line_start must be positive"
      require (1 ≤ last) "line_end must be positive"
      require (first ≤ last) "line_end cannot precede line_start"

/-- The check of `location_path`. -/
def checkLocation : Option PyText → Except String (Option PyText)
  | none => .ok none
  | some path => (relativePath path "location_path").map some

/-- `ContextProvenanceRecord.__post_init__`. -/
def make (record : ContextProvenanceRecord) : Except String ContextProvenanceRecord := do
  let provenanceId ← nonEmpty record.provenanceId "provenance_id"
  let subject ← nonEmpty record.subject "subject"
  let sourceFingerprint ← nonEmpty record.sourceFingerprint "source_fingerprint"
  let sensitivityAction ← nonEmpty record.sensitivityAction "sensitivity_action"
  let locationPath ← checkLocation record.locationPath
  checkLines record.lines
  return { record with
    provenanceId, subject, sourceFingerprint, sensitivityAction, locationPath }

end ContextProvenanceRecord

end Eag.Context
