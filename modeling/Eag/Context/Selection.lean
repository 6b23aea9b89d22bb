/-
  Eag.Context.Selection

  `ContextSelector.select` (`context/selection.py`): what is taken of the candidates, the excerpts
  of the files taken, the provenance of everything, and the total budget.

  The files are read through the security policy; what it answers for a file is a parameter.
-/

import Eag.Context.Candidates

namespace Eag.Context

open Eag.Foundation
open Eag.Source (Dependency)

/-- `str(n)`. -/
def naturalText (n : Nat) : PyText := (Nat.toDigits 10 n).map .scalar

/-- `sep.join(pieces)`. -/
def joinWith (separator : PyText) (pieces : List PyText) : PyText :=
  separator.intercalate pieces

/-! ## Counts by reason -/

/-- `counts[reason] += count`, for a `defaultdict(int)`. -/
def bump (counts : Dict PyText Nat) (reason : PyText) (count : Nat) : Dict PyText Nat :=
  counts.set reason ((counts.get? reason).getD 0 + count)

/-- `sum(counts.values())`. -/
def total (counts : Dict PyText Nat) : Nat := counts.values.sum

/-! ## Excerpts -/

/-- `value.splitlines()`. -/
def textLines (value : PyText) : List PyText :=
  value.splitLines.map fun line => line.filter fun c => !PyText.isLineEnd c

/-- The lines of a file that an excerpt may show. -/
structure Window where
  lineStart : Nat
  lineEnd : Nat
  content : PyText

/-- The window that starts at a line. -/
def windowAt (maxLines anchor : Nat) (content : PyText) : Window :=
  let lines := textLines content
  let start := anchor - 1
  let stop := min (start + maxLines) lines.length
  ⟨start + 1, max stop (start + 1),
    joinWith (.ofString "\n") ((lines.drop start).take (stop - start))⟩

/-- The first line of a symbol of the file; the first line of a file without. -/
def anchorOf (symbols : List SymbolReference) (file : FileReference) : Nat :=
  (((symbols.filter fun symbol => symbol.repositoryPath = file.repositoryPath).map
    fun symbol => symbol.lineStart).min?).getD 1

/-- The identity of an excerpt. -/
def excerptId (file : FileReference) (window : Window) : PyText :=
  .ofString "excerpt:" ++ file.repositoryPath ++ .ofString ":" ++ naturalText window.lineStart ++
    .ofString "-" ++ naturalText window.lineEnd

/-- What the loop over the files has gathered. -/
structure Gathered where
  excerpts : List SourceExcerpt
  provenance : List ContextProvenanceRecord
  omissions : Dict PyText Nat

/-- Nothing yet. -/
def Gathered.empty : Gathered := ⟨[], [], Dict.empty⟩

/-- Count an omission. -/
def Gathered.leaveOut (gathered : Gathered) (reason : PyText) : Gathered :=
  { gathered with omissions := bump gathered.omissions reason 1 }

/-- Add the excerpt of a file and its provenance. -/
def Gathered.add (gathered : Gathered) (maxCharacters : Nat) (file : FileReference)
    (window : Window) (action : PyText) : Except String Gathered := do
  let excerpt ← SourceExcerpt.make {
    repositoryPath := file.repositoryPath
    lineStart := window.lineStart
    lineEnd := window.lineEnd
    content := window.content.take maxCharacters
    fingerprint := file.fingerprint
    provenanceId := excerptId file window }
  let record ← ContextProvenanceRecord.make {
    provenanceId := excerptId file window
    kind := .fileExcerpt
    subject := file.repositoryPath
    sourceFingerprint := file.fingerprint
    selectionReason := file.selectionReason
    locationPath := some file.repositoryPath
    lines := some (window.lineStart, window.lineEnd)
    derivation := "context_selector_excerpt_v1"
    sensitivityAction := action }
  return {
    excerpts := gathered.excerpts ++ [excerpt]
    provenance := gathered.provenance ++ [record]
    omissions :=
      if maxCharacters < window.content.length
      then bump gathered.omissions (.ofString "excerpt_character_limit") 1
      else gathered.omissions }

section Excerpts

variable (readSanitized : PyText → SanitizedContent) (budget : ContextBudget)
  (artifacts : Dict PyText SourceArtifactRecord) (symbols : List SymbolReference)

/-- One file. -/
def gatherExcerpt (gathered : Gathered) (file : FileReference) : Except String Gathered :=
  if budget.maxExcerpts ≤ gathered.excerpts.length then
    .ok (gathered.leaveOut (.ofString "excerpt_limit"))
  else
    match artifacts.get? file.repositoryPath with
    | none => .error "KeyError"
    | some artifact =>
        let sanitized := readSanitized artifact.absolutePath
        match sanitized.content with
        | none => .ok (gathered.leaveOut sanitized.decision.reason)
        | some content =>
            gathered.add budget.maxExcerptCharacters file
              (windowAt budget.maxExcerptLines (anchorOf symbols file) content)
              sanitized.decision.action

/-- `_excerpts`. -/
def gatherExcerpts (files : List FileReference) : Except String Gathered :=
  files.foldlM (gatherExcerpt readSanitized budget artifacts symbols) .empty

end Excerpts

/-! ## Provenance -/

section Provenance

variable {Detail : Type} (snapshot : RepositoryContextSnapshot Detail)

/-- The records of the repository itself. -/
def repositoryRecords : List ContextProvenanceRecord :=
  [{ provenanceId := .ofString "repository:profile"
     kind := .repositoryProfile
     subject := snapshot.repositoryProfile.name
     sourceFingerprint := snapshot.snapshotFingerprint
     selectionReason := .repositoryConstraints
     derivation := "RepositoryRuntime.scan" },
   { provenanceId := .ofString "repository:state"
     kind := .gitState
     subject := .ofString "repository_state"
     sourceFingerprint := snapshot.repositoryState.stateFingerprint
     selectionReason := .repositoryConstraints
     derivation := "VcsReadFacade.snapshot" }]

/-- The record of a file. -/
def fileRecord (file : FileReference) : ContextProvenanceRecord where
  provenanceId := .ofString "file:" ++ file.repositoryPath
  kind := .sourceAnalysis
  subject := file.repositoryPath
  sourceFingerprint := file.fingerprint
  selectionReason := file.selectionReason
  locationPath := some file.repositoryPath
  derivation := "SourceRuntime.analyze_file"

/-- The record of a symbol, when its file is among the files. -/
def symbolRecord (files : List FileReference) (symbol : SymbolReference) :
    Option ContextProvenanceRecord :=
  (files.find? fun file => file.repositoryPath = symbol.repositoryPath).map fun file =>
    { provenanceId := .ofString "symbol:" ++ symbol.qualifiedName
      kind := .index
      subject := symbol.qualifiedName
      sourceFingerprint := file.fingerprint
      selectionReason := symbol.selectionReason
      locationPath := some symbol.repositoryPath
      lines := some (symbol.lineStart, symbol.lineEnd)
      derivation := "IndexRuntime.build" }

/-- The record of a dependency. -/
def dependencyRecord (dependency : DependencyReference) : ContextProvenanceRecord where
  provenanceId := .ofString "dependency:" ++ dependency.source ++ .ofString "->" ++
    dependency.target
  kind := .graphQuery
  subject := dependency.source ++ .ofString "->" ++ dependency.target
  sourceFingerprint := snapshot.snapshotFingerprint
  selectionReason := dependency.selectionReason
  derivation := "GraphRuntime.build"
  resolutionConfidence := if dependency.resolved then "exact" else "unresolved"

/-- `_provenance`. -/
def provenanceRecords (files : List FileReference) (symbols : List SymbolReference)
    (dependencies : List DependencyReference)
    (excerptProvenance : List ContextProvenanceRecord) :
    Except String (List ContextProvenanceRecord) := do
  let records ← (repositoryRecords snapshot ++ files.map fileRecord ++
    symbols.filterMap (symbolRecord files) ++
    dependencies.map (dependencyRecord snapshot)).mapM ContextProvenanceRecord.make
  return sortedBy (fun record => record.provenanceId.order) (records ++ excerptProvenance)

end Provenance

/-! ## Summary and findings -/

/-- `_repository_summary`. -/
def repositorySummary {Detail : Type} (snapshot : RepositoryContextSnapshot Detail)
    (budget : ContextBudget) : PyText :=
  let profile := snapshot.repositoryProfile
  let capabilities :=
    (([("git", profile.capabilities.git), ("tests", profile.capabilities.tests),
      ("ci", profile.capabilities.ci), ("type_checking", profile.capabilities.typeChecking),
      ("linting", profile.capabilities.linting)]).filter Prod.snd).map
        fun capability => PyText.ofString capability.1
  let summary :=
    .ofString "Repository " ++ profile.name ++ .ofString "; kind=" ++
      .ofString profile.kind.value ++ .ofString "; layout=" ++ .ofString profile.layout.value ++
      .ofString "; files=" ++ naturalText profile.files ++
      .ofString "; tests=" ++ naturalText profile.tests ++
      .ofString "; languages=" ++ joinWith (.ofString ",") profile.languages ++
      .ofString "; capabilities=" ++
      (if capabilities = [] then .ofString "none" else joinWith (.ofString ",") capabilities) ++
      .ofString "; vcs=" ++
      .ofString (if snapshot.repositoryState.available then "available" else "unavailable") ++
      .ofString "; snapshot=" ++ snapshot.snapshotFingerprint.take 16 ++ .ofString "."
  summary.take budget.maxProfileCharacters

/-- `_source_findings`. -/
def sourceFindings (files : List FileReference) (symbols : List SymbolReference)
    (dependencies : List DependencyReference) : List PyText :=
  (files.map fun file =>
    .ofString "selected_file path=" ++ file.repositoryPath ++ .ofString " role=" ++
      .ofString file.role.value ++ .ofString " reason=" ++
      .ofString file.selectionReason.value) ++
  (symbols.map fun symbol =>
    .ofString "selected_symbol name=" ++ symbol.qualifiedName ++ .ofString " path=" ++
      symbol.repositoryPath ++ .ofString " lines=" ++ naturalText symbol.lineStart ++
      .ofString "-" ++ naturalText symbol.lineEnd ++ .ofString " reason=" ++
      .ofString symbol.selectionReason.value) ++
  (dependencies.map fun dependency =>
    .ofString "selected_dependency source=" ++ dependency.source ++ .ofString " target=" ++
      dependency.target ++ .ofString " kind=" ++
      .ofString (dependencyKindValue dependency.kind) ++ .ofString " resolved=" ++
      .ofString (if dependency.resolved then "True" else "False"))

/-! ## The total budget -/

/-- What of a list fits: an element that does not is left out, and those after it are tried. -/
structure Retained (α : Type) where
  kept : List α
  used : Nat
  omitted : Nat

/-- One element. -/
def Retained.try {α : Type} (size : α → Nat) (limit : Nat) (state : Retained α) (x : α) :
    Retained α :=
  if limit < state.used + size x then { state with omitted := state.omitted + 1 }
  else { state with kept := state.kept ++ [x], used := state.used + size x }

/-- The elements, one after another. -/
def retain {α : Type} (size : α → Nat) (limit used : Nat) (xs : List α) : Retained α :=
  xs.foldl (Retained.try size limit) ⟨[], used, 0⟩

/-- `_BudgetedProjection`. -/
structure BudgetedProjection where
  repositorySummary : PyText
  sourceFindings : List PyText
  excerpts : List SourceExcerpt
  omittedSourceFindings : Nat
  omittedExcerpts : Nat

/-- `_apply_total_budget`. -/
def applyTotalBudget (repositorySummary : PyText) (sourceFindings : List PyText)
    (excerpts : List SourceExcerpt) (maxTotalCharacters : Nat) : BudgetedProjection :=
  let bounded := repositorySummary.take (min repositorySummary.length (maxTotalCharacters / 4))
  let findings := retain List.length maxTotalCharacters bounded.length sourceFindings
  let kept := retain (fun excerpt : SourceExcerpt => excerpt.content.length) maxTotalCharacters
    findings.used excerpts
  ⟨bounded, findings.kept, kept.kept, findings.omitted, kept.omitted⟩

/-! ## The selected context -/

/-- `omitted_counts`. -/
structure OmittedCounts where
  files : Nat
  symbols : Nat
  dependencies : Nat
  sourceFindings : Nat
  excerpts : Nat

/-- `actual_usage`. -/
structure ActualUsage where
  profileCharacters : Nat
  files : Nat
  symbols : Nat
  dependencies : Nat
  excerpts : Nat
  excerptCharacters : Nat
  totalCharacters : Nat

/-- `ContextTruncationReport`. -/
structure ContextTruncationReport where
  configuredLimits : ContextBudget
  actualUsage : ActualUsage
  omittedCounts : OmittedCounts
  omissionReasons : List (PyText × Nat)
  truncated : Bool
  insufficient : Bool

/-- `SelectedRepositoryContext`. -/
structure SelectedRepositoryContext where
  repositorySummary : PyText
  sourceFindings : List PyText
  files : List FileReference
  symbols : List SymbolReference
  dependencies : List DependencyReference
  excerpts : List SourceExcerpt
  provenance : List ContextProvenanceRecord
  truncation : ContextTruncationReport

/-- The candidates of a selection. -/
structure CandidateSets (Detail : Type) where
  files : Dict PyText Candidate
  symbols : Dict (IndexedSymbol Detail) Candidate
  dependencies : Dict Dependency Candidate

section Select

variable {Detail : Type} [DecidableEq Detail] (lower : PyText → PyText)
  (readSanitized : PyText → SanitizedContent)

/-- `artifacts`. -/
def artifactsOf (snapshot : RepositoryContextSnapshot Detail) :
    Dict PyText SourceArtifactRecord :=
  Dict.keyed (fun artifact => artifact.repositoryPath) snapshot.sourceArtifacts

/-- The candidates, route by route. -/
def candidateSets (goal : PyText) (snapshot : RepositoryContextSnapshot Detail)
    (budget : ContextBudget) : Except String (CandidateSets Detail) := do
  require goal.NonBlank "goal cannot be empty"
  let goalLower := lower goal
  let tokens := goalTokens lower goalLower
  let paths := (artifactsOf snapshot).keys
  let files ← fileCandidates lower goalLower tokens paths
  let named := symbolCandidates lower goalLower tokens snapshot.index.symbols paths
  let symbols := addGraphNeighborhood snapshot.index snapshot.graph
    (addDirectStructure snapshot.index files named) budget.maxGraphDepth
  let files := addSymbolFiles files symbols paths
  return ⟨files, symbols, dependencyCandidates snapshot.index.dependencies files symbols⟩

/-- The reference to a file that is taken. -/
def fileReference (artifacts : Dict PyText SourceArtifactRecord) (item : PyText × Candidate) :
    Except String FileReference :=
  match artifacts.get? item.1 with
  | none => .error "KeyError"
  | some artifact => do
      let role ← roleForPath lower item.1
      FileReference.make item.1 artifact.fingerprint role item.2

/-- `_symbol_reference`. -/
def symbolReference (item : IndexedSymbol Detail × Candidate) : Except String SymbolReference :=
  SymbolReference.make item.1.identity item.1.path item.1.location item.2

/-- What is taken of the candidates, as references. -/
structure References where
  files : List FileReference
  symbols : List SymbolReference
  dependencies : List DependencyReference
  omittedFiles : Nat
  omittedSymbols : Nat
  omittedDependencies : Nat

/-- Take the best candidates of each kind. -/
def takeReferences (artifacts : Dict PyText SourceArtifactRecord)
    (candidates : CandidateSets Detail) (budget : ContextBudget) : Except String References := do
  let files := takeRanked id candidates.files budget.maxFiles
  let symbols := takeRanked (fun symbol => symbol.identity.qualifiedName) candidates.symbols
    budget.maxSymbols
  let dependencies := takeRanked dependencyKey candidates.dependencies budget.maxDependencies
  let fileRefs ← files.1.mapM (fileReference lower artifacts)
  let symbolRefs ← symbols.1.mapM symbolReference
  let dependencyRefs ← dependencies.1.mapM fun item => DependencyReference.make item.1 item.2
  return ⟨fileRefs, symbolRefs, dependencyRefs, files.2, symbols.2, dependencies.2⟩

/-- `omission_reasons`. -/
def omissionReasons (refs : References) (omittedFindings : Nat)
    (excerptReasons : Dict PyText Nat) : List (PyText × Nat) :=
  let given := [(PyText.ofString "file_limit", refs.omittedFiles),
    (.ofString "symbol_limit", refs.omittedSymbols),
    (.ofString "dependency_limit", refs.omittedDependencies),
    (.ofString "total_context_budget", omittedFindings)].filter fun item => item.2 ≠ 0
  let counts := (given ++ excerptReasons.items).foldl
    (fun counts item => bump counts item.1 item.2) Dict.empty
  sortedBy (fun item => item.1.order) counts.items

/-- What is reported of a selection. -/
def truncationReport (budget : ContextBudget) (refs : References) (gathered : Gathered)
    (constrained : BudgetedProjection) : ContextTruncationReport :=
  let excerptReasons :=
    if constrained.omittedExcerpts ≠ 0
    then bump gathered.omissions (.ofString "total_context_budget") constrained.omittedExcerpts
    else gathered.omissions
  let omittedCounts : OmittedCounts :=
    ⟨refs.omittedFiles, refs.omittedSymbols, refs.omittedDependencies,
      constrained.omittedSourceFindings, total excerptReasons⟩
  let excerptCharacters :=
    (constrained.excerpts.map fun excerpt => excerpt.content.length).sum
  { configuredLimits := budget
    actualUsage := {
      profileCharacters := constrained.repositorySummary.length
      files := refs.files.length
      symbols := refs.symbols.length
      dependencies := refs.dependencies.length
      excerpts := constrained.excerpts.length
      excerptCharacters := excerptCharacters
      totalCharacters := constrained.repositorySummary.length +
        (constrained.sourceFindings.map List.length).sum + excerptCharacters }
    omittedCounts := omittedCounts
    omissionReasons := omissionReasons refs constrained.omittedSourceFindings excerptReasons
    truncated := [omittedCounts.files, omittedCounts.symbols, omittedCounts.dependencies,
      omittedCounts.sourceFindings, omittedCounts.excerpts].any (· ≠ 0)
    insufficient := refs.files = [] }

/-- `ContextSelector.select`. -/
def select (goal : PyText) (snapshot : RepositoryContextSnapshot Detail)
    (budget : ContextBudget) : Except String SelectedRepositoryContext := do
  let candidates ← candidateSets lower goal snapshot budget
  let artifacts := artifactsOf snapshot
  let refs ← takeReferences lower artifacts candidates budget
  let gathered ← gatherExcerpts readSanitized budget artifacts refs.symbols refs.files
  let provenance ← provenanceRecords snapshot refs.files refs.symbols refs.dependencies
    gathered.provenance
  let constrained := applyTotalBudget (repositorySummary snapshot budget)
    (sourceFindings refs.files refs.symbols refs.dependencies) gathered.excerpts
    budget.maxTotalCharacters
  return {
    repositorySummary := constrained.repositorySummary
    sourceFindings := constrained.sourceFindings
    files := refs.files
    symbols := refs.symbols
    dependencies := refs.dependencies
    excerpts := constrained.excerpts
    provenance := provenance
    truncation := truncationReport budget refs gathered constrained }

end Select

end Eag.Context
