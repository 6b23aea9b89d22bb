/-
  Eag.Context.Candidates

  The candidates of a selection (`context/selection.py`): files and symbols whose names the goal
  mentions, symbols that the structure of the repository adds to them, the files of the symbols
  and the dependencies between them, and the ranking they are taken from.

  `str.lower` is a parameter: which letters it lowers depends on the Unicode version, and nothing
  below depends on it.
-/

import Eag.Context.Models
import Eag.Foundation.BreadthFirst
import Eag.Foundation.Ranking

namespace Eag.Context

open Eag.Foundation
open Eag.Source (Dependency)
open Eag.Graph (EngineeringGraph GraphEdge)

section Tokens

variable (lower : PyText → PyText)

/-- A character of `[a-z0-9]`. -/
def isTokenCharacter : CodePoint → Bool
  | .scalar c => c.isLower || c.isDigit
  | .surrogate _ => false

/-- `_goal_tokens`. -/
def goalTokens (value : PyText) : List PyText :=
  ((lower value).splitOnP fun c => !isTokenCharacter c).filter fun token => 1 < token.length

example : goalTokens id (.ofString "fix x, src/main.py") =
    ["fix", "src", "main", "py"].map PyText.ofString := by decide

/-- `_role_for_path`; a path without parts has no last part to index. -/
def roleForPath (path : PyText) : Except String FileRole :=
  let parts := path.posixParts.map lower
  match parts.getLast? with
  | none => .error "tuple index out of range"
  | some name => .ok <|
      if .ofString "tests" ∈ parts ∨ PyText.ofString "test_" <+: name ∨
          PyText.ofString "_test.py" <:+ name
      then .test
      else if name ∈ ["__init__.py", "main.py", "app.py"].map PyText.ofString then .entrypoint
      else .source

/-! ## Files -/

/-- How the goal mentions a file: the score and the reason, a score of zero for not at all. -/
def fileScore (goalLower : PyText) (tokens : List PyText) (path : PyText) :
    Int × SelectionReason :=
  let pathLower := lower path
  let stemTokens := goalTokens lower pathLower.posixStem
  if pathLower <:+: goalLower then (1000, .exactGoalPathMatch)
  else if stemTokens ≠ [] ∧ stemTokens ⊆ tokens then (850, .exactGoalPathMatch)
  else if ∃ token ∈ stemTokens, token ∈ tokens then (250, .broadLexicalFallback)
  else (0, .broadLexicalFallback)

/-- The candidate a file is, if any. -/
def fileCandidate (goalLower : PyText) (tokens : List PyText) (path : PyText) :
    Except String (Option Candidate) := do
  let stemTokens := goalTokens lower (lower path).posixStem
  let (score, reason) := fileScore lower goalLower tokens path
  let role ← roleForPath lower path
  let (score, reason) :=
    if role = .test ∧ ((∃ token ∈ stemTokens, token ∈ tokens) ∨ .ofString "test" ∈ tokens)
    then (max score 700, .contractTestEvidence) else (score, reason)
  return if score ≠ 0 then some ⟨score, reason⟩ else none

/-- `_file_candidates`, over the paths of the artifacts. -/
def fileCandidates (goalLower : PyText) (tokens : List PyText) (paths : List PyText) :
    Except String (Dict PyText Candidate) :=
  paths.foldlM (fun candidates path =>
    (fileCandidate lower goalLower tokens path).map fun found =>
      found.elim candidates fun candidate => candidates.set path candidate) Dict.empty

/-! ## Symbols -/

variable {Detail : Type} [DecidableEq Detail]

/-- How the goal mentions a symbol. -/
def symbolCandidate (goalLower : PyText) (tokens : List PyText) (symbol : IndexedSymbol Detail) :
    Option Candidate :=
  let qualified := lower symbol.identity.qualifiedName
  let nameTokens := goalTokens lower qualified.lastSegment
  let moduleTokens := goalTokens lower (lower symbol.identity.module_)
  if qualified <:+: goalLower then some ⟨1000, .exactGoalSymbolMatch⟩
  else if nameTokens ≠ [] ∧ nameTokens ⊆ tokens then some ⟨900, .exactGoalSymbolMatch⟩
  else if moduleTokens ≠ [] ∧ moduleTokens ⊆ tokens then some ⟨750, .exactGoalPathMatch⟩
  else if ∃ token ∈ nameTokens, token ∈ tokens then some ⟨300, .broadLexicalFallback⟩
  else none

/-- `_symbol_candidates`: only symbols of allowed files. -/
def symbolCandidates (goalLower : PyText) (tokens : List PyText)
    (symbols : List (IndexedSymbol Detail)) (allowedPaths : List PyText) :
    Dict (IndexedSymbol Detail) Candidate :=
  symbols.foldl (fun candidates symbol =>
    if symbol.path ∈ allowedPaths then
      (symbolCandidate lower goalLower tokens symbol).elim candidates (candidates.set symbol)
    else candidates) Dict.empty

end Tokens

/-! ## Structure -/

section Structure

variable {Detail : Type} [DecidableEq Detail]

/-- `PurePosixPath(path).with_suffix("").as_posix().replace("/", ".")`; a path without a name,
    which `with_suffix` refuses, has been refused by then. -/
def moduleOfPath (path : PyText) : PyText :=
  path.withoutSuffix.map fun c => if c = .scalar '/' then .scalar '.' else c

/-- The modules of candidates. -/
def targetModules (files : List PyText) (symbols : List (IndexedSymbol Detail)) : List PyText :=
  symbols.map (fun symbol => symbol.identity.module_) ++ files.map moduleOfPath

/-- A dependency from or to one of the modules. -/
def Touches (modules : List PyText) (dependency : Dependency) : Prop :=
  dependency.source ∈ modules ∨ dependency.target ∈ modules

instance (modules : List PyText) : DecidablePred (Touches modules) :=
  fun _ => inferInstanceAs (Decidable (_ ∨ _))

/-- `_add_direct_structure`. -/
def addDirectStructure (index : RepositoryIndex Detail) (files : Dict PyText Candidate)
    (symbols : Dict (IndexedSymbol Detail) Candidate) : Dict (IndexedSymbol Detail) Candidate :=
  let modules := targetModules files.keys symbols.keys
  index.dependencies.foldl (fun symbols dependency =>
    if Touches modules dependency then
      index.symbols.foldl (fun symbols symbol =>
        if symbol.identity.module_ = dependency.source ∨
            symbol.identity.module_ = dependency.target then
          symbols.offer Candidate.score symbol ⟨600, .directStructure⟩
        else symbols) symbols
    else symbols) symbols

/-- The nodes that edges join to those of a frontier. -/
def nodesAround (edges : List GraphEdge) (frontier : List PyText) : List PyText :=
  edges.flatMap fun edge =>
    (if edge.source ∈ frontier then [edge.target] else []) ++
      (if edge.target ∈ frontier then [edge.source] else [])

/-- The nodes that are selected by name. -/
def selectedNodeIds (graph : EngineeringGraph) (symbols : List (IndexedSymbol Detail)) :
    List PyText :=
  let targeted := symbols.map (fun symbol => symbol.identity.qualifiedName) ++
    symbols.map (fun symbol => symbol.identity.module_)
  (graph.nodes.filter fun node => node.qualifiedName ∈ targeted ∨ node.name ∈ targeted).map
    fun node => node.id

/-- The names of the nodes in the neighbourhood of those that are selected. -/
def relatedNames (graph : EngineeringGraph) (symbols : List (IndexedSymbol Detail))
    (maxDepth : Nat) : List PyText :=
  let selected := selectedNodeIds graph symbols
  let visited := rounds (nodesAround graph.edges) maxDepth selected selected
  (graph.nodes.filter fun node => node.id ∈ visited ∧ node.id ∉ selected).map
    fun node => node.qualifiedName

/-- `_add_graph_neighborhood`. -/
def addGraphNeighborhood (index : RepositoryIndex Detail) (graph : Option EngineeringGraph)
    (symbols : Dict (IndexedSymbol Detail) Candidate) (maxDepth : Nat) :
    Dict (IndexedSymbol Detail) Candidate :=
  match graph with
  | none => symbols
  | some graph =>
      if maxDepth = 0 then symbols
      else
        let related := relatedNames graph symbols.keys maxDepth
        index.symbols.foldl (fun symbols symbol =>
          if symbol.identity.qualifiedName ∈ related then
            symbols.offer Candidate.score symbol ⟨450, .impactExpansion⟩
          else symbols) symbols

/-- `_add_symbol_files`. -/
def addSymbolFiles (files : Dict PyText Candidate)
    (symbols : Dict (IndexedSymbol Detail) Candidate) (artifactPaths : List PyText) :
    Dict PyText Candidate :=
  symbols.items.foldl (fun files item =>
    if item.1.path ∈ artifactPaths then files.offer Candidate.score item.1.path item.2
    else files) files

/-- `_dependency_candidates`. -/
def dependencyCandidates (dependencies : List Dependency) (files : Dict PyText Candidate)
    (symbols : Dict (IndexedSymbol Detail) Candidate) : Dict Dependency Candidate :=
  let modules := targetModules files.keys symbols.keys
  dependencies.foldl (fun candidates dependency =>
    if Touches modules dependency then candidates.set dependency ⟨600, .directStructure⟩
    else candidates) Dict.empty

end Structure

/-! ## Ranking -/

/-- `_candidate_key` of a dependency. -/
def dependencyKey (dependency : Dependency) : PyText :=
  dependency.source ++ .ofString "->" ++ dependency.target ++ .ofString ":" ++
    .ofString (dependencyKindValue dependency.kind)

/-- What candidates are ranked by, given `_candidate_key`. -/
def rankKey {κ : Type} (candidateKey : κ → PyText) (item : κ × Candidate) :
    Int ×ₗ List Nat ×ₗ List Nat :=
  toLex (-item.2.score, toLex ((PyText.ofString item.2.reason.value).order,
    (candidateKey item.1).order))

/-- `_take_ranked`. -/
def takeRanked {κ : Type} (candidateKey : κ → PyText) (candidates : Dict κ Candidate)
    (limit : Nat) : List (κ × Candidate) × Nat :=
  let ranked := sortedBy (rankKey candidateKey) candidates.items
  (ranked.take limit, ranked.length - limit)

/-- What is taken and what is left out are the candidates. -/
theorem takeRanked_accounted {κ : Type} (candidateKey : κ → PyText)
    (candidates : Dict κ Candidate) (limit : Nat) :
    (takeRanked candidateKey candidates limit).1.length ≤ limit ∧
      (takeRanked candidateKey candidates limit).1.length +
        (takeRanked candidateKey candidates limit).2 = candidates.items.length := by
  have hlength : (sortedBy (rankKey candidateKey) candidates.items).length =
      candidates.items.length := (sortedBy_perm _ _).length_eq
  simp only [takeRanked, List.length_take, hlength]
  omega

theorem mem_of_mem_takeRanked {κ : Type} {candidateKey : κ → PyText}
    {candidates : Dict κ Candidate} {limit : Nat} {item : κ × Candidate}
    (h : item ∈ (takeRanked candidateKey candidates limit).1) : item ∈ candidates.items :=
  (mem_sortedBy _).mp (List.mem_of_mem_take h)

end Eag.Context
