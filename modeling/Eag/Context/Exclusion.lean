/-
  Eag.Context.Exclusion

  Whether a selection keeps to the files that passed the exclusion check. Excerpts always do
  (`excerpts_admitted`). So do the symbols that the goal names, but the two structural routes
  offer symbols of any file: `select_admitted_iff` says exactly when none of those is selected.
-/

import Eag.Context.Offers
import Eag.Context.Stages

namespace Eag.Context

open Eag.Foundation
open Eag.Graph (EngineeringGraph GraphEdge)

/-! ## Neighbours -/

/-- An edge joins two nodes, in either direction. -/
def Adjacent (edges : List GraphEdge) (x y : PyText) : Prop :=
  ∃ edge ∈ edges, edge.source = x ∧ edge.target = y ∨ edge.target = x ∧ edge.source = y

theorem mem_nodesAround {edges : List GraphEdge} (frontier : List PyText) (y : PyText) :
    y ∈ nodesAround edges frontier ↔ ∃ x ∈ frontier, Adjacent edges x y := by
  simp only [nodesAround, List.mem_flatMap, List.mem_append, List.mem_ite_nil_right,
    List.mem_singleton, Adjacent]
  constructor
  · rintro ⟨edge, hedge, ⟨hsource, rfl⟩ | ⟨htarget, rfl⟩⟩
    · exact ⟨edge.source, hsource, edge, hedge, .inl ⟨rfl, rfl⟩⟩
    · exact ⟨edge.target, htarget, edge, hedge, .inr ⟨rfl, rfl⟩⟩
  · rintro ⟨x, hx, edge, hedge, ⟨rfl, rfl⟩ | ⟨rfl, rfl⟩⟩
    · exact ⟨edge, hedge, .inl ⟨hx, rfl⟩⟩
    · exact ⟨edge, hedge, .inr ⟨hx, rfl⟩⟩

/-- The nodes visited are those within reach. -/
theorem mem_rounds_nodesAround (edges : List GraphEdge) (selected : List PyText) (maxDepth : Nat)
    (x : PyText) :
    x ∈ rounds (nodesAround edges) maxDepth selected selected ↔
      WithinSteps (· ∈ selected) (Adjacent edges) maxDepth x := by
  have hstart : Expanded (· ∈ selected) (Adjacent edges) 0 selected selected :=
    expanded_start fun _ => Iff.rfl
  have hrounds := hstart.mem_rounds (m := maxDepth) mem_nodesAround x
  rwa [Nat.zero_add] at hrounds

section Exclusion

variable {Detail : Type} [DecidableEq Detail] (lower : PyText → PyText) (goal : PyText)
  (snapshot : RepositoryContextSnapshot Detail) (budget : ContextBudget)

/-! ## The two structural routes -/

/-- A dependency that touches a target joins the module of the symbol. -/
def DirectlyRelated (symbol : IndexedSymbol Detail) : Prop :=
  ∃ dependency ∈ snapshot.index.dependencies,
    Touches (targetedModules lower goal snapshot) dependency ∧
      (symbol.identity.module_ = dependency.source ∨
        symbol.identity.module_ = dependency.target)

instance : DecidablePred (DirectlyRelated lower goal snapshot) :=
  fun _ => inferInstanceAs (Decidable (∃ _ ∈ _, _))

/-- The graph has a node under the name of the symbol that is not selected but within reach of
    the selected ones. -/
def InNeighbourhood (symbol : IndexedSymbol Detail) : Prop :=
  ∃ graph, snapshot.graph = some graph ∧ ∃ node ∈ graph.nodes,
    node.qualifiedName = symbol.identity.qualifiedName ∧
      WithinSteps (· ∈ selectedNodeIds graph (targetedSymbols lower goal snapshot))
        (Adjacent graph.edges) budget.maxGraphDepth node.id ∧
      node.id ∉ selectedNodeIds graph (targetedSymbols lower goal snapshot)

/-- What a symbol that the goal does not name is as a candidate. -/
def structuralCandidate (symbol : IndexedSymbol Detail) : Candidate :=
  if DirectlyRelated lower goal snapshot symbol then ⟨600, .directStructure⟩
  else ⟨450, .impactExpansion⟩

/-- As many symbols as may be selected are ranked ahead of the symbol. -/
def Outranked (symbol : IndexedSymbol Detail) : Prop :=
  let ranked := standings Candidate.score (symbolOffers lower goal snapshot budget.maxGraphDepth)
  budget.maxSymbols ≤ (ranked.filter fun other =>
    Ahead (rankKey fun symbol : IndexedSymbol Detail => symbol.identity.qualifiedName) ranked
      (symbol, structuralCandidate lower goal snapshot symbol) other).length

variable {lower goal snapshot budget}

/-! ## What is offered for a symbol of an excluded file -/

omit [DecidableEq Detail] in
theorem admitted_of_mem_namedOffers {item : IndexedSymbol Detail × Candidate}
    (h : item ∈ namedOffers lower goal snapshot) : Admitted snapshot item.1 := by
  obtain ⟨symbol, -, hsymbol⟩ := List.mem_filterMap.mp h
  obtain ⟨candidate, hcandidate, rfl⟩ := Option.map_eq_some_iff.mp hsymbol
  unfold namedCandidate at hcandidate
  split at hcandidate
  · next hadmitted => exact hadmitted
  · cases hcandidate

omit [DecidableEq Detail] in
theorem mem_directOffers {item : IndexedSymbol Detail × Candidate} :
    item ∈ directOffers lower goal snapshot ↔
      item.1 ∈ snapshot.index.symbols ∧ DirectlyRelated lower goal snapshot item.1 ∧
        item.2 = ⟨600, .directStructure⟩ := by
  simp only [directOffers, List.mem_flatMap, List.mem_filter, List.mem_map, decide_eq_true_eq]
  constructor
  · rintro ⟨dependency, ⟨hdependency, htouches⟩, symbol, ⟨hsymbol, hmodule⟩, rfl⟩
    exact ⟨hsymbol, ⟨dependency, hdependency, htouches, hmodule⟩, rfl⟩
  · rintro ⟨hsymbol, ⟨dependency, hdependency, htouches, hmodule⟩, hcandidate⟩
    exact ⟨dependency, ⟨hdependency, htouches⟩, item.1, ⟨hsymbol, hmodule⟩,
      Prod.ext rfl hcandidate.symm⟩

omit [DecidableEq Detail] in
theorem mem_relatedNames {graph : EngineeringGraph} {symbols : List (IndexedSymbol Detail)}
    {maxDepth : Nat} {name : PyText} :
    name ∈ relatedNames graph symbols maxDepth ↔ ∃ node ∈ graph.nodes,
      node.qualifiedName = name ∧
        WithinSteps (· ∈ selectedNodeIds graph symbols) (Adjacent graph.edges) maxDepth node.id ∧
        node.id ∉ selectedNodeIds graph symbols := by
  simp only [relatedNames, List.mem_map, List.mem_filter, decide_eq_true_eq,
    mem_rounds_nodesAround]
  constructor
  · rintro ⟨node, ⟨hnode, hreach, hnot⟩, hname⟩
    exact ⟨node, hnode, hname, hreach, hnot⟩
  · rintro ⟨node, hnode, hname, hreach, hnot⟩
    exact ⟨node, ⟨hnode, hreach, hnot⟩, hname⟩

omit [DecidableEq Detail] in
theorem mem_neighbourOffers {item : IndexedSymbol Detail × Candidate} :
    item ∈ neighbourOffers lower goal snapshot budget.maxGraphDepth ↔
      item.1 ∈ snapshot.index.symbols ∧ InNeighbourhood lower goal snapshot budget item.1 ∧
        item.2 = ⟨450, .impactExpansion⟩ := by
  unfold neighbourOffers InNeighbourhood
  cases snapshot.graph with
  | none => simp
  | some graph =>
      simp only [List.mem_map, List.mem_filter, decide_eq_true_eq, mem_relatedNames,
        Option.some.injEq, exists_eq_left']
      constructor
      · rintro ⟨symbol, ⟨hsymbol, hrelated⟩, rfl⟩
        exact ⟨hsymbol, hrelated, rfl⟩
      · rintro ⟨hsymbol, hrelated, hcandidate⟩
        exact ⟨item.1, ⟨hsymbol, hrelated⟩, Prod.ext rfl hcandidate.symm⟩

omit [DecidableEq Detail] in
/-- What is offered for an excluded symbol comes from one of the structural routes. -/
theorem mem_symbolOffers_of_excluded {item : IndexedSymbol Detail × Candidate}
    (hexcluded : ¬Admitted snapshot item.1) :
    item ∈ symbolOffers lower goal snapshot budget.maxGraphDepth ↔
      item.1 ∈ snapshot.index.symbols ∧
        (DirectlyRelated lower goal snapshot item.1 ∧ item.2 = ⟨600, .directStructure⟩ ∨
          InNeighbourhood lower goal snapshot budget item.1 ∧
            item.2 = ⟨450, .impactExpansion⟩) := by
  have hnamed : item ∉ namedOffers lower goal snapshot := fun h =>
    hexcluded (admitted_of_mem_namedOffers h)
  rw [symbolOffers, List.mem_append, List.mem_append, mem_directOffers, mem_neighbourOffers,
    and_or_left]
  simp only [hnamed, false_or]

/-- The best offer for an excluded symbol that is offered. -/
theorem bestOffer_excluded {symbol : IndexedSymbol Detail} {candidate : Candidate}
    (hexcluded : ¬Admitted snapshot symbol)
    (h : bestOffer Candidate.score (symbolOffers lower goal snapshot budget.maxGraphDepth) symbol =
      some candidate) : candidate = structuralCandidate lower goal snapshot symbol := by
  have hoffered := (mem_symbolOffers_of_excluded hexcluded).mp (bestOffer_mem _ h)
  obtain ⟨hsymbol, hroutes⟩ := hoffered
  unfold structuralCandidate
  split
  · next hdirect =>
      have hmem : (symbol, ⟨600, .directStructure⟩) ∈
          symbolOffers lower goal snapshot budget.maxGraphDepth :=
        (mem_symbolOffers_of_excluded hexcluded).mpr ⟨hsymbol, .inl ⟨hdirect, rfl⟩⟩
      have hle : (600 : Int) ≤ candidate.score := le_bestOffer _ h hmem
      rcases hroutes with ⟨-, heq⟩ | ⟨-, heq⟩
      · exact heq
      · have hscore : candidate.score = 450 := congrArg Candidate.score heq
        omega
  · next hdirect =>
      rcases hroutes with ⟨hrelated, -⟩ | ⟨-, heq⟩
      · exact absurd hrelated hdirect
      · exact heq

/-- An excluded symbol stands among the candidates exactly when a structural route reaches it. -/
theorem mem_standings_of_excluded {symbol : IndexedSymbol Detail} {candidate : Candidate}
    (hexcluded : ¬Admitted snapshot symbol) :
    (symbol, candidate) ∈
        standings Candidate.score (symbolOffers lower goal snapshot budget.maxGraphDepth) ↔
      symbol ∈ snapshot.index.symbols ∧
        (DirectlyRelated lower goal snapshot symbol ∨
          InNeighbourhood lower goal snapshot budget symbol) ∧
        candidate = structuralCandidate lower goal snapshot symbol := by
  rw [mem_standings]
  constructor
  · intro h
    obtain ⟨hsymbol, hroutes⟩ :=
      (mem_symbolOffers_of_excluded hexcluded).mp (bestOffer_mem _ h)
    exact ⟨hsymbol, hroutes.imp And.left And.left, bestOffer_excluded hexcluded h⟩
  · rintro ⟨hsymbol, hroutes, hcandidate⟩
    have hoffered : ∃ candidate, (symbol, candidate) ∈
        symbolOffers lower goal snapshot budget.maxGraphDepth := by
      rcases hroutes with hdirect | hnear
      · refine ⟨⟨600, .directStructure⟩, ?_⟩
        exact (mem_symbolOffers_of_excluded hexcluded).mpr ⟨hsymbol, .inl ⟨hdirect, rfl⟩⟩
      · refine ⟨⟨450, .impactExpansion⟩, ?_⟩
        exact (mem_symbolOffers_of_excluded hexcluded).mpr ⟨hsymbol, .inr ⟨hnear, rfl⟩⟩
    obtain ⟨offered, hmem⟩ := hoffered
    obtain ⟨best, hbest⟩ := exists_bestOffer Candidate.score hmem
    rw [hbest, hcandidate, bestOffer_excluded hexcluded hbest]

/-! ## The symbols that are selected -/

/-- The symbols of a result that belong to a file that did not pass are the excluded symbols
    among the best candidates. -/
theorem symbols_admitted_iff {readSanitized : PyText → SanitizedContent}
    {result : SelectedRepositoryContext}
    (h : select lower readSanitized goal snapshot budget = .ok result) :
    (∀ symbol ∈ result.symbols, symbol.repositoryPath ∈ admittedPaths snapshot) ↔
      ∀ symbol ∈ snapshot.index.symbols, ¬Admitted snapshot symbol →
        DirectlyRelated lower goal snapshot symbol ∨
          InNeighbourhood lower goal snapshot budget symbol →
        Outranked lower goal snapshot budget symbol := by
  obtain ⟨stages⟩ := select_stages h
  have hrefs := (takeReferences_eq_ok stages.refs_eq).2.1
  -- What is taken are the standings with few enough others ahead.
  have htaken : ∀ item, item ∈ (takeRanked
      (fun symbol : IndexedSymbol Detail => symbol.identity.qualifiedName)
      stages.candidates.symbols budget.maxSymbols).1 ↔
      item ∈ standings Candidate.score (symbolOffers lower goal snapshot budget.maxGraphDepth) ∧
        ((standings Candidate.score
          (symbolOffers lower goal snapshot budget.maxGraphDepth)).filter fun other =>
            Ahead (rankKey fun symbol : IndexedSymbol Detail => symbol.identity.qualifiedName)
              (standings Candidate.score
                (symbolOffers lower goal snapshot budget.maxGraphDepth)) item other).length <
          budget.maxSymbols := by
    intro item
    rw [takeRanked, symbols_eq_offers stages.candidates_eq, Dict.items_offers]
    exact mem_take_sortedBy_iff _ (standings_nodup _ _)
  have hpaths : (∀ symbol ∈ result.symbols, symbol.repositoryPath ∈ admittedPaths snapshot) ↔
      ∀ item ∈ (takeRanked
        (fun symbol : IndexedSymbol Detail => symbol.identity.qualifiedName)
        stages.candidates.symbols budget.maxSymbols).1, Admitted snapshot item.1 := by
    rw [stages.symbols_eq]
    generalize (takeRanked (fun symbol : IndexedSymbol Detail => symbol.identity.qualifiedName)
      stages.candidates.symbols budget.maxSymbols).1 = taken at hrefs
    generalize stages.refs.symbols = refs at hrefs
    induction hrefs with
    | nil => simp
    | cons hmade _ ih =>
        rw [List.forall_mem_cons, List.forall_mem_cons, ih, symbolReference_path hmade]
        rfl
  rw [hpaths]
  constructor
  · intro hadmitted symbol hsymbol hexcluded hroutes
    have hmem : (symbol, structuralCandidate lower goal snapshot symbol) ∈
        standings Candidate.score (symbolOffers lower goal snapshot budget.maxGraphDepth) :=
      (mem_standings_of_excluded hexcluded).mpr ⟨hsymbol, hroutes, rfl⟩
    refine Nat.le_of_not_lt fun hfew => hexcluded ?_
    exact hadmitted _ ((htaken _).mpr ⟨hmem, hfew⟩)
  · intro houtranked item hitem
    obtain ⟨symbol, candidate⟩ := item
    obtain ⟨hmem, hfew⟩ := (htaken _).mp hitem
    show Admitted snapshot symbol
    by_contra hexcluded
    obtain ⟨hsymbol, hroutes, rfl⟩ := (mem_standings_of_excluded hexcluded).mp hmem
    have hmany := houtranked symbol hsymbol hexcluded hroutes
    exact absurd hfew (Nat.not_lt.mpr hmany)

/-! ## The excerpts -/

omit [DecidableEq Detail] in
/-- An admitted path is in normal form. -/
theorem posixText_of_admitted {path : PyText} (h : path ∈ admittedPaths snapshot) :
    path.posixText = path := by
  obtain ⟨artifact, hitem⟩ := Dict.mem_keys.mp h
  have hpath : path = artifact.repositoryPath := (Dict.keyed_item hitem).2
  rw [hpath]
  exact (relativePath_eq_ok artifact.relative).symm

/-- **Excerpts** are of files that passed the exclusion check. -/
theorem excerpts_admitted {readSanitized : PyText → SanitizedContent}
    {result : SelectedRepositoryContext}
    (h : select lower readSanitized goal snapshot budget = .ok result) :
    ∀ excerpt ∈ result.excerpts, excerpt.repositoryPath ∈ admittedPaths snapshot := by
  obtain ⟨stages⟩ := select_stages h
  intro excerpt hexcerpt
  -- The excerpt is one of those gathered, so it shows one of the files taken.
  have hgathered : excerpt ∈ stages.gathered.excerpts := by
    rw [stages.constrained_eq] at hexcerpt
    exact retain_subset _ hexcerpt
  obtain ⟨shown, hshown, hshows⟩ :=
    exists_mem_of_forall₂_right (gatherExcerpts_spec stages.gathered_eq).shown hgathered
  have hfile : shown.1 ∈ stages.refs.files := by
    obtain ⟨file, hfile, hwindow⟩ := List.mem_filterMap.mp (List.mem_of_mem_take hshown)
    obtain ⟨window, -, rfl⟩ := Option.map_eq_some_iff.mp hwindow
    exact hfile
  obtain ⟨item, hitem, hmade⟩ :=
    exists_mem_of_forall₂_right (takeReferences_eq_ok stages.refs_eq).1 hfile
  have hadmitted : item.1 ∈ admittedPaths snapshot :=
    files_admitted stages.candidates_eq _
      (List.mem_map_of_mem (mem_of_mem_takeRanked hitem))
  have hnormal := posixText_of_admitted hadmitted
  rw [hshows.path, fileReference_path hmade, hnormal, hnormal]
  exact hadmitted

/-- **A selection keeps to the files that passed the exclusion check** exactly when every symbol
    of an excluded file that a structural route reaches is outranked. -/
theorem select_admitted_iff {readSanitized : PyText → SanitizedContent}
    {result : SelectedRepositoryContext}
    (h : select lower readSanitized goal snapshot budget = .ok result) :
    ((∀ symbol ∈ result.symbols, symbol.repositoryPath ∈ admittedPaths snapshot) ∧
        ∀ excerpt ∈ result.excerpts, excerpt.repositoryPath ∈ admittedPaths snapshot) ↔
      ∀ symbol ∈ snapshot.index.symbols, ¬Admitted snapshot symbol →
        DirectlyRelated lower goal snapshot symbol ∨
          InNeighbourhood lower goal snapshot budget symbol →
        Outranked lower goal snapshot budget symbol := by
  rw [← symbols_admitted_iff h]
  exact and_iff_left (excerpts_admitted h)

end Exclusion

/-! ## A selection that leaks -/

/-- A function in a module of a repository. -/
def functionSymbol (qualifiedName module_ path : String) : IndexedSymbol Unit where
  identity := ⟨.ofString qualifiedName, .ofString module_, .function⟩
  location := ⟨.ofString path, 1, 0, 2, 0, Nat.one_pos, Nat.two_pos⟩
  detail := ()

/-- The file `app.py` passed the exclusion check, the file `keys.py`, which it imports, did
    not. -/
def excludedImport : RepositoryContextSnapshot Unit where
  repositoryProfile := { name := .ofString "demo" }
  repositoryState := { available := false }
  index := {
    symbols := [functionSymbol "app.start" "app" "app.py",
      functionSymbol "keys.load" "keys" "keys.py"]
    dependencies := [⟨.ofString "app", .ofString "keys", .import_, true⟩] }
  graph := none
  sourceArtifacts := [{
    repositoryPath := .ofString "app.py"
    fingerprint := .ofString "f1"
    absolutePath := .ofString "/repo/app.py"
    relative := by decide
    fingerprint_given := by decide }]
  snapshotFingerprint := .ofString "s1"

/-- A policy that shows every file. -/
def showEverything (_ : PyText) : SanitizedContent where
  content := some (.ofString "def start():\n    return load()")
  decision := ⟨.ofString "included", .ofString "none"⟩

/-- The selection returns, with symbols of both files. -/
theorem select_excludedImport : ∃ result,
    select id showEverything (.ofString "fix app.start") excludedImport {} = .ok result ∧
      result.symbols.map (fun symbol => symbol.repositoryPath) =
        [.ofString "app.py", .ofString "keys.py"] := by
  have hpaths : (select id showEverything (.ofString "fix app.start") excludedImport {}).map
      (fun result => result.symbols.map fun symbol => symbol.repositoryPath) =
        .ok [.ofString "app.py", .ofString "keys.py"] := by
    decide +kernel
  cases hselected : select id showEverything (.ofString "fix app.start") excludedImport {} with
  | error e =>
      rw [hselected] at hpaths
      cases hpaths
  | ok result =>
      rw [hselected] at hpaths
      exact ⟨result, rfl, Except.ok.inj hpaths⟩

theorem select_admitted_iff_excludedImport : ∃ result,
    select id showEverything (.ofString "fix app.start") excludedImport {} = .ok result ∧
      (((∀ symbol ∈ result.symbols, symbol.repositoryPath ∈ admittedPaths excludedImport) ∧
        ∀ excerpt ∈ result.excerpts, excerpt.repositoryPath ∈ admittedPaths excludedImport) ↔
      ∀ symbol ∈ excludedImport.index.symbols, ¬Admitted excludedImport symbol →
        DirectlyRelated id (.ofString "fix app.start") excludedImport symbol ∨
          InNeighbourhood id (.ofString "fix app.start") excludedImport {} symbol →
        Outranked id (.ofString "fix app.start") excludedImport {} symbol) := by
  obtain ⟨result, hselected, -⟩ := select_excludedImport
  exact ⟨result, hselected, select_admitted_iff hselected⟩

/-- The symbol of the excluded file is selected: the dependency of the module that the goal names
    joins its module, and no route but the first asks whether a file passed. -/
theorem select_leaks_excluded_symbol :
    ¬∀ result, select id showEverything (.ofString "fix app.start") excludedImport {} =
        .ok result →
      ∀ symbol ∈ result.symbols, symbol.repositoryPath ∈ admittedPaths excludedImport := by
  intro hadmitted
  obtain ⟨result, hselected, hpaths⟩ := select_excludedImport
  have hleak : PyText.ofString "keys.py" ∈
      result.symbols.map fun symbol => symbol.repositoryPath := by
    rw [hpaths]
    exact List.mem_cons_of_mem _ List.mem_cons_self
  obtain ⟨symbol, hsymbol, hpath⟩ := List.mem_map.mp hleak
  have hmem := hadmitted result hselected symbol hsymbol
  rw [hpath] at hmem
  revert hmem
  decide

end Eag.Context
