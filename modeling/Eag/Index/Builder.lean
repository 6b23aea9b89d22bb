/-
  Eag.Index.Builder

  The repository index and its builder: the modules and symbols of the analysed files
  in dicts, the dependencies and relationships in lists.  `IndexRuntime.build` makes the
  index of the Python files of a repository.

  The builder files a symbol under its qualified name, so a later symbol of the same name
  takes the place of the earlier.  Nothing is lost, and the order of the results does not
  matter, exactly when the names tell the symbols apart and the module names tell the
  modules apart (`TellsApart`).
-/

import Eag.Foundation.Calendar
import Eag.Foundation.Dict
import Eag.Source.Analysis

namespace Eag.Index

open Eag.Foundation Eag.Source

/-! ## The index -/

/-- `RepositoryIndexIdentity`. -/
structure RepositoryIndexIdentity where
  repository : PyText
  createdAt : DateTime
  deriving DecidableEq, Repr

/-- `RepositoryIndexStatistics`. -/
structure RepositoryIndexStatistics where
  files : Nat := 0
  modules : Nat := 0
  classes : Nat := 0
  interfaces : Nat := 0
  protocols : Nat := 0
  enums : Nat := 0
  dataclasses : Nat := 0
  functions : Nat := 0
  methods : Nat := 0
  constants : Nat := 0
  symbols : Nat := 0
  dependencies : Nat := 0
  deriving DecidableEq, Repr

/-- `RepositoryIndex`. -/
structure RepositoryIndex where
  identity : RepositoryIndexIdentity
  statistics : RepositoryIndexStatistics
  modules : List ModuleIdentity := []
  symbols : List Symbol := []
  dependencies : List Dependency := []
  semanticRelationships : List SemanticRelationship := []

namespace RepositoryIndex

end RepositoryIndex

/-! ## The builder -/

/-- `RepositoryIndexBuilder`. -/
structure RepositoryIndexBuilder where
  repositoryName : PyText
  modules : Dict PyText ModuleIdentity := Dict.empty
  symbols : Dict PyText Symbol := Dict.empty
  dependencies : List Dependency := []
  files : Nat := 0
  semanticRelationships : List SemanticRelationship := []

namespace RepositoryIndexBuilder

/-- `add_result`. -/
def addResult (builder : RepositoryIndexBuilder) (result : AnalysisResult) :
    RepositoryIndexBuilder :=
  { builder with
    files := builder.files + 1
    modules := builder.modules.set result.module_.name result.module_
    semanticRelationships := builder.semanticRelationships ++ result.semanticRelationships
    symbols := result.symbols.foldl
      (fun symbols symbol => symbols.set symbol.qualifiedName symbol) builder.symbols
    dependencies := result.dependencies.foldl
      (fun dependencies dependency => dependencies ++ [dependency]) builder.dependencies }

/-- The member of `SymbolKind` with this name, where there is one. -/
def symbolKindNamed : String → Option SymbolKind
  | "MODULE" => some .module_
  | "CLASS" => some .class_
  | "FUNCTION" => some .function
  | "METHOD" => some .method
  | "VARIABLE" => some .variable_
  | "CONSTANT" => some .constant
  | _ => none

/-- `_count`: no symbol is of a kind the enumeration does not have. -/
def countKind (symbols : List Symbol) (kindName : String) : Nat :=
  match symbolKindNamed kindName with
  | none => 0
  | some kind => symbols.countP fun symbol => symbol.kind = kind

/-- How many symbols carry an attribute. -/
def countAttribute (symbols : List Symbol) (name : String) : Nat :=
  symbols.countP fun symbol => name ∈ symbol.attributes

/-- `_calculate_statistics`. -/
def calculateStatistics (builder : RepositoryIndexBuilder) : RepositoryIndexStatistics where
  files := builder.files
  modules := builder.modules.values.length
  classes := countKind builder.symbols.values "CLASS"
  interfaces := countKind builder.symbols.values "INTERFACE"
  protocols := countAttribute builder.symbols.values "is_protocol"
  enums := countAttribute builder.symbols.values "is_enum"
  dataclasses := countAttribute builder.symbols.values "is_dataclass"
  functions := countKind builder.symbols.values "FUNCTION"
  methods := countKind builder.symbols.values "METHOD"
  constants := countKind builder.symbols.values "CONSTANT"
  symbols := builder.symbols.values.length
  dependencies := builder.dependencies.length

/-- `build`. -/
def build (builder : RepositoryIndexBuilder) (now : DateTime) : RepositoryIndex where
  identity := { repository := builder.repositoryName, createdAt := now }
  statistics := builder.calculateStatistics
  modules := builder.modules.values
  symbols := builder.symbols.values
  dependencies := builder.dependencies
  semanticRelationships := builder.semanticRelationships

/-- `build_from_results`. -/
def buildFromResults (results : List AnalysisResult) (repositoryName : PyText) (now : DateTime) :
    RepositoryIndex :=
  (results.foldl addResult { repositoryName := repositoryName }).build now

end RepositoryIndexBuilder

/-! ## What a run of `add_result` collects -/

open RepositoryIndexBuilder

/-- The modules of the results, in their order. -/
def modulesOf (results : List AnalysisResult) : List ModuleIdentity :=
  results.map AnalysisResult.module_

/-- The symbols of the results, file after file. -/
def symbolsOf (results : List AnalysisResult) : List Symbol :=
  results.flatMap AnalysisResult.symbols

theorem foldl_set_symbols (collected : Dict PyText Symbol) (symbols : List Symbol) :
    symbols.foldl (fun symbols symbol => symbols.set symbol.qualifiedName symbol) collected
      = collected.update (symbols.map fun symbol => (symbol.qualifiedName, symbol)) := by
  rw [Dict.update, List.foldl_map]

theorem foldl_append_dependencies (collected dependencies : List Dependency) :
    dependencies.foldl (fun dependencies dependency => dependencies ++ [dependency]) collected
      = collected ++ dependencies := by
  induction dependencies generalizing collected with
  | nil => exact (List.append_nil collected).symm
  | cons dependency others ih => rw [List.foldl_cons, ih, List.append_assoc, List.singleton_append]

/-- A run of `add_result` from any builder. -/
theorem foldl_addResult (builder : RepositoryIndexBuilder) (results : List AnalysisResult) :
    results.foldl addResult builder =
      { repositoryName := builder.repositoryName
        modules := builder.modules.update
          ((modulesOf results).map fun module_ => (module_.name, module_))
        symbols := builder.symbols.update
          ((symbolsOf results).map fun symbol => (symbol.qualifiedName, symbol))
        dependencies := builder.dependencies ++ results.flatMap AnalysisResult.dependencies
        files := builder.files + results.length
        semanticRelationships := builder.semanticRelationships ++
          results.flatMap AnalysisResult.semanticRelationships } := by
  induction results generalizing builder with
  | nil => simp [modulesOf, symbolsOf]
  | cons result rest ih =>
      rw [List.foldl_cons, ih]
      simp only [addResult, modulesOf, symbolsOf, List.map_cons, List.flatMap_cons,
        Dict.update_cons, List.map_append, Dict.update_append, foldl_set_symbols,
        foldl_append_dependencies, List.append_assoc, List.length_cons]
      rw [Nat.add_assoc, Nat.add_comm 1]

/-- **What the index holds.**  The modules under their names, the symbols under their
    qualified names, and the dependencies and relationships of all results. -/
theorem buildFromResults_eq (results : List AnalysisResult) (repositoryName : PyText)
    (now : DateTime) :
    let modules := (Dict.keyed ModuleIdentity.name (modulesOf results)).values
    let symbols := (Dict.keyed Symbol.qualifiedName (symbolsOf results)).values
    let dependencies := results.flatMap AnalysisResult.dependencies
    buildFromResults results repositoryName now =
      { identity := { repository := repositoryName, createdAt := now }
        statistics :=
          { files := results.length
            modules := modules.length
            classes := countKind symbols "CLASS"
            interfaces := countKind symbols "INTERFACE"
            protocols := countAttribute symbols "is_protocol"
            enums := countAttribute symbols "is_enum"
            dataclasses := countAttribute symbols "is_dataclass"
            functions := countKind symbols "FUNCTION"
            methods := countKind symbols "METHOD"
            constants := countKind symbols "CONSTANT"
            symbols := symbols.length
            dependencies := dependencies.length }
        modules := modules
        symbols := symbols
        dependencies := dependencies
        semanticRelationships := results.flatMap AnalysisResult.semanticRelationships } := by
  dsimp only
  rw [buildFromResults, foldl_addResult]
  simp only [build, calculateStatistics, Dict.keyed, List.nil_append, Nat.zero_add]

/-! ## The runtime -/

open Eag.Foundation.PyText (ofString)

namespace IndexRuntime

/-- `file_path.name == "__init__.py"`: a package marker is not indexed. -/
def isPackageMarker (file : SourceFile) : Bool := file.stem = ofString "__init__"

/-- The files that are indexed. -/
def indexedFiles (sourceFiles : List SourceFile) : List SourceFile :=
  sourceFiles.filter fun file => !isPackageMarker file

/-- `build`; an analysis that raises ends it. -/
def build (repositoryName : PyText) (sourceFiles : List SourceFile) (now : DateTime) :
    Except ValueError RepositoryIndex := do
  let results ← (indexedFiles sourceFiles).mapM analyzeFile
  return buildFromResults results repositoryName now

end IndexRuntime

open IndexRuntime

/-! ## What is in the index -/

/-- The symbols of the documents, with their files. -/
def filedSymbols (files : List SourceFile) : List (SourceFile × EngineeringSymbol) :=
  files.flatMap fun file => (documentSymbols file.content file.tree).map fun symbol => (file, symbol)

/-- The symbols of the documents, file after file. -/
def fileSymbols (files : List SourceFile) : List EngineeringSymbol :=
  files.flatMap fun file => documentSymbols file.content file.tree

theorem mapM_analyzeFile {files : List SourceFile} {results : List AnalysisResult} :
    files.mapM analyzeFile = .ok results
      ↔ (∀ file ∈ files, file.moduleName.NonBlank) ∧ results = files.map analyzedResult :=
  mapM_eq_ok_iff fun _ _ => analyzeFile_eq_ok

/-- The index of analysed files. -/
def analyzedIndex (files : List SourceFile) (repositoryName : PyText) (now : DateTime) :
    RepositoryIndex :=
  buildFromResults (files.map analyzedResult) repositoryName now

/-- **An index built from files** is the index of their analyses. -/
theorem build_eq_ok {repositoryName : PyText} {sourceFiles : List SourceFile} {now : DateTime}
    {index : RepositoryIndex} :
    IndexRuntime.build repositoryName sourceFiles now = .ok index
      ↔ (∀ file ∈ indexedFiles sourceFiles, file.moduleName.NonBlank) ∧
        index = analyzedIndex (indexedFiles sourceFiles) repositoryName now := by
  unfold IndexRuntime.build
  cases hresults : (indexedFiles sourceFiles).mapM analyzeFile with
  | error e =>
      refine iff_of_false (fun h => nomatch h) ?_
      rintro ⟨hmodules, -⟩
      exact nomatch hresults.symm.trans (mapM_analyzeFile.mpr ⟨hmodules, rfl⟩)
  | ok results =>
      obtain ⟨hmodules, rfl⟩ := mapM_analyzeFile.mp hresults
      constructor
      · intro h
        exact ⟨hmodules, (Except.ok.inj h).symm⟩
      · rintro ⟨-, rfl⟩
        rfl

section

variable (files : List SourceFile) (repositoryName : PyText) (now : DateTime)

theorem symbolsOf_analyzed : symbolsOf (files.map analyzedResult)
    = (filedSymbols files).map fun filed => analyzedSymbol filed.1 filed.2 := by
  rw [symbolsOf, filedSymbols, List.flatMap_map, List.map_flatMap]
  refine congrArg (List.flatMap · files) (funext fun file => ?_)
  rw [List.map_map]
  rfl

theorem fileSymbols_eq : fileSymbols files = (filedSymbols files).map Prod.snd := by
  rw [fileSymbols, filedSymbols, List.map_flatMap]
  refine congrArg (List.flatMap · files) (funext fun file => ?_)
  rw [List.map_map]
  exact (List.map_id _).symm

/-- A symbol of the index is the last of its name in the documents, with the module of its
    file. -/
theorem mem_symbols_analyzed {symbol : Symbol} :
    symbol ∈ (analyzedIndex files repositoryName now).symbols
      ↔ ∃ filed, Dict.LastBy (fun filed : SourceFile × EngineeringSymbol =>
            filed.2.qualifiedName) (filedSymbols files) filed
          ∧ analyzedSymbol filed.1 filed.2 = symbol := by
  rw [analyzedIndex, buildFromResults_eq]
  dsimp only
  rw [Dict.mem_values_keyed, symbolsOf_analyzed, Dict.lastBy_map]
  rfl

theorem mem_filedSymbols {filed : SourceFile × EngineeringSymbol} (h : filed ∈ filedSymbols files) :
    filed.1 ∈ files ∧ filed.2 ∈ documentSymbols filed.1.content filed.1.tree := by
  obtain ⟨file, hfile, hmem⟩ := List.mem_flatMap.mp h
  obtain ⟨symbol, hsymbol, rfl⟩ := List.mem_map.mp hmem
  exact ⟨hfile, hsymbol⟩

theorem fileSymbols_named : ∀ found ∈ fileSymbols files, ∃ path, NamedIn path found := by
  intro found hmem
  obtain ⟨file, -, hsymbol⟩ := List.mem_flatMap.mp hmem
  exact documentSymbols_named _ _ found hsymbol

theorem symbols_analyzed_last {symbol : Symbol}
    (h : symbol ∈ (analyzedIndex files repositoryName now).symbols) :
    ∃ file ∈ files, ∃ found, Dict.LastBy EngineeringSymbol.qualifiedName (fileSymbols files) found
      ∧ (∃ path, NamedIn path found) ∧ symbol = analyzedSymbol file found := by
  obtain ⟨filed, hlast, rfl⟩ := (mem_symbols_analyzed files repositoryName now).mp h
  obtain ⟨hfile, hsymbol⟩ := mem_filedSymbols files hlast.mem
  refine ⟨filed.1, hfile, filed.2, ?_, documentSymbols_named _ _ _ hsymbol, rfl⟩
  rw [fileSymbols_eq]
  exact Dict.lastBy_map.mpr ⟨filed, hlast, rfl⟩

theorem last_symbols_analyzed {found : EngineeringSymbol}
    (h : Dict.LastBy EngineeringSymbol.qualifiedName (fileSymbols files) found) :
    ∃ file ∈ files, analyzedSymbol file found
      ∈ (analyzedIndex files repositoryName now).symbols := by
  rw [fileSymbols_eq] at h
  obtain ⟨filed, hlast, rfl⟩ := Dict.lastBy_map.mp h
  exact ⟨filed.1, (mem_filedSymbols files hlast.mem).1,
    (mem_symbols_analyzed files repositoryName now).mpr ⟨filed, hlast, rfl⟩⟩

/-- Every indexed file has a module of its name in the index. -/
theorem modules_analyzed {file : SourceFile} (h : file ∈ files) :
    ∃ module_ ∈ (analyzedIndex files repositoryName now).modules,
      module_.name = file.moduleName.strip := by
  rw [analyzedIndex, buildFromResults_eq]
  dsimp only
  have hmem : (analyzedResult file).module_ ∈ modulesOf (files.map analyzedResult) :=
    List.mem_map_of_mem (List.mem_map_of_mem h)
  exact @Dict.exists_mem_values_keyed _ _ _ ModuleIdentity.name _ _ hmem

/-- A module of the index is the module of a file. -/
theorem mem_modules_analyzed {module_ : ModuleIdentity}
    (h : module_ ∈ (analyzedIndex files repositoryName now).modules) :
    ∃ file ∈ files, module_.name = file.moduleName.strip := by
  rw [analyzedIndex, buildFromResults_eq] at h
  have hmem := Dict.mem_of_mem_values_keyed h
  rw [modulesOf, List.map_map] at hmem
  obtain ⟨file, hfile, rfl⟩ := List.mem_map.mp hmem
  exact ⟨file, hfile, rfl⟩

/-- A dependency of the index is an import of a file. -/
theorem mem_dependencies_analyzed {dependency : Dependency}
    (h : dependency ∈ (analyzedIndex files repositoryName now).dependencies) :
    ∃ file ∈ files, ∃ name : DottedName, dependency = analyzedDependency file name.text := by
  rw [analyzedIndex, buildFromResults_eq] at h
  obtain ⟨result, hresult, hmem⟩ := List.mem_flatMap.mp h
  obtain ⟨file, hfile, rfl⟩ := List.mem_map.mp hresult
  obtain ⟨target, htarget, rfl⟩ := List.mem_map.mp hmem
  obtain ⟨name, rfl⟩ := documentImports_named _ target htarget
  exact ⟨file, hfile, name, rfl⟩

end

/-! ## The property -/

/-- Every symbol of every file is in the index, with the module and the location of its
    own file. -/
def KeepsEverySymbol (results : List AnalysisResult) (index : RepositoryIndex) : Prop :=
  ∀ result ∈ results, ∀ symbol ∈ result.symbols, symbol ∈ index.symbols

/-- Two indexes of the same facts.  The tuples list them in the order the files came. -/
structure SameFacts (first second : RepositoryIndex) : Prop where
  identity : first.identity = second.identity
  statistics : first.statistics = second.statistics
  modules : first.modules.Perm second.modules
  symbols : first.symbols.Perm second.symbols
  dependencies : first.dependencies.Perm second.dependencies
  semanticRelationships : first.semanticRelationships.Perm second.semanticRelationships

/-- Every order of the results builds an index of the same facts. -/
def OrderIndependent (results : List AnalysisResult) (repositoryName : PyText) (now : DateTime) :
    Prop :=
  ∀ reordered, results.Perm reordered →
    SameFacts (buildFromResults results repositoryName now)
      (buildFromResults reordered repositoryName now)

/-- The names tell apart what the index files under them. -/
structure TellsApart (results : List AnalysisResult) : Prop where
  /-- Two symbols of one qualified name, of one file or of two, are one symbol. -/
  symbols : ∀ s ∈ symbolsOf results, ∀ t ∈ symbolsOf results,
    s.qualifiedName = t.qualifiedName → s = t
  /-- Two files of one module name are one module. -/
  modules : ∀ m ∈ modulesOf results, ∀ n ∈ modulesOf results, m.name = n.name → m = n

/-! ## Fields of the built index -/

section

variable (results : List AnalysisResult) (repositoryName : PyText) (now : DateTime)

theorem symbols_buildFromResults : (buildFromResults results repositoryName now).symbols
    = (Dict.keyed Symbol.qualifiedName (symbolsOf results)).values := by
  rw [buildFromResults_eq]

theorem modules_buildFromResults : (buildFromResults results repositoryName now).modules
    = (Dict.keyed ModuleIdentity.name (modulesOf results)).values := by
  rw [buildFromResults_eq]

theorem keepsEverySymbol_iff :
    KeepsEverySymbol results (buildFromResults results repositoryName now)
      ↔ ∀ symbol ∈ symbolsOf results,
          symbol ∈ (Dict.keyed Symbol.qualifiedName (symbolsOf results)).values := by
  rw [KeepsEverySymbol, symbols_buildFromResults]
  constructor
  · intro h symbol hsymbol
    obtain ⟨result, hresult, hmem⟩ := List.mem_flatMap.mp hsymbol
    exact h result hresult symbol hmem
  · intro h result hresult symbol hmem
    exact h symbol (List.mem_flatMap.mpr ⟨result, hresult, hmem⟩)

/-- A qualified name has one symbol in the index. -/
theorem symbols_buildFromResults_unique {s t : Symbol}
    (hs : s ∈ (buildFromResults results repositoryName now).symbols)
    (ht : t ∈ (buildFromResults results repositoryName now).symbols)
    (h : s.qualifiedName = t.qualifiedName) : s = t := by
  rw [symbols_buildFromResults] at hs ht
  exact Dict.values_keyed_inj hs ht h

end

/-! ## Order -/

theorem countKind_perm {first second : List Symbol} (h : first.Perm second) (kindName : String) :
    countKind first kindName = countKind second kindName := by
  unfold countKind
  cases symbolKindNamed kindName with
  | none => rfl
  | some kind => exact h.countP_eq _

theorem countAttribute_perm {first second : List Symbol} (h : first.Perm second) (name : String) :
    countAttribute first name = countAttribute second name :=
  h.countP_eq _

/-- Where the names tell the facts apart, the order of the results only orders them. -/
theorem TellsApart.orderIndependent {results : List AnalysisResult} (h : TellsApart results)
    (repositoryName : PyText) (now : DateTime) :
    OrderIndependent results repositoryName now := by
  intro reordered hperm
  have hmodules := Dict.values_keyed_perm h.modules (hperm.map AnalysisResult.module_)
  have hsymbols := Dict.values_keyed_perm h.symbols (hperm.flatMap_right AnalysisResult.symbols)
  have hdependencies := hperm.flatMap_right AnalysisResult.dependencies
  rw [buildFromResults_eq, buildFromResults_eq]
  constructor
  · rfl
  · simp only [RepositoryIndexStatistics.mk.injEq]
    exact ⟨hperm.length_eq, hmodules.length_eq, countKind_perm hsymbols _,
      countKind_perm hsymbols _, countAttribute_perm hsymbols _, countAttribute_perm hsymbols _,
      countAttribute_perm hsymbols _, countKind_perm hsymbols _, countKind_perm hsymbols _,
      countKind_perm hsymbols _, hsymbols.length_eq, hdependencies.length_eq⟩
  · exact hmodules
  · exact hsymbols
  · exact hdependencies
  · exact hperm.flatMap_right AnalysisResult.semanticRelationships

/-- A module that some order puts last is in every index, so an order-independent index
    keeps the modules apart. -/
theorem modules_tellApart_of_orderIndependent {results : List AnalysisResult}
    {repositoryName : PyText} {now : DateTime}
    (h : OrderIndependent results repositoryName now) :
    ∀ m ∈ modulesOf results, ∀ n ∈ modulesOf results, m.name = n.name → m = n := by
  refine Dict.keyed_complete_iff.mp fun m hm => ?_
  obtain ⟨result, hresult, rfl⟩ := List.mem_map.mp hm
  obtain ⟨before, after, rfl⟩ := List.append_of_mem hresult
  have hperm : (before ++ result :: after).Perm ((before ++ after) ++ [result]) := by
    rw [List.append_assoc]
    exact List.Perm.append_left before (List.perm_append_singleton result after).symm
  have hsame := (h _ hperm).modules
  rw [modules_buildFromResults, modules_buildFromResults] at hsame
  refine hsame.mem_iff.mpr ?_
  rw [modulesOf, List.map_append, List.map_singleton]
  exact Dict.mem_values_keyed_concat _ _

/-! ## Exactly when nothing is lost -/

/-- **No symbol is lost.**  The index keeps every symbol of every file, in any order of the
    results, if and only if the qualified names tell the symbols apart and the module names
    the modules. -/
theorem loses_no_symbol_iff (results : List AnalysisResult) (repositoryName : PyText)
    (now : DateTime) :
    (KeepsEverySymbol results (buildFromResults results repositoryName now)
        ∧ OrderIndependent results repositoryName now)
      ↔ TellsApart results := by
  rw [keepsEverySymbol_iff, Dict.keyed_complete_iff]
  constructor
  · rintro ⟨hsymbols, horder⟩
    exact ⟨hsymbols, modules_tellApart_of_orderIndependent horder⟩
  · intro h
    exact ⟨h.symbols, h.orderIndependent repositoryName now⟩

/-! ## Two files that define one name -/

/-- The symbol of an assignment to `limit` on the first line. -/
def limitSymbol (module_ path : String) : Symbol where
  identity :=
    { qualifiedName := .ofString "limit", module_ := .ofString module_, kind := .variable_ }
  location :=
    { path := .ofString path
      line := 1
      column := 0
      endLine := 1
      endColumn := 5
      line_pos := Nat.one_pos
      line_le := Nat.one_pos }

theorem limitSymbol_qualifiedName (module_ path : String) :
    (limitSymbol module_ path).qualifiedName = .ofString "limit" := rfl

/-- A file that assigns `limit`. -/
def limitFile (module_ path absolutePath : String) : AnalysisResult where
  identity := { absolutePath := .ofString absolutePath, repositoryPath := .ofString path }
  module_ := { name := .ofString module_, path := .ofString path }
  symbols := [limitSymbol module_ path]

/-- `client.py` and `server.py`. -/
def limitFiles : List AnalysisResult :=
  [limitFile "client" "client.py" "/repo/client.py", limitFile "server" "server.py" "/repo/server.py"]

/-- The index of the two files has lost the symbol of the first. -/
theorem symbol_lost_of_two_files :
    (limitFiles.map AnalysisResult.identity).Nodup
      ∧ ¬ KeepsEverySymbol limitFiles
          (buildFromResults limitFiles (.ofString "repo") ⟨0, some 0⟩) := by
  have hpaths : "client.py" ≠ "server.py" := by decide
  refine ⟨List.nodup_cons.mpr ⟨fun h => ?_, List.nodup_singleton _⟩, fun hkeeps => ?_⟩
  · have hsame := congrArg SourceFileIdentity.repositoryPath (List.mem_singleton.mp h)
    exact hpaths (PyText.ofString_injective hsame)
  · have hclient := hkeeps _ List.mem_cons_self (limitSymbol "client" "client.py")
      (List.mem_singleton.mpr rfl)
    have hserver := hkeeps _ (List.mem_cons_of_mem _ List.mem_cons_self)
      (limitSymbol "server" "server.py") (List.mem_singleton.mpr rfl)
    have hsame : limitSymbol "client" "client.py" = limitSymbol "server" "server.py" :=
      symbols_buildFromResults_unique limitFiles (.ofString "repo") ⟨0, some 0⟩ hclient hserver
        ((limitSymbol_qualifiedName _ _).trans (limitSymbol_qualifiedName _ _).symm)
    have hpath : PyText.ofString "client.py" = PyText.ofString "server.py" :=
      congrArg (fun symbol => symbol.location.path) hsame
    exact hpaths (PyText.ofString_injective hpath)

end Eag.Index
