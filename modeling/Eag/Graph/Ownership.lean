/-
  Eag.Graph.Ownership

  The knowledge graph of analysed Python files.

  The names of the nodes and the edges to modules and dependencies always fit together.
  What can fail is the edge from a class to a method: it needs the scope the method stands
  in to be, in the index, a class (`MethodsOwned`).
-/

import Eag.Graph.Buildable

namespace Eag.Graph

open Eag.Foundation Eag.Source Eag.Index
open Eag.Foundation.PyText (ofString dotted lastSegment rsplitDot Spaceless strip rstrip)
open GraphBuilder

/-! ## Identities of nodes -/

/-- A text a node identity starts with. -/
structure KindWord (kindName : String) : Prop where
  nonempty : ofString kindName ≠ []
  spaceless : (ofString kindName).Spaceless

theorem kindWord_module : KindWord "module" := ⟨by decide, by decide⟩

theorem kindWord_class : KindWord "class" := ⟨by decide, by decide⟩

theorem kindWord_function : KindWord "function" := ⟨by decide, by decide⟩

theorem kindWord_method : KindWord "method" := ⟨by decide, by decide⟩

theorem kindWord_dependency : KindWord "dependency" := ⟨by decide, by decide⟩

section

variable {kindName : String} (h : KindWord kindName)

include h

theorem nodeId_nonBlank (name : PyText) : (nodeId kindName name).NonBlank :=
  PyText.nonBlank_append h.nonempty h.spaceless _

/-- Stripping an identity strips the end of the name. -/
theorem strip_nodeId (name : PyText) :
    (nodeId kindName name).strip = nodeId kindName (rstrip name) := by
  have hstart : (ofString kindName ++ [CodePoint.scalar ':']).Spaceless :=
    h.spaceless.append (by decide)
  have hsplit : ∀ name, nodeId kindName name = (ofString kindName ++ [CodePoint.scalar ':']) ++ name := by
    intro name
    rw [nodeId, List.append_assoc, List.singleton_append]
  rw [hsplit, PyText.strip_append (List.append_ne_nil_of_left_ne_nil h.nonempty _) hstart, hsplit]

theorem strip_nodeId_of_spaceless {name : PyText} (hname : name.Spaceless) :
    (nodeId kindName name).strip = nodeId kindName name := by
  rw [strip_nodeId h, PyText.rstrip_of_spaceless hname]

/-- A factory makes a node exactly where the last segment of the name is not blank. -/
theorem named_eq_ok {kind : GraphNodeKind} {name : PyText} {metadata : List (PyText × PyText)}
    {node : GraphNode} (hmade : NodeFactory.named kindName kind name metadata = .ok node) :
    (lastSegment name).NonBlank ∧ node.id = (nodeId kindName name).strip := by
  unfold NodeFactory.named GraphNode.make at hmade
  rw [validateNonEmptyStr_ok (nodeId_nonBlank h name)] at hmade
  obtain ⟨id, hid, hmade⟩ := (except_bind_eq_ok _ _ _).mp hmade
  obtain ⟨short, hshort, hmade⟩ := (except_bind_eq_ok _ _ _).mp hmade
  obtain ⟨full, -, hmade⟩ := (except_bind_eq_ok _ _ _).mp hmade
  rw [← Except.ok.inj hmade]
  exact ⟨(validateNonEmptyStr_eq_ok.mp hshort).1, (Except.ok.inj hid).symm⟩

theorem named_of_nonBlank {kind : GraphNodeKind} {name : PyText}
    {metadata : List (PyText × PyText)} (hname : (lastSegment name).NonBlank) :
    ∃ node, NodeFactory.named kindName kind name metadata = .ok node
      ∧ node.id = (nodeId kindName name).strip := by
  refine ⟨⟨(nodeId kindName name).strip, kind, (lastSegment name).strip, name.strip, metadata⟩,
    ?_, rfl⟩
  rw [NodeFactory.named, GraphNode.make, validateNonEmptyStr_ok (nodeId_nonBlank h name),
    validateNonEmptyStr_ok hname, validateNonEmptyStr_ok (PyText.nonBlank_of_lastSegment hname)]
  rfl

theorem edge_made {otherKind : String} (hother : KindWord otherKind) (a b : PyText)
    (relationship : RelationshipType) :
    GraphEdge.make (nodeId kindName a) (nodeId otherKind b) relationship
      = .ok ⟨(nodeId kindName a).strip, (nodeId otherKind b).strip, relationship⟩ := by
  rw [GraphEdge.make, validateNonEmptyStr_ok (nodeId_nonBlank h a),
    validateNonEmptyStr_ok (nodeId_nonBlank hother b)]
  rfl

end

theorem nodeId_injective {kindName : String} {a b : PyText}
    (h : nodeId kindName a = nodeId kindName b) : a = b :=
  (List.cons.inj (List.append_cancel_left h)).2

/-- The identity of a class starts with its own letter. -/
theorem nodeId_class_ne {a b : PyText} :
    nodeId "class" a ≠ nodeId "module" b ∧ nodeId "class" a ≠ nodeId "function" b
      ∧ nodeId "class" a ≠ nodeId "method" b ∧ nodeId "class" a ≠ nodeId "dependency" b := by
  have hclass : (nodeId "class" a).head? = some (.scalar 'c') := rfl
  refine ⟨fun h => ?_, fun h => ?_, fun h => ?_, fun h => ?_⟩ <;>
    rw [h] at hclass <;> exact absurd hclass (by show some _ ≠ some _; decide)

/-! ## The index of analysed files -/

/-- The owner of a method that is the last of its name is a class that is the last of its
    name. -/
def MethodsOwned (symbols : List EngineeringSymbol) : Prop :=
  ∀ found, Dict.LastBy EngineeringSymbol.qualifiedName symbols found → found.kind = .method →
    ∃ owner, Dict.LastBy EngineeringSymbol.qualifiedName symbols owner
      ∧ owner.kind = .class_ ∧ found.parent = some owner.qualifiedName

/-- What the graph of these files needs. -/
structure Buildable (repositoryName : PyText) (files : List SourceFile) : Prop where
  repository : repositoryName.NonBlank
  /-- No file name ends, before its suffix, in a dot. -/
  modules : ∀ file ∈ files, (lastSegment file.moduleName.strip).NonBlank
  methods : MethodsOwned (fileSymbols files)

section

variable {files : List SourceFile} {repositoryName : PyText} {now : DateTime}

theorem analyzedIndex_semanticRelationships :
    (analyzedIndex files repositoryName now).semanticRelationships = [] := by
  rw [analyzedIndex, buildFromResults_eq]
  refine List.flatMap_eq_nil_iff.mpr fun result hresult => ?_
  obtain ⟨file, -, rfl⟩ := List.mem_map.mp hresult
  rfl

theorem analyzedIndex_repository :
    (analyzedIndex files repositoryName now).identity.repository = repositoryName := by
  rw [analyzedIndex, buildFromResults_eq]

/-- The kind word of the node of a symbol; a variable has none. -/
def nodeKind : SymbolKind → Option String
  | .class_ => some "class"
  | .function => some "function"
  | .constant => some "function"
  | .method => some "method"
  | .module_ => none
  | .variable_ => none

theorem kindWord_of_nodeKind {kind : SymbolKind} {kindName : String}
    (h : nodeKind kind = some kindName) : KindWord kindName := by
  cases kind <;> cases h
  · exact kindWord_class
  · exact kindWord_function
  · exact kindWord_method
  · exact kindWord_function

theorem symbolNode_eq_some {symbol : Symbol} {made : Except ValueError GraphNode}
    (h : symbolNode symbol = some made) :
    ∃ kindName kind metadata, nodeKind symbol.kind = some kindName
      ∧ made = NodeFactory.named kindName kind symbol.qualifiedName metadata := by
  unfold symbolNode at h
  cases hkind : symbol.kind <;> rw [hkind] at h <;> cases h
  · exact ⟨_, _, _, rfl, rfl⟩
  · exact ⟨_, _, _, rfl, rfl⟩
  · exact ⟨_, _, _, rfl, rfl⟩
  · exact ⟨_, _, _, rfl, rfl⟩

theorem symbolNode_of_nodeKind {symbol : Symbol} {kindName : String}
    (h : nodeKind symbol.kind = some kindName) :
    ∃ kind metadata,
      symbolNode symbol = some (NodeFactory.named kindName kind symbol.qualifiedName metadata) := by
  unfold symbolNode
  cases hkind : symbol.kind <;> rw [hkind] at h <;> cases h
  · exact ⟨_, _, rfl⟩
  · exact ⟨_, _, rfl⟩
  · exact ⟨_, _, rfl⟩
  · exact ⟨_, _, rfl⟩

/-- A node of an index is that of a module, a symbol or a dependency. -/
theorem mem_madeNodes {index : RepositoryIndex} {made : Except ValueError GraphNode} :
    made ∈ madeNodes index
      ↔ (∃ module_ ∈ index.modules, made = NodeFactory.module_ module_.name)
        ∨ (∃ symbol ∈ index.symbols, symbolNode symbol = some made)
        ∨ ∃ dependency ∈ index.dependencies, made = NodeFactory.dependency dependency.target := by
  simp only [madeNodes, List.mem_append, List.mem_map, List.mem_filterMap, or_assoc, eq_comm]

theorem hasNode_module {module_ : ModuleIdentity} {index : RepositoryIndex}
    (hmem : module_ ∈ index.modules) (h : (lastSegment module_.name).NonBlank) :
    HasNode index (nodeId "module" module_.name).strip := by
  obtain ⟨node, hnode, hid⟩ := named_of_nonBlank kindWord_module h
  exact ⟨node, mem_madeNodes.mpr (.inl ⟨module_, hmem, hnode.symm⟩), hid⟩

theorem hasNode_dependency {dependency : Dependency} {index : RepositoryIndex}
    (hmem : dependency ∈ index.dependencies) (h : (lastSegment dependency.target).NonBlank) :
    HasNode index (nodeId "dependency" dependency.target).strip := by
  obtain ⟨node, hnode, hid⟩ := named_of_nonBlank kindWord_dependency h
  exact ⟨node, mem_madeNodes.mpr (.inr (.inr ⟨dependency, hmem, hnode.symm⟩)), hid⟩

theorem hasNode_symbol {symbol : Symbol} {index : RepositoryIndex} {kindName : String}
    (hmem : symbol ∈ index.symbols) (hkind : nodeKind symbol.kind = some kindName)
    (h : (lastSegment symbol.qualifiedName).NonBlank) :
    HasNode index (nodeId kindName symbol.qualifiedName).strip := by
  obtain ⟨kind, metadata, hmade⟩ := symbolNode_of_nodeKind hkind
  obtain ⟨node, hnode, hid⟩ := named_of_nonBlank (kindWord_of_nodeKind hkind) h
  exact ⟨node, mem_madeNodes.mpr (.inr (.inl ⟨symbol, hmem, hmade.trans (congrArg some hnode)⟩)),
    hid⟩

/-- The node of an analysed symbol. -/
theorem hasNode_analyzed {file : SourceFile} {path : List PyText} {found : EngineeringSymbol}
    (hfound : NamedIn path found) {index : RepositoryIndex} {kindName : String}
    (hmem : analyzedSymbol file found ∈ index.symbols) (hkind : nodeKind found.kind = some kindName) :
    HasNode index (nodeId kindName found.qualifiedName).strip :=
  @hasNode_symbol (analyzedSymbol file found) index kindName hmem hkind hfound.lastSegment_nonBlank

/-- A class node comes from a class. -/
theorem class_of_hasNode {index : RepositoryIndex} {name : PyText}
    (h : HasNode index (nodeId "class" name)) :
    ∃ symbol ∈ index.symbols, symbol.kind = .class_
      ∧ (nodeId "class" symbol.qualifiedName).strip = nodeId "class" name := by
  obtain ⟨node, hmade, hid⟩ := h
  rcases mem_madeNodes.mp hmade with ⟨module_, -, hnode⟩ | ⟨symbol, hmem, hnode⟩ | ⟨dependency, -, hnode⟩
  · have hsame := (named_eq_ok kindWord_module hnode.symm).2
    rw [hid, strip_nodeId kindWord_module] at hsame
    exact absurd hsame nodeId_class_ne.1
  · obtain ⟨kindName, kind, metadata, hkind, hnamed⟩ := symbolNode_eq_some hnode
    have hword := kindWord_of_nodeKind hkind
    have hsame := (named_eq_ok hword hnamed.symm).2
    rw [hid, strip_nodeId hword] at hsame
    cases hsymbol : symbol.kind <;> rw [hsymbol] at hkind <;> cases hkind
    · exact ⟨symbol, hmem, hsymbol, (strip_nodeId hword _).trans hsame.symm⟩
    · exact absurd hsame nodeId_class_ne.2.1
    · exact absurd hsame nodeId_class_ne.2.2.1
    · exact absurd hsame nodeId_class_ne.2.1
  · have hsame := (named_eq_ok kindWord_dependency hnode.symm).2
    rw [hid, strip_nodeId kindWord_dependency] at hsame
    exact absurd hsame nodeId_class_ne.2.2.2

/-! ## Edges of the analysed files -/

/-- The edge to a symbol goes through its factory. -/
theorem symbolEdge_eq_some {symbol : Symbol} {made : Except ValueError GraphEdge}
    (h : symbolEdge symbol = some made) :
    (∃ kindName, nodeKind symbol.kind = some kindName ∧ symbol.kind ≠ .method
        ∧ made = .ok ⟨(nodeId "module" symbol.identity.module_).strip,
            (nodeId kindName symbol.qualifiedName).strip, .contains⟩)
      ∨ (symbol.kind = .method ∧ ∃ parts, rsplitDot symbol.qualifiedName = some parts
        ∧ made = .ok ⟨(nodeId "class" parts.1).strip,
            (nodeId "method" symbol.qualifiedName).strip, .contains⟩) := by
  unfold symbolEdge at h
  cases hkind : symbol.kind <;> rw [hkind] at h
  case method =>
    obtain ⟨parts, hparts, hmade⟩ := Option.map_eq_some_iff.mp h
    exact .inr ⟨rfl, parts, hparts, hmade.symm.trans (edge_made kindWord_class kindWord_method _ _ _)⟩
  case module_ => exact nomatch h
  case variable_ => exact nomatch h
  case class_ =>
    exact .inl ⟨_, rfl, SymbolKind.noConfusion,
      (Option.some.inj h).symm.trans (edge_made kindWord_module kindWord_class _ _ _)⟩
  case function =>
    exact .inl ⟨_, rfl, SymbolKind.noConfusion,
      (Option.some.inj h).symm.trans (edge_made kindWord_module kindWord_function _ _ _)⟩
  case constant =>
    exact .inl ⟨_, rfl, SymbolKind.noConfusion,
      (Option.some.inj h).symm.trans (edge_made kindWord_module kindWord_function _ _ _)⟩

/-- Every edge can be made. -/
theorem madeEdges_ok (index : RepositoryIndex) :
    ∀ made ∈ madeEdges index, ∃ edge, made = .ok edge := by
  intro made hmade
  rcases List.mem_append.mp hmade with hmade | hmade
  · obtain ⟨symbol, -, hsymbol⟩ := List.mem_filterMap.mp hmade
    rcases symbolEdge_eq_some hsymbol with ⟨_, -, -, rfl⟩ | ⟨-, _, -, rfl⟩
    · exact ⟨_, rfl⟩
    · exact ⟨_, rfl⟩
  · obtain ⟨dependency, -, rfl⟩ := List.mem_map.mp hmade
    exact ⟨_, edge_made kindWord_module kindWord_dependency _ _ _⟩

/-- The owner the builder reads off the name of a method is its parent. -/
theorem rsplitDot_method {path : List PyText} {found : EngineeringSymbol} (h : NamedIn path found)
    (hmethod : found.kind = .method) :
    rsplitDot found.qualifiedName = some (dotted path, found.name) := by
  rw [h.qualifiedName]
  exact PyText.rsplitDot_dotted (h.parent hmethod).1 h.name.dotless

theorem spaceless_path {path : List PyText} {found : EngineeringSymbol} (h : NamedIn path found) :
    (dotted path).Spaceless :=
  PyText.spaceless_dotted fun s hs => (h.segments s hs).spaceless

/-- The class of a method is a node of the index exactly where the parent of the method is a
    class that is the last of its name. -/
theorem hasNode_owner_iff {path : List PyText} {found : EngineeringSymbol} (h : NamedIn path found)
    (hmethod : found.kind = .method) :
    HasNode (analyzedIndex files repositoryName now) (nodeId "class" (dotted path)).strip
      ↔ ∃ owner, Dict.LastBy EngineeringSymbol.qualifiedName (fileSymbols files) owner
        ∧ owner.kind = .class_ ∧ found.parent = some owner.qualifiedName := by
  rw [strip_nodeId_of_spaceless kindWord_class (spaceless_path h), (h.parent hmethod).2]
  constructor
  · intro hnode
    obtain ⟨symbol, hmem, hkind, hid⟩ := class_of_hasNode hnode
    obtain ⟨file, -, owner, hlast, ⟨_, howner⟩, rfl⟩ :=
      symbols_analyzed_last files repositoryName now hmem
    have hname : owner.qualifiedName = dotted path := by
      have hid' : (nodeId "class" owner.qualifiedName).strip = nodeId "class" (dotted path) := hid
      rw [strip_nodeId_of_spaceless kindWord_class howner.spaceless] at hid'
      exact nodeId_injective hid'
    exact ⟨owner, hlast, hkind, congrArg some hname.symm⟩
  · rintro ⟨owner, hlast, hkind, hname⟩
    obtain ⟨file, -, hmem⟩ := last_symbols_analyzed files repositoryName now hlast
    obtain ⟨_, howner⟩ := fileSymbols_named files owner hlast.mem
    have hnode : HasNode (analyzedIndex files repositoryName now)
        (nodeId "class" owner.qualifiedName).strip :=
      hasNode_analyzed howner hmem (congrArg nodeKind hkind)
    rw [← Option.some.inj hname, strip_nodeId_of_spaceless kindWord_class (spaceless_path h)]
      at hnode
    exact hnode

/-- Every node of the analysed files can be made exactly where no module name ends in a dot. -/
theorem madeNodes_ok_iff :
    (∀ made ∈ madeNodes (analyzedIndex files repositoryName now), ∃ node, made = .ok node)
      ↔ ∀ file ∈ files, (lastSegment file.moduleName.strip).NonBlank := by
  constructor
  · intro h file hfile
    obtain ⟨module_, hmem, hname⟩ := modules_analyzed files repositoryName now hfile
    obtain ⟨node, hnode⟩ := h _ (mem_madeNodes.mpr (.inl ⟨module_, hmem, rfl⟩))
    rw [← hname]
    exact (named_eq_ok kindWord_module hnode).1
  · intro h made hmade
    rcases mem_madeNodes.mp hmade with ⟨module_, hmem, rfl⟩ | ⟨symbol, hmem, hsymbol⟩ |
      ⟨dependency, hmem, rfl⟩
    · obtain ⟨file, hfile, hname⟩ := mem_modules_analyzed files repositoryName now hmem
      obtain ⟨node, hnode, -⟩ := @named_of_nonBlank _ kindWord_module .module_ _ []
        (hname ▸ h file hfile)
      exact ⟨node, hnode⟩
    · obtain ⟨file, -, found, -, ⟨_, hfound⟩, rfl⟩ :=
        symbols_analyzed_last files repositoryName now hmem
      obtain ⟨kindName, kind, metadata, hkind, rfl⟩ := symbolNode_eq_some hsymbol
      obtain ⟨node, hnode, -⟩ := @named_of_nonBlank _ (kindWord_of_nodeKind hkind) kind _ metadata
        hfound.lastSegment_nonBlank
      exact ⟨node, hnode⟩
    · obtain ⟨file, -, name, rfl⟩ := mem_dependencies_analyzed files repositoryName now hmem
      obtain ⟨node, hnode, -⟩ := @named_of_nonBlank _ kindWord_dependency .dependency _ []
        name.lastSegment_nonBlank
      exact ⟨node, hnode⟩

/-- Where no module name ends in a dot, the module of every analysed file is a node. -/
theorem hasNode_fileModule (h : ∀ file ∈ files, (lastSegment file.moduleName.strip).NonBlank)
    {file : SourceFile} (hfile : file ∈ files) :
    HasNode (analyzedIndex files repositoryName now)
      (nodeId "module" file.moduleName.strip).strip := by
  obtain ⟨module_, hmem, hname⟩ := modules_analyzed files repositoryName now hfile
  rw [← hname]
  exact hasNode_module hmem (hname ▸ h file hfile)

/-- Where no module name ends in a dot, the edges join nodes exactly where the methods have
    their classes. -/
theorem madeEdges_join_iff (h : ∀ file ∈ files, (lastSegment file.moduleName.strip).NonBlank) :
    (∀ edge, .ok edge ∈ madeEdges (analyzedIndex files repositoryName now) →
        HasNode (analyzedIndex files repositoryName now) edge.source
          ∧ HasNode (analyzedIndex files repositoryName now) edge.target)
      ↔ MethodsOwned (fileSymbols files) := by
  constructor
  · intro hjoin found hlast hmethod
    obtain ⟨file, -, hmem⟩ := last_symbols_analyzed files repositoryName now hlast
    obtain ⟨path, hfound⟩ := fileSymbols_named files found hlast.mem
    have hsplit : rsplitDot (analyzedSymbol file found).qualifiedName = _ :=
      rsplitDot_method hfound hmethod
    have hedge : .ok ⟨(nodeId "class" (dotted path)).strip,
        (nodeId "method" found.qualifiedName).strip, .contains⟩
          ∈ madeEdges (analyzedIndex files repositoryName now) := by
      refine List.mem_append_left _ (List.mem_filterMap.mpr ⟨_, hmem, ?_⟩)
      have hkind : (analyzedSymbol file found).kind = .method := hmethod
      unfold symbolEdge
      rw [hkind, hsplit]
      exact congrArg some (edge_made kindWord_class kindWord_method _ _ _)
    exact (hasNode_owner_iff hfound hmethod).mp (hjoin _ hedge).1
  · intro howned edge hedge
    rcases List.mem_append.mp hedge with hedge | hedge
    · obtain ⟨symbol, hmem, hsymbol⟩ := List.mem_filterMap.mp hedge
      obtain ⟨file, hfile, found, hlast, ⟨path, hfound⟩, rfl⟩ :=
        symbols_analyzed_last files repositoryName now hmem
      rcases symbolEdge_eq_some hsymbol with ⟨kindName, hkind, -, hmade⟩ | ⟨hmethod, parts, hparts, hmade⟩
      · rw [Except.ok.inj hmade]
        exact ⟨hasNode_fileModule h hfile, hasNode_analyzed hfound hmem hkind⟩
      · rw [Except.ok.inj hmade]
        have hpath : parts = (dotted path, found.name) :=
          Option.some.inj (hparts.symm.trans (rsplitDot_method hfound hmethod))
        refine ⟨?_, hasNode_analyzed hfound hmem (congrArg nodeKind hmethod)⟩
        rw [hpath]
        exact (hasNode_owner_iff hfound hmethod).mpr (howned found hlast hmethod)
    · obtain ⟨dependency, hmem, hmade⟩ := List.mem_map.mp hedge
      obtain ⟨file, hfile, name, rfl⟩ := mem_dependencies_analyzed files repositoryName now hmem
      rw [Except.ok.inj (hmade.symm.trans (edge_made kindWord_module kindWord_dependency _ _ _))]
      exact ⟨hasNode_fileModule h hfile, hasNode_dependency hmem name.lastSegment_nonBlank⟩

end

/-! ## When the graph of a repository can be built -/

/-- **The knowledge graph of a repository.**  For the index of any Python files the build
    succeeds, with edges that join nodes and a healthy report, if and only if the repository has
    a name, no module name ends in a dot and every method has its class. -/
theorem graph_builds_iff {repositoryName : PyText} {sourceFiles : List SourceFile}
    {now : DateTime} {index : RepositoryIndex}
    (h : IndexRuntime.build repositoryName sourceFiles now = .ok index) :
    (∃ graph report, GraphBuilder.build index = .ok (graph, report)
        ∧ graph.EdgesJoinNodes ∧ (GraphValidator.validate graph).healthy = true)
      ↔ Buildable repositoryName (IndexRuntime.indexedFiles sourceFiles) := by
  obtain ⟨-, hindex⟩ := Index.build_eq_ok.mp h
  have hsound : (∃ graph report, GraphBuilder.build index = .ok (graph, report)
        ∧ graph.EdgesJoinNodes ∧ (GraphValidator.validate graph).healthy = true)
      ↔ ∃ graph report, GraphBuilder.build index = .ok (graph, report) := by
    constructor
    · rintro ⟨graph, report, hbuild, -⟩
      exact ⟨graph, report, hbuild⟩
    · rintro ⟨graph, report, hbuild⟩
      exact ⟨graph, report, hbuild, build_sound hbuild⟩
  rw [hsound, hindex, build_succeeds_iff analyzedIndex_semanticRelationships (madeEdges_ok _),
    madeNodes_ok_iff, analyzedIndex_repository]
  constructor
  · rintro ⟨hmodules, hjoin, hname⟩
    exact ⟨hname, hmodules, (madeEdges_join_iff hmodules).mp hjoin⟩
  · rintro ⟨hname, hmodules, howned⟩
    exact ⟨hmodules, (madeEdges_join_iff hmodules).mpr howned, hname⟩

/-! ## A class with a method, and a function in it -/

/-- The identifiers of the two files. -/
def identifierShape : Identifier := ⟨ofString "Shape", by decide, by decide, by decide⟩

@[inherit_doc identifierShape]
def identifierArea : Identifier := ⟨ofString "area", by decide, by decide, by decide⟩

@[inherit_doc identifierShape]
def identifierHelper : Identifier := ⟨ofString "helper", by decide, by decide, by decide⟩

/-- `shape.py` with the methods of its class `Shape`. -/
def shapeFile (content : String) (members : List Node) : SourceFile where
  absolutePath := ofString "/repo/shape.py"
  directories := []
  stem := ofString "shape"
  content := ofString content
  tree := .other [.classDef ⟨1, 0, 4, 12⟩ identifierShape members]

/-- A method that returns. -/
def methodFile : SourceFile :=
  shapeFile "class Shape:\n    def area():\n        return 0\n"
    [.functionDef ⟨2, 4, 3, 16⟩ identifierArea {} [.other []]]

/-- A method with a function of its own. -/
def nestedFile : SourceFile :=
  shapeFile "class Shape:\n    def area():\n        def helper():\n            return 0\n"
    [.functionDef ⟨2, 4, 4, 20⟩ identifierArea {}
      [.functionDef ⟨3, 8, 4, 20⟩ identifierHelper {} [.other []]]]

/-- The graph of a class with a method can be built. -/
theorem graph_builds_method :
    ∃ graph report, GraphBuilder.build (analyzedIndex [methodFile] (ofString "repo") ⟨0, some 0⟩)
        = .ok (graph, report)
      ∧ graph.EdgesJoinNodes ∧ (GraphValidator.validate graph).healthy = true := by
  have hsymbols : ∃ owner method, fileSymbols [methodFile] = [owner, method]
      ∧ owner.kind = .class_ ∧ method.parent = some owner.qualifiedName
      ∧ method.qualifiedName ≠ owner.qualifiedName :=
    ⟨_, _, rfl, rfl, rfl, by decide⟩
  refine (@graph_builds_iff (ofString "repo") [methodFile] ⟨0, some 0⟩ _
    (Index.build_eq_ok.mpr ⟨by decide, rfl⟩)).mpr ⟨by decide, by decide, ?_⟩
  have hfiles : IndexRuntime.indexedFiles [methodFile] = [methodFile] := rfl
  obtain ⟨owner, method, hlist, hclass, hparent, hne⟩ := hsymbols
  rw [hfiles, hlist]
  intro found hlast hmethod
  rcases List.mem_cons.mp hlast.mem with rfl | hmem
  · exact nomatch hclass.symm.trans hmethod
  · rw [List.mem_singleton.mp hmem]
    exact ⟨owner, ⟨[], [method], rfl, fun later hlater => List.mem_singleton.mp hlater ▸ hne⟩,
      hclass, hparent⟩

/-- The function in a method counts as a method of the method, which is no class. -/
theorem graph_fails_nested :
    ∃ index, IndexRuntime.build (ofString "repo") [nestedFile] ⟨0, some 0⟩ = .ok index
      ∧ GraphBuilder.build index = .error (.sourceNotFound (ofString "class:Shape.area")) :=
  ⟨analyzedIndex [nestedFile] (ofString "repo") ⟨0, some 0⟩, Index.build_eq_ok.mpr ⟨by decide, rfl⟩, rfl⟩

end Eag.Graph
