/-
  Eag.Graph.Buildable

  When the knowledge graph can be built.

  A finished graph is always sound: the builder checks that before it returns.  The check
  fails where the owner of a method is no class node: the provider calls every function
  below a class a method, a later symbol of the same name takes the place of a class in the
  index, and the builder takes what stands before the last dot for the class.
-/

import Eag.Graph.Builder

namespace Eag.Graph

open Eag.Foundation Eag.Source Eag.Index
open Eag.Foundation.PyText (ofString dotted lastSegment rsplitDot dot Spaceless)

namespace GraphBuilder

/-! ## A coherent builder -/

/-- Nodes and edges are filed under their own identities. -/
structure Coherent (builder : GraphBuilder) : Prop where
  nodes : ∀ item ∈ builder.nodes.items, item.1 = item.2.id
  edges : ∀ item ∈ builder.edges.items, item.1 = item.2.key

theorem coherent_initial : Coherent {} :=
  ⟨List.forall_mem_nil _, List.forall_mem_nil _⟩

theorem Coherent.addNode {builder : GraphBuilder} (h : builder.Coherent) (node : GraphNode) :
    (builder.addNode node).Coherent := by
  unfold GraphBuilder.addNode
  split
  · exact ⟨h.nodes, h.edges⟩
  · refine ⟨fun item hitem => ?_, h.edges⟩
    rcases Dict.mem_set.mp hitem with rfl | ⟨hitem, -⟩
    · rfl
    · exact h.nodes item hitem

theorem Coherent.addEdge {builder : GraphBuilder} (h : builder.Coherent) (edge : GraphEdge) :
    (builder.addEdge edge).Coherent := by
  unfold GraphBuilder.addEdge
  split
  · exact ⟨h.nodes, h.edges⟩
  · refine ⟨h.nodes, fun item hitem => ?_⟩
    rcases Dict.mem_set.mp hitem with rfl | ⟨hitem, -⟩
    · rfl
    · exact h.edges item hitem

theorem Coherent.keys_nodes {builder : GraphBuilder} (h : builder.Coherent) :
    builder.nodes.values.map (fun node => node.id) = builder.nodes.keys := by
  rw [Dict.values, Dict.keys, List.map_map]
  exact List.map_congr_left fun item hitem => (h.nodes item hitem).symm

/-! ## Runs of `_add_node` and `_add_edge` -/

/-- A run over what factories made goes through exactly where every factory did. -/
theorem foldlM_addMadeNode {made : List (Except ValueError GraphNode)}
    {builder builder' : GraphBuilder} :
    made.foldlM addMadeNode builder = .ok builder'
      ↔ ∃ nodes : List GraphNode, made = nodes.map .ok ∧ builder' = nodes.foldl addNode builder :=
  @foldlM_made _ _ _ addNode addMadeNode (fun _ _ => rfl) (fun _ _ => rfl) _ _ _

theorem foldlM_addMadeEdge {made : List (Except ValueError GraphEdge)}
    {builder builder' : GraphBuilder} :
    made.foldlM addMadeEdge builder = .ok builder'
      ↔ ∃ edges : List GraphEdge, made = edges.map .ok ∧ builder' = edges.foldl addEdge builder :=
  @foldlM_made _ _ _ addEdge addMadeEdge (fun _ _ => rfl) (fun _ _ => rfl) _ _ _

/-- What a run of `_add_node` makes of a builder. -/
theorem foldl_addNode (builder : GraphBuilder) (nodes : List GraphNode) (h : builder.Coherent) :
    (nodes.foldl addNode builder).Coherent
      ∧ (nodes.foldl addNode builder).edges = builder.edges
      ∧ ∀ id, id ∈ (nodes.foldl addNode builder).nodes.keys
          ↔ id ∈ builder.nodes.keys ∨ id ∈ nodes.map GraphNode.id := by
  induction nodes generalizing builder with
  | nil => exact ⟨h, rfl, fun id => by simp⟩
  | cons node rest ih =>
      obtain ⟨hcoherent, hedges, hkeys⟩ := ih (builder.addNode node) (h.addNode node)
      have hedge : (builder.addNode node).edges = builder.edges := by
        unfold addNode
        split <;> rfl
      have hkey : ∀ id, id ∈ (builder.addNode node).nodes.keys
          ↔ id ∈ builder.nodes.keys ∨ id = node.id := by
        intro id
        unfold addNode
        split
        · rename_i hmem
          constructor
          · exact .inl
          · rintro (hid | rfl)
            · exact hid
            · exact hmem
        · exact Dict.mem_keys_set
      refine ⟨hcoherent, hedges.trans hedge, fun id => ?_⟩
      rw [List.foldl_cons, hkeys, hkey, List.map_cons, List.mem_cons, or_assoc]

/-- An edge that is skipped is there already: its key says everything about it. -/
theorem mem_values_addEdge {builder : GraphBuilder} (h : builder.Coherent)
    {first edge : GraphEdge} :
    edge ∈ (builder.addEdge first).edges.values ↔ edge ∈ builder.edges.values ∨ edge = first := by
  unfold addEdge
  split
  · rename_i hmem
    obtain ⟨there, hthere⟩ := Dict.mem_keys.mp hmem
    have hsame : first = there := GraphEdge.key_injective (h.edges _ hthere)
    constructor
    · exact .inl
    · rintro (hedge | rfl)
      · exact hedge
      · exact Dict.mem_values.mpr ⟨edge.key, hsame ▸ hthere⟩
  · rename_i hnew
    simp only [Dict.mem_values, Dict.mem_set]
    constructor
    · rintro ⟨key, heq | ⟨hitem, -⟩⟩
      · exact .inr (Prod.mk.inj heq).2
      · exact .inl ⟨key, hitem⟩
    · rintro (⟨key, hitem⟩ | rfl)
      · exact ⟨key, .inr ⟨hitem, fun heq => hnew (Dict.mem_keys.mpr ⟨edge, heq ▸ hitem⟩)⟩⟩
      · exact ⟨edge.key, .inl rfl⟩

/-- What a run of `_add_edge` makes of a builder. -/
theorem foldl_addEdge (builder : GraphBuilder) (edges : List GraphEdge) (h : builder.Coherent) :
    (edges.foldl addEdge builder).Coherent
      ∧ (edges.foldl addEdge builder).nodes = builder.nodes
      ∧ ∀ edge, edge ∈ (edges.foldl addEdge builder).edges.values
          ↔ edge ∈ builder.edges.values ∨ edge ∈ edges := by
  induction edges generalizing builder with
  | nil => exact ⟨h, rfl, fun edge => by simp⟩
  | cons first rest ih =>
      obtain ⟨hcoherent, hnodes, hvalues⟩ := ih (builder.addEdge first) (h.addEdge first)
      have hnode : (builder.addEdge first).nodes = builder.nodes := by
        unfold addEdge
        split <;> rfl
      refine ⟨hcoherent, hnodes.trans hnode, fun edge => ?_⟩
      rw [List.foldl_cons, hvalues, mem_values_addEdge h, List.mem_cons, or_assoc]

/-! ## A finished graph is sound -/

theorem validateEdges_eq_ok {nodeIds : List PyText} {edges : List GraphEdge} :
    validateEdges nodeIds edges = .ok ()
      ↔ ∀ edge ∈ edges, edge.source ∈ nodeIds ∧ edge.target ∈ nodeIds := by
  induction edges with
  | nil => exact iff_of_true rfl (List.forall_mem_nil _)
  | cons edge rest ih =>
      rw [validateEdges, List.forall_mem_cons]
      by_cases hsource : edge.source ∈ nodeIds
      · rw [if_neg (not_not.mpr hsource)]
        by_cases htarget : edge.target ∈ nodeIds
        · rw [if_neg (not_not.mpr htarget), ih]
          exact (and_iff_right ⟨hsource, htarget⟩).symm
        · rw [if_pos htarget]
          exact iff_of_false (fun h => nomatch h) fun h => htarget h.1.2
      · rw [if_pos hsource]
        exact iff_of_false (fun h => nomatch h) fun h => hsource h.1.1

theorem invalidate_eq_ok {α : Type} {x : Except ValueError α} {a : α} :
    invalidate x = .ok a ↔ x = .ok a := by
  cases x with
  | error e => exact iff_of_false (fun h => nomatch h) fun h => nomatch h
  | ok b =>
      constructor
      · exact fun h => congrArg Except.ok (Except.ok.inj h)
      · exact fun h => congrArg Except.ok (Except.ok.inj h)

/-- The nodes the factories make of an index. -/
def madeNodes (index : RepositoryIndex) : List (Except ValueError GraphNode) :=
  index.modules.map (fun module_ => NodeFactory.module_ module_.name) ++
    index.symbols.filterMap symbolNode ++
    index.dependencies.map fun dependency => NodeFactory.dependency dependency.target

/-- The edges the factories make of an index. -/
def madeEdges (index : RepositoryIndex) : List (Except ValueError GraphEdge) :=
  index.symbols.filterMap symbolEdge ++
    index.dependencies.map fun dependency =>
      EdgeFactory.imports (nodeId "module" dependency.source) (nodeId "dependency" dependency.target)

theorem collectNodes_eq (index : RepositoryIndex) (builder : GraphBuilder) :
    collectNodes index builder = (madeNodes index).foldlM addMadeNode builder := by
  rw [madeNodes, List.foldlM_append, List.foldlM_append, List.foldlM_map]
  simp only [List.foldlM_map, bind_assoc]
  rfl

theorem connect_eq (index : RepositoryIndex) (builder : GraphBuilder) :
    (connectContains index builder >>= connectImports index)
      = (madeEdges index).foldlM addMadeEdge builder := by
  rw [madeEdges, List.foldlM_append]
  simp only [List.foldlM_map]
  rfl

theorem Coherent.connectRelationship {builder builder' : GraphBuilder} (h : builder.Coherent)
    {relationship : SemanticRelationship}
    (hrun : builder.connectRelationship relationship = .ok builder') : builder'.Coherent := by
  unfold GraphBuilder.connectRelationship at hrun
  cases hsource : builder.resolveSemanticNode relationship.source with
  | none =>
      rw [hsource] at hrun
      rw [← Except.ok.inj hrun]
      exact h
  | some sourceNode =>
      rw [hsource] at hrun
      obtain ⟨⟨targetNode, middle⟩, htarget, hrun⟩ := (except_bind_eq_ok _ _ _).mp hrun
      have hmiddle : middle.Coherent := by
        unfold semanticTarget at htarget
        split at htarget
        · rw [← (Prod.mk.inj (Except.ok.inj htarget)).2]
          exact h
        · obtain ⟨node, -, hnode⟩ := (except_bind_eq_ok _ _ _).mp htarget
          rw [← (Prod.mk.inj (Except.ok.inj hnode)).2]
          exact h.addNode node
      dsimp only at hrun
      split at hrun
      · rw [← Except.ok.inj hrun]
        exact hmiddle
      · obtain ⟨edge, -, hedge⟩ := (except_bind_eq_ok _ _ _).mp hrun
        rw [← Except.ok.inj hedge]
        exact hmiddle.addEdge edge

theorem Coherent.connectSemantic {builder builder' : GraphBuilder} (h : builder.Coherent)
    {index : RepositoryIndex} (hrun : connectSemantic index builder = .ok builder') :
    builder'.Coherent := by
  unfold GraphBuilder.connectSemantic at hrun
  generalize index.semanticRelationships = relationships at hrun
  induction relationships generalizing builder with
  | nil =>
      rw [← Except.ok.inj hrun]
      exact h
  | cons relationship rest ih =>
      rw [List.foldlM_cons] at hrun
      obtain ⟨next, hnext, hrun⟩ := (except_bind_eq_ok _ _ _).mp hrun
      exact ih (h.connectRelationship hnext) hrun

/-- What a successful build went through. -/
theorem build_eq_ok {index : RepositoryIndex} {graph : EngineeringGraph}
    {report : GraphBuilderReport} (h : build index = .ok (graph, report)) :
    ∃ collected connected final : GraphBuilder,
      (madeNodes index).foldlM addMadeNode {} = .ok collected
        ∧ (madeEdges index).foldlM addMadeEdge collected = .ok connected
        ∧ connectSemantic index connected = .ok final
        ∧ validateEdges final.nodes.keys final.edges.values = .ok ()
        ∧ index.identity.repository.NonBlank
        ∧ graph = { repository := index.identity.repository.strip
                    state := .ready
                    nodes := final.nodes.values
                    edges := final.edges.values
                    statistics := final.computeStatistics } := by
  unfold build at h
  obtain ⟨collected, hcollected, h⟩ := (except_bind_eq_ok _ _ _).mp h
  obtain ⟨contained, hcontained, h⟩ := (except_bind_eq_ok _ _ _).mp h
  obtain ⟨connected, hconnected, h⟩ := (except_bind_eq_ok _ _ _).mp h
  obtain ⟨final, hfinal, h⟩ := (except_bind_eq_ok _ _ _).mp h
  obtain ⟨_, hvalid, h⟩ := (except_bind_eq_ok _ _ _).mp h
  obtain ⟨repository, hrepository, h⟩ := (except_bind_eq_ok _ _ _).mp h
  obtain ⟨hnonBlank, rfl⟩ := validateNonEmptyStr_eq_ok.mp (invalidate_eq_ok.mp hrepository)
  refine ⟨collected, connected, final, ?_, ?_, invalidate_eq_ok.mp hfinal, hvalid, hnonBlank,
    (Prod.mk.inj (Except.ok.inj h)).1.symm⟩
  · rw [← collectNodes_eq]
    exact invalidate_eq_ok.mp hcollected
  · rw [← connect_eq, invalidate_eq_ok.mp hcontained]
    exact invalidate_eq_ok.mp hconnected

/-- **A finished graph is sound.**  Whatever the index, every edge of a graph that is returned
    joins two of its nodes and the validator finds nothing. -/
theorem build_sound {index : RepositoryIndex} {graph : EngineeringGraph}
    {report : GraphBuilderReport} (h : build index = .ok (graph, report)) :
    graph.EdgesJoinNodes ∧ (GraphValidator.validate graph).healthy = true := by
  obtain ⟨collected, connected, final, hcollected, hconnected, hfinal, hvalid, -, rfl⟩ :=
    build_eq_ok h
  obtain ⟨nodes, -, rfl⟩ := foldlM_addMadeNode.mp hcollected
  obtain ⟨edges, -, rfl⟩ := foldlM_addMadeEdge.mp hconnected
  have hcoherent := (foldl_addEdge _ edges
    (foldl_addNode _ nodes coherent_initial).1).1.connectSemantic hfinal
  have hjoin : EngineeringGraph.EdgesJoinNodes
      { repository := index.identity.repository.strip
        state := .ready
        nodes := final.nodes.values
        edges := final.edges.values
        statistics := final.computeStatistics } := by
    intro edge hedge
    rw [EngineeringGraph.nodeIds, hcoherent.keys_nodes]
    exact validateEdges_eq_ok.mp hvalid edge hedge
  refine ⟨hjoin, (GraphValidator.validate_healthy_iff _).mpr ⟨?_, hjoin, rfl, rfl⟩⟩
  rw [EngineeringGraph.nodeIds, hcoherent.keys_nodes]
  exact final.nodes.keys_nodup

/-! ## When a build succeeds -/

/-- The identity is one of a node of the index. -/
def HasNode (index : RepositoryIndex) (id : PyText) : Prop :=
  ∃ node, .ok node ∈ madeNodes index ∧ node.id = id

/-- The edges of the builder at the end join its nodes exactly where the made edges join made
    nodes. -/
theorem validateEdges_final {index : RepositoryIndex} {nodes : List GraphNode}
    {edges : List GraphEdge} (hnodes : madeNodes index = nodes.map .ok)
    (hedges : madeEdges index = edges.map .ok) :
    validateEdges (edges.foldl addEdge (nodes.foldl addNode {})).nodes.keys
        (edges.foldl addEdge (nodes.foldl addNode {})).edges.values = .ok ()
      ↔ ∀ edge, .ok edge ∈ madeEdges index →
          HasNode index edge.source ∧ HasNode index edge.target := by
  obtain ⟨hcoherent, hnoEdges, hkeys⟩ := foldl_addNode {} nodes coherent_initial
  obtain ⟨-, hsameNodes, hvalues⟩ := foldl_addEdge _ edges hcoherent
  have hkey : ∀ id, id ∈ (edges.foldl addEdge (nodes.foldl addNode {})).nodes.keys
      ↔ HasNode index id := by
    intro id
    rw [hsameNodes, hkeys, HasNode, hnodes, List.mem_map]
    simp only [mem_map_ok]
    exact or_iff_right fun h => nomatch h
  have hvalue : ∀ edge, edge ∈ (edges.foldl addEdge (nodes.foldl addNode {})).edges.values
      ↔ .ok edge ∈ madeEdges index := by
    intro edge
    rw [hvalues, hnoEdges, hedges, mem_map_ok]
    exact or_iff_right fun h => nomatch h
  rw [validateEdges_eq_ok]
  simp only [hkey, hvalue]

/-- **A build without semantic relationships** succeeds exactly where every node can be made,
    every edge joins nodes of the index and the repository has a name. -/
theorem build_succeeds_iff {index : RepositoryIndex} (hnone : index.semanticRelationships = [])
    (hedges : ∀ made ∈ madeEdges index, ∃ edge, made = .ok edge) :
    (∃ graph report, build index = .ok (graph, report))
      ↔ (∀ made ∈ madeNodes index, ∃ node, made = .ok node)
        ∧ (∀ edge, .ok edge ∈ madeEdges index → HasNode index edge.source ∧ HasNode index edge.target)
        ∧ index.identity.repository.NonBlank := by
  obtain ⟨edges, hmadeEdges⟩ := exists_eq_map_ok.mpr hedges
  have hsemantic : ∀ builder, connectSemantic index builder = .ok builder := by
    intro builder
    rw [connectSemantic, hnone]
    rfl
  constructor
  · rintro ⟨graph, report, h⟩
    obtain ⟨collected, connected, final, hcollected, hconnected, hrun, hvalid, hname, -⟩ :=
      build_eq_ok h
    obtain ⟨nodes, hnodes, rfl⟩ := foldlM_addMadeNode.mp hcollected
    obtain ⟨edges', hedges', rfl⟩ := foldlM_addMadeEdge.mp hconnected
    have hsame : edges' = edges :=
      List.map_injective_iff.mpr (fun _ _ => Except.ok.inj) (hedges'.symm.trans hmadeEdges)
    have hend : edges.foldl addEdge (nodes.foldl addNode {}) = final := by
      rw [hsemantic, hsame] at hrun
      exact Except.ok.inj hrun
    refine ⟨exists_eq_map_ok.mp ⟨nodes, hnodes⟩, (validateEdges_final hnodes hmadeEdges).mp ?_, hname⟩
    rw [hend]
    exact hvalid
  · rintro ⟨hmade, hjoin, hname⟩
    obtain ⟨nodes, hnodes⟩ := exists_eq_map_ok.mpr hmade
    have hcollected : collectNodes index {} = .ok (nodes.foldl addNode {}) := by
      rw [collectNodes_eq]
      exact foldlM_addMadeNode.mpr ⟨nodes, hnodes, rfl⟩
    have hconnected : (connectContains index (nodes.foldl addNode {}) >>= connectImports index)
        = .ok (edges.foldl addEdge (nodes.foldl addNode {})) := by
      rw [connect_eq]
      exact foldlM_addMadeEdge.mpr ⟨edges, hmadeEdges, rfl⟩
    obtain ⟨contained, hcontained, himports⟩ := (except_bind_eq_ok _ _ _).mp hconnected
    have hvalid := (validateEdges_final hnodes hmadeEdges).mpr hjoin
    cases hrun : build index with
    | ok built => exact ⟨built.1, built.2, rfl⟩
    | error e =>
        unfold build at hrun
        rw [hcollected, invalidate, except_ok_bind, hcontained, invalidate, except_ok_bind,
          himports, invalidate, except_ok_bind, hsemantic, invalidate, except_ok_bind, hvalid,
          except_ok_bind, validateNonEmptyStr_ok hname] at hrun
        exact nomatch hrun

end GraphBuilder

end Eag.Graph
