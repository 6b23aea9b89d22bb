/-
  Eag.Graph.Builder

  The builder of the knowledge graph: it collects the nodes of an index, connects them,
  checks that no edge dangles and returns the graph.

  A node or an edge that is already there is skipped and counted.  Left out: the events,
  the times, and the reports on a builder that is used twice.
-/

import Eag.Graph.Models
import Eag.Index.Builder

namespace Eag.Graph

open Eag.Foundation Eag.Source Eag.Index
open Eag.Foundation.PyText (ofString lastSegment rsplitDot)

/-! ## Errors and state -/

/-- What `GraphBuilder.build` stops with, before it becomes a `GraphBuildError`. -/
inductive BuildFailure where
  /-- The `ValueError` of a node, an edge or the identity. -/
  | invalid (error : ValueError)
  | sourceNotFound (source : PyText)
  | targetNotFound (target : PyText)
  deriving DecidableEq, Repr

/-- The state of a `GraphBuilder`. -/
structure GraphBuilder where
  nodes : Dict PyText GraphNode := Dict.empty
  edges : Dict (PyText × PyText × RelationshipType) GraphEdge := Dict.empty
  duplicates : Nat := 0
  shortNameIndex : Dict PyText (List GraphNode) := Dict.empty

/-- `GraphBuilderReport`. -/
structure GraphBuilderReport where
  nodesCreated : Nat
  edgesCreated : Nat
  duplicatesSkipped : Nat
  deriving DecidableEq, Repr

namespace GraphBuilder

/-! ## Nodes -/

/-- `_index_short_name`: the name of a node is never empty. -/
def indexShortName (shortNames : Dict PyText (List GraphNode)) (node : GraphNode) :
    Dict PyText (List GraphNode) :=
  shortNames.set node.name ((shortNames.get? node.name).getD [] ++ [node])

/-- `_add_node`. -/
def addNode (builder : GraphBuilder) (node : GraphNode) : GraphBuilder :=
  if node.id ∈ builder.nodes.keys then { builder with duplicates := builder.duplicates + 1 }
  else
    { builder with
      nodes := builder.nodes.set node.id node
      shortNameIndex := indexShortName builder.shortNameIndex node }

/-- Add a node that a factory may refuse. -/
def addMadeNode (builder : GraphBuilder) (made : Except ValueError GraphNode) :
    Except ValueError GraphBuilder := do
  let node ← made
  return builder.addNode node

/-- The node of a symbol; a variable has none. -/
def symbolNode (symbol : Symbol) : Option (Except ValueError GraphNode) :=
  match symbol.kind with
  | .class_ => some (NodeFactory.class_ symbol.qualifiedName symbol.identity.module_)
  | .function => some (NodeFactory.function symbol.qualifiedName symbol.identity.module_)
  | .constant => some (NodeFactory.function symbol.qualifiedName symbol.identity.module_)
  | .method => some (NodeFactory.method symbol.qualifiedName symbol.identity.module_)
  | .module_ => none
  | .variable_ => none

/-- `_collect_nodes`: modules, symbols, dependencies. -/
def collectNodes (index : RepositoryIndex) (builder : GraphBuilder) :
    Except ValueError GraphBuilder := do
  let builder ← index.modules.foldlM
    (fun builder module_ => builder.addMadeNode (NodeFactory.module_ module_.name)) builder
  let builder ← (index.symbols.filterMap symbolNode).foldlM addMadeNode builder
  index.dependencies.foldlM
    (fun builder dependency => builder.addMadeNode (NodeFactory.dependency dependency.target)) builder

/-! ## Edges -/

/-- `_add_edge`. -/
def addEdge (builder : GraphBuilder) (edge : GraphEdge) : GraphBuilder :=
  if edge.key ∈ builder.edges.keys then { builder with duplicates := builder.duplicates + 1 }
  else { builder with edges := builder.edges.set edge.key edge }

/-- Add an edge that a factory may refuse. -/
def addMadeEdge (builder : GraphBuilder) (made : Except ValueError GraphEdge) :
    Except ValueError GraphBuilder := do
  let edge ← made
  return builder.addEdge edge

/-- The edge from what contains a symbol; a method whose name has no dot gets none. -/
def symbolEdge (symbol : Symbol) : Option (Except ValueError GraphEdge) :=
  let moduleId := nodeId "module" symbol.identity.module_
  match symbol.kind with
  | .class_ => some (EdgeFactory.contains moduleId (nodeId "class" symbol.qualifiedName))
  | .function => some (EdgeFactory.contains moduleId (nodeId "function" symbol.qualifiedName))
  | .constant => some (EdgeFactory.contains moduleId (nodeId "function" symbol.qualifiedName))
  | .method =>
      (rsplitDot symbol.qualifiedName).map fun parts =>
        EdgeFactory.contains (nodeId "class" parts.1) (nodeId "method" symbol.qualifiedName)
  | .module_ => none
  | .variable_ => none

/-- `_connect_contains`. -/
def connectContains (index : RepositoryIndex) (builder : GraphBuilder) :
    Except ValueError GraphBuilder :=
  (index.symbols.filterMap symbolEdge).foldlM addMadeEdge builder

/-- `_connect_imports`. -/
def connectImports (index : RepositoryIndex) (builder : GraphBuilder) :
    Except ValueError GraphBuilder :=
  index.dependencies.foldlM
    (fun builder dependency => builder.addMadeEdge
      (EdgeFactory.imports (nodeId "module" dependency.source)
        (nodeId "dependency" dependency.target))) builder

/-! ## Semantic relationships -/

/-- The member of `SemanticKind` with this name, where there is one. -/
def semanticKindNamed : String → Option SemanticKind
  | "IMPLEMENTS" => some .implements
  | "OVERRIDES" => some .overrides
  | _ => none

/-- The relationships that become edges, by the name of their kind. -/
def semanticNames : List (String × RelationshipType) :=
  [("CALLS", .calls), ("INHERITS", .inherits), ("USES", .uses),
    ("PUBLISHES_EVENT", .publishesEvent), ("SUBSCRIBES_EVENT", .subscribesEvent)]

/-- `kind_map`: the enumeration has none of the names, so it is empty. -/
def kindMap : List (SemanticKind × RelationshipType) :=
  semanticNames.filterMap fun entry => (semanticKindNamed entry.1).map fun kind => (kind, entry.2)

/-- The first node whose identity is one of these kinds of the name. -/
def nodeNamed (builder : GraphBuilder) (name : PyText) : Option GraphNode :=
  ["class", "function", "method"].findSome? fun kind => builder.nodes.get? (nodeId kind name)

/-- `_resolve_semantic_node`. -/
def resolveSemanticNode (builder : GraphBuilder) (rawName : PyText) : Option GraphNode :=
  let shortName := lastSegment rawName
  builder.nodeNamed rawName
    |>.or (builder.nodeNamed shortName)
    |>.or (builder.shortNameIndex.get? shortName |>.bind List.head?)
    |>.or (builder.nodes.get? rawName)

/-- The target of a relationship: what it resolves to, or a new dependency. -/
def semanticTarget (builder : GraphBuilder) (target : PyText) :
    Except ValueError (GraphNode × GraphBuilder) :=
  match builder.resolveSemanticNode target with
  | some targetNode => .ok (targetNode, builder)
  | none => do
      let targetNode ← NodeFactory.dependency target
      return (targetNode, builder.addNode targetNode)

/-- One relationship of `_connect_semantic`. -/
def connectRelationship (builder : GraphBuilder) (relationship : SemanticRelationship) :
    Except ValueError GraphBuilder :=
  match builder.resolveSemanticNode relationship.source with
  | none => .ok builder
  | some sourceNode => do
      let (targetNode, builder) ← builder.semanticTarget relationship.target
      match kindMap.lookup relationship.kind with
      | none => return builder
      | some edgeType => builder.addMadeEdge (GraphEdge.make sourceNode.id targetNode.id edgeType)

/-- `_connect_semantic`. -/
def connectSemantic (index : RepositoryIndex) (builder : GraphBuilder) :
    Except ValueError GraphBuilder :=
  index.semanticRelationships.foldlM connectRelationship builder

/-! ## The build -/

/-- `_validate`: the first end that is no node. -/
def validateEdges (nodeIds : List PyText) : List GraphEdge → Except BuildFailure Unit
  | [] => .ok ()
  | edge :: rest =>
      if edge.source ∉ nodeIds then .error (.sourceNotFound edge.source)
      else if edge.target ∉ nodeIds then .error (.targetNotFound edge.target)
      else validateEdges nodeIds rest

/-- `_compute_statistics`. -/
def computeStatistics (builder : GraphBuilder) : GraphStatistics where
  nodes := builder.nodes.values.length
  edges := builder.edges.values.length
  relationshipCounts := builder.edges.values.foldl
    (fun counts edge =>
      counts.set edge.relationship ((counts.get? edge.relationship).getD 0 + 1)) Dict.empty

/-- A `ValueError` of a step. -/
def invalidate {α : Type} : Except ValueError α → Except BuildFailure α
  | .ok value => .ok value
  | .error error => .error (.invalid error)

/-- `build` on a builder with this index. -/
def build (index : RepositoryIndex) :
    Except BuildFailure (EngineeringGraph × GraphBuilderReport) := do
  let builder ← invalidate (collectNodes index {})
  let builder ← invalidate (connectContains index builder)
  let builder ← invalidate (connectImports index builder)
  let builder ← invalidate (connectSemantic index builder)
  validateEdges builder.nodes.keys builder.edges.values
  let repository ← invalidate (validateNonEmptyStr index.identity.repository "repository")
  return (
    { repository := repository
      state := .ready
      nodes := builder.nodes.values
      edges := builder.edges.values
      statistics := builder.computeStatistics },
    { nodesCreated := builder.nodes.values.length
      edgesCreated := builder.edges.values.length
      duplicatesSkipped := builder.duplicates })

end GraphBuilder

end Eag.Graph
