/-
  Eag.Graph.Models

  Nodes and edges of the knowledge graph, the factories that name them, and the
  validator of a finished graph.

  The identity of a node is its kind, a colon and its qualified name.  Left out: the
  weight of an edge, which is always one, and the times.
-/

import Eag.Foundation.Dict
import Eag.Source.Models

namespace Eag.Graph

open Eag.Foundation Eag.Source
open Eag.Foundation.PyText (ofString lastSegment)

/-! ## Kinds -/

/-- `GraphNodeKind`. -/
inductive GraphNodeKind where
  | module_
  | class_
  | function
  | method
  | file
  | package
  | dependency
  | test
  deriving DecidableEq, Repr

/-- `RelationshipType`. -/
inductive RelationshipType where
  | contains
  | imports
  | dependsOn
  | uses
  | calls
  | inherits
  | implements
  | references
  | publishesEvent
  | subscribesEvent
  deriving DecidableEq, Repr

/-- `GraphState`. -/
inductive GraphState where
  | building
  | ready
  | failed
  deriving DecidableEq, Repr

/-! ## Nodes and edges -/

/-- `GraphNode`. -/
structure GraphNode where
  id : PyText
  kind : GraphNodeKind
  name : PyText
  qualifiedName : PyText
  metadata : List (PyText × PyText) := []
  deriving DecidableEq, Repr

/-- `GraphNode.__post_init__`. -/
def GraphNode.make (id : PyText) (kind : GraphNodeKind) (name qualifiedName : PyText)
    (metadata : List (PyText × PyText)) : Except ValueError GraphNode := do
  let id ← validateNonEmptyStr id "id"
  let name ← validateNonEmptyStr name "name"
  let qualifiedName ← validateNonEmptyStr qualifiedName "qualified_name"
  return { id, kind, name, qualifiedName, metadata }

/-- `GraphEdge`. -/
structure GraphEdge where
  source : PyText
  target : PyText
  relationship : RelationshipType
  deriving DecidableEq, Repr

/-- `GraphEdge.__post_init__`. -/
def GraphEdge.make (source target : PyText) (relationship : RelationshipType) :
    Except ValueError GraphEdge := do
  let source ← validateNonEmptyStr source "source"
  let target ← validateNonEmptyStr target "target"
  return { source, target, relationship }

/-- `(edge.source, edge.target, edge.relationship)`. -/
def GraphEdge.key (edge : GraphEdge) : PyText × PyText × RelationshipType :=
  (edge.source, edge.target, edge.relationship)

theorem GraphEdge.key_injective {a b : GraphEdge} (h : a.key = b.key) : a = b := by
  obtain ⟨h1, h2⟩ := Prod.mk.inj h
  obtain ⟨h2, h3⟩ := Prod.mk.inj h2
  cases a
  cases b
  cases h1
  cases h2
  cases h3
  rfl

/-! ## Factories -/

/-- `f"{kind}:{name}"`. -/
def nodeId (kind : String) (name : PyText) : PyText := ofString kind ++ .scalar ':' :: name

namespace NodeFactory

/-- A node named by the last segment of its qualified name. -/
def named (kindName : String) (kind : GraphNodeKind) (qualifiedName : PyText)
    (metadata : List (PyText × PyText)) : Except ValueError GraphNode :=
  GraphNode.make (nodeId kindName qualifiedName) kind (lastSegment qualifiedName) qualifiedName
    metadata

/-- `NodeFactory.module`. -/
def module_ (name : PyText) : Except ValueError GraphNode := named "module" .module_ name []

/-- `NodeFactory.class_`. -/
def class_ (qualifiedName module_ : PyText) : Except ValueError GraphNode :=
  named "class" .class_ qualifiedName [(ofString "module", module_)]

/-- `NodeFactory.function`. -/
def function (qualifiedName module_ : PyText) : Except ValueError GraphNode :=
  named "function" .function qualifiedName [(ofString "module", module_)]

/-- `NodeFactory.method`. -/
def method (qualifiedName module_ : PyText) : Except ValueError GraphNode :=
  named "method" .method qualifiedName [(ofString "module", module_)]

/-- `NodeFactory.dependency`. -/
def dependency (target : PyText) : Except ValueError GraphNode :=
  named "dependency" .dependency target []

end NodeFactory

namespace EdgeFactory

/-- `EdgeFactory.contains`. -/
def contains (source target : PyText) : Except ValueError GraphEdge :=
  GraphEdge.make source target .contains

/-- `EdgeFactory.imports`. -/
def imports (source target : PyText) : Except ValueError GraphEdge :=
  GraphEdge.make source target .imports

end EdgeFactory

/-! ## The graph -/

/-- `GraphStatistics`. -/
structure GraphStatistics where
  nodes : Nat
  edges : Nat
  relationshipCounts : Dict RelationshipType Nat

/-- `EngineeringGraph`. -/
structure EngineeringGraph where
  repository : PyText
  state : GraphState
  nodes : List GraphNode
  edges : List GraphEdge
  statistics : GraphStatistics

namespace EngineeringGraph

/-- The identities of the nodes. -/
def nodeIds (graph : EngineeringGraph) : List PyText := graph.nodes.map GraphNode.id

/-- Every edge joins two nodes of the graph. -/
def EdgesJoinNodes (graph : EngineeringGraph) : Prop :=
  ∀ edge ∈ graph.edges, edge.source ∈ graph.nodeIds ∧ edge.target ∈ graph.nodeIds

end EngineeringGraph

/-! ## The validator -/

/-- `GraphValidationReport`. -/
structure GraphValidationReport where
  healthy : Bool
  errors : List PyText
  warnings : List PyText := []
  deriving DecidableEq, Repr

namespace GraphValidator

/-- The errors of one edge. -/
def danglingErrors (nodeIds : List PyText) (edge : GraphEdge) : List PyText :=
  (if edge.source ∈ nodeIds then [] else [ofString "Dangling edge source: " ++ edge.source]) ++
    (if edge.target ∈ nodeIds then [] else [ofString "Dangling edge target: " ++ edge.target])

/-- `validate`. -/
def validate (graph : EngineeringGraph) : GraphValidationReport :=
  let nodeIds := graph.nodeIds.dedup
  let errors :=
    (if nodeIds.length ≠ graph.nodes.length then [ofString "Duplicate nodes detected."] else []) ++
      graph.edges.flatMap (danglingErrors nodeIds) ++
      (if graph.statistics.nodes ≠ graph.nodes.length then
        [ofString "Node count mismatch in statistics."] else []) ++
      (if graph.statistics.edges ≠ graph.edges.length then
        [ofString "Edge count mismatch in statistics."] else [])
  { healthy := errors.length = 0, errors := errors }

/-- An error that is reported under a condition. -/
theorem reported_eq_nil {c : Prop} [Decidable c] (error : PyText) :
    (if c then [error] else []) = [] ↔ ¬ c := by
  split <;> simp_all

theorem danglingErrors_eq_nil {nodeIds : List PyText} {edge : GraphEdge} :
    danglingErrors nodeIds edge = [] ↔ edge.source ∈ nodeIds ∧ edge.target ∈ nodeIds := by
  rw [danglingErrors, List.append_eq_nil_iff, ← ite_not, reported_eq_nil, not_not, ← ite_not,
    reported_eq_nil, not_not]

theorem dedup_length_eq_iff {ids : List PyText} : ids.dedup.length = ids.length ↔ ids.Nodup := by
  constructor
  · intro h
    exact List.dedup_eq_self.mp ((List.dedup_sublist ids).eq_of_length h)
  · intro h
    rw [h.dedup]

/-- **A healthy graph.**  Its nodes are distinct, its edges join nodes and its statistics
    count them. -/
theorem validate_healthy_iff (graph : EngineeringGraph) :
    (validate graph).healthy = true
      ↔ graph.nodeIds.Nodup ∧ graph.EdgesJoinNodes ∧
        graph.statistics.nodes = graph.nodes.length ∧
        graph.statistics.edges = graph.edges.length := by
  have hlength : graph.nodeIds.length = graph.nodes.length := List.length_map ..
  have hedges : graph.edges.flatMap (danglingErrors graph.nodeIds.dedup) = []
      ↔ graph.EdgesJoinNodes := by
    rw [List.flatMap_eq_nil_iff]
    refine forall₂_congr fun edge _ => ?_
    rw [danglingErrors_eq_nil, List.mem_dedup, List.mem_dedup]
  simp only [validate, decide_eq_true_eq, List.length_eq_zero_iff, List.append_eq_nil_iff,
    reported_eq_nil, hedges, ne_eq, not_not, and_assoc]
  rw [← hlength, dedup_length_eq_iff]

end GraphValidator

end Eag.Graph
