/-
  Eag.Graph.Traversal

  The traversal engine (`algorithms/traversal.py`): the adjacency of a graph in each direction,
  and the breadth-first search over the edges of some relationship types.

  `make_ok_iff`: an engine is built exactly for a graph whose edges join nodes. `mem_bfs`: the
  search returns what can be reached over edges of the types.
-/

import Eag.Foundation.QueueSearch
import Eag.Foundation.Ranking
import Eag.Graph.Models

namespace Eag.Graph

open Eag.Foundation
open Relation (ReflTransGen)

/-! ## Directions -/

/-- The direction of a traversal. -/
inductive Direction where
  | outward
  | inward
  deriving DecidableEq, Repr

/-- The node that an edge leaves in a direction. -/
def Direction.near : Direction → GraphEdge → PyText
  | .outward, edge => edge.source
  | .inward, edge => edge.target

/-- The node that an edge leads to in a direction. -/
def Direction.far : Direction → GraphEdge → PyText
  | .outward, edge => edge.target
  | .inward, edge => edge.source

/-! ## The engine -/

/-- `TraversalEngine`. -/
structure TraversalEngine where
  graph : EngineeringGraph
  nodeMap : Dict PyText GraphNode
  outgoing : Dict PyText (List PyText)
  incoming : Dict PyText (List PyText)

/-- `{n.id: n for n in graph.nodes}`. -/
def nodeMapOf (graph : EngineeringGraph) : Dict PyText GraphNode :=
  Dict.keyed GraphNode.id graph.nodes

namespace TraversalEngine

/-- An edge is filed under its near node; the assignment fails where that is no node. -/
def fileEdge (direction : Direction) (adj : Dict PyText (List PyText)) (edge : GraphEdge) :
    Except String (Dict PyText (List PyText)) :=
  match adj.get? (direction.near edge) with
  | none => .error "KeyError"
  | some neighbours =>
      .ok (adj.set (direction.near edge) (neighbours ++ [direction.far edge]))

/-- `_build_adjacency`. -/
def buildAdjacency (graph : EngineeringGraph) (direction : Direction) :
    Except String (Dict PyText (List PyText)) :=
  graph.edges.foldlM (fileEdge direction)
    (graph.nodes.foldl (fun adj node => adj.set node.id []) Dict.empty)

/-- `__init__`. -/
def make (graph : EngineeringGraph) : Except String TraversalEngine := do
  let outgoing ← buildAdjacency graph .outward
  let incoming ← buildAdjacency graph .inward
  return ⟨graph, nodeMapOf graph, outgoing, incoming⟩

/-- `_outgoing` or `_incoming`. -/
def adjacency (engine : TraversalEngine) : Direction → Dict PyText (List PyText)
  | .outward => engine.outgoing
  | .inward => engine.incoming

/-- An edge of one of the types joins the node to the neighbour; without types every edge
    does. -/
def joins (engine : TraversalEngine) (direction : Direction)
    (types : List RelationshipType) (node neighbour : PyText) : Bool :=
  types = [] || engine.graph.edges.any fun edge =>
    direction.near edge = node && direction.far edge = neighbour && types.contains edge.relationship

/-- `_bfs`: a neighbour that no edge of the types joins is passed over. -/
def bfs (engine : TraversalEngine) (start : PyText) (direction : Direction)
    (types : List RelationshipType) : List PyText :=
  let around := fun node =>
    (((engine.adjacency direction).get? node).getD []).filter
      (engine.joins direction types node)
  queueSearch around (engine.graph.edges.length + 1) [start] [start]

end TraversalEngine

/-! ## The adjacency -/

namespace TraversalEngine

variable {graph : EngineeringGraph} {direction : Direction}

theorem get?_emptyAdjacency (nodes : List GraphNode) (id : PyText) :
    (nodes.foldl (fun adj node => adj.set node.id []) (Dict.empty : Dict PyText (List PyText))).get?
        id = if id ∈ nodes.map GraphNode.id then some [] else none := by
  induction nodes using List.reverseRecOn with
  | nil => rfl
  | append_singleton nodes node ih =>
      rw [List.foldl_append, List.foldl_cons, List.foldl_nil, Dict.get?_set, ih, List.map_append,
        List.map_singleton]
      simp only [List.mem_append, List.mem_singleton]
      by_cases hid : id = node.id
      · rw [if_pos hid, if_pos (.inr hid)]
      · simp only [hid, or_false, if_false]

/-- Filing an edge succeeds under a node, and adds a neighbour to that node. -/
theorem fileEdge_eq_ok {adj adj' : Dict PyText (List PyText)} {edge : GraphEdge} :
    fileEdge direction adj edge = .ok adj' ↔
      ∃ neighbours, adj.get? (direction.near edge) = some neighbours ∧
        adj' = adj.set (direction.near edge) (neighbours ++ [direction.far edge]) := by
  unfold fileEdge
  split
  · next hnone =>
      rw [hnone]
      exact iff_of_false (fun h => by cases h) (by rintro ⟨_, h, -⟩; cases h)
  · next neighbours hsome =>
      rw [hsome, Except.ok.injEq]
      constructor
      · rintro rfl
        exact ⟨neighbours, rfl, rfl⟩
      · rintro ⟨_, heq, rfl⟩
        rw [Option.some.inj heq]

/-- What is filed under each node. -/
structure Filed (direction : Direction) (ids : List PyText) (edges : List GraphEdge)
    (adj : Dict PyText (List PyText)) : Prop where
  joined : ∀ edge ∈ edges, direction.near edge ∈ ids
  get?_eq : ∀ id, adj.get? id = if id ∈ ids then
    some ((edges.filter fun edge => direction.near edge = id).map direction.far) else none

theorem buildAdjacency_filed {adj : Dict PyText (List PyText)}
    (h : buildAdjacency graph direction = .ok adj) :
    Filed direction graph.nodeIds graph.edges adj := by
  unfold buildAdjacency at h
  generalize graph.edges = edges at h
  induction edges using List.reverseRecOn generalizing adj with
  | nil =>
      cases h
      exact ⟨nofun, get?_emptyAdjacency graph.nodes⟩
  | append_singleton edges edge ih =>
      rw [List.foldlM_append, except_bind_eq_ok] at h
      obtain ⟨before, hbefore, hlast⟩ := h
      rw [List.foldlM_cons, except_bind_eq_ok] at hlast
      obtain ⟨after, hfile, hdone⟩ := hlast
      cases hdone
      have hfiled := ih hbefore
      obtain ⟨neighbours, hget, rfl⟩ := fileEdge_eq_ok.mp hfile
      rw [hfiled.get?_eq] at hget
      split at hget
      · next hnear =>
          cases hget
          refine ⟨?_, fun id => ?_⟩
          · intro other hother
            rcases List.mem_append.mp hother with hother | hother
            · exact hfiled.joined other hother
            · rw [List.mem_singleton.mp hother]
              exact hnear
          · rw [Dict.get?_set, hfiled.get?_eq, List.filter_append, List.map_append]
            by_cases hid : id = direction.near edge
            · rw [if_pos hid, hid, if_pos hnear]
              simp
            · rw [if_neg hid]
              simp [Ne.symm hid]
      · cases hget

theorem buildAdjacency_ok (h : ∀ edge ∈ graph.edges, direction.near edge ∈ graph.nodeIds) :
    ∃ adj, buildAdjacency graph direction = .ok adj := by
  have hloop : ∀ (edges : List GraphEdge) (adj : Dict PyText (List PyText)),
      (∀ edge ∈ edges, direction.near edge ∈ graph.nodeIds) →
      (∀ id ∈ graph.nodeIds, ∃ neighbours, adj.get? id = some neighbours) →
      ∃ adj', edges.foldlM (fileEdge direction) adj = .ok adj' := by
    intro edges
    induction edges with
    | nil => exact fun adj _ _ => ⟨adj, rfl⟩
    | cons edge rest ih =>
        intro adj hnear hadj
        obtain ⟨hfirst, hrest⟩ := List.forall_mem_cons.mp hnear
        obtain ⟨neighbours, hget⟩ := hadj _ hfirst
        have hfile := fileEdge_eq_ok.mpr ⟨neighbours, hget, rfl⟩
        rw [List.foldlM_cons, hfile]
        refine ih _ hrest fun id hid => ?_
        rw [Dict.get?_set]
        split
        · exact ⟨_, rfl⟩
        · exact hadj id hid
  refine hloop _ _ h fun id hid => ⟨[], ?_⟩
  rw [get?_emptyAdjacency]
  exact if_pos hid

/-- **An engine is built** exactly for a graph whose edges join nodes. -/
theorem make_ok_iff : (∃ engine, make graph = .ok engine) ↔ graph.EdgesJoinNodes := by
  constructor
  · rintro ⟨engine, h⟩
    simp only [make, except_bind_eq_ok, except_pure_eq_ok] at h
    obtain ⟨outgoing, hout, incoming, hin, -⟩ := h
    exact fun edge hedge => ⟨(buildAdjacency_filed hout).joined edge hedge,
      (buildAdjacency_filed hin).joined edge hedge⟩
  · intro hjoin
    obtain ⟨outgoing, hout⟩ := @buildAdjacency_ok graph .outward fun edge hedge =>
      (hjoin edge hedge).1
    obtain ⟨incoming, hin⟩ := @buildAdjacency_ok graph .inward fun edge hedge =>
      (hjoin edge hedge).2
    exact ⟨⟨graph, nodeMapOf graph, outgoing, incoming⟩, by rw [make, hout, hin]; rfl⟩

variable (direction) in
/-- What the parts of an engine are. -/
theorem make_eq_ok {engine : TraversalEngine} (h : make graph = .ok engine) :
    engine.graph = graph ∧ engine.nodeMap = nodeMapOf graph ∧
      Filed direction graph.nodeIds graph.edges (engine.adjacency direction) := by
  simp only [make, except_bind_eq_ok, except_pure_eq_ok] at h
  obtain ⟨outgoing, hout, incoming, hin, rfl⟩ := h
  refine ⟨rfl, rfl, ?_⟩
  cases direction with
  | outward => exact buildAdjacency_filed hout
  | inward => exact buildAdjacency_filed hin

/-! ## The search -/

/-- An edge of one of the types leads from a node to another. -/
def Leads (graph : EngineeringGraph) (direction : Direction) (types : List RelationshipType)
    (node neighbour : PyText) : Prop :=
  ∃ edge ∈ graph.edges, direction.near edge = node ∧ direction.far edge = neighbour ∧
    edge.relationship ∈ types

variable (direction) in
/-- The neighbours that are not passed over are those that an edge of the types leads to. -/
theorem mem_neighbours {engine : TraversalEngine} (h : make graph = .ok engine)
    {types : List RelationshipType} (htypes : types ≠ []) (node neighbour : PyText) :
    neighbour ∈ (((engine.adjacency direction).get? node).getD []).filter
        (engine.joins direction types node) ↔ Leads graph direction types node neighbour := by
  obtain ⟨hgraph, -, hfiled⟩ := make_eq_ok direction h
  have hjoins : engine.joins direction types node neighbour ↔
      Leads graph direction types node neighbour := by
    simp only [joins, htypes, decide_false, Bool.false_or, List.any_eq_true, Bool.and_eq_true,
      decide_eq_true_eq, List.contains_iff_mem, hgraph, Leads, and_assoc]
  rw [List.mem_filter, hjoins, and_iff_right_iff_imp]
  rintro ⟨edge, hedge, rfl, rfl, -⟩
  rw [hfiled.get?_eq, if_pos (hfiled.joined edge hedge), Option.getD_some]
  exact List.mem_map_of_mem (List.mem_filter.mpr ⟨hedge, decide_eq_true rfl⟩)

/-- **The search** returns what can be reached over edges of the types. -/
theorem mem_bfs {engine : TraversalEngine} (h : make graph = .ok engine) (start id : PyText)
    {types : List RelationshipType} (htypes : types ≠ []) :
    id ∈ engine.bfs start direction types ↔
      ReflTransGen (Leads graph direction types) start id := by
  have hgraph := (make_eq_ok direction h).1
  have hadjacent := funext₂ fun node neighbour =>
    propext (mem_neighbours direction h htypes node neighbour)
  unfold bfs
  rw [← hadjacent]
  -- Besides the start only nodes that an edge leads to come up.
  refine mem_queueSearch (start :: graph.edges.map direction.far) List.mem_cons_self
    (fun node neighbour hneighbour => ?_) (found_start _ start) (Nat.le_refl _) ?_ id
  · obtain ⟨edge, hedge, -, rfl, -⟩ := (mem_neighbours direction h htypes node neighbour).mp hneighbour
    exact List.mem_cons_of_mem _ (List.mem_map_of_mem hedge)
  · rw [List.length_cons, List.length_map, hgraph]
    exact Nat.le_add_right _ _

end TraversalEngine

end Eag.Graph
