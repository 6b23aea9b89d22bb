/-
  Eag.ExecutionGraphs.Construction

  The constructors of execution graphs and artifact graphs (`execution_graph/graph.py`),
  beside the one of task graphs. An execution graph is not checked for two edges between
  one ordered pair of nodes, and an artifact graph for nothing but its identities and the
  ends of its edges (`admitsDags_iff`).
-/

import Eag.ExecutionGraphs.Runtime
import Eag.TaskGraphs.Construction

namespace Eag.ExecutionGraphs

open Eag.Foundation Eag.TaskGraphs

/-! ## Execution graphs -/

section

variable (nodes : List ExecutionNode) (edges : List ExecutionEdge)

/-- The identities of the nodes. -/
def executionIds : List String := nodes.map ExecutionNode.id

/-- The ends of the edges. -/
def executionEnds : List (String × String) := edges.map ExecutionEdge.ends

/-- The checks of the ends of an edge, with the words of the graph. -/
def checkEnds (kind : String) (ids : List String) (edge : String × String) :
    Except GraphError Unit := do
  require (edge.1 ∈ ids) (.missingNode (kind ++ " source '" ++ edge.1 ++ "' not found"))
  require (edge.2 ∈ ids) (.missingNode (kind ++ " target '" ++ edge.2 ++ "' not found"))

/-- `ExecutionGraph(nodes, edges)`. -/
def newExecutionGraph : Except GraphError Unit := do
  require (executionIds nodes).Nodup (.duplicateNode "Duplicate node IDs detected")
  (executionEnds edges).forM (checkEnds "Edge" (executionIds nodes))
  checkCycles (executionIds nodes) (executionEnds edges) "Cycle detected in execution graph"

variable {nodes edges}

theorem checkEnds_eq_ok {kind : String} {ids : List String} {edge : String × String} :
    checkEnds kind ids edge = .ok () ↔ edge.1 ∈ ids ∧ edge.2 ∈ ids := by
  unfold checkEnds
  simp only [except_bind_eq_ok, require_eq_ok, exists_const]

theorem newExecutionGraph_eq_ok : newExecutionGraph nodes edges = .ok () ↔
    (executionIds nodes).Nodup ∧
      (∀ edge ∈ executionEnds edges,
        edge.1 ∈ executionIds nodes ∧ edge.2 ∈ executionIds nodes) ∧
      Acyclic (executionEnds edges) := by
  unfold newExecutionGraph
  simp only [except_bind_eq_ok, require_eq_ok, forM_eq_ok, checkEnds_eq_ok, exists_const]
  constructor
  · rintro ⟨hnodup, hends, hcycles⟩
    exact ⟨hnodup, hends, (checkCycles_eq_ok hends).mp hcycles⟩
  · rintro ⟨hnodup, hends, hacyclic⟩
    exact ⟨hnodup, hends, (checkCycles_eq_ok hends).mpr hacyclic⟩

/-- What the constructor takes becomes well formed when repeated pairs are listed once. -/
theorem executionChecked_iff_dedup : newExecutionGraph nodes edges = .ok () ↔
    WellFormed (executionIds nodes) (executionEnds edges).dedup := by
  have hprecedes : Precedes (executionEnds edges).dedup = Precedes (executionEnds edges) := by
    funext p k
    exact propext List.mem_dedup
  have hacyclic : Acyclic (executionEnds edges).dedup ↔ Acyclic (executionEnds edges) := by
    unfold Acyclic
    rw [hprecedes]
  have hloop : ∀ edge ∈ executionEnds edges, edge.1 ≠ edge.2 := by
    intro ends hends
    obtain ⟨edge, -, rfl⟩ := List.mem_map.mp hends
    exact edge.source_ne_target
  rw [newExecutionGraph_eq_ok]
  constructor
  · rintro ⟨hnodup, hends, hcycles⟩
    exact ⟨hnodup, fun edge hmem => hends edge (List.mem_dedup.mp hmem),
      fun edge hmem => hloop edge (List.mem_dedup.mp hmem), List.nodup_dedup _,
      hacyclic.mpr hcycles⟩
  · intro h
    exact ⟨h.ids_nodup, fun edge hmem => h.ends_mem edge (List.mem_dedup.mpr hmem),
      hacyclic.mp h.acyclic⟩

/-- **Execution graphs**: the constructor takes exactly the well-formed graphs unless two
    edges join one ordered pair in a graph that is well formed without the repetition. -/
theorem executionGraph_admitsDags_iff :
    AdmitsDags (newExecutionGraph nodes edges = .ok ()) (executionIds nodes)
        (executionEnds edges) ↔
      (WellFormed (executionIds nodes) (executionEnds edges).dedup →
        (executionEnds edges).Nodup) := by
  unfold AdmitsDags
  rw [executionChecked_iff_dedup]
  constructor
  · intro h hformed
    exact (h.mp hformed).edges_nodup
  · intro h
    constructor
    · intro hformed
      rwa [← (h hformed).dedup]
    · intro hformed
      rwa [hformed.edges_nodup.dedup]

end

/-! ## Artifact graphs -/

/-- An artifact, as far as the graph reads it. -/
structure ArtifactNode where
  id : String

/-- A dependency between two artifacts. -/
structure ArtifactEdge where
  source : String
  target : String

section

variable (nodes : List ArtifactNode) (edges : List ArtifactEdge)

/-- The identities of the artifacts. -/
def artifactIds : List String := nodes.map ArtifactNode.id

/-- The ends of the edges. -/
def artifactEnds : List (String × String) := edges.map fun edge => (edge.source, edge.target)

/-- `ArtifactGraph(nodes, edges)`. -/
def newArtifactGraph : Except GraphError Unit := do
  require (artifactIds nodes).Nodup (.duplicateNode "Duplicate artifact IDs detected")
  (artifactEnds edges).forM (checkEnds "Artifact edge" (artifactIds nodes))

variable {nodes edges}

theorem newArtifactGraph_eq_ok : newArtifactGraph nodes edges = .ok () ↔
    (artifactIds nodes).Nodup ∧ ∀ edge ∈ artifactEnds edges,
      edge.1 ∈ artifactIds nodes ∧ edge.2 ∈ artifactIds nodes := by
  unfold newArtifactGraph
  simp only [except_bind_eq_ok, require_eq_ok, forM_eq_ok, checkEnds_eq_ok, exists_const]

/-- **Artifact graphs**: where the identities and the ends are right, it is left to the
    edges whether what the constructor takes is well formed. -/
theorem artifactGraph_admitsDags_iff :
    AdmitsDags (newArtifactGraph nodes edges = .ok ()) (artifactIds nodes)
        (artifactEnds edges) ↔
      ((artifactIds nodes).Nodup →
        (∀ edge ∈ artifactEnds edges,
          edge.1 ∈ artifactIds nodes ∧ edge.2 ∈ artifactIds nodes) →
        (∀ edge ∈ artifactEnds edges, edge.1 ≠ edge.2) ∧ (artifactEnds edges).Nodup ∧
          Acyclic (artifactEnds edges)) := by
  unfold AdmitsDags
  rw [newArtifactGraph_eq_ok]
  constructor
  · intro h hnodup hends
    have hformed := h.mp ⟨hnodup, hends⟩
    exact ⟨hformed.noLoop, hformed.edges_nodup, hformed.acyclic⟩
  · intro h
    constructor
    · rintro ⟨hnodup, hends⟩
      obtain ⟨hloop, hedges, hacyclic⟩ := h hnodup hends
      exact ⟨hnodup, hends, hloop, hedges, hacyclic⟩
    · intro hformed
      exact ⟨hformed.ids_nodup, hformed.ends_mem⟩

end

/-! ## The three constructors -/

/-- **Which graphs the constructors take**: each of them takes exactly the well-formed
    graphs on the inputs without the flaw that it does not look for. -/
theorem admitsDags_iff (objects : Nat → TaskEdge) (tasks : List TaskNode) (refs : List Nat)
    (nodes : List ExecutionNode) (edges : List ExecutionEdge) (artifacts : List ArtifactNode)
    (links : List ArtifactEdge) :
    (AdmitsDags (newTaskGraph objects tasks refs = .ok ()) (nodeIds tasks)
        (edgeEnds objects refs) ↔
      (WellFormed (nodeIds tasks) (edgeEnds objects refs.dedup) → refs.Nodup)) ∧
    (AdmitsDags (newExecutionGraph nodes edges = .ok ()) (executionIds nodes)
        (executionEnds edges) ↔
      (WellFormed (executionIds nodes) (executionEnds edges).dedup →
        (executionEnds edges).Nodup)) ∧
    (AdmitsDags (newArtifactGraph artifacts links = .ok ()) (artifactIds artifacts)
        (artifactEnds links) ↔
      ((artifactIds artifacts).Nodup →
        (∀ edge ∈ artifactEnds links,
          edge.1 ∈ artifactIds artifacts ∧ edge.2 ∈ artifactIds artifacts) →
        (∀ edge ∈ artifactEnds links, edge.1 ≠ edge.2) ∧ (artifactEnds links).Nodup ∧
          Acyclic (artifactEnds links))) :=
  ⟨taskGraph_admitsDags_iff, executionGraph_admitsDags_iff, artifactGraph_admitsDags_iff⟩

/-- Two artifacts that depend on each other form an artifact graph. -/
theorem cyclic_artifacts_admitted :
    ¬ ∀ (objects : Nat → TaskEdge) (tasks : List TaskNode) (refs : List Nat)
        (nodes : List ExecutionNode) (edges : List ExecutionEdge)
        (artifacts : List ArtifactNode) (links : List ArtifactEdge),
      AdmitsDags (newTaskGraph objects tasks refs = .ok ()) (nodeIds tasks)
          (edgeEnds objects refs) ∧
        AdmitsDags (newExecutionGraph nodes edges = .ok ()) (executionIds nodes)
          (executionEnds edges) ∧
        AdmitsDags (newArtifactGraph artifacts links = .ok ()) (artifactIds artifacts)
          (artifactEnds links) := by
  intro hclaim
  have hartifacts := (hclaim (fun _ => ⟨"a", "b", by decide, by decide⟩) [] [] [] []
    [⟨"a"⟩, ⟨"b"⟩] [⟨"a", "b"⟩, ⟨"b", "a"⟩]).2.2
  have hformed := hartifacts.mp rfl
  have hforth : Precedes (artifactEnds [⟨"a", "b"⟩, ⟨"b", "a"⟩]) "a" "b" := List.mem_cons_self
  have hback : Precedes (artifactEnds [⟨"a", "b"⟩, ⟨"b", "a"⟩]) "b" "a" :=
    List.mem_cons_of_mem _ List.mem_cons_self
  exact hformed.acyclic "a" ((Relation.TransGen.single hforth).tail hback)

end Eag.ExecutionGraphs
