/-
  Eag.Planner.EffortEstimator

  The estimator of engineering effort (`planner/intelligence/effort_estimator.py`) and the
  profile it makes (`models.py`), whose constructor refuses negative parts.

  Durations and factors are exact rationals.  `str.lower` is a parameter: which letters it
  lowers depends on the Unicode version, and nothing here depends on it.
-/

import Mathlib.Algebra.Order.Ring.Rat
import Mathlib.Data.Rat.Floor
import Mathlib.Tactic.Linarith
import Eag.Foundation.HeaviestChains
import Eag.Planner.DependencyOrder
import Eag.Planner.RiskAnalyzer

namespace Eag.Planner

open Eag.Foundation
open Eag.Foundation.PyText (ofString)

/-! ## The profile -/

/-- `EngineeringExecutionProfile`. -/
structure EngineeringExecutionProfile where
  totalEngineeringTime : Rat
  criticalPathDuration : Rat
  parallelSavings : Rat
  estimatedActiveWork : Rat
  estimatedValidation : Rat
  estimatedReview : Rat
  confidence : Rat
  summary : String
  deriving DecidableEq, Repr

/-- What ends an estimate: a check of the profile, the order of the tasks, or a key without an
    entry (`stuck`, which also stands for a call beyond the nodes there are). -/
inductive EstimateError where
  | value (message : String)
  | order (error : PlannerError)
  | stuck
  deriving DecidableEq, Repr

namespace EngineeringExecutionProfile

/-- The numbers that must not be negative, with the names of their fields. -/
def amounts (profile : EngineeringExecutionProfile) : List (String × Rat) :=
  [("total_engineering_time", profile.totalEngineeringTime),
    ("critical_path_duration", profile.criticalPathDuration),
    ("parallel_savings", profile.parallelSavings),
    ("estimated_active_work", profile.estimatedActiveWork),
    ("estimated_validation", profile.estimatedValidation),
    ("estimated_review", profile.estimatedReview)]

/-- `__post_init__`. -/
def postInit (profile : EngineeringExecutionProfile) :
    Except EstimateError EngineeringExecutionProfile :=
  match profile.amounts.find? fun amount => amount.2 < 0 with
  | some (field, _) => .error (.value (field ++ " must be a non-negative number"))
  | none =>
      if 0 ≤ profile.confidence ∧ profile.confidence ≤ 1 then .ok profile
      else .error (.value "confidence must be between 0.0 and 1.0")

end EngineeringExecutionProfile

/-! ## Numbers in a text -/

/-- The nearest integer, and of two the even one. -/
def roundHalfEven (x : Rat) : Int :=
  let rest := x - x.floor
  if rest < 1 / 2 then x.floor
  else if 1 / 2 < rest then x.floor + 1
  else if x.floor % 2 = 0 then x.floor
  else x.floor + 1

/-- `f"{x:.1f}"`, of a number that is not negative. -/
def oneDecimal (x : Rat) : String :=
  toString (roundHalfEven (x * 10) / 10) ++ "." ++ toString (roundHalfEven (x * 10) % 10)

/-- `f"{x:.0f}"`. -/
def noDecimal (x : Rat) : String := toString (roundHalfEven x)

namespace EffortEstimator

/-! ## Durations -/

/-- `_BASE_DURATIONS`. -/
def baseDurations : List (String × Rat) :=
  [("locate", 1), ("analyze", 2), ("modify", 3), ("update", 2), ("validate", 2), ("review", 1),
    ("reproduce", 1), ("implement", 3), ("test", 2), ("document", 2), ("design", 2),
    ("gather", 2), ("report", 1), ("identify", 1), ("check", 1), ("remove", 1), ("move", 2),
    ("write", 2), ("fix", 3), ("upgrade", 3), ("create", 3), ("rename", 2)]

/-- `_SCOPE_MULTIPLIERS`. -/
def scopeMultiplier : EngineeringScope → Rat
  | .symbol => 1
  | .file => 2
  | .module => 3
  | .package => 5
  | .repository => 8
  | .system => 12

/-- `_RISK_MULTIPLIERS`. -/
def riskMultiplier : RiskLevel → Rat
  | .none => 1
  | .low => 11 / 10
  | .medium => 5 / 4
  | .high => 3 / 2
  | .critical => 2

variable (lower : PyText → PyText)

/-- `keyword in title.lower()`. -/
def Mentions (title : PyText) (keyword : String) : Prop := ofString keyword <:+: lower title

instance (title : PyText) (keyword : String) : Decidable (Mentions lower title keyword) :=
  inferInstanceAs (Decidable (ofString keyword <:+: lower title))

/-- `_get_base_duration`: the first keyword in the title decides. -/
def getBaseDuration (title : PyText) : Rat :=
  match baseDurations.find? fun entry => Mentions lower title entry.1 with
  | some (_, duration) => duration
  | none => 2

/-- `is_validation`. -/
def IsValidation (title : PyText) : Prop :=
  ∃ keyword ∈ ["validate", "validation", "test", "verify"], Mentions lower title keyword

/-- `is_review`. -/
def IsReview (title : PyText) : Prop :=
  ∃ keyword ∈ ["document", "review", "report"], Mentions lower title keyword

instance : DecidablePred (IsValidation lower) := fun _ => List.decidableBEx _ _

instance : DecidablePred (IsReview lower) := fun _ => List.decidableBEx _ _

variable (goal : EngineeringGoal) (risk : EngineeringRiskAssessment)

/-- `duration`, of a task with a title. -/
def durationOf (title : PyText) : Rat :=
  getBaseDuration lower title * scopeMultiplier goal.scope * riskMultiplier risk.overallRisk

/-- The enriched task of a node. -/
def enrich (node : TaskDependencyNode) : EngineeringTask :=
  let duration := durationOf lower goal risk node.task.title
  { node.task with
    estimatedDuration := duration
    estimatedValidation := if IsValidation lower node.task.title then duration else 0
    estimatedReview := if IsReview lower node.task.title then duration else 0
    parallelizable := node.outgoing = [] ∧ node.incoming.length > 1
    blocking := node.outgoing ≠ [] }

/-! ## The critical path -/

/-- The body of `get_longest`, of the values of the tasks that a task depends on. -/
def longestRule (durations : Dict String Rat) (id : String) (values : List Rat) : Option Rat :=
  (durations.get? id).map fun duration => heaviest duration values

/-- `_compute_critical_path`. -/
def computeCriticalPath (graph : TaskDependencyGraph) (durations : Dict String Rat) :
    Except EstimateError Rat :=
  match forKeys (memoized graph.nodes.outgoing (longestRule durations)
      (graph.nodes.keys.length + 1)) Dict.empty graph.nodes.keys with
  | none => .error .stuck
  | some (values, _) => .ok ((greatestOf? values).getD 0)

/-! ## The estimate -/

/-- `_compute_confidence`. -/
def computeConfidence : Rat :=
  if goal.scope = .repository then 95 / 100
  else if goal.operation = .upgrade then 90 / 100
  else 1

/-- `_build_summary`. -/
def buildSummary (total critical parallel confidence : Rat) : String :=
  "Estimated engineering effort: " ++ oneDecimal total ++ " minutes. "
    ++ "Critical path: " ++ oneDecimal critical ++ " minutes. "
    ++ "Parallelizable work: " ++ oneDecimal parallel ++ " minutes. "
    ++ "Confidence: " ++ noDecimal (confidence * 100) ++ "%."

/-- `task_durations`. -/
def taskDurations (enriched : List EngineeringTask) : Dict String Rat :=
  Dict.empty.update (enriched.map fun task => (task.id, task.estimatedDuration))

/-- The profile of the enriched tasks, whose critical path has a length. -/
def profileOf (enriched : List EngineeringTask) (critical : Rat) : EngineeringExecutionProfile :=
  let total := (taskDurations enriched).values.sum
  let savings := max 0 (total - critical)
  let confidence := computeConfidence goal
  { totalEngineeringTime := total
    criticalPathDuration := critical
    parallelSavings := savings
    estimatedActiveWork := (enriched.map fun task =>
      task.estimatedDuration - task.estimatedValidation - task.estimatedReview).sum
    estimatedValidation := (enriched.map (·.estimatedValidation)).sum
    estimatedReview := (enriched.map (·.estimatedReview)).sum
    confidence := confidence
    summary := buildSummary total critical savings confidence }

/-- The enriched tasks in the order of the graph. -/
def orderedEnriched (graph : TaskDependencyGraph) (enriched : List EngineeringTask) :
    Except EstimateError (List EngineeringTask) :=
  match graph.orderedTasks with
  | .error error => .error (.order error)
  | .ok ordered =>
      match ordered.mapM fun task => (graph.nodes.get? task.id).map (·.task) with
      | none => .error .stuck
      | some tasks =>
          match tasks.mapM fun task => (Dict.keyed EngineeringTask.id enriched).get? task.id with
          | none => .error .stuck
          | some result => .ok result

/-- `estimate`. -/
def estimate (graph : TaskDependencyGraph) :
    Except EstimateError (List EngineeringTask × EngineeringExecutionProfile) := do
  let enriched := graph.nodes.values.map (enrich lower goal risk)
  let critical ← computeCriticalPath graph (taskDurations enriched)
  let profile ← (profileOf goal enriched critical).postInit
  let ordered ← orderedEnriched graph enriched
  pure (ordered, profile)

/-! ## Durations are positive -/

variable {lower goal risk}
variable {tasks : List EngineeringTask} {graph : TaskDependencyGraph}

theorem getBaseDuration_pos (title : PyText) : 0 < getBaseDuration lower title := by
  have hpos : ∀ entry ∈ baseDurations, 0 < entry.2 := by decide +kernel
  unfold getBaseDuration
  split
  · next heq => exact hpos _ (List.mem_of_find?_eq_some heq)
  · decide

/-- The factor of the scope and the risk, which the durations of all tasks have. -/
def factor (goal : EngineeringGoal) (risk : EngineeringRiskAssessment) : Rat :=
  scopeMultiplier goal.scope * riskMultiplier risk.overallRisk

theorem factor_pos : 0 < factor goal risk := by
  have hscope : 0 < scopeMultiplier goal.scope := by
    cases goal.scope <;> decide +kernel
  have hrisk : 0 < riskMultiplier risk.overallRisk := by
    cases risk.overallRisk <;> decide +kernel
  exact mul_pos hscope hrisk

theorem durationOf_eq (title : PyText) :
    durationOf lower goal risk title = factor goal risk * getBaseDuration lower title := by
  unfold durationOf factor
  ring

theorem durationOf_pos (title : PyText) : 0 < durationOf lower goal risk title := by
  rw [durationOf_eq]
  exact mul_pos factor_pos (getBaseDuration_pos title)

/-! ## The enriched tasks -/

/-- The enriched task of a task. -/
def enriched (lower : PyText → PyText) (goal : EngineeringGoal) (risk : EngineeringRiskAssessment)
    (tasks : List EngineeringTask) (task : EngineeringTask) : EngineeringTask :=
  enrich lower goal risk (nodeFor tasks task)

theorem enriched_validation_nonneg (task : EngineeringTask) :
    0 ≤ (enriched lower goal risk tasks task).estimatedValidation := by
  show 0 ≤ if IsValidation lower task.title then durationOf lower goal risk task.title else 0
  split_ifs
  · exact (durationOf_pos task.title).le
  · exact le_refl _

theorem enriched_review_nonneg (task : EngineeringTask) :
    0 ≤ (enriched lower goal risk tasks task).estimatedReview := by
  show 0 ≤ if IsReview lower task.title then durationOf lower goal risk task.title else 0
  split_ifs
  · exact (durationOf_pos task.title).le
  · exact le_refl _

theorem values_map_enrich (h : ValidTasks tasks) (hnodes : graph.nodes = buildNodes tasks) :
    graph.nodes.values.map (enrich lower goal risk)
      = tasks.map (enriched lower goal risk tasks) := by
  unfold Dict.values
  rw [hnodes, items_buildNodes h.distinct, List.map_map, List.map_map]
  rfl

theorem taskIds_map_enriched (tasks' : List EngineeringTask) :
    taskIds (tasks'.map (enriched lower goal risk tasks)) = taskIds tasks' := by
  unfold taskIds
  rw [List.map_map]
  rfl

/-- The durations are those of the tasks. -/
theorem items_taskDurations {done : List EngineeringTask} (h : (taskIds done).Nodup) :
    (taskDurations done).items = done.map fun task => (task.id, task.estimatedDuration) := by
  refine Dict.items_update_empty ?_
  rw [List.map_map]
  exact h

theorem values_taskDurations {done : List EngineeringTask} (h : (taskIds done).Nodup) :
    (taskDurations done).values = done.map (·.estimatedDuration) := by
  unfold Dict.values
  rw [items_taskDurations h, List.map_map]
  rfl

theorem get?_taskDurations {done : List EngineeringTask} (h : (taskIds done).Nodup)
    {task : EngineeringTask} (htask : task ∈ done) :
    (taskDurations done).get? task.id = some task.estimatedDuration := by
  rw [Dict.get?_eq_some, items_taskDurations h]
  exact List.mem_map_of_mem htask

/-! ## Chains of tasks -/

/-- Tasks one after another, each one that the task before it depends on. -/
structure TaskChain (done chain : List EngineeringTask) : Prop where
  mem : ∀ task ∈ chain, task ∈ done
  follows : chain.IsChain fun task dependency => dependency.id ∈ task.dependencies

/-- The sums of the durations along dependency chains. -/
def chainDurations (done : List EngineeringTask) : Set Rat :=
  {x | ∃ chain, TaskChain done chain ∧ (chain.map (·.estimatedDuration)).sum = x}

/-- The duration that is filed under an identity. -/
def weightIn (done : List EngineeringTask) (id : String) : Rat :=
  ((taskDurations done).get? id).getD 0

/-- The sum along a chain of identities is that along the chain of tasks. -/
theorem sum_weightIn {done chain : List EngineeringTask} (hdistinct : (taskIds done).Nodup)
    (hmem : ∀ task ∈ chain, task ∈ done) :
    ((taskIds chain).map (weightIn done)).sum = (chain.map (·.estimatedDuration)).sum := by
  unfold taskIds
  rw [List.map_map]
  refine congrArg List.sum (List.map_congr_left fun a ha => ?_)
  show weightIn done a.id = a.estimatedDuration
  unfold weightIn
  rw [get?_taskDurations hdistinct (hmem a ha), Option.getD_some]

section Chains

variable {done : List EngineeringTask} {next : String → List String}

/-- A chain of tasks is a chain of their identities, with the same durations. -/
theorem sum_mem_weightsFrom (hdistinct : (taskIds done).Nodup)
    (hnext : ∀ task ∈ done, ∀ id, id ∈ next task.id ↔ id ∈ task.dependencies)
    {task : EngineeringTask} {chain : List EngineeringTask}
    (hchain : TaskChain done (task :: chain)) :
    ((task :: chain).map (·.estimatedDuration)).sum
      ∈ weightsFrom next (weightIn done) task.id := by
  refine ⟨taskIds chain, ?_, ?_⟩
  · show Follows next (taskIds (task :: chain))
    unfold Follows taskIds
    rw [List.isChain_map]
    refine hchain.follows.imp_of_mem_imp fun a b ha _ hab => ?_
    exact (hnext a (hchain.mem a ha) b.id).mpr hab
  · exact sum_weightIn hdistinct hchain.mem

/-- A chain of identities is that of a chain of tasks. -/
theorem exists_taskChain
    (hnext : ∀ task ∈ done, ∀ id, id ∈ next task.id ↔ id ∈ task.dependencies)
    (hknown : ∀ task ∈ done, ∀ id ∈ task.dependencies, id ∈ taskIds done)
    {task : EngineeringTask} (htask : task ∈ done) {chain : List String}
    (hchain : Follows next (task.id :: chain)) :
    ∃ rest, TaskChain done (task :: rest) ∧ taskIds rest = chain := by
  induction chain generalizing task with
  | nil =>
      refine ⟨[], ⟨?_, List.isChain_singleton _⟩, rfl⟩
      exact fun other hother => List.mem_singleton.mp hother ▸ htask
  | cons id chain ih =>
      obtain ⟨hstep, hrest⟩ := List.isChain_cons_cons.mp hchain
      have hdependency := (hnext task htask id).mp hstep
      obtain ⟨other, hother, rfl⟩ := List.mem_map.mp (hknown task htask id hdependency)
      obtain ⟨rest, hchain', hids⟩ := ih hother hrest
      refine ⟨other :: rest, ⟨?_, List.isChain_cons_cons.mpr ⟨hdependency, hchain'.follows⟩⟩, ?_⟩
      · exact List.forall_mem_cons.mpr ⟨htask, hchain'.mem⟩
      · unfold taskIds at hids ⊢
        rw [List.map_cons, hids]

end Chains

/-! ## The critical path -/

/-- Tasks that the graph of other tasks is right for: the same identities and dependencies, and
    durations that are not negative. -/
structure Estimated (tasks done : List EngineeringTask) : Prop where
  ids : taskIds done = taskIds tasks
  dependencies : ∀ task ∈ done, ∃ other ∈ tasks, other.id = task.id ∧
    other.dependencies = task.dependencies
  nonneg : ∀ task ∈ done, 0 ≤ task.estimatedDuration

theorem estimated_map_enriched :
    Estimated tasks (tasks.map (enriched lower goal risk tasks)) where
  ids := taskIds_map_enriched tasks
  dependencies := by
    intro task htask
    obtain ⟨other, hother, rfl⟩ := List.mem_map.mp htask
    exact ⟨other, hother, rfl, rfl⟩
  nonneg := by
    intro task htask
    obtain ⟨other, -, rfl⟩ := List.mem_map.mp htask
    exact (durationOf_pos other.title).le

variable {done : List EngineeringTask}

theorem Estimated.distinct (hdone : Estimated tasks done) (h : ValidTasks tasks) :
    (taskIds done).Nodup := hdone.ids ▸ h.distinct

/-- The dependencies of a task are what its node leads to. -/
theorem Estimated.mem_outgoing (hdone : Estimated tasks done) (h : ValidTasks tasks)
    {task : EngineeringTask} (htask : task ∈ done) (id : String) :
    id ∈ (buildNodes tasks).outgoing task.id ↔ id ∈ task.dependencies := by
  obtain ⟨other, hother, hid, hdependencies⟩ := hdone.dependencies task htask
  rw [Planner.mem_outgoing h, mem_dependencyEdges, ← hdependencies]
  constructor
  · rintro ⟨third, hthird, heq, hmem⟩
    rwa [← eq_of_key_eq h.distinct hthird hother (heq.trans hid.symm)]
  · exact fun hmem => ⟨other, hother, hid, hmem⟩

theorem Estimated.known (hdone : Estimated tasks done) (h : ValidTasks tasks) :
    ∀ task ∈ done, ∀ id ∈ task.dependencies, id ∈ taskIds done := by
  intro task htask id hid
  obtain ⟨other, hother, -, hdependencies⟩ := hdone.dependencies task htask
  rw [hdone.ids]
  exact h.known other hother id (hdependencies ▸ hid)

theorem Estimated.weightIn_nonneg (hdone : Estimated tasks done) (h : ValidTasks tasks)
    (id : String) : 0 ≤ weightIn done id := by
  unfold weightIn
  cases hget : (taskDurations done).get? id with
  | none => exact le_refl _
  | some duration =>
      rw [Dict.get?_eq_some, items_taskDurations (hdone.distinct h)] at hget
      obtain ⟨task, htask, heq⟩ := List.mem_map.mp hget
      cases heq
      exact hdone.nonneg task htask

/-- The values of the tasks are the heaviest chains of identities from them. -/
theorem Estimated.values_spec (hdone : Estimated tasks done) (h : Resolvable tasks) :
    ∃ values cache, forKeys (memoized (buildNodes tasks).outgoing
        (longestRule (taskDurations done)) ((taskIds tasks).length + 1)) Dict.empty (taskIds tasks)
        = some (values, cache) ∧
      List.Forall₂ (fun id v =>
        IsGreatest (weightsFrom (buildNodes tasks).outgoing (weightIn done) id) v)
        (taskIds tasks) values := by
  obtain ⟨rank, hrank, hbound⟩ := h.toValidTasks.exists_rank h.acyclic
  have hclosed : ∀ id, id ∈ taskIds tasks →
      ∀ dependency ∈ (buildNodes tasks).outgoing id, dependency ∈ taskIds tasks :=
    fun id _ dependency hdependency =>
      (h.ends_mem ((Planner.mem_outgoing h.toValidTasks).mp hdependency)).1
  have hrule : ∀ id, id ∈ taskIds tasks → ∀ vs,
      List.Forall₂ (fun id v =>
        IsGreatest (weightsFrom (buildNodes tasks).outgoing (weightIn done) id) v)
        ((buildNodes tasks).outgoing id) vs →
      ∃ v, longestRule (taskDurations done) id vs = some v ∧
        IsGreatest (weightsFrom (buildNodes tasks).outgoing (weightIn done) id) v := by
    intro id hid vs hvs
    rw [← hdone.ids] at hid
    obtain ⟨task, htask, rfl⟩ := List.mem_map.mp hid
    have hget := get?_taskDurations (hdone.distinct h.toValidTasks) htask
    have hweight : weightIn done task.id = task.estimatedDuration := by
      unfold weightIn
      rw [hget, Option.getD_some]
    refine ⟨heaviest (weightIn done task.id) vs, ?_,
      heaviest_spec (hdone.weightIn_nonneg h.toValidTasks) hvs⟩
    unfold longestRule
    rw [hget, Option.map_some, hweight]
  obtain ⟨values, cache, hrun, hvalues, -⟩ := forKeys_spec
    (fun id hid => memoized_spec hclosed hrank hrule _ id hid (hbound id)) CachedRight.empty
  exact ⟨values, cache, hrun, hvalues⟩

/-- **The critical path** is a longest chain of tasks, each one that the task before it depends
    on. -/
theorem Estimated.computeCriticalPath_spec (hdone : Estimated tasks done) (h : Resolvable tasks)
    (hnodes : graph.nodes = buildNodes tasks) :
    ∃ critical, computeCriticalPath graph (taskDurations done) = .ok critical ∧
      IsGreatest (chainDurations done) critical := by
  obtain ⟨values, cache, hrun, hvalues⟩ := hdone.values_spec h
  have hdistinct := hdone.distinct h.toValidTasks
  have hnext : ∀ task ∈ done, ∀ id,
      id ∈ (buildNodes tasks).outgoing task.id ↔ id ∈ task.dependencies :=
    fun _ htask => hdone.mem_outgoing h.toValidTasks htask
  refine ⟨(greatestOf? values).getD 0, ?_, ?_⟩
  · unfold computeCriticalPath
    rw [hnodes, keys_buildNodes h.distinct, hrun]
  cases hgreatest : greatestOf? values with
  | none =>
      -- Without a value there is no task, and the only chain is the empty one.
      have hnil : done = [] := by
        cases values with
        | nil =>
            have hids := List.forall₂_nil_right_iff.mp hvalues
            exact List.map_eq_nil_iff.mp (hdone.ids.trans hids)
        | cons v vs => cases hgreatest
      refine ⟨⟨[], ⟨nofun, .nil⟩, rfl⟩, ?_⟩
      rintro x ⟨chain, hchain, rfl⟩
      have hempty : chain = [] := by
        refine List.eq_nil_iff_forall_not_mem.mpr fun task htask => ?_
        have hmem := hchain.mem task htask
        rw [hnil] at hmem
        cases hmem
      rw [hempty]
      exact le_refl _
  | some v =>
      obtain ⟨hv, hle⟩ := greatestOf?_eq_some hgreatest
      obtain ⟨id, hid, ⟨chain, hchain, hsum⟩, hupper⟩ := exists_mem_of_forall₂_right hvalues hv
      rw [← hdone.ids] at hid
      obtain ⟨task, htask, rfl⟩ := List.mem_map.mp hid
      obtain ⟨rest, hrest, rfl⟩ :=
        exists_taskChain hnext (hdone.known h.toValidTasks) htask hchain
      refine ⟨⟨task :: rest, hrest, ?_⟩, ?_⟩
      · rw [← sum_weightIn hdistinct hrest.mem]
        exact hsum
      · rintro x ⟨chain, hchain, rfl⟩
        cases chain with
        | nil =>
            show 0 ≤ v
            exact (hdone.weightIn_nonneg h.toValidTasks task.id).trans
              (hupper weight_mem_weightsFrom)
        | cons first chain =>
            have hfirst : first.id ∈ taskIds tasks :=
              hdone.ids ▸ List.mem_map_of_mem (hchain.mem first List.mem_cons_self)
            obtain ⟨w, hw, hlargest⟩ := exists_mem_of_forall₂ hvalues hfirst
            exact (hlargest.2 (sum_mem_weightsFrom hdistinct hnext hchain)).trans (hle w hw)

/-! ## The order of the enriched tasks -/

theorem mapM_eq_some {α β : Type} {f : α → Option β} {g : α → β} {xs : List α}
    (h : ∀ x ∈ xs, f x = some (g x)) : xs.mapM f = some (xs.map g) := by
  induction xs with
  | nil => rfl
  | cons x rest ih =>
      rw [List.mapM_cons, h x List.mem_cons_self,
        ih fun y hy => h y (List.mem_cons_of_mem _ hy)]
      rfl

/-- Tasks with the same identities and dependencies are in order when the others are. -/
theorem preSorted_map_enriched {order : List EngineeringTask} (h : PreSorted order) :
    PreSorted (order.map (enriched lower goal risk tasks)) where
  distinct := by
    rw [taskIds_map_enriched]
    exact h.distinct
  dependencies_first := by
    intro before task after hsplit dependency hdependency hmem
    obtain ⟨before, rest, rfl, rfl, hrest⟩ := List.map_eq_append_iff.mp hsplit
    obtain ⟨task, after, rfl, rfl, -⟩ := List.map_eq_cons_iff.mp hrest
    rw [taskIds_map_enriched] at hmem ⊢
    exact h.dependencies_first before task after rfl dependency hdependency hmem

/-- **The enriched tasks are returned in dependency order**, each of them once. -/
theorem orderedEnriched_spec (h : Resolvable tasks) (hnodes : graph.nodes = buildNodes tasks) :
    ∃ ordered, orderedEnriched graph (tasks.map (enriched lower goal risk tasks)) = .ok ordered ∧
      ordered.Perm (tasks.map (enriched lower goal risk tasks)) ∧ PreSorted ordered := by
  obtain ⟨order, horder, hperm, hleast⟩ := orderedTasks_spec h.toValidTasks h.acyclic hnodes
  have hnode : ∀ task ∈ order, (graph.nodes.get? task.id).map (·.task) = some (id task) := by
    intro task htask
    rw [hnodes, get?_buildNodes h.distinct (hperm.mem_iff.mp htask)]
    rfl
  have hentry : ∀ task ∈ order,
      (Dict.keyed EngineeringTask.id (tasks.map (enriched lower goal risk tasks))).get? task.id
        = some (enriched lower goal risk tasks task) := by
    intro task htask
    have hdistinct : (((tasks.map (enriched lower goal risk tasks)).map
        fun task => (task.id, task)).map Prod.fst).Nodup := by
      rw [List.map_map]
      show (taskIds (tasks.map (enriched lower goal risk tasks))).Nodup
      rw [taskIds_map_enriched]
      exact h.distinct
    rw [Dict.get?_eq_some, Dict.keyed, Dict.items_update_empty hdistinct]
    exact List.mem_map_of_mem (f := fun task : EngineeringTask => (task.id, task))
      (List.mem_map_of_mem (hperm.mem_iff.mp htask))
  refine ⟨order.map (enriched lower goal risk tasks), ?_, hperm.map _,
    preSorted_map_enriched (preSorted_of_leastFirst hperm hleast)⟩
  unfold orderedEnriched
  rw [horder]
  dsimp only
  rw [mapM_eq_some hnode, List.map_id]
  dsimp only
  rw [mapM_eq_some hentry]

/-! ## The parts of the total -/

/-- The active work of a task. -/
def activeWork (task : EngineeringTask) : Rat :=
  task.estimatedDuration - task.estimatedValidation - task.estimatedReview

theorem sum_parts (done : List EngineeringTask) :
    (done.map activeWork).sum + (done.map (·.estimatedValidation)).sum
        + (done.map (·.estimatedReview)).sum = (done.map (·.estimatedDuration)).sum := by
  induction done with
  | nil => simp
  | cons task rest ih =>
      simp only [List.map_cons, List.sum_cons]
      have htask : activeWork task = task.estimatedDuration - task.estimatedValidation
        - task.estimatedReview := rfl
      linarith

/-- The base durations of the tasks whose titles match the words for validation and the words
    for review. -/
def underBoth (lower : PyText → PyText) (tasks : List EngineeringTask) : Rat :=
  ((tasks.filter fun task => IsValidation lower task.title ∧ IsReview lower task.title).map
    fun task => getBaseDuration lower task.title).sum

/-- The base durations of the tasks whose titles match neither. -/
def underNeither (lower : PyText → PyText) (tasks : List EngineeringTask) : Rat :=
  ((tasks.filter fun task => ¬ IsValidation lower task.title ∧ ¬ IsReview lower task.title).map
    fun task => getBaseDuration lower task.title).sum

/-- A title in both lists takes its duration away twice, and one in either takes it away once. -/
theorem sum_activeWork (part : List EngineeringTask) :
    ((part.map (enriched lower goal risk tasks)).map activeWork).sum
      = factor goal risk * (underNeither lower part - underBoth lower part) := by
  induction part with
  | nil => simp [underNeither, underBoth]
  | cons task rest ih =>
      have hwork : activeWork (enriched lower goal risk tasks task)
          = factor goal risk * getBaseDuration lower task.title
            - (if IsValidation lower task.title
                then factor goal risk * getBaseDuration lower task.title else 0)
            - (if IsReview lower task.title
                then factor goal risk * getBaseDuration lower task.title else 0) := by
        rw [← durationOf_eq]
        rfl
      rw [List.map_cons, List.map_cons, List.sum_cons, ih, hwork]
      unfold underNeither underBoth
      by_cases hvalidation : IsValidation lower task.title <;>
        by_cases hreview : IsReview lower task.title <;>
        simp [hvalidation, hreview] <;> ring

/-! ## Between the longest task and the total -/

/-- Every step of a chain lowers a rank, so no task is twice in it. -/
theorem TaskChain.nodup {chain : List EngineeringTask} (hchain : TaskChain done chain)
    {rank : String → Nat}
    (hrank : ∀ task ∈ done, ∀ id ∈ task.dependencies, rank id < rank task.id) : chain.Nodup := by
  have hdescending : chain.IsChain fun task dependency => rank dependency.id < rank task.id :=
    hchain.follows.imp_of_mem_imp fun task dependency htask _ hstep =>
      hrank task (hchain.mem task htask) dependency.id hstep
  have htrans : IsTrans EngineeringTask fun task dependency => rank dependency.id < rank task.id :=
    ⟨fun _ _ _ hab hbc => hbc.trans hab⟩
  refine (List.isChain_iff_pairwise.mp hdescending).imp fun hlower heq => ?_
  rw [heq] at hlower
  exact Nat.lt_irrefl _ hlower

/-- The tasks of a chain take at most as long as all of them. -/
theorem Estimated.sum_chain_le (hdone : Estimated tasks done) (h : Resolvable tasks)
    {chain : List EngineeringTask} (hchain : TaskChain done chain) :
    (chain.map (·.estimatedDuration)).sum ≤ (done.map (·.estimatedDuration)).sum := by
  obtain ⟨rank, hrank, -⟩ := h.toValidTasks.exists_rank h.acyclic
  have hnodup : chain.Nodup := hchain.nodup fun task htask id hid =>
    hrank task.id id ((hdone.mem_outgoing h.toValidTasks htask id).mpr hid)
  obtain ⟨some, hperm, hsublist⟩ := hnodup.subperm hchain.mem
  rw [← (hperm.map (·.estimatedDuration)).sum_eq]
  refine (hsublist.map _).sum_le_sum fun x hx => ?_
  obtain ⟨task, htask, rfl⟩ := List.mem_map.mp hx
  exact hdone.nonneg task htask

/-! ## The estimate is consistent -/

/-- What is asked of an estimate: the total is the sum of the durations, its parts add up to it
    and none is negative, the critical path is the longest sum along a dependency chain, between
    the longest task and the total, and the tasks are those of the graph in dependency order. -/
structure Consistent (tasks ordered : List EngineeringTask)
    (profile : EngineeringExecutionProfile) : Prop where
  total : profile.totalEngineeringTime = (ordered.map (·.estimatedDuration)).sum
  parts : profile.estimatedActiveWork + profile.estimatedValidation + profile.estimatedReview
    = profile.totalEngineeringTime
  active_nonneg : 0 ≤ profile.estimatedActiveWork
  validation_nonneg : 0 ≤ profile.estimatedValidation
  review_nonneg : 0 ≤ profile.estimatedReview
  critical : IsGreatest (chainDurations ordered) profile.criticalPathDuration
  longest_task : ∀ task ∈ ordered, task.estimatedDuration ≤ profile.criticalPathDuration
  within_total : profile.criticalPathDuration ≤ profile.totalEngineeringTime
  same_tasks : (ordered.map fun task => (task.id, task.title, task.dependencies)).Perm
    (tasks.map fun task => (task.id, task.title, task.dependencies))
  sorted : PreSorted ordered

/-- The same tasks in another order have the same chains. -/
theorem chainDurations_congr {ordered : List EngineeringTask} (hperm : ordered.Perm done) :
    chainDurations ordered = chainDurations done := by
  ext x
  constructor
  · rintro ⟨chain, hchain, hsum⟩
    exact ⟨chain, ⟨fun task htask => hperm.mem_iff.mp (hchain.mem task htask), hchain.follows⟩, hsum⟩
  · rintro ⟨chain, hchain, hsum⟩
    exact ⟨chain, ⟨fun task htask => hperm.mem_iff.mpr (hchain.mem task htask), hchain.follows⟩,
      hsum⟩

/-- The constructor of the profile accepts it when its active work is not negative: nothing else
    in it can be. -/
theorem postInit_profileOf (hdone : Estimated tasks done) (h : ValidTasks tasks)
    (hvalidation : ∀ task ∈ done, 0 ≤ task.estimatedValidation)
    (hreview : ∀ task ∈ done, 0 ≤ task.estimatedReview) {critical : Rat} (hcritical : 0 ≤ critical) :
    (profileOf goal done critical).postInit = .ok (profileOf goal done critical) ↔
      0 ≤ (done.map activeWork).sum := by
  have hsum : ∀ f : EngineeringTask → Rat, (∀ task ∈ done, 0 ≤ f task) → 0 ≤ (done.map f).sum := by
    intro f hf
    refine List.sum_nonneg fun x hx => ?_
    obtain ⟨task, htask, rfl⟩ := List.mem_map.mp hx
    exact hf task htask
  have htotal : 0 ≤ (profileOf goal done critical).totalEngineeringTime := by
    show 0 ≤ (taskDurations done).values.sum
    rw [values_taskDurations (hdone.distinct h)]
    exact hsum _ hdone.nonneg
  have hsavings : 0 ≤ (profileOf goal done critical).parallelSavings := le_max_left _ _
  have hconfidence : 0 ≤ (profileOf goal done critical).confidence ∧
      (profileOf goal done critical).confidence ≤ 1 := by
    show 0 ≤ computeConfidence goal ∧ computeConfidence goal ≤ 1
    unfold computeConfidence
    split_ifs <;> decide +kernel
  unfold EngineeringExecutionProfile.postInit
  cases hfind : (profileOf goal done critical).amounts.find? fun amount => amount.2 < 0 with
  | some amount =>
      refine iff_of_false nofun fun hactive => ?_
      have hnegative : amount.2 < 0 := by simpa using List.find?_some hfind
      have hmem := List.mem_of_find?_eq_some hfind
      have hnonneg : ∀ amount ∈ (profileOf goal done critical).amounts, 0 ≤ amount.2 := by
        simp only [EngineeringExecutionProfile.amounts, List.forall_mem_cons, List.not_mem_nil,
          false_imp_iff, implies_true, and_true]
        exact ⟨htotal, hcritical, hsavings, hactive, hsum _ hvalidation, hsum _ hreview⟩
      exact absurd hnegative (not_lt.mpr (hnonneg amount hmem))
  | none =>
      dsimp only
      rw [if_pos hconfidence]
      refine iff_of_true rfl ?_
      rw [List.find?_eq_none] at hfind
      have hmem : ("estimated_active_work", (profileOf goal done critical).estimatedActiveWork)
          ∈ (profileOf goal done critical).amounts := by
        simp [EngineeringExecutionProfile.amounts]
      have hactive : ¬ (profileOf goal done critical).estimatedActiveWork < 0 := by
        simpa using hfind _ hmem
      exact not_lt.mp hactive

/-- A profile that is accepted is the one that was made. -/
theorem postInit_eq_ok {profile accepted : EngineeringExecutionProfile}
    (haccepted : profile.postInit = .ok accepted) : accepted = profile := by
  unfold EngineeringExecutionProfile.postInit at haccepted
  split at haccepted
  · cases haccepted
  · split_ifs at haccepted
    exact (Except.ok.inj haccepted).symm

/-- **An estimate is consistent exactly when** the titles that match both lists of words have at
    most the base durations of those that match neither. Otherwise the active work is negative
    and the constructor of the profile raises. -/
theorem estimate_consistent_iff (hbuild : build tasks = .ok graph) :
    (∃ ordered profile, estimate lower goal risk graph = .ok (ordered, profile) ∧
        Consistent tasks ordered profile) ↔
      underBoth lower tasks ≤ underNeither lower tasks := by
  obtain ⟨h, hnodes, -⟩ := build_eq_ok.mp hbuild
  have hdone : Estimated tasks (tasks.map (enriched lower goal risk tasks)) :=
    estimated_map_enriched
  have hvalidation : ∀ task ∈ tasks.map (enriched lower goal risk tasks),
      0 ≤ task.estimatedValidation := by
    intro task htask
    obtain ⟨other, -, rfl⟩ := List.mem_map.mp htask
    exact enriched_validation_nonneg other
  have hreview : ∀ task ∈ tasks.map (enriched lower goal risk tasks),
      0 ≤ task.estimatedReview := by
    intro task htask
    obtain ⟨other, -, rfl⟩ := List.mem_map.mp htask
    exact enriched_review_nonneg other
  obtain ⟨critical, hcritical, hgreatest⟩ := hdone.computeCriticalPath_spec h hnodes
  obtain ⟨ordered, hordered, hperm, hsorted⟩ :=
    @orderedEnriched_spec lower goal risk tasks graph h hnodes
  have hpositive : 0 ≤ critical := hgreatest.2 ⟨[], ⟨nofun, .nil⟩, rfl⟩
  have hactive : 0 ≤ ((tasks.map (enriched lower goal risk tasks)).map activeWork).sum ↔
      underBoth lower tasks ≤ underNeither lower tasks := by
    rw [sum_activeWork, mul_nonneg_iff_of_pos_left factor_pos, sub_nonneg]
  have haccepts := @postInit_profileOf goal tasks _ hdone h.toValidTasks hvalidation hreview
    critical hpositive
  rw [← hactive, ← haccepts]
  have hestimate : estimate lower goal risk graph
      = ((profileOf goal (tasks.map (enriched lower goal risk tasks)) critical).postInit).bind
          fun profile => .ok (ordered, profile) := by
    unfold estimate
    rw [values_map_enrich h.toValidTasks hnodes]
    dsimp only
    rw [hcritical, hordered]
    rfl
  rw [hestimate]
  constructor
  · rintro ⟨_, profile, hrun, -⟩
    cases haccepted :
        (profileOf goal (tasks.map (enriched lower goal risk tasks)) critical).postInit with
    | error error =>
        rw [haccepted] at hrun
        cases hrun
    | ok accepted => rw [postInit_eq_ok haccepted]
  · intro haccepted
    refine ⟨ordered, _, by rw [haccepted]; rfl, ?_⟩
    have hdurations := (hperm.map (·.estimatedDuration)).sum_eq
    have htotal : (profileOf goal (tasks.map (enriched lower goal risk tasks))
        critical).totalEngineeringTime = (ordered.map (·.estimatedDuration)).sum := by
      show (taskDurations _).values.sum = _
      rw [values_taskDurations (hdone.distinct h.toValidTasks), hdurations]
    exact {
      total := htotal
      parts := by
        rw [htotal, hdurations, ← sum_parts]
        rfl
      active_nonneg := haccepts.mp haccepted
      validation_nonneg := List.sum_nonneg fun x hx => by
        obtain ⟨task, htask, rfl⟩ := List.mem_map.mp hx
        exact hvalidation task htask
      review_nonneg := List.sum_nonneg fun x hx => by
        obtain ⟨task, htask, rfl⟩ := List.mem_map.mp hx
        exact hreview task htask
      critical := by
        rw [chainDurations_congr hperm]
        exact hgreatest
      longest_task := fun task htask =>
        hgreatest.2 ⟨[task], ⟨fun other hother =>
          List.mem_singleton.mp hother ▸ hperm.mem_iff.mp htask, List.isChain_singleton _⟩,
          by simp⟩
      within_total := by
        obtain ⟨chain, hchain, hsum⟩ := hgreatest.1
        rw [htotal, hdurations]
        exact hsum ▸ hdone.sum_chain_le h hchain
      same_tasks := by
        refine (hperm.map _).trans ?_
        rw [List.map_map]
        exact List.Perm.refl _
      sorted := hsorted }

/-! ## A title in both lists -/

/-- The goal of a small analysis. -/
def smallGoal : EngineeringGoal := ⟨⟨.analysis⟩, .analyze, .file⟩

/-- One task, with a title. -/
def titled (title : String) : List EngineeringTask :=
  [{ id := "task", dependencies := [], title := ofString title }]

/-- The graph of one task. -/
def graphOf (title : String) : TaskDependencyGraph :=
  ⟨buildNodes (titled title), ⟨1, 0, 1, 1, 0, 1, false⟩⟩

theorem estimate_consistent_iff_analyze :
    (∃ ordered profile,
        estimate PyText.asciiLower smallGoal (RiskAnalyzer.analyze smallGoal (graphOf "Analyze"))
          (graphOf "Analyze") = .ok (ordered, profile) ∧
        Consistent (titled "Analyze") ordered profile) ↔
      underBoth PyText.asciiLower (titled "Analyze")
        ≤ underNeither PyText.asciiLower (titled "Analyze") :=
  estimate_consistent_iff rfl

/-- The only task is a test and a report: its duration is validation and review, and the active
    work is what is left when both are taken away. -/
theorem test_report_refused :
    estimate PyText.asciiLower smallGoal (RiskAnalyzer.analyze smallGoal (graphOf "Test Report"))
        (graphOf "Test Report")
      = .error (.value "estimated_active_work must be a non-negative number") ∧
    ¬ ∀ (lower : PyText → PyText) (goal : EngineeringGoal) (risk : EngineeringRiskAssessment)
        (tasks : List EngineeringTask) (graph : TaskDependencyGraph), build tasks = .ok graph →
      ∃ ordered profile, estimate lower goal risk graph = .ok (ordered, profile) ∧
        Consistent tasks ordered profile := by
  have hrefused : estimate PyText.asciiLower smallGoal
      (RiskAnalyzer.analyze smallGoal (graphOf "Test Report")) (graphOf "Test Report")
        = .error (.value "estimated_active_work must be a non-negative number") := by
    decide +kernel
  refine ⟨hrefused, fun hclaim => ?_⟩
  obtain ⟨ordered, profile, hrun, -⟩ := hclaim PyText.asciiLower smallGoal
    (RiskAnalyzer.analyze smallGoal (graphOf "Test Report")) (titled "Test Report")
    (graphOf "Test Report") rfl
  rw [hrefused] at hrun
  cases hrun

end EffortEstimator

end Eag.Planner
