/-
  Eag.Planner.RiskAnalyzer

  The risk of an engineering goal and its task graph
  (`planner/intelligence/risk_analyzer.py`, with the goal and the assessment of `models.py`
  and the levels of `planner/enums.py`).

  `analyze` compares the levels as texts where it caps the overall risk
  (`RiskLevel.Exceeds`).  The order of severity, in which the aggregation is monotone, is a
  linear order of its own.  Of a goal only what the analyzers read is kept.
-/

import Mathlib.Data.Fintype.Defs
import Mathlib.Data.Rat.Defs
import Mathlib.Order.Basic
import Eag.Planner.DependencyResolver

namespace Eag.Planner

open Eag.Foundation

/-! ## Goals -/

/-- `GoalType`. -/
inductive GoalType where
  | analysis
  | bugfix
  | documentation
  | feature
  | infrastructure
  | maintenance
  | refactor
  deriving DecidableEq, Repr

/-- `EngineeringOperation`. -/
inductive EngineeringOperation where
  | analyze
  | create
  | delete
  | document
  | extract
  | fix
  | move
  | rename
  | refactor
  | test
  | upgrade
  deriving DecidableEq, Repr

/-- `EngineeringComplexity`. -/
inductive EngineeringComplexity where
  | trivial
  | low
  | medium
  | high
  | extreme
  deriving DecidableEq, Repr

/-- `EngineeringScope`. -/
inductive EngineeringScope where
  | symbol
  | file
  | module
  | package
  | repository
  | system
  deriving DecidableEq, Repr

/-- `operation.name.lower()`. -/
def EngineeringOperation.lowerName : EngineeringOperation → String
  | .analyze => "analyze"
  | .create => "create"
  | .delete => "delete"
  | .document => "document"
  | .extract => "extract"
  | .fix => "fix"
  | .move => "move"
  | .rename => "rename"
  | .refactor => "refactor"
  | .test => "test"
  | .upgrade => "upgrade"

/-- `scope.name.capitalize()`. -/
def EngineeringScope.capitalizedName : EngineeringScope → String
  | .symbol => "Symbol"
  | .file => "File"
  | .module => "Module"
  | .package => "Package"
  | .repository => "Repository"
  | .system => "System"

/-- `PlanningGoal`. -/
structure PlanningGoal where
  goalType : GoalType
  deriving DecidableEq, Repr

/-- `EngineeringGoal`. -/
structure EngineeringGoal where
  planningGoal : PlanningGoal
  operation : EngineeringOperation
  scope : EngineeringScope
  deriving DecidableEq, Repr

/-! ## Levels of risk -/

/-- `RiskLevel`. -/
inductive RiskLevel where
  | none
  | low
  | medium
  | high
  | critical
  deriving DecidableEq, Repr

namespace RiskLevel

/-- All the levels. -/
instance : Fintype RiskLevel where
  elems := {.none, .low, .medium, .high, .critical}
  complete level := by cases level <;> decide

/-- The text of a level. -/
def value : RiskLevel → String
  | .none => "none"
  | .low => "low"
  | .medium => "medium"
  | .high => "high"
  | .critical => "critical"

/-- `level > other`: the comparison of the texts. -/
def Exceeds (level other : RiskLevel) : Prop := other.value < level.value

instance (level other : RiskLevel) : Decidable (level.Exceeds other) :=
  inferInstanceAs (Decidable (other.value < level.value))

/-- How severe a level is. -/
def severity : RiskLevel → Nat
  | .none => 0
  | .low => 1
  | .medium => 2
  | .high => 3
  | .critical => 4

theorem severity_injective : Function.Injective severity := by
  intro level other h
  revert level other
  decide

/-- The order of severity. -/
instance : LinearOrder RiskLevel := LinearOrder.lift' severity severity_injective

theorem none_le : ∀ level : RiskLevel, .none ≤ level := by decide

theorem le_critical : ∀ level : RiskLevel, level ≤ .critical := by decide

theorem le_high_of_ne : ∀ level : RiskLevel, level ≠ .critical → level ≤ .high := by decide

theorem le_medium_of_ne :
    ∀ level : RiskLevel, level ≠ .critical → level ≠ .high → level ≤ .medium := by decide

theorem le_low_of_ne : ∀ level : RiskLevel, level ≤ .medium → level ≠ .medium → level ≤ .low := by
  decide

theorem le_none_of_ne : ∀ level : RiskLevel, level ≤ .low → level ≠ .low → level ≤ .none := by
  decide

theorem medium_le_iff :
    ∀ level : RiskLevel, level ≠ .critical → level ≠ .high →
      (.medium ≤ level ↔ level = .medium) := by decide

end RiskLevel

/-! ## The assessment -/

/-- `EngineeringRiskFactor`. -/
inductive EngineeringRiskFactor where
  | largeScope
  | manyDependencies
  | deleteOperation
  | refactor
  | infrastructure
  | testingOnly
  | documentationOnly
  | analysisOnly
  deriving DecidableEq, Repr

/-- `EngineeringRiskAssessment`. -/
structure EngineeringRiskAssessment where
  overallRisk : RiskLevel
  confidence : Rat
  scopeRisk : RiskLevel
  changeRisk : RiskLevel
  graphRisk : RiskLevel
  dependencyRisk : RiskLevel
  factors : List EngineeringRiskFactor
  requiresApproval : Bool
  rollbackComplexity : EngineeringComplexity
  summary : String
  deriving DecidableEq, Repr

namespace RiskAnalyzer

/-- `_evaluate_scope`. -/
def evaluateScope : EngineeringScope → RiskLevel
  | .symbol => .none
  | .file => .low
  | .module => .low
  | .package => .medium
  | .repository => .high
  | .system => .critical

/-- `_evaluate_change`: an operation that the mapping leaves out is of medium risk. -/
def evaluateChange : EngineeringOperation → RiskLevel
  | .analyze => .none
  | .test => .none
  | .document => .low
  | .fix => .low
  | .refactor => .medium
  | .create => .medium
  | .delete => .high
  | .upgrade => .high
  | .extract | .move | .rename => .medium

/-- `_evaluate_graph`. -/
def evaluateGraph (stats : TaskDependencyStatistics) : RiskLevel :=
  if stats.taskCount ≤ 5 then .low
  else if stats.taskCount ≤ 20 then .medium
  else .high

/-- `_evaluate_dependency`. -/
def evaluateDependency (stats : TaskDependencyStatistics) : RiskLevel :=
  if stats.maximumDepth ≤ 2 then .low
  else if stats.maximumDepth ≤ 5 then .medium
  else .high

/-- `_collect_factors`. -/
def collectFactors (goal : EngineeringGoal) (graph : TaskDependencyGraph) :
    List EngineeringRiskFactor :=
  (if goal.scope = .repository ∨ goal.scope = .system then [.largeScope] else [])
    ++ (if graph.statistics.taskCount > 10 then [.manyDependencies] else [])
    ++ (if goal.operation = .delete then [.deleteOperation] else [])
    ++ (if goal.operation = .refactor ∨ goal.operation = .rename then [.refactor] else [])
    ++ (if goal.planningGoal.goalType = .infrastructure then [.infrastructure] else [])
    ++ (if goal.operation = .test then [.testingOnly] else [])
    ++ (if goal.operation = .document then [.documentationOnly] else [])
    ++ (if goal.operation = .analyze then [.analysisOnly] else [])

/-- `_aggregate`. -/
def aggregate (risks : List RiskLevel) : RiskLevel :=
  if .critical ∈ risks then .critical
  else if .high ∈ risks then .high
  else if risks.count .medium ≥ 3 then .high
  else if .medium ∈ risks then .medium
  else if .low ∈ risks then .low
  else .none

/-- `_requires_approval`. -/
def requiresApproval (overall : RiskLevel) : Bool := overall ∈ [RiskLevel.high, .critical]

/-- `_evaluate_rollback`. -/
def evaluateRollback (goal : EngineeringGoal) : EngineeringComplexity :=
  match goal.operation with
  | .delete =>
      match goal.scope with
      | .symbol | .file => .medium
      | .module | .package => .high
      | .repository | .system => .extreme
  | .analyze => .trivial
  | .document => .trivial
  | .test => .trivial
  | .fix => .low
  | .refactor => .medium
  | .create => .medium
  | .upgrade => .high
  | .extract | .move | .rename => .medium

/-- `_build_summary`. -/
def buildSummary (goal : EngineeringGoal) (graph : TaskDependencyGraph) (approval : Bool) :
    String :=
  goal.scope.capitalizedName ++ "-wide " ++ goal.operation.lowerName ++ " affecting "
    ++ toString graph.statistics.taskCount ++ " engineering tasks."
    ++ (if approval then " Manual approval required." else "")

/-- The cap of `analyze`: a change without risk is as risky as its scope. -/
def cap (changeRisk scopeRisk overall : RiskLevel) : RiskLevel :=
  if changeRisk = .none ∧ overall.Exceeds scopeRisk then scopeRisk else overall

/-- The four risks of a goal and a graph. -/
def risksOf (goal : EngineeringGoal) (graph : TaskDependencyGraph) : List RiskLevel :=
  [evaluateScope goal.scope, evaluateChange goal.operation, evaluateGraph graph.statistics,
    evaluateDependency graph.statistics]

/-- `analyze`: the approval and the summary are settled before the cap. -/
def analyze (goal : EngineeringGoal) (graph : TaskDependencyGraph) : EngineeringRiskAssessment :=
  let overall := aggregate (risksOf goal graph)
  let approval := requiresApproval overall
  { overallRisk := cap (evaluateChange goal.operation) (evaluateScope goal.scope) overall
    confidence := if goal.operation = .upgrade then 95 / 100 else 1
    scopeRisk := evaluateScope goal.scope
    changeRisk := evaluateChange goal.operation
    graphRisk := evaluateGraph graph.statistics
    dependencyRisk := evaluateDependency graph.statistics
    factors := collectFactors goal graph
    requiresApproval := approval
    rollbackComplexity := evaluateRollback goal
    summary := buildSummary goal graph approval }

/-! ## Severity of the aggregate -/

variable {level : RiskLevel} {risks greater : List RiskLevel}

/-- The risks raise their aggregate to a level: one of them is that severe, or three of them
    are at least medium and the level is at most high. -/
def Reaches (level : RiskLevel) (risks : List RiskLevel) : Prop :=
  (∃ risk ∈ risks, level ≤ risk) ∨ level ≤ .high ∧ 3 ≤ risks.countP (RiskLevel.medium ≤ ·)

/-- Below high, a risk that is at least medium is medium. -/
theorem countP_medium (hcritical : .critical ∉ risks) (hhigh : .high ∉ risks) :
    risks.countP (RiskLevel.medium ≤ ·) = risks.count .medium := by
  rw [List.count_eq_countP]
  apply List.countP_congr
  intro risk hrisk
  rw [decide_eq_true_iff, beq_iff_eq]
  exact RiskLevel.medium_le_iff risk (fun h => hcritical (h ▸ hrisk)) (fun h => hhigh (h ▸ hrisk))

/-- **The aggregate in the order of severity.** -/
theorem le_aggregate_iff (hlevel : level ≠ .none) :
    level ≤ aggregate risks ↔ Reaches level risks := by
  unfold aggregate Reaches
  by_cases hcritical : RiskLevel.critical ∈ risks
  · rw [if_pos hcritical]
    exact iff_of_true level.le_critical (.inl ⟨_, hcritical, level.le_critical⟩)
  rw [if_neg hcritical]
  by_cases hhigh : RiskLevel.high ∈ risks
  · rw [if_pos hhigh]
    constructor
    · exact fun h => .inl ⟨_, hhigh, h⟩
    · rintro (⟨risk, hrisk, h⟩ | ⟨h, -⟩)
      · exact h.trans (risk.le_high_of_ne fun e => hcritical (e ▸ hrisk))
      · exact h
  rw [if_neg hhigh, countP_medium hcritical hhigh]
  -- From here on every risk is at most medium.
  have hmedium : ∀ risk ∈ risks, risk ≤ .medium := fun risk hrisk =>
    risk.le_medium_of_ne (fun h => hcritical (h ▸ hrisk)) (fun h => hhigh (h ▸ hrisk))
  by_cases hcount : risks.count .medium ≥ 3
  · rw [if_pos hcount]
    constructor
    · exact fun h => .inr ⟨h, hcount⟩
    · rintro (⟨risk, hrisk, h⟩ | ⟨h, -⟩)
      · exact (h.trans (hmedium risk hrisk)).trans (by decide)
      · exact h
  rw [if_neg hcount]
  have hfew : ¬ 3 ≤ risks.count .medium := hcount
  simp only [hfew, and_false, or_false]
  by_cases hsome : RiskLevel.medium ∈ risks
  · rw [if_pos hsome]
    exact ⟨fun h => ⟨_, hsome, h⟩, fun ⟨risk, hrisk, h⟩ => h.trans (hmedium risk hrisk)⟩
  rw [if_neg hsome]
  have hlow : ∀ risk ∈ risks, risk ≤ .low := fun risk hrisk =>
    risk.le_low_of_ne (hmedium risk hrisk) fun h => hsome (h ▸ hrisk)
  by_cases hany : RiskLevel.low ∈ risks
  · rw [if_pos hany]
    exact ⟨fun h => ⟨_, hany, h⟩, fun ⟨risk, hrisk, h⟩ => h.trans (hlow risk hrisk)⟩
  · rw [if_neg hany]
    have hzero : ∀ level : RiskLevel, level ≤ .none → level = .none := by decide
    refine iff_of_false (fun h => hlevel (hzero level h)) ?_
    rintro ⟨risk, hrisk, h⟩
    have hnone : risk ≤ .none :=
      risk.le_none_of_ne (hlow risk hrisk) fun e => hany (e ▸ hrisk)
    exact hlevel (hzero level (h.trans hnone))

/-- A risk is at most the aggregate it is part of. -/
theorem le_aggregate_of_mem (hmem : level ∈ risks) : level ≤ aggregate risks := by
  by_cases hlevel : level = .none
  · rw [hlevel]
    exact RiskLevel.none_le _
  · exact (le_aggregate_iff hlevel).2 (.inl ⟨level, hmem, le_refl level⟩)

/-- Of two lists that grow place by place, the second has a risk of every level the first has. -/
theorem exists_le_of_forall₂ (hle : List.Forall₂ (· ≤ ·) risks greater) :
    (∃ risk ∈ risks, level ≤ risk) → ∃ risk ∈ greater, level ≤ risk := by
  rintro ⟨risk, hmem, hlevel⟩
  obtain ⟨other, hother, hrisk⟩ := exists_mem_of_forall₂ hle hmem
  exact ⟨other, hother, hlevel.trans hrisk⟩

/-- It also has at least as many risks of that level. -/
theorem countP_le_of_forall₂ (hle : List.Forall₂ (· ≤ ·) risks greater) :
    risks.countP (level ≤ ·) ≤ greater.countP (level ≤ ·) := by
  induction hle with
  | nil => exact le_refl _
  | @cons risk other risks greater hrisk _ ih =>
      rw [List.countP_cons, List.countP_cons]
      by_cases hlevel : level ≤ risk
      · rw [if_pos (by simpa using hlevel), if_pos (by simpa using hlevel.trans hrisk)]
        omega
      · rw [if_neg (by simpa using hlevel)]
        omega

theorem Reaches.mono (hle : List.Forall₂ (· ≤ ·) risks greater) (h : Reaches level risks) :
    Reaches level greater := by
  rcases h with h | ⟨hhigh, hthree⟩
  · exact .inl (exists_le_of_forall₂ hle h)
  · exact .inr ⟨hhigh, hthree.trans (countP_le_of_forall₂ hle)⟩

/-- **More severe risks have an aggregate that is at least as severe.** -/
theorem aggregate_mono (hle : List.Forall₂ (· ≤ ·) risks greater) :
    aggregate risks ≤ aggregate greater := by
  by_cases hnone : aggregate risks = .none
  · rw [hnone]
    exact RiskLevel.none_le _
  · have hreaches : Reaches (aggregate risks) risks := (le_aggregate_iff hnone).1 (le_refl _)
    exact (le_aggregate_iff hnone).2 (hreaches.mono hle)

/-! ## The analysis of a larger graph -/

variable {goal : EngineeringGoal} {graph larger : TaskDependencyGraph}

theorem evaluateGraph_mono {stats greater : TaskDependencyStatistics}
    (h : stats.taskCount ≤ greater.taskCount) : evaluateGraph stats ≤ evaluateGraph greater := by
  unfold evaluateGraph
  split_ifs <;> first | decide | omega

theorem evaluateDependency_mono {stats greater : TaskDependencyStatistics}
    (h : stats.maximumDepth ≤ greater.maximumDepth) :
    evaluateDependency stats ≤ evaluateDependency greater := by
  unfold evaluateDependency
  split_ifs <;> first | decide | omega

theorem risksOf_mono (htasks : graph.statistics.taskCount ≤ larger.statistics.taskCount)
    (hdepth : graph.statistics.maximumDepth ≤ larger.statistics.maximumDepth) :
    List.Forall₂ (· ≤ ·) (risksOf goal graph) (risksOf goal larger) :=
  .cons (le_refl _) <| .cons (le_refl _) <| .cons (evaluateGraph_mono htasks) <|
    .cons (evaluateDependency_mono hdepth) .nil

/-- The cap compares texts, and still keeps the order of levels that are at least the scope's:
    of these it only lowers medium to low. -/
theorem cap_mono : ∀ changeRisk scopeRisk overall greater : RiskLevel,
    scopeRisk ≤ overall → overall ≤ greater →
      cap changeRisk scopeRisk overall ≤ cap changeRisk scopeRisk greater := by
  intro changeRisk scopeRisk overall greater
  by_cases hchange : changeRisk = .none
  · subst hchange
    revert scopeRisk overall greater
    decide +kernel
  · simp only [cap, hchange, false_and, if_false]
    exact fun _ h => h

/-- The cap never moves a level into those that need an approval, or out of them. -/
theorem requiresApproval_cap : ∀ changeRisk scopeRisk overall : RiskLevel, scopeRisk ≤ overall →
    requiresApproval (cap changeRisk scopeRisk overall) = requiresApproval overall := by
  decide +kernel

theorem scopeRisk_le : evaluateScope goal.scope ≤ aggregate (risksOf goal graph) :=
  le_aggregate_of_mem (List.mem_cons_self ..)

/-- **A graph with as many tasks and as great a depth is rated at least as severe.** -/
theorem overallRisk_mono (htasks : graph.statistics.taskCount ≤ larger.statistics.taskCount)
    (hdepth : graph.statistics.maximumDepth ≤ larger.statistics.maximumDepth) :
    (analyze goal graph).overallRisk ≤ (analyze goal larger).overallRisk :=
  cap_mono _ _ _ _ scopeRisk_le (aggregate_mono (risksOf_mono htasks hdepth))

theorem requiresApproval_iff {overall : RiskLevel} :
    requiresApproval overall = true ↔ overall = .high ∨ overall = .critical := by
  simp [requiresApproval]

/-- **The flag of the assessment is that of the risk it returns**, although it is settled
    before the cap. -/
theorem analyze_requiresApproval_iff :
    (analyze goal graph).requiresApproval = true ↔
      (analyze goal graph).overallRisk = .high ∨ (analyze goal graph).overallRisk = .critical := by
  have hflag : (analyze goal graph).requiresApproval
      = requiresApproval (analyze goal graph).overallRisk :=
    (requiresApproval_cap _ _ _ scopeRisk_le).symm
  rw [hflag, requiresApproval_iff]

/-! ## Where the cap holds -/

/-- The goals and the statistics of which the cap keeps the overall risk at the scope risk,
    among the goals whose change is without risk. -/
def CapHolds (scope : EngineeringScope) (stats : TaskDependencyStatistics) : Prop :=
  match scope with
  | .symbol => False
  | .file | .module => stats.taskCount ≤ 20 ∧ stats.maximumDepth ≤ 5
  | .package =>
      stats.taskCount ≤ 20 ∧ stats.maximumDepth ≤ 5
        ∧ (stats.taskCount ≤ 5 ∨ stats.maximumDepth ≤ 2)
  | .repository | .system => True

/-- A level that a count of tasks or a depth can have. -/
def Graded (risk : RiskLevel) : Prop := risk = .low ∨ risk = .medium ∨ risk = .high

instance (risk : RiskLevel) : Decidable (Graded risk) :=
  inferInstanceAs (Decidable (risk = .low ∨ risk = .medium ∨ risk = .high))

theorem evaluateGraph_graded (stats : TaskDependencyStatistics) : Graded (evaluateGraph stats) := by
  unfold evaluateGraph
  split_ifs <;> decide

theorem evaluateDependency_graded (stats : TaskDependencyStatistics) :
    Graded (evaluateDependency stats) := by
  unfold evaluateDependency
  split_ifs <;> decide

theorem evaluateGraph_eq_low_iff {stats : TaskDependencyStatistics} :
    evaluateGraph stats = .low ↔ stats.taskCount ≤ 5 := by
  unfold evaluateGraph
  split_ifs with hfew <;> simp [hfew]

theorem evaluateGraph_ne_high_iff {stats : TaskDependencyStatistics} :
    evaluateGraph stats ≠ .high ↔ stats.taskCount ≤ 20 := by
  unfold evaluateGraph
  split_ifs with hfew hsome <;> simp <;> omega

theorem evaluateDependency_eq_low_iff {stats : TaskDependencyStatistics} :
    evaluateDependency stats = .low ↔ stats.maximumDepth ≤ 2 := by
  unfold evaluateDependency
  split_ifs with hflat <;> simp [hflat]

theorem evaluateDependency_ne_high_iff {stats : TaskDependencyStatistics} :
    evaluateDependency stats ≠ .high ↔ stats.maximumDepth ≤ 5 := by
  unfold evaluateDependency
  split_ifs with hflat hsome <;> simp <;> omega

section Table

variable {graphRisk dependencyRisk : RiskLevel}

/-- No level is above the text of the level none, so nothing is capped at it. -/
theorem cap_at_none (hgraph : Graded graphRisk) (hdep : Graded dependencyRisk) :
    ¬ cap .none .none (aggregate [.none, .none, graphRisk, dependencyRisk]) ≤ .none := by
  revert graphRisk dependencyRisk
  decide +kernel

/-- Medium is capped at low; high is not. -/
theorem cap_at_low_iff (hgraph : Graded graphRisk) (hdep : Graded dependencyRisk) :
    cap .none .low (aggregate [.low, .none, graphRisk, dependencyRisk]) ≤ .low ↔
      graphRisk ≠ .high ∧ dependencyRisk ≠ .high := by
  revert graphRisk dependencyRisk
  decide +kernel

/-- High is not capped at medium, and three risks that are medium aggregate to high. -/
theorem cap_at_medium_iff (hgraph : Graded graphRisk) (hdep : Graded dependencyRisk) :
    cap .none .medium (aggregate [.medium, .none, graphRisk, dependencyRisk]) ≤ .medium ↔
      graphRisk ≠ .high ∧ dependencyRisk ≠ .high ∧ (graphRisk = .low ∨ dependencyRisk = .low) := by
  revert graphRisk dependencyRisk
  decide +kernel

/-- The aggregate is at most high beside a scope that is. -/
theorem cap_at_high {scopeRisk : RiskLevel} (hscope : .high ≤ scopeRisk)
    (hgraph : Graded graphRisk) (hdep : Graded dependencyRisk) :
    cap .none scopeRisk (aggregate [scopeRisk, .none, graphRisk, dependencyRisk]) ≤ scopeRisk := by
  revert scopeRisk graphRisk dependencyRisk
  decide +kernel

end Table

/-- **Of a change without risk the overall risk is at most that of the scope exactly where the
    cap holds.** -/
theorem overallRisk_le_scopeRisk_iff (hchange : evaluateChange goal.operation = .none) :
    (analyze goal graph).overallRisk ≤ evaluateScope goal.scope ↔
      CapHolds goal.scope graph.statistics := by
  have hgraph := evaluateGraph_graded graph.statistics
  have hdep := evaluateDependency_graded graph.statistics
  have hoverall : (analyze goal graph).overallRisk
      = cap .none (evaluateScope goal.scope) (aggregate [evaluateScope goal.scope, .none,
          evaluateGraph graph.statistics, evaluateDependency graph.statistics]) := by
    rw [← hchange]
    rfl
  rw [hoverall]
  unfold CapHolds
  cases goal.scope with
  | symbol => exact iff_of_false (cap_at_none hgraph hdep) not_false
  | file | module =>
      rw [← evaluateGraph_ne_high_iff, ← evaluateDependency_ne_high_iff]
      exact cap_at_low_iff hgraph hdep
  | package =>
      rw [← evaluateGraph_ne_high_iff, ← evaluateDependency_ne_high_iff,
        ← evaluateGraph_eq_low_iff, ← evaluateDependency_eq_low_iff]
      exact cap_at_medium_iff hgraph hdep
  | repository => exact iff_of_true (cap_at_high (by decide) hgraph hdep) trivial
  | system => exact iff_of_true (cap_at_high (by decide) hgraph hdep) trivial

end RiskAnalyzer

end Eag.Planner
