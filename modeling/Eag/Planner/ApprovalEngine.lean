/-
  Eag.Planner.ApprovalEngine

  The approval engine of the planner (`planner/approval/engine.py`, `policies.py`, `models.py`),
  and what an assessment of risk that requires an approval means for it.

  A policy is any function to a finding; the engine that is made without policies has the four
  of `policies.py`.  Of a validation only whether it is valid is read, and of a simulation its
  status.
-/

import Eag.Foundation.Calendar
import Eag.Planner.EffortEstimator

namespace Eag.Planner

open Eag.Foundation

/-! ## Vocabulary -/

/-- `ApprovalState`. -/
inductive ApprovalState where
  | pending
  | autoApproved
  | approved
  | rejected
  | expired
  deriving DecidableEq, Repr

/-- `ApprovalLevel`. -/
inductive ApprovalLevel where
  | none
  | low
  | medium
  | high
  | critical
  deriving DecidableEq, Repr

/-- `level_order[level]`. -/
def ApprovalLevel.order : ApprovalLevel → Nat
  | .none => 0
  | .low => 1
  | .medium => 2
  | .high => 3
  | .critical => 4

/-- `ApprovalReason`. -/
inductive ApprovalReason where
  | lowRisk
  | highRisk
  | dangerousOperation
  | validationFailure
  | simulationWarning
  | ownerRequired
  | manualPolicy
  deriving DecidableEq, Repr

/-- `SimulationStatus`. -/
inductive SimulationStatus where
  | ready
  | warning
  | blocked
  deriving DecidableEq, Repr

/-- `EngineeringPlanningArtifact`. -/
structure EngineeringPlanningArtifact where
  goal : PlanningGoal
  engineeringGoal : EngineeringGoal
  tasks : List EngineeringTask
  graph : TaskDependencyGraph
  risk : EngineeringRiskAssessment
  executionProfile : EngineeringExecutionProfile

/-- `EngineeringPlanValidationResult`. -/
structure EngineeringPlanValidationResult where
  valid : Bool
  deriving DecidableEq, Repr

/-- `EngineeringSimulationReport`. -/
structure EngineeringSimulationReport where
  status : SimulationStatus
  deriving DecidableEq, Repr

/-- `ApprovalDecision`. -/
structure ApprovalDecision where
  state : ApprovalState
  reason : ApprovalReason
  approvedBy : Option String
  approvedAt : Option DateTime
  comments : String
  deriving DecidableEq, Repr

/-- `ApprovalFinding`. -/
structure ApprovalFinding where
  policyName : String
  approved : Bool
  requiresManual : Bool
  requiredLevel : ApprovalLevel := .none
  reasons : List ApprovalReason := []
  summary : String := ""
  deriving DecidableEq, Repr

/-- `ApprovalResult`. -/
structure ApprovalResult where
  approved : Bool
  decision : ApprovalDecision
  requiredLevel : ApprovalLevel
  triggeredPolicies : List String
  summary : String
  deriving DecidableEq, Repr

/-! ## Policies -/

/-- `ApprovalPolicy`. -/
abbrev ApprovalPolicy :=
  EngineeringPlanningArtifact → EngineeringPlanValidationResult → EngineeringSimulationReport →
    ApprovalFinding

/-- `AutomaticApprovalPolicy`. -/
def automaticApprovalPolicy : ApprovalPolicy := fun artifact validation simulation =>
  if validation.valid = true ∧ simulation.status = .ready ∧
      artifact.risk.overallRisk ∈ [RiskLevel.none, .low] then
    { policyName := "AutomaticApprovalPolicy", approved := true, requiresManual := false
      requiredLevel := .none, reasons := [.lowRisk]
      summary := "Plan is safe and automatically approved." }
  else
    { policyName := "AutomaticApprovalPolicy", approved := false, requiresManual := false
      summary := "Plan does not meet automatic approval criteria." }

/-- `RiskApprovalPolicy`. -/
def riskApprovalPolicy : ApprovalPolicy := fun artifact _ _ =>
  match artifact.risk.overallRisk with
  | .high =>
      { policyName := "RiskApprovalPolicy", approved := false, requiresManual := true
        requiredLevel := .high, reasons := [.highRisk]
        summary := "High risk detected. Manual approval required." }
  | .critical =>
      { policyName := "RiskApprovalPolicy", approved := false, requiresManual := true
        requiredLevel := .critical, reasons := [.highRisk]
        summary := "Critical risk detected. Executive approval required." }
  | .none | .low | .medium =>
      { policyName := "RiskApprovalPolicy", approved := true, requiresManual := false
        summary := "Risk level is acceptable." }

/-- `DangerousOperationPolicy`. -/
def dangerousOperationPolicy : ApprovalPolicy := fun artifact _ _ =>
  match artifact.engineeringGoal.operation with
  | .delete =>
      { policyName := "DangerousOperationPolicy", approved := false, requiresManual := true
        requiredLevel := .critical, reasons := [.dangerousOperation]
        summary := "Dangerous operation (DELETE) detected. Critical approval required." }
  | .upgrade =>
      { policyName := "DangerousOperationPolicy", approved := false, requiresManual := true
        requiredLevel := .critical, reasons := [.dangerousOperation]
        summary := "Dangerous operation (UPGRADE) detected. Critical approval required." }
  | _ =>
      { policyName := "DangerousOperationPolicy", approved := true, requiresManual := false
        summary := "Operation is not classified as dangerous." }

/-- `OwnershipPolicy`. -/
def ownershipPolicy : ApprovalPolicy := fun artifact _ _ =>
  if artifact.engineeringGoal.scope = .repository then
    { policyName := "OwnershipPolicy", approved := false, requiresManual := true
      requiredLevel := .high, reasons := [.ownerRequired]
      summary := "Repository-wide change requires Architecture Owner approval." }
  else
    { policyName := "OwnershipPolicy", approved := true, requiresManual := false
      summary := "Change scope is within standard authority." }

/-! ## The engine -/

/-- `ApprovalEngine`. -/
structure ApprovalEngine where
  policies : List ApprovalPolicy

namespace ApprovalEngine

/-- `ApprovalEngine(policies)`: no policies, or an empty list of them, stand for the four. -/
def new (policies : Option (List ApprovalPolicy)) : ApprovalEngine :=
  match policies with
  | none | some [] =>
      ⟨[automaticApprovalPolicy, riskApprovalPolicy, dangerousOperationPolicy, ownershipPolicy]⟩
  | some given => ⟨given⟩

/-- What `evaluate` has gathered from the findings. -/
structure Gathered where
  approved : Bool := true
  requiresManual : Bool := false
  requiredLevel : ApprovalLevel := .none
  reasons : List ApprovalReason := []
  triggered : List String := []
  summaries : List String := []
  deriving DecidableEq, Repr

/-- One round of the loop over the findings. -/
def gather (gathered : Gathered) (finding : ApprovalFinding) : Gathered where
  approved := gathered.approved && finding.approved && !finding.requiresManual
  requiresManual := gathered.requiresManual || finding.requiresManual
  requiredLevel :=
    if finding.requiredLevel.order > gathered.requiredLevel.order then finding.requiredLevel
    else gathered.requiredLevel
  reasons := finding.reasons.foldl
    (fun reasons reason => if reason ∈ reasons then reasons else reasons ++ [reason])
    gathered.reasons
  triggered := gathered.triggered ++ [finding.policyName]
  summaries := gathered.summaries ++ if finding.requiresManual then [finding.summary] else []

/-- The state, the reason and the summary that the findings end in. -/
def conclude (gathered : Gathered) : ApprovalState × ApprovalReason × String :=
  if gathered.requiresManual then
    (.pending, gathered.reasons.head?.getD .manualPolicy,
      if gathered.summaries = [] then "Manual approval required."
      else String.intercalate " " gathered.summaries)
  else if gathered.approved then
    (.autoApproved, .lowRisk, "Plan automatically approved by governance engine.")
  else (.pending, .manualPolicy, "Plan requires manual review.")

/-- `evaluate`, at a time. -/
def evaluate (engine : ApprovalEngine) (artifact : EngineeringPlanningArtifact)
    (validation : EngineeringPlanValidationResult) (simulation : EngineeringSimulationReport)
    (now : DateTime) : ApprovalResult :=
  let findings := engine.policies.map fun policy => policy artifact validation simulation
  if validation.valid = false then
    { approved := false
      decision := ⟨.rejected, .validationFailure, none, none, "Plan failed validation."⟩
      requiredLevel := .none
      triggeredPolicies := findings.map (·.policyName)
      summary := "Plan rejected due to validation failures." }
  else
    let gathered := findings.foldl gather {}
    let (state, reason, summary) := conclude gathered
    { approved := state = .autoApproved
      decision := {
        state
        reason
        approvedBy := if state = .autoApproved then some "system" else none
        approvedAt := if state = .autoApproved then some now else none
        comments := summary }
      requiredLevel := gathered.requiredLevel
      triggeredPolicies := gathered.triggered
      summary }

/-! ## A manual finding is never approved automatically -/

/-- The loop requires a manual review when it did before, or a finding does. -/
theorem foldl_gather_requiresManual (findings : List ApprovalFinding) (gathered : Gathered) :
    (findings.foldl gather gathered).requiresManual = true ↔
      gathered.requiresManual = true ∨ ∃ finding ∈ findings, finding.requiresManual = true := by
  induction findings generalizing gathered with
  | nil => simp
  | cons finding rest ih =>
      rw [List.foldl_cons, ih, List.exists_mem_cons_iff, ← or_assoc]
      have hround : (gather gathered finding).requiresManual = true ↔
          gathered.requiresManual = true ∨ finding.requiresManual = true := Bool.or_eq_true_iff
      rw [hround]

theorem conclude_of_requiresManual {gathered : Gathered} (h : gathered.requiresManual = true) :
    (conclude gathered).1 = .pending := by
  unfold conclude
  rw [if_pos h]

variable {engine : ApprovalEngine} {artifact : EngineeringPlanningArtifact}

/-- **A plan of high or critical risk is not approved automatically**, whatever the other
    policies find. -/
theorem evaluate_ne_autoApproved (hpolicy : riskApprovalPolicy ∈ engine.policies)
    (hrisk : artifact.risk.overallRisk = .high ∨ artifact.risk.overallRisk = .critical)
    (validation : EngineeringPlanValidationResult) (simulation : EngineeringSimulationReport)
    (now : DateTime) :
    (engine.evaluate artifact validation simulation now).decision.state ≠ .autoApproved ∧
      (engine.evaluate artifact validation simulation now).approved = false := by
  unfold evaluate
  by_cases hvalid : validation.valid = false
  · rw [if_pos hvalid]
    exact ⟨nofun, rfl⟩
  rw [if_neg hvalid]
  have hfinding : (riskApprovalPolicy artifact validation simulation).requiresManual = true := by
    unfold riskApprovalPolicy
    rcases hrisk with h | h <;> rw [h]
  have hmanual : ((engine.policies.map fun policy => policy artifact validation simulation).foldl
      gather {}).requiresManual = true :=
    (foldl_gather_requiresManual _ _).mpr
      (.inr ⟨_, List.mem_map_of_mem hpolicy, hfinding⟩)
  have hpending := conclude_of_requiresManual hmanual
  dsimp only
  rw [hpending]
  exact ⟨nofun, rfl⟩

end ApprovalEngine

/-! ## The analysis and the engine -/

open RiskAnalyzer ApprovalEngine

/-- What is asked of the analysis of a goal and a graph: a graph with as many tasks and as great
    a depth is rated at least as severe, a change without risk is rated at most at its scope, the
    flag is that of the rating, and no engine with the policy on risk approves a flagged plan
    automatically. -/
structure RatesSoundly (goal : EngineeringGoal) (graph : TaskDependencyGraph) : Prop where
  monotone : ∀ larger : TaskDependencyGraph,
    graph.statistics.taskCount ≤ larger.statistics.taskCount →
    graph.statistics.maximumDepth ≤ larger.statistics.maximumDepth →
      (analyze goal graph).overallRisk ≤ (analyze goal larger).overallRisk
  capped : (analyze goal graph).changeRisk = .none →
    (analyze goal graph).overallRisk ≤ (analyze goal graph).scopeRisk
  flagged : (analyze goal graph).requiresApproval = true ↔
    (analyze goal graph).overallRisk = .high ∨ (analyze goal graph).overallRisk = .critical
  never_automatic : ∀ (policies : Option (List ApprovalPolicy))
    (artifact : EngineeringPlanningArtifact) (validation : EngineeringPlanValidationResult)
    (simulation : EngineeringSimulationReport) (now : DateTime),
    riskApprovalPolicy ∈ (ApprovalEngine.new policies).policies →
    artifact.risk = analyze goal graph → artifact.risk.requiresApproval = true →
      ((ApprovalEngine.new policies).evaluate artifact validation simulation now).decision.state
        ≠ .autoApproved

/-- **The analysis is sound exactly where its cap holds**: the cap compares the levels as texts,
    so it lowers medium to low and leaves high above low, and anything above none. -/
theorem ratesSoundly_iff (goal : EngineeringGoal) (graph : TaskDependencyGraph) :
    RatesSoundly goal graph ↔
      (goal.operation = .analyze ∨ goal.operation = .test →
        CapHolds goal.scope graph.statistics) := by
  have hchange : evaluateChange goal.operation = .none ↔
      goal.operation = .analyze ∨ goal.operation = .test := by
    cases goal.operation <;> decide
  constructor
  · intro hsound hoperation
    exact (overallRisk_le_scopeRisk_iff (hchange.mpr hoperation)).mp
      (hsound.capped (hchange.mpr hoperation))
  · intro hcap
    exact {
      monotone := fun larger htasks hdepth => overallRisk_mono htasks hdepth
      capped := fun hnone =>
        (overallRisk_le_scopeRisk_iff hnone).mpr (hcap (hchange.mp hnone))
      flagged := analyze_requiresApproval_iff
      never_automatic := fun policies artifact validation simulation now hpolicy hrisk hflag =>
        (evaluate_ne_autoApproved hpolicy (by
          rw [hrisk] at hflag ⊢
          exact analyze_requiresApproval_iff.mp hflag) validation simulation now).1 }

/-- The graph of one task. -/
def oneTask : TaskDependencyGraph :=
  ⟨buildNodes [{ id := "task", dependencies := [] }], ⟨1, 0, 1, 1, 0, 1, false⟩⟩

/-- The analysis of a symbol changes nothing and is rated above its scope: no text is greater than
    that of the level none. -/
theorem symbol_analysis_above_scope :
    (analyze ⟨⟨.analysis⟩, .analyze, .symbol⟩ oneTask).overallRisk = .low ∧
    (analyze ⟨⟨.analysis⟩, .analyze, .symbol⟩ oneTask).scopeRisk = .none ∧
    ¬ ∀ (goal : EngineeringGoal) (graph : TaskDependencyGraph), RatesSoundly goal graph := by
  refine ⟨by decide, by decide, fun hclaim => ?_⟩
  have hcapped := (hclaim ⟨⟨.analysis⟩, .analyze, .symbol⟩ oneTask).capped (by decide)
  exact absurd hcapped (by decide)

end Eag.Planner
