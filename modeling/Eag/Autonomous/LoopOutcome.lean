/-
  Eag.Autonomous.LoopOutcome

  What a run of the autonomous loop ends with: the bound on its iterations, and how
  its outcome relates to the decisions of the completion engine and to the approval
  it asks for.

  The loop looks for a cycle of plans before it asks the completion engine about an
  iteration. An iteration that met its objective is therefore thrown away when its
  plan closes an A, B, A, B cycle; `outcome_consistent_iff` says that nothing else
  breaks the relation.
-/

import Mathlib.Data.List.Range
import Eag.Autonomous.ApprovalRuns

namespace Eag.Autonomous

open Eag.Foundation

/-- The decision ends the loop with its objective met. -/
def LoopDecision.SuccessfulStop (decision : LoopDecision) : Prop :=
  decision.requiresHuman = false ∧ decision.continueLoop = false ∧ decision.action = .stop

instance (decision : LoopDecision) : Decidable decision.SuccessfulStop :=
  inferInstanceAs (Decidable (_ ∧ _ ∧ _))

section

variable (completion : CompletionEngine) (recovery : RecoveryEngine) (context : LoopContext)
  (inputs : Nat → IterationInput) (approvals : Approvals)

/-! ## Iterations -/

/-- What the completion engine decides on an iteration. -/
def decisionAt (number : Nat) : LoopDecision :=
  completion (inputs number).run (inputs number).report number context.maxIterations

/-- The plans of the first iterations. -/
def planHistoryAt (count : Nat) : List String :=
  (List.range count).map fun i => planSignature (inputs (i + 1)).run.plan

/-- What the loop has accumulated when so many iterations went on. -/
def progressAt (count : Nat) : LoopProgress where
  iterations := (List.range count).map fun i => createIteration (i + 1) (inputs (i + 1))
  planHistory := planHistoryAt inputs count
  decisions := (List.range count).map fun i => decisionAt completion context inputs (i + 1)

/-- The loop goes on after the iteration. -/
def GoesOn (number : Nat) : Prop :=
  isOscillating (planHistoryAt inputs number) = false ∧
  (decisionAt completion context inputs number).requiresHuman = false ∧
  ¬ ((decisionAt completion context inputs number).action = .replan ∧
    recovery (inputs number).run (decisionAt completion context inputs number) = .abort) ∧
  (decisionAt completion context inputs number).continueLoop = true

instance (number : Nat) : Decidable (GoesOn completion recovery context inputs number) :=
  inferInstanceAs (Decidable (_ ∧ _ ∧ ¬ _ ∧ _))

/-- The loop gets to the iteration. -/
def Reached (number : Nat) : Prop :=
  1 ≤ number ∧ number ≤ context.maxIterations ∧
  ∀ earlier, 1 ≤ earlier → earlier < number →
    GoesOn completion recovery context inputs earlier

/-! ## Consistency -/

/-- **The outcome of a run is consistent** with the decisions made in it. -/
structure OutcomeConsistent (run : LoopRun) : Prop where
  iterations_le : run.result.iterations.length ≤ context.maxIterations
  finished_iff : run.result.outcome = .finished ↔
    ∃ decision, run.decisions.getLast? = some decision ∧ decision.SuccessfulStop
  completed_iff : run.result.state = .completed ↔ run.result.outcome = .finished
  waiting_iff : run.result.outcome = .waitingApproval ↔
    ∃ id, run.result.pendingApprovalId = some id ∧ run.approvals.stateOf id = some .pending
  approvals_kept : run.result.outcome ≠ .waitingApproval → run.approvals = approvals
  resumed : ∀ approved reviewer after result,
    resume run.approvals run.result approved reviewer = .ok (after, result) →
    run.result.outcome = .waitingApproval ∧ result.outcome ≠ .waitingApproval ∧
    result.iterations = run.result.iterations ∧
    ∀ id, run.result.pendingApprovalId = some id → after.stateOf id ≠ some .pending
  success_kept : run.exit = .oscillation →
    ¬ (decisionAt completion context inputs run.result.iterations.length).SuccessfulStop

/-- No iteration that the loop gets to meets its objective with a plan that closes a cycle. -/
def SuccessBreaksNoCycle : Prop :=
  ∀ number, Reached completion recovery context inputs number →
    isOscillating (planHistoryAt inputs number) = true →
    ¬ (decisionAt completion context inputs number).SuccessfulStop

end

/-! ## Resumed loops -/

/-- What a resumed loop returned says. -/
theorem resume_eq_ok {approvals after : Approvals} {loopResult result : LoopResult}
    {approved : Bool} {reviewer : String}
    (h : resume approvals loopResult approved reviewer = .ok (after, result)) :
    loopResult.state = .waitingApproval ∧ result.outcome ≠ .waitingApproval ∧
    ∃ id, loopResult.pendingApprovalId = some id ∧
      approvals.recordDecision id approved reviewer = .ok after := by
  unfold resume at h
  split at h
  · exact absurd h (by simp)
  · rename_i hwaiting
    cases hid : loopResult.pendingApprovalId with
    | none => simp [hid] at h
    | some id =>
        simp only [hid] at h
        cases hrecorded : approvals.recordDecision id approved reviewer with
        | error text => simp [hrecorded, bind, Except.bind] at h
        | ok recorded =>
            simp only [hrecorded, bind, Except.bind, Except.ok.injEq, Prod.mk.injEq] at h
            obtain ⟨rfl, rfl⟩ := h
            refine ⟨not_not.mp hwaiting, ?_, id, rfl, hrecorded⟩
            cases approved <;> simp

/-- A recorded decision leaves a request filed under its own identity decided. -/
theorem recordDecision_decided {approvals after : Approvals} {request : ApprovalRequest}
    {id : String} {approved : Bool} {reviewer : String} (hfound : approvals id = some request)
    (hid : request.id = id) (h : approvals.recordDecision id approved reviewer = .ok after) :
    after.stateOf id ≠ some .pending := by
  subst hid
  cases approved with
  | true =>
      simp only [Approvals.recordDecision, Approvals.approve, Approvals.resolve, hfound,
        if_true, Except.ok.injEq] at h
      rw [← h, stateOf_store, if_pos rfl]
      simp
  | false =>
      simp only [Approvals.recordDecision, Approvals.reject, Approvals.resolve, hfound,
        Bool.false_eq_true, if_false, Except.ok.injEq] at h
      rw [← h, stateOf_store, if_pos rfl]
      simp

/-! ## Runs -/

section

variable {completion : CompletionEngine} {recovery : RecoveryEngine} {context : LoopContext}
  {inputs : Nat → IterationInput} {approvals : Approvals}

theorem planHistoryAt_succ (inputs : Nat → IterationInput) (count : Nat) :
    planHistoryAt inputs (count + 1)
      = planHistoryAt inputs count ++ [planSignature (inputs (count + 1)).run.plan] := by
  unfold planHistoryAt
  rw [List.range_succ, List.map_append]
  rfl

theorem progressAt_succ (completion : CompletionEngine) (context : LoopContext)
    (inputs : Nat → IterationInput) (count : Nat) :
    progressAt completion context inputs (count + 1) =
      ⟨(progressAt completion context inputs count).iterations
          ++ [createIteration (count + 1) (inputs (count + 1))],
        (progressAt completion context inputs count).planHistory
          ++ [planSignature (inputs (count + 1)).run.plan],
        (progressAt completion context inputs count).decisions
          ++ [decisionAt completion context inputs (count + 1)]⟩ := by
  unfold progressAt
  simp only [List.range_succ, List.map_append, List.map_cons, List.map_nil, planHistoryAt_succ]

theorem iterations_progressAt (count : Nat) :
    (progressAt completion context inputs count).iterations.length = count := by
  simp [progressAt]

/-- **Step lemma.** An iteration that goes on leads to the next one. -/
theorem iterate_of_goesOn {count remaining : Nat}
    (h : GoesOn completion recovery context inputs (count + 1)) :
    iterate completion recovery context inputs approvals (remaining + 1) (count + 1)
        (progressAt completion context inputs count)
      = iterate completion recovery context inputs approvals remaining (count + 2)
        (progressAt completion context inputs (count + 1)) := by
  obtain ⟨hosc, hhuman, hrecovery, hcontinue⟩ := h
  have hhistory : (progressAt completion context inputs count).planHistory
      ++ [planSignature (inputs (count + 1)).run.plan] = planHistoryAt inputs (count + 1) :=
    (planHistoryAt_succ inputs count).symm
  unfold decisionAt at hhuman hrecovery hcontinue
  rw [iterate, progressAt_succ]
  simp only [hhistory, hosc, hhuman, hcontinue, if_neg hrecovery, Bool.false_eq_true, if_false,
    Bool.true_eq_false, decisionAt]

variable (approvals) in
/-- **Run lemma.** The loop gets to the iteration after those that go on. -/
theorem execute_eq_iterate {count : Nat} (hcount : count ≤ context.maxIterations)
    (h : ∀ number, 1 ≤ number → number ≤ count →
      GoesOn completion recovery context inputs number) :
    execute completion recovery context inputs approvals
      = iterate completion recovery context inputs approvals (context.maxIterations - count)
        (count + 1) (progressAt completion context inputs count) := by
  induction count with
  | zero => rfl
  | succ count ih =>
      rw [ih (by omega) fun number hpos hle => h number hpos (by omega)]
      obtain ⟨remaining, hremaining⟩ : ∃ remaining,
          context.maxIterations - count = remaining + 1 :=
        ⟨context.maxIterations - (count + 1), by omega⟩
      rw [hremaining, iterate_of_goesOn (h (count + 1) (by omega) le_rfl)]
      congr 1
      omega

/-- Either every iteration goes on, or there is a first one that does not. -/
theorem goesOn_or_first (completion : CompletionEngine) (recovery : RecoveryEngine)
    (context : LoopContext) (inputs : Nat → IterationInput) :
    (∀ number, 1 ≤ number → number ≤ context.maxIterations →
      GoesOn completion recovery context inputs number) ∨
    ∃ count < context.maxIterations, (∀ number, 1 ≤ number → number ≤ count →
        GoesOn completion recovery context inputs number) ∧
      ¬ GoesOn completion recovery context inputs (count + 1) := by
  by_cases hleave : ∃ count, count < context.maxIterations ∧
      ¬ GoesOn completion recovery context inputs (count + 1)
  · obtain ⟨hlt, hends⟩ := Nat.find_spec hleave
    refine .inr ⟨Nat.find hleave, hlt, ?_, hends⟩
    intro number hpos hle
    by_contra hnot
    have hpred : number - 1 + 1 = number := by omega
    exact Nat.find_min hleave (m := number - 1) (by omega) ⟨by omega, by rwa [hpred]⟩
  · refine .inl fun number hpos hle => ?_
    by_contra hnot
    have hpred : number - 1 + 1 = number := by omega
    exact hleave ⟨number - 1, by omega, by rwa [hpred]⟩

/-- A decision that the loop went on after is no successful stop. -/
theorem last_of_goesOn {count : Nat}
    (h : ∀ number, 1 ≤ number → number ≤ count →
      GoesOn completion recovery context inputs number) :
    ¬ ∃ decision, (progressAt completion context inputs count).decisions.getLast? = some decision ∧
      decision.SuccessfulStop := by
  rintro ⟨decision, hlast, -, hstop, -⟩
  cases count with
  | zero => exact absurd hlast (by simp [progressAt])
  | succ count =>
      rw [progressAt_succ, List.getLast?_append, List.getLast?_singleton] at hlast
      have hcontinue := (h (count + 1) (by omega) le_rfl).2.2.2
      rw [← Option.some.inj hlast, hcontinue] at hstop
      exact absurd hstop (by simp)

theorem not_stop_of_last {decisions : List LoopDecision} {last : LoopDecision}
    (hlast : decisions.getLast? = some last) (h : ¬ last.SuccessfulStop) :
    ¬ ∃ decision, decisions.getLast? = some decision ∧ decision.SuccessfulStop := by
  rintro ⟨decision, hdecision, hstop⟩
  rw [Option.some.inj (hlast.symm.trans hdecision)] at h
  exact h hstop

/-! ## The ends of a run -/

/-- A run that failed, with no successful stop as its last decision, is consistent. -/
theorem consistent_of_failed {run : LoopRun} {state : LoopState} {final : LoopDecision}
    {iterations : List LoopIteration}
    (hresult : run.result = loopFinished context.loopId state .failed iterations final)
    (hstate : state ≠ .completed ∧ state ≠ .waitingApproval)
    (happrovals : run.approvals = approvals)
    (hiterations : iterations.length ≤ context.maxIterations)
    (hlast : ¬ ∃ decision, run.decisions.getLast? = some decision ∧ decision.SuccessfulStop)
    (hsuccess : run.exit = .oscillation →
      ¬ (decisionAt completion context inputs iterations.length).SuccessfulStop) :
    OutcomeConsistent completion context inputs approvals run where
  iterations_le := by
    rw [hresult]
    exact hiterations
  finished_iff := by
    rw [hresult]
    exact iff_of_false (by simp [loopFinished]) hlast
  completed_iff := by
    rw [hresult]
    exact iff_of_false hstate.1 (by simp [loopFinished])
  waiting_iff := by
    rw [hresult]
    exact iff_of_false (by simp [loopFinished]) (by simp [loopFinished])
  approvals_kept := fun _ => happrovals
  resumed := by
    intro approved reviewer after result hresume
    obtain ⟨hwaiting, -⟩ := resume_eq_ok hresume
    rw [hresult] at hwaiting
    exact absurd hwaiting hstate.2
  success_kept := by
    rw [hresult]
    exact hsuccess

/-- A run that a successful stop ended is consistent. -/
theorem consistent_of_stop {run : LoopRun} {final : LoopDecision}
    {iterations : List LoopIteration}
    (hresult : run.result = loopFinished context.loopId .completed .finished iterations final)
    (happrovals : run.approvals = approvals)
    (hiterations : iterations.length ≤ context.maxIterations)
    (hlast : run.decisions.getLast? = some final) (hstop : final.SuccessfulStop)
    (hexit : run.exit ≠ .oscillation) :
    OutcomeConsistent completion context inputs approvals run where
  iterations_le := by
    rw [hresult]
    exact hiterations
  finished_iff := by
    rw [hresult]
    exact iff_of_true rfl ⟨final, hlast, hstop⟩
  completed_iff := by
    rw [hresult]
    exact iff_of_true rfl rfl
  waiting_iff := by
    rw [hresult]
    exact iff_of_false (by simp [loopFinished]) (by simp [loopFinished])
  approvals_kept := fun _ => happrovals
  resumed := by
    intro approved reviewer after result hresume
    obtain ⟨hwaiting, -⟩ := resume_eq_ok hresume
    rw [hresult] at hwaiting
    exact absurd hwaiting (by simp [loopFinished])
  success_kept := fun h => absurd h hexit

/-- A run that waits for a human is consistent. -/
theorem consistent_of_paused {run : LoopRun} {final : LoopDecision} {approvalId : String}
    {iteration : Nat} {iterations : List LoopIteration}
    (hresult : run.result = loopPaused context.loopId iterations final approvalId)
    (happrovals : run.approvals =
      approvals.requestApproval approvalId context.loopId iteration final.reason)
    (hiterations : iterations.length ≤ context.maxIterations)
    (hlast : run.decisions.getLast? = some final) (hhuman : final.requiresHuman = true)
    (hexit : run.exit ≠ .oscillation) :
    OutcomeConsistent completion context inputs approvals run := by
  -- the request is the one stored under the identity in the result
  have hfound : run.approvals approvalId = some
      ⟨approvalId, context.loopId, iteration, final.reason, .pending, none, ""⟩ := by
    rw [happrovals]
    exact Function.update_self ..
  exact {
    iterations_le := by
      rw [hresult]
      exact hiterations
    finished_iff := by
      rw [hresult]
      refine iff_of_false (by simp [loopPaused]) ?_
      rintro ⟨decision, hdecision, hno, -⟩
      rw [← Option.some.inj (hlast.symm.trans hdecision), hhuman] at hno
      exact absurd hno (by simp)
    completed_iff := by
      rw [hresult]
      exact iff_of_false (by simp [loopPaused]) (by simp [loopPaused])
    waiting_iff := by
      rw [hresult]
      refine iff_of_true rfl ⟨approvalId, rfl, ?_⟩
      rw [Approvals.stateOf, hfound]
      rfl
    approvals_kept := by
      rw [hresult]
      exact fun h => absurd rfl h
    resumed := by
      intro approved reviewer after result hresume
      obtain ⟨-, houtcome, id, hid, hrecorded⟩ := resume_eq_ok hresume
      refine ⟨by rw [hresult]; rfl, houtcome, resume_iterations hresume, ?_⟩
      rw [hresult] at hid ⊢
      obtain rfl : approvalId = id := Option.some.inj hid
      intro id' hid'
      obtain rfl : approvalId = id' := Option.some.inj hid'
      exact recordDecision_decided hfound rfl hrecorded
    success_kept := fun h => absurd h hexit }

variable (approvals) in
/-- What the loop does at the first iteration that does not go on. -/
theorem execute_at_first {count : Nat} (hlt : count < context.maxIterations)
    (h : ∀ number, 1 ≤ number → number ≤ count →
      GoesOn completion recovery context inputs number) :
    ∃ remaining, execute completion recovery context inputs approvals
      = iterate completion recovery context inputs approvals (remaining + 1) (count + 1)
        (progressAt completion context inputs count) := by
  refine ⟨context.maxIterations - (count + 1), ?_⟩
  rw [execute_eq_iterate approvals hlt.le h]
  congr 1
  omega

variable (approvals) in
/-- An iteration that the loop gets to and whose plan closes a cycle ends it. -/
theorem execute_of_oscillating {number : Nat}
    (hreached : Reached completion recovery context inputs number)
    (hosc : isOscillating (planHistoryAt inputs number) = true) :
    (execute completion recovery context inputs approvals).exit = .oscillation ∧
    (execute completion recovery context inputs approvals).result.iterations.length
      = number := by
  obtain ⟨hpos, hle, hbefore⟩ := hreached
  obtain ⟨count, rfl⟩ : ∃ count, number = count + 1 := ⟨number - 1, by omega⟩
  have hgoes : ∀ number, 1 ≤ number → number ≤ count →
      GoesOn completion recovery context inputs number :=
    fun earlier hearlier hlt => hbefore earlier hearlier (by omega)
  obtain ⟨remaining, hexecute⟩ := execute_at_first approvals hle hgoes
  have hhistory : (progressAt completion context inputs count).planHistory
      ++ [planSignature (inputs (count + 1)).run.plan] = planHistoryAt inputs (count + 1) :=
    (planHistoryAt_succ inputs count).symm
  rw [hexecute, iterate]
  simp only [hhistory, hosc, if_true]
  refine ⟨trivial, ?_⟩
  show List.length (_ ++ [_]) = _
  rw [List.length_append, iterations_progressAt]
  rfl

/-- A run is consistent when no iteration that meets its objective closes a cycle. -/
theorem outcomeConsistent_of_success
    (h : SuccessBreaksNoCycle completion recovery context inputs) :
    OutcomeConsistent completion context inputs approvals
      (execute completion recovery context inputs approvals) := by
  rcases goesOn_or_first completion recovery context inputs with hall | ⟨count, hlt, hgoes, hends⟩
  · -- the iterations are used up
    have hexecute := execute_eq_iterate approvals le_rfl hall
    rw [Nat.sub_self] at hexecute
    rw [hexecute]
    refine consistent_of_failed rfl (by decide) rfl ?_ (last_of_goesOn hall) (by simp [iterate])
    rw [iterations_progressAt]
  · obtain ⟨remaining, hexecute⟩ := execute_at_first approvals hlt hgoes
    have hhistory : (progressAt completion context inputs count).planHistory
        ++ [planSignature (inputs (count + 1)).run.plan] = planHistoryAt inputs (count + 1) :=
      (planHistoryAt_succ inputs count).symm
    have hlength : ((progressAt completion context inputs count).iterations
        ++ [createIteration (count + 1) (inputs (count + 1))]).length = count + 1 := by
      rw [List.length_append, iterations_progressAt]
      rfl
    have hreached : Reached completion recovery context inputs (count + 1) :=
      ⟨by omega, hlt, fun earlier hpos hearlier => hgoes earlier hpos (by omega)⟩
    have hlast : ((progressAt completion context inputs count).decisions
        ++ [decisionAt completion context inputs (count + 1)]).getLast?
          = some (decisionAt completion context inputs (count + 1)) := by
      rw [List.getLast?_append, List.getLast?_singleton]
      rfl
    rw [hexecute, iterate]
    dsimp only
    rw [hhistory]
    -- the ways out, in the order in which the loop tries them
    split
    · rename_i hosc
      refine consistent_of_failed rfl (by decide) rfl (hlength.trans_le hlt)
        (last_of_goesOn hgoes) fun _ => ?_
      rw [hlength]
      exact h (count + 1) hreached hosc
    · rename_i hosc
      split
      · rename_i hhuman
        exact consistent_of_paused rfl rfl (hlength.trans_le hlt) hlast hhuman (by simp)
      · rename_i hhuman
        split
        · rename_i hrecovery
          refine consistent_of_failed rfl (by decide) rfl (hlength.trans_le hlt) ?_ (by simp)
          refine not_stop_of_last hlast fun hstop => ?_
          exact absurd (hrecovery.1.symm.trans hstop.2.2) (by decide)
        · rename_i hrecovery
          split
          · rename_i hcontinue
            split
            · rename_i hstop
              exact consistent_of_stop rfl rfl (hlength.trans_le hlt) hlast
                ⟨Bool.not_eq_true _ ▸ hhuman, hcontinue, hstop⟩ (by simp)
            · rename_i hstop
              refine consistent_of_failed rfl (by decide) rfl (hlength.trans_le hlt) ?_ (by simp)
              exact not_stop_of_last hlast fun hsuccess => hstop hsuccess.2.2
          · rename_i hcontinue
            exact absurd ⟨Bool.not_eq_true _ ▸ hosc, Bool.not_eq_true _ ▸ hhuman, hrecovery,
              Bool.not_eq_false _ ▸ hcontinue⟩ hends

/-- **When the outcome of a run is consistent**: exactly when no iteration that the loop gets
    to meets its objective with a plan that closes a cycle. -/
theorem outcome_consistent_iff (completion : CompletionEngine) (recovery : RecoveryEngine)
    (context : LoopContext) (inputs : Nat → IterationInput) (approvals : Approvals) :
    OutcomeConsistent completion context inputs approvals
        (execute completion recovery context inputs approvals) ↔
      SuccessBreaksNoCycle completion recovery context inputs := by
  refine ⟨fun hconsistent number hreached hosc => ?_, outcomeConsistent_of_success⟩
  obtain ⟨hexit, hlength⟩ := execute_of_oscillating approvals hreached hosc
  have hkept := hconsistent.success_kept hexit
  rwa [hlength] at hkept

/-! ## A success that is thrown away -/

/-- The goal of at most five iterations. -/
def plainContext : LoopContext where
  loopId := "loop"
  goal := "Write the parser"
  maxIterations := 5
  goal_nonBlank := nonBlank_of_head 'W' _ (by decide)
  maxIterations_pos := by decide

/-- Plans A, B, A, B; the review of the fourth iteration is good. -/
def alternatingInputs (number : Nat) : IterationInput where
  run := ⟨"run", .success, some ⟨"plan", [if number % 2 = 1 then "A" else "B"]⟩, none⟩
  report := ⟨"reflection", if number = 4 then 90 else 70, []⟩
  memoryId := "memory"
  approvalId := "approval"

theorem not_outcomeConsistent_alternating :
    ¬ OutcomeConsistent completionEngine plainContext alternatingInputs (fun _ => none)
      (execute completionEngine recoveryEngine plainContext alternatingInputs fun _ => none) := by
  intro hconsistent
  refine hconsistent.success_kept rfl ?_
  exact ⟨rfl, rfl, rfl⟩

end

end Eag.Autonomous
