/-
  Eag.CommandExecution.Spelling

  Two requests that name one program in different ways.

  The executor runs the file that the executable of a request resolves to, the rules compare the
  executable as a text. `spelling_independent_iff`: two spellings of one program are treated
  alike exactly when the rules that deny and the rules that allow match both or neither.
-/

import Eag.CommandExecution.Stranding

namespace Eag.CommandExecution.Classification

open Eag.Approval (ApprovalStore PolicyOutcome)

/-! ## Statements -/

/-- What `execute` reads of a decision. -/
def PolicyDecision.forExecutor (decision : PolicyDecision) : CommandExecution.PolicyDecision :=
  ⟨decision.outcome, decision.reason⟩

/-- The policy with the built-in rules, as it is without a classifier of its own. -/
def ExecutionPolicy.builtin (policy : ExecutionPolicy) : ExecutionPolicy :=
  { policy with rules := builtinRules }

/-- The surroundings of an executor with this policy. -/
def policed (surroundings : Surroundings) (policy : ExecutionPolicy) : Surroundings :=
  { surroundings with
    evaluate := fun request => (policy.evaluate request).map PolicyDecision.forExecutor
    resolveWorkingDirectory := policy.resolveWorkingDirectory }

/-- Two executables name the same program file. -/
def SameProgram (surroundings : Surroundings) (executable other : String) : Prop :=
  ∃ file, surroundings.which executable = some file ∧ surroundings.which other = some file

/-- Two requests are treated alike: where the policy decides about both the outcome is the same,
    and where it denies the first, no approval lets the second run. -/
structure TreatedAlike (surroundings : Surroundings) (policy : ExecutionPolicy)
    (first second : CommandRequest) : Prop where
  outcome : ∀ decision other, policy.evaluate first = .ok decision →
    policy.evaluate second = .ok other → decision.outcome = other.outcome
  denied : ∀ decision, policy.evaluate first = .ok decision → decision.outcome = .deny →
    ∀ (approvalId : Option String) (store : ApprovalStore CommandRequest),
      (execute (policed surroundings policy) second approvalId (.start store)).2.started = false

/-- Spelling does not matter: requests with equal arguments for one program are treated alike. -/
def SpellingIndependent (surroundings : Surroundings) (policy : ExecutionPolicy)
    (first second : CommandRequest) : Prop :=
  first.arguments = second.arguments →
    SameProgram surroundings first.executable second.executable →
      TreatedAlike surroundings policy first second

/-- The rules that deny match both requests or neither, and so do the rules that allow. -/
def RulesAgree (rules : List CommandRule) (first second : CommandRequest) : Prop :=
  (Rules rules .deny first ↔ Rules rules .deny second) ∧
    (Rules rules .allow first ↔ Rules rules .allow second)

/-! ## What the policy decides -/

variable {surroundings : Surroundings} {policy : ExecutionPolicy} {first second : CommandRequest}

theorem evaluate_eq_ok {request : CommandRequest} {decision : PolicyDecision} :
    policy.evaluate request = .ok decision ↔
      policy.validate request = .ok () ∧ classify policy.rules request = decision := by
  rw [ExecutionPolicy.evaluate]
  cases policy.validate request with
  | error raised => exact iff_of_false nofun nofun
  | ok _ =>
      show (Except.ok (classify policy.rules request) : Except Raised PolicyDecision) = _ ↔ _
      rw [Except.ok.injEq]
      exact (and_iff_right rfl).symm

/-- **Same outcome**, where the rules are consistent, is agreement of the rules. -/
theorem outcome_eq_iff {rules : List CommandRule} (hconsistent : Consistent rules) :
    (classify rules first).outcome = (classify rules second).outcome ↔
      RulesAgree rules first second := by
  have hdeny : ∀ request, (classify rules request).outcome = .deny ↔ Rules rules .deny request :=
    fun request => classify_outcome_iff hconsistent request PolicyOutcome.noConfusion
  have hallow : ∀ request,
      (classify rules request).outcome = .allow ↔ Rules rules .allow request :=
    fun request => classify_outcome_iff hconsistent request PolicyOutcome.noConfusion
  rw [RulesAgree, ← hdeny, ← hdeny, ← hallow, ← hallow]
  generalize (classify rules first).outcome = outcome
  generalize (classify rules second).outcome = other
  constructor
  · rintro rfl
    exact ⟨Iff.rfl, Iff.rfl⟩
  · rintro ⟨hdenied, hallowed⟩
    cases outcome with
    | deny => exact (hdenied.mp rfl).symm
    | allow => exact (hallowed.mp rfl).symm
    | requireApproval =>
        cases other with
        | deny => exact nomatch hdenied.mpr rfl
        | allow => exact nomatch hallowed.mpr rfl
        | requireApproval => rfl

/-- **A denied command does not run**, whatever was approved, nor does one that the policy does
    not decide about. -/
theorem denied_not_started
    (hdenied : ∀ decision, policy.evaluate second = .ok decision → decision.outcome = .deny)
    (approvalId : Option String) (store : ApprovalStore CommandRequest) :
    (execute (policed surroundings policy) second approvalId (.start store)).2.started =
      false := by
  have hauthorize : ∃ raised,
      authorize (policed surroundings policy) second approvalId (.start store) =
        (.error raised, .start store) := by
    have hevaluate : (policed surroundings policy).evaluate second =
        (policy.evaluate second).map PolicyDecision.forExecutor := rfl
    unfold authorize
    rewrite [hevaluate]
    cases hdecision : policy.evaluate second with
    | error raised => exact ⟨raised, rfl⟩
    | ok decision =>
        have houtcome : decision.forExecutor.outcome = .deny := hdenied decision hdecision
        refine ⟨commandDenied decision.forExecutor, ?_⟩
        dsimp only [Except.map]
        rewrite [houtcome]
        rfl
  cases hwhich : (policed surroundings policy).which second.executable with
  | none =>
      unfold execute
      rewrite [hwhich]
      rw [rejectWith_session]
      rfl
  | some executable =>
      obtain ⟨raised, hraised⟩ := hauthorize
      rw [execute_eq_proceed _ _ _ hwhich, hraised, proceed]
      split
      · rw [rejectWith_session]
        rfl
      · rfl

/-! ## Spellings -/

variable (surroundings policy first second)

/-- **Spelling does not matter** to the built-in rules exactly when those that deny, and those
    that allow, match both requests or neither. -/
theorem spelling_independent_iff :
    SpellingIndependent surroundings policy.builtin first second ↔
      (first.arguments = second.arguments →
        SameProgram surroundings first.executable second.executable →
          policy.builtin.validate first = .ok () → policy.builtin.validate second = .ok () →
            RulesAgree builtinRules first second) := by
  constructor
  · intro hindependent harguments hprogram hfirst hsecond
    have halike := hindependent harguments hprogram
    exact (outcome_eq_iff builtin_consistent).mp
      (halike.outcome _ _ (evaluate_eq_ok.mpr ⟨hfirst, rfl⟩) (evaluate_eq_ok.mpr ⟨hsecond, rfl⟩))
  · intro hagree harguments hprogram
    have hsame : ∀ decision other, policy.builtin.evaluate first = .ok decision →
        policy.builtin.evaluate second = .ok other → decision.outcome = other.outcome := by
      intro decision other hdecision hother
      obtain ⟨hfirst, rfl⟩ := evaluate_eq_ok.mp hdecision
      obtain ⟨hsecond, rfl⟩ := evaluate_eq_ok.mp hother
      exact (outcome_eq_iff builtin_consistent).mpr (hagree harguments hprogram hfirst hsecond)
    refine ⟨hsame, fun decision hdecision hdeny approvalId store => ?_⟩
    refine denied_not_started (fun other hother => ?_) approvalId store
    exact (hsame _ _ hdecision hother).symm.trans hdeny

/-! ## A path to `rm` -/

/-- `rm -rf build`, under a name of the program. -/
def removeRequest (executable : String) (hne : executable ≠ "") : CommandRequest :=
  ⟨executable, ["-rf", "build"], none, 60, [], 1000, hne⟩

/-- The program by its name. -/
def removeByName : CommandRequest := removeRequest "rm" (by decide)

/-- The program by its path. -/
def removeByPath : CommandRequest := removeRequest "/bin/rm" (by decide)

/-- Surroundings in which both name `/usr/bin/rm`. -/
def systemSurroundings : Surroundings :=
  { plainSurroundings with
    which := fun executable =>
      if executable = "rm" ∨ executable = "/bin/rm" then some "/usr/bin/rm" else none }

/-- The limits a policy has by default. -/
def defaultPolicy : ExecutionPolicy where
  maxTimeoutSeconds := 300
  maxTimeoutText := "300.0"
  maxOutputBytes := 10000000
  resolveWorkingDirectory := fun _ => .ok "workspace"

/-- By its name the command is denied, by its path it is sent to approval. -/
theorem path_to_rm_not_denied :
    ¬SpellingIndependent systemSurroundings defaultPolicy.builtin removeByName removeByPath := by
  intro hindependent
  have halike := hindependent rfl ⟨"/usr/bin/rm", by decide, by decide⟩
  have hfirst : defaultPolicy.builtin.validate removeByName = .ok () := by rfl
  have hsecond : defaultPolicy.builtin.validate removeByPath = .ok () := by rfl
  have houtcome := halike.outcome _ _ (evaluate_eq_ok.mpr ⟨hfirst, rfl⟩)
    (evaluate_eq_ok.mpr ⟨hsecond, rfl⟩)
  exact absurd houtcome (by decide +kernel)

end Eag.CommandExecution.Classification
