/-
  Eag.CommandExecution.Classification

  Command requests, results and the events of their execution (`execution/models.py`,
  `execution/events.py`, `execution/errors.py`), the rules that classify a command
  (`execution/classification/`) and the policy that asks them (`execution/policy.py`).

  Durations and the identities and times of events are left out. A timeout is a rational
  number of seconds.

  The rules are asked in order, and the first that matches decides; the built-in rules do
  not disagree about a request (`builtin_consistent`).
-/

import Mathlib.Data.Rat.Init
import Eag.Approval.Manager

namespace Eag.CommandExecution

/-- `CommandRequest`. -/
structure CommandRequest where
  executable : String
  arguments : List String
  workingDirectory : Option String
  timeoutSeconds : Rat
  environment : List (String × String)
  maxOutputBytes : Int
  executable_ne : executable ≠ ""
  deriving DecidableEq

/-- `CommandResult`. -/
structure CommandResult where
  request : CommandRequest
  exitCode : Option Int
  stdout : String
  stderr : String
  timedOut : Bool
  stdoutTruncated : Bool
  stderrTruncated : Bool
  deriving DecidableEq

/-! ## Exceptions -/

/-- The classes that `execute` tells apart. -/
inductive ErrorClass where
  | executionPolicy
  | os
  | other
  deriving DecidableEq, Repr

/-- A raised exception: its class, the name of its type and its text. -/
structure Raised where
  errorClass : ErrorClass
  typeName : String
  message : String
  deriving DecidableEq, Repr

/-- The exceptions of the approval subsystem are none of the classes caught. -/
def ofApprovalError : Approval.ApprovalError → Raised
  | .notFound text => ⟨.other, "ApprovalNotFoundError", text⟩
  | .alreadyExists text => ⟨.other, "ApprovalAlreadyExistsError", text⟩
  | .invalidTransition text => ⟨.other, "ApprovalInvalidTransitionError", text⟩
  | .expired text => ⟨.other, "ApprovalExpiredError", text⟩
  | .commandMismatch text => ⟨.other, "ApprovalCommandMismatchError", text⟩
  | .valueError text => ⟨.other, "ValueError", text⟩
  | .typeError text => ⟨.other, "TypeError", text⟩

/-- `PolicyDecision`, as far as `execute` reads it. -/
structure PolicyDecision where
  outcome : Approval.PolicyOutcome
  reason : String
  deriving DecidableEq, Repr

/-- `CommandDeniedError`. -/
def commandDenied (decision : PolicyDecision) : Raised :=
  ⟨.executionPolicy, "CommandDeniedError", decision.reason⟩

/-- `CommandApprovalRequiredError`. -/
def approvalRequired (decision : PolicyDecision) : Raised :=
  ⟨.executionPolicy, "CommandApprovalRequiredError", decision.reason⟩

/-! ## Events -/

/-- The events of an execution. -/
inductive CommandEvent where
  | started (request : CommandRequest)
  | completed (result : CommandResult)
  | timedOut (result : CommandResult)
  | rejected (request : CommandRequest) (errorType errorMessage : String)
  deriving DecidableEq

/-- The event says how the execution ended. -/
def CommandEvent.isTerminal : CommandEvent → Bool
  | .started _ => false
  | .completed _ | .timedOut _ | .rejected .. => true

/-- The events that the approval manager publishes for the calls of an execution. -/
inductive ApprovalEvent where
  | reserved
  | consumed
  | released
  | expired
  deriving DecidableEq, Repr

/-! ## Output -/

/-- The longest beginning of a text whose encoding fits. -/
def fitting : List Char → Int → List Char
  | [], _ => []
  | c :: cs, room =>
      if (c.utf8Size : Int) ≤ room then c :: fitting cs (room - c.utf8Size) else []

/-- `_truncate_output`: cut to so many bytes, without the part of a character. -/
def truncateOutput (output : String) (maxBytes : Int) : String × Bool :=
  if (output.utf8ByteSize : Int) ≤ maxBytes then (output, false)
  else (String.ofList (fitting output.toList maxBytes), true)

namespace Classification

open Eag.Approval (PolicyOutcome)

/-! ## Rules -/

/-- `CommandClassification`. -/
inductive CommandClassification where
  | readOnly
  | validation
  | build
  | mutating
  | privileged
  | destructive
  | unknown
  deriving DecidableEq, Repr

/-- `PolicyDecision`. -/
structure PolicyDecision where
  request : CommandRequest
  classification : CommandClassification
  outcome : PolicyOutcome
  reason : String
  matchedRule : String
  deriving DecidableEq

/-- What a rule asks of a request: an executable and the beginning of its arguments
    (`ExactCommandRule`), or one of some executables (`ExecutableRule`). -/
inductive Pattern where
  | exactCommand (executable : String) (argumentStart : List String)
  | executables (executables : List String)
  deriving DecidableEq, Repr

/-- `CommandRule`. -/
structure CommandRule where
  ruleName : String
  pattern : Pattern
  classification : CommandClassification
  outcome : PolicyOutcome
  reason : String
  deriving DecidableEq, Repr

namespace CommandRule

/-- `ExactCommandRule`, in the order of its fields. -/
def exactCommand (ruleName executable : String) (argumentStart : List String)
    (classification : CommandClassification) (outcome : PolicyOutcome) (reason : String) :
    CommandRule :=
  ⟨ruleName, .exactCommand executable argumentStart, classification, outcome, reason⟩

/-- `ExecutableRule`, in the order of its fields. -/
def executable (ruleName : String) (executables : List String)
    (classification : CommandClassification) (outcome : PolicyOutcome) (reason : String) :
    CommandRule :=
  ⟨ruleName, .executables executables, classification, outcome, reason⟩

/-- `matches`. -/
def matchesRequest (rule : CommandRule) (request : CommandRequest) : Bool :=
  match rule.pattern with
  | .exactCommand executable argumentStart =>
      request.executable = executable && argumentStart.isPrefixOf request.arguments
  | .executables executables => request.executable ∈ executables

/-- `decide`. -/
def decision (rule : CommandRule) (request : CommandRequest) : PolicyDecision :=
  ⟨request, rule.classification, rule.outcome, rule.reason, rule.ruleName⟩

end CommandRule

/-! ## The built-in rules -/

/-- `system_rules`. -/
def systemRules : List CommandRule :=
  [.executable "system.privileged" ["sudo", "su", "doas"] .privileged .deny
      "Privilege escalation commands are not permitted.",
    .executable "system.destructive"
      ["rm", "shred", "mkfs", "fdisk", "parted", "shutdown", "reboot", "poweroff", "halt"]
      .destructive .deny "Potentially destructive system commands are denied."]

/-- `git_rules`. -/
def gitRules : List CommandRule :=
  [.exactCommand "git.reset.hard" "git" ["reset", "--hard"] .destructive .deny
      "Hard reset may discard uncommitted working-tree changes.",
    .exactCommand "git.clean.force" "git" ["clean", "-f"] .destructive .deny
      "Forced Git clean may delete untracked files.",
    .exactCommand "git.status" "git" ["status"] .readOnly .allow "Git status is read-only.",
    .exactCommand "git.diff" "git" ["diff"] .readOnly .allow "Git diff is read-only.",
    .exactCommand "git.log" "git" ["log"] .readOnly .allow "Git log is read-only.",
    .exactCommand "git.branch.list" "git" ["branch", "--list"] .readOnly .allow
      "Listing Git branches is read-only.",
    .exactCommand "git.add" "git" ["add"] .mutating .requireApproval
      "Staging changes mutates the Git index.",
    .exactCommand "git.commit" "git" ["commit"] .mutating .requireApproval
      "Creating commits requires explicit approval.",
    .exactCommand "git.checkout" "git" ["checkout"] .mutating .requireApproval
      "Git checkout may modify the working tree.",
    .exactCommand "git.switch" "git" ["switch"] .mutating .requireApproval
      "Switching branches may modify the working tree."]

/-- `docker_rules`. -/
def dockerRules : List CommandRule :=
  [.exactCommand "docker.system.prune" "docker" ["system", "prune"] .destructive .deny
      "Docker system prune may remove images, containers, networks, and build cache.",
    .exactCommand "docker.volume.prune" "docker" ["volume", "prune"] .destructive .deny
      "Docker volume prune may remove data.",
    .exactCommand "docker.ps" "docker" ["ps"] .readOnly .allow
      "Listing Docker containers is read-only.",
    .exactCommand "docker.images" "docker" ["images"] .readOnly .allow
      "Listing Docker images is read-only.",
    .exactCommand "docker.compose.ps" "docker" ["compose", "ps"] .readOnly .allow
      "Inspecting Docker Compose services is read-only.",
    .exactCommand "docker.compose.build" "docker" ["compose", "build"] .build .allow
      "Docker Compose build is an approved build operation.",
    .exactCommand "docker.compose.down" "docker" ["compose", "down"] .mutating .requireApproval
      "Stopping and removing Compose resources requires approval."]

/-- `python_rules`. -/
def pythonRules : List CommandRule :=
  [.executable "python.pytest" ["pytest"] .validation .allow "Running tests is allowed.",
    .executable "python.ruff" ["ruff"] .validation .allow "Running Ruff validation is allowed.",
    .executable "python.mypy" ["mypy"] .validation .allow
      "Running static type checks is allowed.",
    .exactCommand "python.uv.pytest" "uv" ["run", "pytest"] .validation .allow
      "Running tests through uv is allowed.",
    .exactCommand "python.uv.ruff" "uv" ["run", "ruff"] .validation .allow
      "Running Ruff through uv is allowed.",
    .exactCommand "python.uv.mypy" "uv" ["run", "mypy"] .validation .allow
      "Running mypy through uv is allowed."]

/-- `node_rules`. -/
def nodeRules : List CommandRule :=
  [.exactCommand "node.npm.test" "npm" ["test"] .validation .allow
      "Running npm tests is allowed.",
    .exactCommand "node.npm.build" "npm" ["run", "build"] .build .allow
      "Running npm build is allowed.",
    .exactCommand "node.pnpm.test" "pnpm" ["test"] .validation .allow
      "Running pnpm tests is allowed.",
    .exactCommand "node.pnpm.build" "pnpm" ["run", "build"] .build .allow
      "Running pnpm build is allowed."]

/-- `generic_rules`. -/
def genericRules : List CommandRule :=
  [.executable "generic.read_only" ["pwd", "whoami", "hostname", "uname"] .readOnly .allow
    "Command is recognized as read-only."]

/-- `builtin_rules`. -/
def builtinRules : List CommandRule :=
  systemRules ++ gitRules ++ dockerRules ++ pythonRules ++ nodeRules ++ genericRules

/-! ## The classifier and the policy -/

/-- `CommandClassifier.classify`. -/
def classify (rules : List CommandRule) (request : CommandRequest) : PolicyDecision :=
  match rules.find? (·.matchesRequest request) with
  | some rule => rule.decision request
  | none =>
      ⟨request, .unknown, .requireApproval, "No command policy rule matched the request.",
        "default.unknown"⟩

/-- `ExecutionPolicy`; `resolveWorkingDirectory` stands for the file system, and a limit comes
    with its text. -/
structure ExecutionPolicy where
  maxTimeoutSeconds : Rat
  maxTimeoutText : String
  maxOutputBytes : Int
  resolveWorkingDirectory : Option String → Except Raised String
  rules : List CommandRule := builtinRules

namespace ExecutionPolicy

variable (policy : ExecutionPolicy) (request : CommandRequest)

/-- `_validate_timeout`. -/
def validateTimeout : Except Raised Unit :=
  if request.timeoutSeconds ≤ 0 then
    .error ⟨.executionPolicy, "InvalidTimeoutError", "Command timeout must be greater than zero"⟩
  else if request.timeoutSeconds > policy.maxTimeoutSeconds then
    .error ⟨.executionPolicy, "InvalidTimeoutError",
      "Command timeout exceeds maximum of " ++ policy.maxTimeoutText ++ " seconds"⟩
  else .ok ()

/-- `_validate_output_limit`. -/
def validateOutputLimit : Except Raised Unit :=
  if request.maxOutputBytes < 1 then
    .error ⟨.executionPolicy, "InvalidOutputLimitError",
      "Command output limit must be at least 1 byte"⟩
  else if request.maxOutputBytes > policy.maxOutputBytes then
    .error ⟨.executionPolicy, "InvalidOutputLimitError",
      "Command output limit exceeds maximum of " ++ toString policy.maxOutputBytes ++ " bytes"⟩
  else .ok ()

/-- `validate`. -/
def validate : Except Raised Unit := do
  policy.validateTimeout request
  policy.validateOutputLimit request
  let _ ← policy.resolveWorkingDirectory request.workingDirectory

/-- `evaluate`. -/
def evaluate : Except Raised PolicyDecision := do
  policy.validate request
  return classify policy.rules request

end ExecutionPolicy

/-! ## Rules that do not disagree -/

/-- No two rules that match one request decide it differently. -/
def Consistent (rules : List CommandRule) : Prop :=
  ∀ rule ∈ rules, ∀ other ∈ rules, ∀ request, rule.matchesRequest request = true →
    other.matchesRequest request = true → rule.outcome = other.outcome

/-- Some request may match both patterns. -/
def Pattern.meets : Pattern → Pattern → Bool
  | .exactCommand executable first, .exactCommand other second =>
      executable = other && (first.isPrefixOf second || second.isPrefixOf first)
  | .exactCommand executable _, .executables names => executable ∈ names
  | .executables names, .exactCommand executable _ => executable ∈ names
  | .executables names, .executables others => names.any (· ∈ others)

theorem meets_of_matches {rule other : CommandRule} {request : CommandRequest}
    (hrule : rule.matchesRequest request = true) (hother : other.matchesRequest request = true) :
    rule.pattern.meets other.pattern = true := by
  unfold CommandRule.matchesRequest at hrule hother
  cases hfirst : rule.pattern with
  | exactCommand executable first =>
      rw [hfirst] at hrule
      obtain ⟨hname, hstart⟩ := Bool.and_eq_true_iff.mp hrule
      cases hsecond : other.pattern with
      | exactCommand otherExecutable second =>
          rw [hsecond] at hother
          obtain ⟨hotherName, hotherStart⟩ := Bool.and_eq_true_iff.mp hother
          have hsame : executable = otherExecutable :=
            (of_decide_eq_true hname).symm.trans (of_decide_eq_true hotherName)
          have hnested := List.prefix_or_prefix_of_prefix
            (List.isPrefixOf_iff_prefix.mp hstart) (List.isPrefixOf_iff_prefix.mp hotherStart)
          rw [Pattern.meets, decide_eq_true hsame, Bool.true_and, Bool.or_eq_true,
            List.isPrefixOf_iff_prefix, List.isPrefixOf_iff_prefix]
          exact hnested
      | executables names =>
          rw [hsecond] at hother
          exact decide_eq_true (of_decide_eq_true hname ▸ of_decide_eq_true hother)
  | executables names =>
      rw [hfirst] at hrule
      cases hsecond : other.pattern with
      | exactCommand executable second =>
          rw [hsecond] at hother
          obtain ⟨hname, -⟩ := Bool.and_eq_true_iff.mp hother
          exact decide_eq_true (of_decide_eq_true hname ▸ of_decide_eq_true hrule)
      | executables others =>
          rw [hsecond] at hother
          rw [Pattern.meets, List.any_eq_true]
          exact ⟨request.executable, of_decide_eq_true hrule, hother⟩

/-- **The built-in rules do not disagree.** -/
theorem builtin_consistent : Consistent builtinRules := by
  have hpatterns : ∀ rule ∈ builtinRules, ∀ other ∈ builtinRules,
      rule.pattern.meets other.pattern = true → rule.outcome = other.outcome := by
    decide +kernel
  intro rule hrule other hother request hmatches hotherMatches
  exact hpatterns rule hrule other hother (meets_of_matches hmatches hotherMatches)

/-- Some rule that decides so matches the request. -/
def Rules (rules : List CommandRule) (outcome : PolicyOutcome) (request : CommandRequest) : Prop :=
  ∃ rule ∈ rules, rule.outcome = outcome ∧ rule.matchesRequest request = true

instance (rules : List CommandRule) (outcome : PolicyOutcome) (request : CommandRequest) :
    Decidable (Rules rules outcome request) :=
  inferInstanceAs (Decidable (∃ rule ∈ rules, _))

/-- **The outcome of consistent rules** is that of any rule that matches; without one, and with
    one that says so, the command is sent to approval. -/
theorem classify_outcome_iff {rules : List CommandRule} (hconsistent : Consistent rules)
    (request : CommandRequest) {outcome : PolicyOutcome} (hother : outcome ≠ .requireApproval) :
    (classify rules request).outcome = outcome ↔ Rules rules outcome request := by
  unfold classify
  split
  · next rule hfound =>
      have hmem := List.mem_of_find?_eq_some hfound
      have hmatches := List.find?_some hfound
      constructor
      · exact fun houtcome => ⟨rule, hmem, houtcome, hmatches⟩
      · rintro ⟨decider, hdecider, houtcome, hdecides⟩
        exact (hconsistent rule hmem decider hdecider request hmatches hdecides).trans houtcome
  · next hnone =>
      constructor
      · exact fun houtcome => absurd houtcome.symm hother
      · rintro ⟨rule, hmem, -, hmatches⟩
        exact absurd hmatches (List.find?_eq_none.mp hnone rule hmem)

end Classification

end Eag.CommandExecution
