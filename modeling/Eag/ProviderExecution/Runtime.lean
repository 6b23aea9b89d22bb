/-
  Eag.ProviderExecution.Runtime

  Vocabulary and contracts of the execution of requests by AI providers
  (`chief/intelligence/execution/enums.py`, `models.py`, `errors.py`), and
  `ExecutionRuntime.execute` (`runtime.py`) with the retry engine (`retry.py`), the
  fallback executor (`fallback.py`), the health manager (`health.py`), the registry
  and the middleware pipeline.

  What a provider answers in an attempt is an input, chosen by the position of the
  context and the number of the attempt. Waiting, durations, timestamps, the estimated
  cost and the options that only a provider reads are left out.
-/

import Mathlib.Data.String.Basic
import Mathlib.Logic.Function.Basic

namespace Eag.ProviderExecution

/-! ## Vocabulary -/

inductive ProviderHealthStatus where
  | healthy
  | degraded
  | unhealthy
  | unknown
  deriving DecidableEq, Repr

/-- Lifecycle state of an execution. -/
inductive ExecutionState where
  | pending
  | running
  | success
  | failed
  | cancelled
  | retrying
  | fallingBack
  deriving DecidableEq, Repr

/-- The events that the runtime records in a trace. -/
inductive TraceEventType where
  | started
  | providerSelected
  | requestSent
  | responseReceived
  | completed
  | failed
  | fallbackCompleted
  deriving DecidableEq, Repr

inductive RetryStrategy where
  | none
  | fixed
  | exponential
  deriving DecidableEq, Repr

def RetryStrategy.value : RetryStrategy → String
  | .none => "none"
  | .fixed => "fixed"
  | .exponential => "exponential"

/-- An exception, by the classes that the runtime tells apart. -/
inductive Fault where
  | providerNotFound (text : String)
  | providerUnavailable (text : String)
  | other (text : String)
  deriving DecidableEq, Repr

/-! ## Requests and results -/

/-- The options that the runtime reads. -/
structure ExecutionOptions where
  retryCount : Int
  retryStrategy : RetryStrategy
  deriving DecidableEq, Repr

structure TraceEvent where
  type : TraceEventType
  message : String := ""
  metadata : List (String × String) := []
  deriving DecidableEq, Repr

/-- An immutable trace of an execution. -/
structure ExecutionTrace where
  traceId : String
  events : List TraceEvent
  deriving DecidableEq, Repr

/-- `add_event`. -/
def ExecutionTrace.addEvent (trace : ExecutionTrace) (event : TraceEvent) : ExecutionTrace :=
  { trace with events := trace.events ++ [event] }

/-- Token usage. -/
structure UsageMetrics where
  promptTokens : Int
  completionTokens : Int
  totalTokens : Int
  deriving DecidableEq, Repr

/-- Context of one request. -/
structure ExecutionContext where
  prompt : String
  modelId : String
  providerId : String
  options : ExecutionOptions
  trace : ExecutionTrace
  deriving DecidableEq, Repr

structure ExecutionResult where
  success : Bool
  content : String
  usage : UsageMetrics
  providerId : String
  modelId : String
  state : ExecutionState
  trace : ExecutionTrace
  error : Option String
  attempts : Nat := 1
  fallbackUsed : Bool := false
  deriving DecidableEq, Repr

/-- Health of a provider, as the runtime has seen it. -/
structure ProviderHealth where
  status : ProviderHealthStatus
  successCount : Nat
  failureCount : Nat
  consecutiveFailures : Nat
  deriving DecidableEq, Repr

/-- Decision on a retry. -/
structure RetryDecision where
  shouldRetry : Bool
  delayMs : Nat := 0
  attempt : Nat
  reason : String := ""
  deriving DecidableEq, Repr

/-- Report on the providers of an execution with fallbacks. -/
structure FallbackReport where
  primaryProvider : String
  fallbackProvider : String
  success : Bool
  attempts : Nat
  deriving DecidableEq, Repr

/-- `fallback_used`. -/
def FallbackReport.fallbackUsed (report : FallbackReport) : Bool :=
  report.primaryProvider ≠ report.fallbackProvider

/-! ## Health -/

/-- The `HealthManager`: what it has recorded, by provider. -/
abbrev HealthManager := String → Option ProviderHealth

/-- The health of a provider that nothing was recorded of. -/
def unknownHealth : ProviderHealth := ⟨.unknown, 0, 0, 0⟩

/-- `_compute_status`. -/
def computeStatus (consecutiveFailures : Nat) (isSuccess : Bool) : ProviderHealthStatus :=
  if isSuccess then .healthy
  else if consecutiveFailures ≥ 5 then .unhealthy
  else if consecutiveFailures ≥ 2 then .degraded
  else .healthy

namespace HealthManager

variable (manager : HealthManager)

/-- `health`. -/
def health (providerId : String) : ProviderHealth := (manager providerId).getD unknownHealth

/-- `record_success`. -/
def recordSuccess (providerId : String) : HealthManager :=
  let h := manager.health providerId
  Function.update manager providerId (some
    ⟨computeStatus h.consecutiveFailures true, h.successCount + 1, h.failureCount, 0⟩)

/-- `record_failure`. -/
def recordFailure (providerId : String) : HealthManager :=
  let h := manager.health providerId
  let consecutive := h.consecutiveFailures + 1
  Function.update manager providerId (some
    ⟨computeStatus consecutive false, h.successCount, h.failureCount + 1, consecutive⟩)

end HealthManager

/-! ## One attempt -/

/-- What the provider does in an attempt: what `health` says, and what `execute` returns or the
    text of what it raises. -/
structure Attempt where
  health : Except Fault ProviderHealthStatus
  execute : Except String ExecutionResult

/-- The identities of the registered providers. -/
abbrev ProviderRegistry := String → Bool

/-- `ProviderRegistry.find`, as far as it can fail. -/
def ProviderRegistry.find (registry : ProviderRegistry) (providerId : String) :
    Except Fault Unit :=
  if registry providerId then .ok ()
  else .error (.providerNotFound ("Provider '" ++ providerId ++ "' not found."))

/-- The `ProviderUnavailableError` of the runtime. -/
def unavailable (providerId : String) : Fault :=
  .providerUnavailable ("Provider '" ++ providerId ++ "' is unavailable.")

/-- The lookups before a request: the registry, then the recorded health. -/
def lookUp (registry : ProviderRegistry) (manager : HealthManager) (context : ExecutionContext) :
    Except Fault Unit := do
  registry.find context.providerId
  if (manager.health context.providerId).status = .unhealthy then
    .error (unavailable context.providerId)

/-- The trace of a request that was sent. -/
def sentTrace (context : ExecutionContext) : ExecutionTrace :=
  ((context.trace.addEvent { type := .started }).addEvent
    { type := .providerSelected, metadata := [("provider", context.providerId)] }).addEvent
    { type := .requestSent }

/-- The usage of an attempt that brought nothing. -/
def noUsage : UsageMetrics := ⟨0, 0, 0⟩

/-- `_execute_provider`: what it returns or raises, and the health manager after it. -/
def executeProvider (registry : ProviderRegistry) (attempt : Attempt) (manager : HealthManager)
    (context : ExecutionContext) : Except Fault ExecutionResult × HealthManager :=
  match lookUp registry manager context with
  | .error fault => (.error fault, manager)
  | .ok () =>
      match attempt.health with
      | .error fault => (.error fault, manager)
      | .ok status =>
          if status = .unhealthy then (.error (unavailable context.providerId), manager)
          else
            let trace := sentTrace context
            match attempt.execute with
            | .ok result =>
                let trace := (trace.addEvent { type := .responseReceived }).addEvent
                  { type := .completed }
                -- the result is rebuilt as a success, whatever its own flag says
                (.ok
                  { success := true
                    content := result.content
                    usage := ⟨result.usage.promptTokens, result.usage.completionTokens,
                      result.usage.totalTokens⟩
                    providerId := context.providerId
                    modelId := context.modelId
                    state := .success
                    trace := trace
                    error := none },
                  manager.recordSuccess context.providerId)
            | .error text =>
                let trace := trace.addEvent { type := .failed, message := text }
                (.ok
                  { success := false
                    content := ""
                    usage := noUsage
                    providerId := context.providerId
                    modelId := context.modelId
                    state := .failed
                    trace := trace
                    error := some ("Execution failed: " ++ text) },
                  manager.recordFailure context.providerId)

/-! ## Middleware -/

/-- The middlewares of the source. Both print or count, and hand on what they are given. -/
inductive Middleware where
  | logging
  | metrics
  deriving DecidableEq, Repr

namespace Middleware

def before (_ : Middleware) (context : ExecutionContext) : ExecutionContext := context

def after (_ : Middleware) (_ : ExecutionContext) (result : ExecutionResult) : ExecutionResult :=
  result

def error (_ : Middleware) (_ : ExecutionContext) (fault : Fault) : Fault := fault

end Middleware

/-- `MiddlewarePipeline.execute`. -/
def pipeline (middlewares : List Middleware) {σ : Type} (context : ExecutionContext)
    (executor : ExecutionContext → Except Fault ExecutionResult × σ) :
    Except Fault ExecutionResult × σ :=
  let ctx := middlewares.foldl (fun ctx m => m.before ctx) context
  match executor ctx with
  | (.ok result, s) => (.ok (middlewares.reverse.foldl (fun r m => m.after ctx r) result), s)
  | (.error fault, s) => (.error (middlewares.reverse.foldl (fun f m => m.error ctx f) fault), s)

/-! ## Retry -/

/-- `_calculate_delay`, in milliseconds. -/
def calculateDelay (strategy : RetryStrategy) (attempt : Nat) : Nat :=
  match strategy with
  | .none => 0
  | .fixed => 1000
  | .exponential => 2 ^ attempt * 1000

/-- `should_retry`. -/
def shouldRetry (context : ExecutionContext) (result : ExecutionResult) (attempt : Nat) :
    RetryDecision :=
  if result.success then { shouldRetry := false, attempt := attempt }
  else
    let maxRetries := context.options.retryCount
    if (attempt : Int) > maxRetries then
      { shouldRetry := false, attempt := attempt, reason := "Max retries exceeded" }
    else
      let strategy := context.options.retryStrategy
      { shouldRetry := true
        delayMs := calculateDelay strategy attempt
        attempt := attempt
        reason := "Retry " ++ toString attempt ++ "/" ++ toString maxRetries ++ " using "
          ++ strategy.value ++ " strategy" }

/-- What an execution changes: the health manager, and the attempts that were made, each by the
    position of its context and its number. -/
structure Session where
  health : HealthManager
  attempts : List (Nat × Nat)

/-- A runtime, and what the providers do in every attempt that can be made. -/
structure Runtime where
  registry : ProviderRegistry
  middlewares : List Middleware
  behaviour : Nat × Nat → Attempt

namespace Runtime

variable (runtime : Runtime)

/-- The result built for an attempt that raised. -/
def failedResult (context : ExecutionContext) (text : String) : ExecutionResult where
  success := false
  content := ""
  usage := noUsage
  providerId := context.providerId
  modelId := context.modelId
  state := .failed
  trace := context.trace
  error := some text

/-- The body of the retry loop up to the decision: what is returned or raised, if nothing else
    is tried. -/
def attempt (position : Nat) (context : ExecutionContext) (number : Nat) (session : Session) :
    Except Fault ExecutionResult × Session :=
  let (outcome, health) := pipeline runtime.middlewares context
    (executeProvider runtime.registry (runtime.behaviour (position, number)) session.health)
  let session : Session := ⟨health, session.attempts ++ [(position, number)]⟩
  match outcome with
  | .error (.other text) => (.ok (failedResult context text), session)
  | outcome => (outcome, session)

/-- The loop of `_execute_with_retry`, from an attempt; nothing when the fuel runs out. -/
def retryFrom (position : Nat) (context : ExecutionContext) :
    Nat → Nat → Session → Option (Except Fault ExecutionResult × Session)
  | 0, _, _ => none
  | fuel + 1, number, session =>
      match runtime.attempt position context number session with
      | (.error fault, session) => some (.error fault, session)
      | (.ok result, session) =>
          if result.success then some (.ok result, session)
          else if (shouldRetry context result number).shouldRetry then
            retryFrom position context fuel (number + 1) session
          else some (.ok result, session)

/-- `_execute_with_retry`. -/
def executeWithRetry (fuel position : Nat) (context : ExecutionContext) (session : Session) :
    Option (Except Fault ExecutionResult × Session) :=
  match lookUp runtime.registry session.health context with
  | .error fault => some (.error fault, session)
  | .ok () => runtime.retryFrom position context fuel 1 session

/-! ## Fallback -/

/-- The loop of `execute_with_fallback`, from a context on. -/
def fallbackFrom (fuel : Nat) (primary : ExecutionContext) :
    Nat → ExecutionContext → List ExecutionContext → Session →
    Option (Except Fault (ExecutionResult × FallbackReport) × Session)
  | position, context, rest, session =>
      match runtime.executeWithRetry fuel position context session with
      | none => none
      | some (.error fault, session) => some (.error fault, session)
      | some (.ok result, session) =>
          if result.success then
            some (.ok (result,
              { primaryProvider := primary.providerId
                fallbackProvider :=
                  if position > 0 then context.providerId else primary.providerId
                success := true
                attempts := position + 1 }), session)
          else
            match rest with
            | next :: rest => fallbackFrom fuel primary (position + 1) next rest session
            | [] =>
                some (.ok (result,
                  { primaryProvider := primary.providerId
                    fallbackProvider := context.providerId
                    success := false
                    attempts := position + 1 }), session)

/-- What `execute` makes of the result and the report of an execution with fallbacks. -/
def withReport (result : ExecutionResult) (report : FallbackReport) : ExecutionResult :=
  if report.fallbackUsed then
    { result with
      trace := result.trace.addEvent
        { type := .fallbackCompleted
          metadata := [("fallback_provider", report.fallbackProvider)] }
      fallbackUsed := true }
  else result

/-- `execute`, with a bound on the attempts for each context: what it returns or raises, and the
    session after it. -/
def execute (fuel : Nat) (health : HealthManager) (context : ExecutionContext)
    (fallbackContexts : List ExecutionContext) :
    Option (Except Fault ExecutionResult × Session) :=
  let session : Session := ⟨health, []⟩
  if fallbackContexts = [] then runtime.executeWithRetry fuel 0 context session
  else
    match runtime.fallbackFrom fuel context 0 context fallbackContexts session with
    | none => none
    | some (.error fault, session) => some (.error fault, session)
    | some (.ok (result, report), session) => some (.ok (withReport result report), session)

end Runtime

end Eag.ProviderExecution
