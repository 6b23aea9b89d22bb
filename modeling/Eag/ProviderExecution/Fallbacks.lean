/-
  Eag.ProviderExecution.Fallbacks

  Retry and fallback as one search: the attempts that an execution may make, in
  order, are the candidates (`schedule`), and `execute` searches them for the first
  that yields a result (`execute_exhaustive`).

  A lookup that fails (a provider that is not registered or not healthy) ends the search
  with its error. Left aside: a provider that returns a result whose flag says it failed,
  which `_execute_provider` rebuilds as a success; and the mark `fallback_used`.
-/

import Mathlib.Data.List.MinMax
import Eag.Foundation.Checks
import Eag.Foundation.Search
import Eag.ProviderExecution.Runtime

namespace Eag.ProviderExecution

open Eag.Foundation

/-! ## Schedules -/

/-- How many attempts a context has. -/
def allowedAttempts (context : ExecutionContext) : Nat := context.options.retryCount.toNat + 1

/-- The attempts of the context at a position, from a number on. -/
def attemptsFrom (position : Nat) (context : ExecutionContext) (number : Nat) :
    List (Nat × Nat) :=
  (List.range' number (allowedAttempts context + 1 - number)).map fun n => (position, n)

/-- The attempts of contexts, the first of which has the position. -/
def scheduleFrom : Nat → List ExecutionContext → List (Nat × Nat)
  | _, [] => []
  | position, context :: rest =>
      attemptsFrom position context 1 ++ scheduleFrom (position + 1) rest

/-- All attempts of an execution, in order: each is the position of a context and a number. -/
def schedule (contexts : List ExecutionContext) : List (Nat × Nat) := scheduleFrom 0 contexts

/-! ## What attempts do -/

/-- The provider is up in the attempt and returns a successful result. -/
def Yields (behaviour : Nat × Nat → Attempt) (a : Nat × Nat) : Prop :=
  (∃ status, (behaviour a).health = .ok status ∧ status ≠ .unhealthy) ∧
  ∃ provided, (behaviour a).execute = .ok provided ∧ provided.success = true

/-- No provider returns a result that says of itself that it failed. -/
def ReturnsSuccess (behaviour : Nat × Nat → Attempt) : Prop :=
  ∀ a provided, (behaviour a).execute = .ok provided → provided.success = true

/-- The result is what the provider gave in the attempt, for the context of the attempt. -/
structure Delivered (behaviour : Nat × Nat → Attempt) (contexts : List ExecutionContext)
    (a : Nat × Nat) (result : ExecutionResult) : Prop where
  success : result.success = true
  state : result.state = .success
  provided : ∃ provided, (behaviour a).execute = .ok provided ∧
    result.content = provided.content ∧ result.usage = provided.usage
  context : ∃ context, contexts[a.1]? = some context ∧
    result.providerId = context.providerId ∧ result.modelId = context.modelId

/-- A lookup for the attempt fails: the provider of its context is not registered, is recorded
    as unhealthy, or reports an error of these classes or that it is unhealthy. -/
def LookupFails (registry : ProviderRegistry) (behaviour : Nat × Nat → Attempt)
    (contexts : List ExecutionContext) (manager : HealthManager) (a : Nat × Nat)
    (fault : Fault) : Prop :=
  ∃ context, contexts[a.1]? = some context ∧
    (lookUp registry manager context = .error fault ∨
      ((behaviour a).health = .ok .unhealthy ∧ fault = unavailable context.providerId) ∨
      ((behaviour a).health = .error fault ∧ ∀ text, fault ≠ .other text))

/-- **Retry and fallback are exhaustive and truthful**: what a call of `execute` returned or
    raised, and the attempts it made. -/
structure Exhaustive (runtime : Runtime) (context : ExecutionContext)
    (fallbackContexts : List ExecutionContext) (outcome : Except Fault ExecutionResult)
    (session : Session) : Prop where
  success_iff : ∀ result, outcome = .ok result → (result.success = true ↔
    ∃ a ∈ schedule (context :: fallbackContexts), Yields runtime.behaviour a)
  first : ∀ result, outcome = .ok result → result.success = true →
    ∃ before a after, schedule (context :: fallbackContexts) = before ++ a :: after ∧
      session.attempts = before ++ [a] ∧ Yields runtime.behaviour a ∧
      (∀ b ∈ before, ¬ Yields runtime.behaviour b) ∧
      Delivered runtime.behaviour (context :: fallbackContexts) a result ∧
      (a.1 = 0 → result.fallbackUsed = false) ∧
      (result.providerId ≠ context.providerId → result.fallbackUsed = true)
  failed : ∀ result, outcome = .ok result → result.success = false →
    session.attempts = schedule (context :: fallbackContexts)
  raised : ∀ fault, outcome = .error fault →
    ∃ before a after, schedule (context :: fallbackContexts) = before ++ a :: after ∧
      (session.attempts = before ∨ session.attempts = before ++ [a]) ∧
      (∀ b ∈ before, ¬ Yields runtime.behaviour b) ∧
      LookupFails runtime.registry runtime.behaviour (context :: fallbackContexts)
        session.health a fault

/-! ## One attempt -/

/-- The middlewares of the source change nothing. -/
theorem pipeline_eq (middlewares : List Middleware) {σ : Type} (context : ExecutionContext)
    (executor : ExecutionContext → Except Fault ExecutionResult × σ) :
    pipeline middlewares context executor = executor context := by
  have hfold : ∀ {α : Type} (ms : List Middleware) (a : α),
      ms.foldl (fun b _ => b) a = a := by
    intro α ms a
    induction ms with
    | nil => rfl
    | cons m ms ih => exact ih
  unfold pipeline
  simp only [Middleware.before, Middleware.after, Middleware.error, hfold]
  split <;> rename_i heq <;> exact heq.symm

/-- How an attempt ends that is made at `a`: it delivers what the provider gave, it fails, or a
    lookup stops it. -/
inductive AttemptSpec (registry : ProviderRegistry) (behaviour : Nat × Nat → Attempt)
    (contexts : List ExecutionContext) (a : Nat × Nat) (manager : HealthManager) :
    Except Fault ExecutionResult → Prop where
  | delivered (result : ExecutionResult) (hyields : Yields behaviour a)
      (hresult : Delivered behaviour contexts a result) (hmark : result.fallbackUsed = false) :
      AttemptSpec registry behaviour contexts a manager (.ok result)
  | failed (result : ExecutionResult) (hfails : ¬ Yields behaviour a)
      (hresult : result.success = false) :
      AttemptSpec registry behaviour contexts a manager (.ok result)
  | stopped (fault : Fault) (hlookup : LookupFails registry behaviour contexts manager a fault) :
      AttemptSpec registry behaviour contexts a manager (.error fault)

section

variable {runtime : Runtime} {contexts : List ExecutionContext} {context : ExecutionContext}
  {position : Nat}

/-- **Spec of an attempt.** -/
theorem attempt_spec (hreturns : ReturnsSuccess runtime.behaviour)
    (hcontext : contexts[position]? = some context) (number : Nat) (session : Session) :
    (runtime.attempt position context number session).2.attempts
      = session.attempts ++ [(position, number)] ∧
    AttemptSpec runtime.registry runtime.behaviour contexts (position, number)
      (runtime.attempt position context number session).2.health
      (runtime.attempt position context number session).1 := by
  unfold Runtime.attempt executeProvider
  rw [pipeline_eq]
  generalize ha : (position, number) = a
  have hcontext' : contexts[a.1]? = some context := by rw [← ha]; exact hcontext
  cases hlookup : lookUp runtime.registry session.health context with
  | error fault =>
      -- neither lookup raises an error of another class
      have hclass : ∀ text, fault ≠ .other text := by
        rintro text rfl
        unfold lookUp ProviderRegistry.find at hlookup
        split at hlookup
        · rw [except_ok_bind] at hlookup
          split at hlookup <;> cases hlookup
        · cases hlookup
      cases fault with
      | other text => exact absurd rfl (hclass text)
      | providerNotFound text =>
          exact ⟨rfl, .stopped _ ⟨context, hcontext', .inl hlookup⟩⟩
      | providerUnavailable text =>
          exact ⟨rfl, .stopped _ ⟨context, hcontext', .inl hlookup⟩⟩
  | ok =>
      cases hhealth : (runtime.behaviour a).health with
      | error fault =>
          have hfails : ¬ Yields runtime.behaviour a := by
            rintro ⟨⟨status, hstatus, -⟩, -⟩
            rw [hhealth] at hstatus
            cases hstatus
          cases fault with
          | other text => exact ⟨rfl, .failed _ hfails rfl⟩
          | providerNotFound text =>
              exact ⟨rfl, .stopped _ ⟨context, hcontext', .inr (.inr ⟨hhealth, by simp⟩)⟩⟩
          | providerUnavailable text =>
              exact ⟨rfl, .stopped _ ⟨context, hcontext', .inr (.inr ⟨hhealth, by simp⟩)⟩⟩
      | ok status =>
          by_cases hstatus : status = .unhealthy
          · subst hstatus
            exact ⟨rfl, .stopped _ ⟨context, hcontext', .inr (.inl ⟨hhealth, rfl⟩)⟩⟩
          · dsimp only
            rw [if_neg hstatus]
            cases hexecute : (runtime.behaviour a).execute with
            | ok provided =>
                refine ⟨rfl, .delivered _ ⟨⟨status, hhealth, hstatus⟩, provided, hexecute,
                  hreturns a provided hexecute⟩ ⟨rfl, rfl, ⟨provided, hexecute, rfl, rfl⟩,
                  context, hcontext', rfl, rfl⟩ rfl⟩
            | error text =>
                refine ⟨rfl, .failed _ ?_ rfl⟩
                rintro ⟨-, provided, hprovided, -⟩
                rw [hexecute] at hprovided
                cases hprovided

/-! ## Retry -/

theorem attemptsFrom_cons (position : Nat) {context : ExecutionContext} {number : Nat}
    (h : number ≤ allowedAttempts context) :
    attemptsFrom position context number
      = (position, number) :: attemptsFrom position context (number + 1) := by
  unfold attemptsFrom
  have hcount : allowedAttempts context + 1 - number
      = (allowedAttempts context + 1 - (number + 1)) + 1 := by omega
  rw [hcount, List.range'_succ, List.map_cons]

theorem attemptsFrom_nil (position : Nat) {context : ExecutionContext} {number : Nat}
    (h : allowedAttempts context < number) : attemptsFrom position context number = [] := by
  unfold attemptsFrom
  rw [Nat.sub_eq_zero_of_le h]
  rfl

/-- A failed attempt is followed by another exactly when the context has one left. -/
theorem shouldRetry_iff (context : ExecutionContext) {result : ExecutionResult} {number : Nat}
    (hfailed : result.success = false) (hnumber : 1 ≤ number) :
    (shouldRetry context result number).shouldRetry = true ↔
      number < allowedAttempts context := by
  unfold shouldRetry allowedAttempts
  rw [hfailed, if_neg Bool.false_ne_true]
  dsimp only
  split
  · exact iff_of_false Bool.false_ne_true (by omega)
  · exact iff_of_true rfl (by omega)

/-- What an execution returns or raises at the end of its search. -/
inductive Answers (registry : ProviderRegistry) (behaviour : Nat × Nat → Attempt)
    (contexts : List ExecutionContext) (manager : HealthManager) :
    SearchEnd (Nat × Nat) → Except Fault ExecutionResult → Prop where
  | found (a : Nat × Nat) (result : ExecutionResult)
      (hresult : Delivered behaviour contexts a result) (hmark : result.fallbackUsed = false) :
      Answers registry behaviour contexts manager (.found a) (.ok result)
  | exhausted (result : ExecutionResult) (hresult : result.success = false) :
      Answers registry behaviour contexts manager .exhausted (.ok result)
  | stopped (a : Nat × Nat) (fault : Fault)
      (hlookup : LookupFails registry behaviour contexts manager a fault) :
      Answers registry behaviour contexts manager (.stopped a) (.error fault)

/-- Between two sessions, the attempts were searched, and the outcome is that of the search. -/
def Searched (runtime : Runtime) (contexts : List ExecutionContext)
    (candidates : List (Nat × Nat)) (session after : Session)
    (outcome : Except Fault ExecutionResult) : Prop :=
  ∃ taken ending, after.attempts = session.attempts ++ taken ∧
    Search (Yields runtime.behaviour) candidates taken ending ∧
    Answers runtime.registry runtime.behaviour contexts after.health ending outcome

/-- A search that failed is continued by one along the next candidates. -/
theorem Searched.continue {xs ys : List (Nat × Nat)} {first second third : Session}
    {result : ExecutionResult} {outcome : Except Fault ExecutionResult}
    (h : Searched runtime contexts xs first second (.ok result))
    (hfailed : result.success = false)
    (hrest : Searched runtime contexts ys second third outcome) :
    Searched runtime contexts (xs ++ ys) first third outcome := by
  obtain ⟨taken, ending, hattempts, hsearch, hanswers⟩ := h
  obtain ⟨taken', ending', hattempts', hsearch', hanswers'⟩ := hrest
  cases hanswers with
  | found a _ hresult => exact absurd (hresult.success.symm.trans hfailed) Bool.noConfusion
  | exhausted =>
      obtain ⟨rfl, hnone⟩ := hsearch.of_exhausted
      refine ⟨taken ++ taken', ending', ?_, hsearch'.prepend hnone, hanswers'⟩
      rw [hattempts', hattempts, List.append_assoc]

/-- A search that did not fail is not continued. -/
theorem Searched.append {xs : List (Nat × Nat)} {session after : Session}
    {outcome : Except Fault ExecutionResult}
    (h : Searched runtime contexts xs session after outcome)
    (hend : ∀ result, outcome = .ok result → result.success = true) (ys : List (Nat × Nat)) :
    Searched runtime contexts (xs ++ ys) session after outcome := by
  obtain ⟨taken, ending, hattempts, hsearch, hanswers⟩ := h
  refine ⟨taken, ending, hattempts, hsearch.append ?_ ys, hanswers⟩
  rintro rfl
  cases hanswers with
  | exhausted result hresult =>
      exact absurd ((hend result rfl).symm.trans hresult) Bool.noConfusion

/-- One attempt is a search along one candidate. -/
theorem searched_attempt (hreturns : ReturnsSuccess runtime.behaviour)
    (hcontext : contexts[position]? = some context) (number : Nat) (session : Session) :
    Searched runtime contexts [(position, number)] session
      (runtime.attempt position context number session).2
      (runtime.attempt position context number session).1 := by
  obtain ⟨hattempts, hspec⟩ := attempt_spec hreturns hcontext number session
  generalize (runtime.attempt position context number session).1 = outcome at hspec ⊢
  have hnone : ∀ b ∈ ([] : List (Nat × Nat)), ¬ Yields runtime.behaviour b := by simp
  cases hspec with
  | delivered result hyields hresult hmark =>
      exact ⟨[(position, number)], _, hattempts, .found hnone hyields, .found _ _ hresult hmark⟩
  | failed result hfails hresult =>
      refine ⟨[(position, number)], _, hattempts, .exhausted ?_, .exhausted _ hresult⟩
      intro b hb
      rw [List.mem_singleton.mp hb]
      exact hfails
  | stopped fault hlookup =>
      exact ⟨[(position, number)], _, hattempts, .stoppedAt hnone, .stopped _ _ hlookup⟩

/-- **The retry loop** searches the attempts that its context has left. -/
theorem retryFrom_spec (hreturns : ReturnsSuccess runtime.behaviour)
    (hcontext : contexts[position]? = some context) (fuel : Nat) :
    ∀ number session outcome after, 1 ≤ number → number ≤ allowedAttempts context →
      runtime.retryFrom position context fuel number session = some (outcome, after) →
      Searched runtime contexts (attemptsFrom position context number) session after outcome := by
  induction fuel with
  | zero =>
      intro number session outcome after _ _ h
      cases h
  | succ fuel ih =>
      intro number session outcome after hone hnumber h
      have hattempt := searched_attempt hreturns hcontext number session
      rw [attemptsFrom_cons position hnumber]
      rw [Runtime.retryFrom] at h
      generalize runtime.attempt position context number session = made at h hattempt
      obtain ⟨answer, middle⟩ := made
      cases answer with
      | error fault =>
          cases h
          exact hattempt.append (fun result h => nomatch h) _
      | ok result =>
          dsimp only at h
          split at h
          · next hsuccess =>
              cases h
              refine hattempt.append (fun other hother => ?_) _
              rw [← Except.ok.inj hother]
              exact hsuccess
          · next hsuccess =>
              have hfailed : result.success = false := Bool.eq_false_iff.mpr hsuccess
              split at h
              · next hretry =>
                  have hmore := (shouldRetry_iff context hfailed hone).mp hretry
                  exact hattempt.continue hfailed
                    (ih (number + 1) middle outcome after (by omega) hmore h)
              · next hretry =>
                  have hlast : ¬ number < allowedAttempts context :=
                    fun hlt => hretry ((shouldRetry_iff context hfailed hone).mpr hlt)
                  rw [attemptsFrom_nil position (show allowedAttempts context < number + 1 by omega)]
                  cases h
                  exact hattempt

/-- The retry loop ends once the fuel covers the attempts that are left. -/
theorem retryFrom_isSome (runtime : Runtime) (position : Nat) (context : ExecutionContext)
    (fuel : Nat) : ∀ number session, 1 ≤ number → allowedAttempts context < number + fuel →
      0 < fuel → (runtime.retryFrom position context fuel number session).isSome = true := by
  induction fuel with
  | zero =>
      intro number session _ _ h
      exact absurd h (Nat.lt_irrefl 0)
  | succ fuel ih =>
      intro number session hone hfuel _
      rw [Runtime.retryFrom]
      generalize runtime.attempt position context number session = made
      obtain ⟨answer, middle⟩ := made
      cases answer with
      | error fault => rfl
      | ok result =>
          dsimp only
          split
          · rfl
          · next hsuccess =>
              have hfailed : result.success = false := Bool.eq_false_iff.mpr hsuccess
              split
              · next hretry =>
                  have hmore := (shouldRetry_iff context hfailed hone).mp hretry
                  exact ih (number + 1) middle (by omega) (by omega) (by omega)
              · rfl

/-- **`_execute_with_retry`** searches all attempts of its context. -/
theorem executeWithRetry_spec (hreturns : ReturnsSuccess runtime.behaviour)
    (hcontext : contexts[position]? = some context) {fuel : Nat} {session after : Session}
    {outcome : Except Fault ExecutionResult}
    (h : runtime.executeWithRetry fuel position context session = some (outcome, after)) :
    Searched runtime contexts (attemptsFrom position context 1) session after outcome := by
  have hone : 1 ≤ allowedAttempts context := Nat.succ_pos _
  unfold Runtime.executeWithRetry at h
  split at h
  · next fault hlookup =>
      cases h
      refine ⟨[], .stopped (position, 1), (List.append_nil _).symm, ?_,
        .stopped _ _ ⟨context, hcontext, .inl hlookup⟩⟩
      rw [attemptsFrom_cons position hone]
      have hnone : ∀ b ∈ ([] : List (Nat × Nat)), ¬ Yields runtime.behaviour b := by simp
      exact .stoppedBefore hnone
  · exact retryFrom_spec hreturns hcontext fuel 1 session outcome after le_rfl hone h

/-- The fuel that covers every context. -/
theorem executeWithRetry_isSome (runtime : Runtime) (position : Nat) (context : ExecutionContext)
    {fuel : Nat} (hfuel : allowedAttempts context ≤ fuel) (session : Session) :
    (runtime.executeWithRetry fuel position context session).isSome = true := by
  have hone : 1 ≤ allowedAttempts context := Nat.succ_pos _
  unfold Runtime.executeWithRetry
  split
  · rfl
  · exact retryFrom_isSome runtime position context fuel 1 session le_rfl (by omega) (by omega)

/-! ## Fallback -/

/-- The outcome of a fallback loop, without its report. -/
def outcomeOf (answer : Except Fault (ExecutionResult × FallbackReport)) :
    Except Fault ExecutionResult := answer.map (·.1)

/-- **The fallback loop** searches the attempts of all contexts from its position on. -/
theorem fallbackFrom_spec (hreturns : ReturnsSuccess runtime.behaviour)
    (primary : ExecutionContext) (fuel : Nat) (rest : List ExecutionContext) :
    ∀ position context session answer after, contexts.drop position = context :: rest →
      runtime.fallbackFrom fuel primary position context rest session = some (answer, after) →
      Searched runtime contexts (scheduleFrom position (context :: rest)) session after
        (outcomeOf answer) := by
  induction rest with
  | nil =>
      intro position context session answer after hdrop h
      have hcontext : contexts[position]? = some context := by
        rw [← List.head?_drop, hdrop]; rfl
      rw [Runtime.fallbackFrom] at h
      rw [scheduleFrom, scheduleFrom, List.append_nil]
      split at h
      · cases h
      · next fault middle hretry =>
          cases h
          exact executeWithRetry_spec hreturns hcontext hretry
      · next result middle hretry =>
          have hspec := executeWithRetry_spec hreturns hcontext hretry
          split at h <;> cases h <;> exact hspec
  | cons next rest ih =>
      intro position context session answer after hdrop h
      have hcontext : contexts[position]? = some context := by
        rw [← List.head?_drop, hdrop]; rfl
      have hnext : contexts.drop (position + 1) = next :: rest := by
        rw [← List.tail_drop, hdrop, List.tail_cons]
      rw [Runtime.fallbackFrom] at h
      rw [scheduleFrom]
      split at h
      · cases h
      · next fault middle hretry =>
          cases h
          exact (executeWithRetry_spec hreturns hcontext hretry).append (fun _ h => nomatch h) _
      · next result middle hretry =>
          have hspec := executeWithRetry_spec hreturns hcontext hretry
          split at h
          · next hsuccess =>
              cases h
              refine hspec.append (fun other hother => ?_) _
              rw [← Except.ok.inj hother]
              exact hsuccess
          · next hsuccess =>
              exact hspec.continue (Bool.eq_false_iff.mpr hsuccess)
                (ih (position + 1) next middle answer after hnext h)

end

/-! ## The mark of a fallback -/

section

variable {runtime : Runtime} {context : ExecutionContext} {position : Nat}

/-- Every result carries the provider of its context. -/
theorem attempt_providerId {number : Nat} {session after : Session} {result : ExecutionResult}
    (h : runtime.attempt position context number session = (.ok result, after)) :
    result.providerId = context.providerId := by
  unfold Runtime.attempt executeProvider at h
  rw [pipeline_eq] at h
  generalize runtime.behaviour (position, number) = attempt at h
  cases hlookup : lookUp runtime.registry session.health context with
  | error fault =>
      rw [hlookup] at h
      cases fault with
      | other text => cases h; rfl
      | providerNotFound text => cases h
      | providerUnavailable text => cases h
  | ok =>
      rw [hlookup] at h
      cases hhealth : attempt.health with
      | error fault =>
          rw [hhealth] at h
          cases fault with
          | other text => cases h; rfl
          | providerNotFound text => cases h
          | providerUnavailable text => cases h
      | ok status =>
          rw [hhealth] at h
          by_cases hstatus : status = .unhealthy
          · simp only [if_pos hstatus] at h
            cases h
          · simp only [if_neg hstatus] at h
            cases hexecute : attempt.execute with
            | ok provided => rw [hexecute] at h; cases h; rfl
            | error text => rw [hexecute] at h; cases h; rfl

theorem retryFrom_providerId {fuel : Nat} : ∀ {number : Nat} {session after : Session}
    {result : ExecutionResult},
    runtime.retryFrom position context fuel number session = some (.ok result, after) →
    result.providerId = context.providerId := by
  induction fuel with
  | zero =>
      intro number session after result h
      cases h
  | succ fuel ih =>
      intro number session after result h
      rw [Runtime.retryFrom] at h
      split at h
      · cases h
      · next made middle hattempt =>
          split at h
          · cases h
            exact attempt_providerId hattempt
          · split at h
            · exact ih h
            · cases h
              exact attempt_providerId hattempt

theorem executeWithRetry_providerId {fuel : Nat} {session after : Session}
    {result : ExecutionResult}
    (h : runtime.executeWithRetry fuel position context session = some (.ok result, after)) :
    result.providerId = context.providerId := by
  unfold Runtime.executeWithRetry at h
  split at h
  · cases h
  · exact retryFrom_providerId h

/-- The report on a success names the primary's provider and the provider of the result. -/
theorem fallbackFrom_report {primary : ExecutionContext} {fuel : Nat}
    (rest : List ExecutionContext) :
    ∀ position context session result report after, (position = 0 → context = primary) →
      runtime.fallbackFrom fuel primary position context rest session
        = some (.ok (result, report), after) →
      result.success = true →
      report.primaryProvider = primary.providerId ∧
      report.fallbackProvider = result.providerId := by
  have hnamed : ∀ {position : Nat} {context : ExecutionContext} {session after : Session}
      {result : ExecutionResult}, (position = 0 → context = primary) →
      runtime.executeWithRetry fuel position context session = some (.ok result, after) →
      (if position > 0 then context.providerId else primary.providerId) = result.providerId := by
    intro position context session after result hprimary hretry
    rw [executeWithRetry_providerId hretry]
    split
    · rfl
    · next hzero => rw [hprimary (Nat.eq_zero_of_not_pos hzero)]
  induction rest with
  | nil =>
      intro position context session result report after hprimary h hsuccess
      rw [Runtime.fallbackFrom] at h
      split at h
      · cases h
      · cases h
      · next made middle hretry =>
          split at h
          · cases h
            exact ⟨rfl, hnamed hprimary hretry⟩
          · next hfailed =>
              cases h
              exact absurd hsuccess hfailed
  | cons next rest ih =>
      intro position context session result report after hprimary h hsuccess
      rw [Runtime.fallbackFrom] at h
      split at h
      · cases h
      · cases h
      · next made middle hretry =>
          split at h
          · cases h
            exact ⟨rfl, hnamed hprimary hretry⟩
          · exact ih (position + 1) next middle result report after
              (fun hzero => absurd hzero (Nat.succ_ne_zero position)) h hsuccess

end

/-! ## Whole executions -/

/-- The fuel that covers the contexts. -/
theorem fallbackFrom_isSome (runtime : Runtime) (primary : ExecutionContext) {fuel : Nat}
    (rest : List ExecutionContext) : ∀ position context session,
      (∀ other ∈ context :: rest, allowedAttempts other ≤ fuel) →
      (runtime.fallbackFrom fuel primary position context rest session).isSome = true := by
  induction rest with
  | nil =>
      intro position context session hfuel
      have hretry := executeWithRetry_isSome runtime position context
        (hfuel context List.mem_cons_self) session
      rw [Runtime.fallbackFrom]
      split
      · next hnone => rw [hnone] at hretry; cases hretry
      · rfl
      · split <;> rfl
  | cons next rest ih =>
      intro position context session hfuel
      have hretry := executeWithRetry_isSome runtime position context
        (hfuel context List.mem_cons_self) session
      rw [Runtime.fallbackFrom]
      split
      · next hnone => rw [hnone] at hretry; cases hretry
      · rfl
      · split
        · rfl
        · exact ih (position + 1) next _ fun other hother =>
            hfuel other (List.mem_cons_of_mem _ hother)

/-- Some fuel covers all of finitely many contexts. -/
theorem exists_fuel (contexts : List ExecutionContext) :
    ∃ fuel, ∀ context ∈ contexts, allowedAttempts context ≤ fuel :=
  ⟨(contexts.map allowedAttempts).foldr max 0, fun _ hmem =>
    List.le_max_of_le' 0 (List.mem_map_of_mem hmem) le_rfl⟩

/-- An execution returns or raises. -/
theorem execute_isSome (runtime : Runtime) (health : HealthManager) (context : ExecutionContext)
    (fallbackContexts : List ExecutionContext) :
    ∃ fuel, (runtime.execute fuel health context fallbackContexts).isSome = true := by
  obtain ⟨fuel, hfuel⟩ := exists_fuel (context :: fallbackContexts)
  refine ⟨fuel, ?_⟩
  unfold Runtime.execute
  dsimp only
  split
  · exact executeWithRetry_isSome runtime 0 context (hfuel context List.mem_cons_self) _
  · have hsome := fallbackFrom_isSome runtime context fallbackContexts 0 context ⟨health, []⟩ hfuel
    split
    · next hnone => rw [hnone] at hsome; cases hsome
    · rfl
    · rfl

section

variable {runtime : Runtime} {context : ExecutionContext}
  {fallbackContexts : List ExecutionContext} {health : HealthManager} {after : Session}

/-- What a search along the whole schedule gives, when the mark says whether the result is of
    another provider than the primary's. -/
theorem exhaustive_of_searched {plain outcome : Except Fault ExecutionResult}
    (hsearched : Searched runtime (context :: fallbackContexts)
      (schedule (context :: fallbackContexts)) ⟨health, []⟩ after plain)
    (hraised : ∀ fault, outcome = .error fault → plain = .error fault)
    (hresult : ∀ result, outcome = .ok result → ∃ found, plain = .ok found ∧
      result.success = found.success ∧ result.content = found.content ∧
      result.usage = found.usage ∧ result.providerId = found.providerId ∧
      result.modelId = found.modelId ∧ result.state = found.state ∧
      (found.success = true → found.fallbackUsed = false →
        result.fallbackUsed = decide (context.providerId ≠ found.providerId))) :
    Exhaustive runtime context fallbackContexts outcome after := by
  obtain ⟨taken, ending, hattempts, hsearch, hanswers⟩ := hsearched
  have htaken : after.attempts = taken := by rw [hattempts]; rfl
  refine ⟨?_, ?_, ?_, ?_⟩
  · intro result houtcome
    obtain ⟨found, hplain, hsuccess, -⟩ := hresult result houtcome
    rw [hplain] at hanswers
    cases hanswers with
    | found a _ hdelivered _ =>
        exact iff_of_true (hsuccess.trans hdelivered.success) hsearch.exists_of_found
    | exhausted _ hfailed =>
        refine iff_of_false ?_ ?_
        · rw [hsuccess, hfailed]
          exact Bool.false_ne_true
        · rintro ⟨a, hmem, hyields⟩
          exact hsearch.of_exhausted.2 a hmem hyields
  · intro result houtcome htrue
    obtain ⟨found, hplain, hsuccess, hcontent, husage, hprovider, hmodel, hstate, hmark⟩ :=
      hresult result houtcome
    rw [hplain] at hanswers
    cases hanswers with
    | found a _ hdelivered hunmarked =>
        obtain ⟨before, rest, heq, hlast, hyields, hbefore⟩ := hsearch.of_found
        have hmarked := hmark hdelivered.success hunmarked
        refine ⟨before, a, rest, heq, htaken.trans hlast, hyields, hbefore,
          ⟨htrue, hstate.trans hdelivered.state, ?_, ?_⟩, ?_, ?_⟩
        · obtain ⟨provided, hexecute, hc, hu⟩ := hdelivered.provided
          exact ⟨provided, hexecute, hcontent.trans hc, husage.trans hu⟩
        · obtain ⟨own, hown, hp, hm⟩ := hdelivered.context
          exact ⟨own, hown, hprovider.trans hp, hmodel.trans hm⟩
        · intro hfirst
          obtain ⟨own, hown, hp, -⟩ := hdelivered.context
          rw [hfirst] at hown
          obtain rfl : context = own := Option.some.inj hown
          rw [hmarked, hp]
          simp
        · intro hne
          rw [hmarked, ← hprovider]
          exact decide_eq_true (Ne.symm hne)
    | exhausted _ hfailed =>
        rw [hsuccess, hfailed] at htrue
        exact absurd htrue Bool.false_ne_true
  · intro result houtcome hfalse
    obtain ⟨found, hplain, hsuccess, -⟩ := hresult result houtcome
    rw [hplain] at hanswers
    cases hanswers with
    | found a _ hdelivered _ =>
        rw [hsuccess, hdelivered.success] at hfalse
        exact absurd hfalse Bool.noConfusion
    | exhausted _ _ => exact htaken.trans hsearch.of_exhausted.1
  · intro fault houtcome
    rw [hraised fault houtcome] at hanswers
    cases hanswers with
    | stopped a _ hlookup =>
        obtain ⟨before, rest, heq, hlast, hbefore⟩ := hsearch.of_stopped
        exact ⟨before, a, rest, heq, by rw [htaken]; exact hlast, hbefore, hlookup⟩

theorem withReport_fields (result : ExecutionResult) (report : FallbackReport) :
    (Runtime.withReport result report).success = result.success ∧
    (Runtime.withReport result report).content = result.content ∧
    (Runtime.withReport result report).usage = result.usage ∧
    (Runtime.withReport result report).providerId = result.providerId ∧
    (Runtime.withReport result report).modelId = result.modelId ∧
    (Runtime.withReport result report).state = result.state ∧
    (result.fallbackUsed = false →
      (Runtime.withReport result report).fallbackUsed = report.fallbackUsed) := by
  unfold Runtime.withReport
  split
  · next hused => exact ⟨rfl, rfl, rfl, rfl, rfl, rfl, fun _ => hused.symm⟩
  · next hused =>
      refine ⟨rfl, rfl, rfl, rfl, rfl, rfl, fun hunmarked => ?_⟩
      rw [hunmarked, Bool.eq_false_iff.mpr hused]

/-- **Retry and fallback are exhaustive and truthful**: an execution returns or raises, and
    whatever it returns or raises is the end of a search of the schedule for the first attempt
    that yields. -/
theorem execute_exhaustive (runtime : Runtime) (health : HealthManager)
    (context : ExecutionContext) (fallbackContexts : List ExecutionContext)
    (hreturns : ReturnsSuccess runtime.behaviour) :
    (∃ fuel, (runtime.execute fuel health context fallbackContexts).isSome = true) ∧
    ∀ fuel outcome session,
      runtime.execute fuel health context fallbackContexts = some (outcome, session) →
      Exhaustive runtime context fallbackContexts outcome session := by
  refine ⟨execute_isSome runtime health context fallbackContexts, ?_⟩
  intro fuel outcome session h
  unfold Runtime.execute at h
  dsimp only at h
  split at h
  · next hempty =>
      subst hempty
      have hspec : Searched runtime [context] (schedule [context]) ⟨health, []⟩ session outcome := by
        rw [schedule, scheduleFrom, scheduleFrom, List.append_nil]
        exact executeWithRetry_spec hreturns rfl h
      refine exhaustive_of_searched hspec (fun fault hfault => hfault) fun result hresult => ?_
      subst hresult
      refine ⟨result, rfl, rfl, rfl, rfl, rfl, rfl, rfl, fun _ hunmarked => ?_⟩
      rw [hunmarked, executeWithRetry_providerId h]
      simp
  · split at h
    · cases h
    · next fault middle hfallback =>
        cases h
        have hspec := @fallbackFrom_spec runtime (context :: fallbackContexts) hreturns
          context fuel fallbackContexts 0 context ⟨health, []⟩ _ _ rfl hfallback
        exact exhaustive_of_searched hspec (fun fault hfault => hfault) fun _ h => nomatch h
    · next result report middle hfallback =>
        cases h
        have hspec := @fallbackFrom_spec runtime (context :: fallbackContexts) hreturns
          context fuel fallbackContexts 0 context ⟨health, []⟩ _ _ rfl hfallback
        refine exhaustive_of_searched hspec (fun _ h => nomatch h) fun final hfinal => ?_
        obtain rfl := Except.ok.inj hfinal
        obtain ⟨hsuccess, hcontent, husage, hprovider, hmodel, hstate, hmark⟩ :=
          withReport_fields result report
        refine ⟨result, rfl, hsuccess, hcontent, husage, hprovider, hmodel, hstate,
          fun htrue hunmarked => ?_⟩
        obtain ⟨hprimary, hfallbackProvider⟩ := fallbackFrom_report fallbackContexts 0 context
          ⟨health, []⟩ result report _ (fun _ => rfl) hfallback htrue
        rw [hmark hunmarked, FallbackReport.fallbackUsed, hprimary, hfallbackProvider]

end

/-! ## Two small executions -/

/-- A request to a provider, with one retry and no delay. -/
def requestTo (providerId : String) : ExecutionContext :=
  ⟨"prompt", "model", providerId, ⟨1, .none⟩, ⟨"trace", []⟩⟩

/-- A runtime with two providers: the contexts before the last fail, the last succeeds. -/
def lastSucceeds (last : Nat) (providers : List String) : Runtime where
  registry := fun providerId => providerId ∈ providers
  middlewares := [.logging, .metrics]
  behaviour := fun a => ⟨.ok .healthy,
    if a.1 < last then .error "down"
    else .ok
      { success := true
        content := "answer"
        usage := noUsage
        providerId := ""
        modelId := ""
        state := .success
        trace := ⟨"", []⟩
        error := none }⟩

theorem lastSucceeds_returnsSuccess (last : Nat) (providers : List String) :
    ReturnsSuccess (lastSucceeds last providers).behaviour := by
  intro a provided h
  unfold lastSucceeds at h
  dsimp only at h
  split at h <;> cases h
  rfl

theorem execute_exhaustive_fallback :
    (∃ fuel, ((lastSucceeds 1 ["a", "b"]).execute fuel (fun _ => none) (requestTo "a")
      [requestTo "b"]).isSome = true) ∧
    ∀ fuel outcome session, (lastSucceeds 1 ["a", "b"]).execute fuel (fun _ => none)
        (requestTo "a") [requestTo "b"] = some (outcome, session) →
      Exhaustive (lastSucceeds 1 ["a", "b"]) (requestTo "a") [requestTo "b"] outcome session :=
  execute_exhaustive _ _ _ _ (lastSucceeds_returnsSuccess 1 ["a", "b"])

/-- When the primary's provider is not registered, its error goes to the caller and the fallback
    that would have answered is not tried. -/
theorem not_exhaustive_of_missing_primary :
    ¬ ∀ (runtime : Runtime) (health : HealthManager) (context : ExecutionContext)
      (fallbackContexts : List ExecutionContext) (fuel : Nat)
      (outcome : Except Fault ExecutionResult) (session : Session),
      runtime.execute fuel health context fallbackContexts = some (outcome, session) →
      ((∃ result, outcome = .ok result ∧ result.success = true) ↔
        ∃ a ∈ schedule (context :: fallbackContexts), Yields runtime.behaviour a) := by
  intro hclaim
  have hrun : (lastSucceeds 1 ["b"]).execute 2 (fun _ => none) (requestTo "a") [requestTo "b"]
      = some (.error (.providerNotFound "Provider 'a' not found."), ⟨fun _ => none, []⟩) := rfl
  have hyields : ∃ a ∈ schedule [requestTo "a", requestTo "b"],
      Yields (lastSucceeds 1 ["b"]).behaviour a :=
    ⟨(1, 1), by decide, ⟨.healthy, rfl, by decide⟩, _, rfl, rfl⟩
  obtain ⟨result, hresult, -⟩ := (hclaim _ _ _ _ _ _ _ hrun).mpr hyields
  cases hresult

end Eag.ProviderExecution
