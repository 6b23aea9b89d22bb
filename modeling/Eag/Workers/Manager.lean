/-
  Eag.Workers.Manager

  Worker profiles and their states (`workers/models.py`, `workers/enums.py`), the
  registry (`workers/registry.py`), the health counters (`workers/health.py`), and the
  pool of workers: assignment and release (`workers/manager.py`) and the execution of a
  task by an assigned worker (`workers/runtime.py`). The manager, the runtime and the
  health manager share one pool.

  Of a profile only what decides an assignment is kept. What a worker makes of a task is
  an outcome that the pool is given. Telemetry is left out. The dispatches are the record
  of the tasks that were handed to workers, and of when it respects their dependencies.
-/

import Mathlib.Data.Finset.Dedup
import Mathlib.Data.Finset.Disjoint
import Mathlib.Data.Finset.Lattice.Lemmas
import Mathlib.Data.List.Sort
import Mathlib.Data.String.Basic
import Eag.Foundation.Checks
import Eag.Foundation.Dict
import Eag.Foundation.Text

namespace Eag.Workers

open Eag.Foundation

/-! ## Vocabulary -/

/-- Lifecycle states of a worker. -/
inductive WorkerState where
  | idle
  | assigned
  | planning
  | executing
  | waiting
  | reviewing
  | blocked
  | completed
  | failed
  deriving DecidableEq, Repr

/-- Health of a worker. -/
inductive WorkerHealth where
  | healthy
  | busy
  | degraded
  | unavailable
  deriving DecidableEq, Repr

/-- What keeps a worker from being assigned or from running a task. -/
inductive WorkerError where
  | value (message : String)
  | workerNotFound (workerId : String)
  deriving DecidableEq, Repr

/-- `_validate_non_empty_str`. -/
def validateNonEmptyStr (value fieldName : String) : Except WorkerError String := do
  require (NonBlank value) (.value (fieldName ++ " cannot be empty or whitespace"))
  .ok (strip value)

theorem validateNonEmptyStr_of_trimmed {value : String} (h : Trimmed value)
    (fieldName : String) : validateNonEmptyStr value fieldName = .ok value := by
  simp only [validateNonEmptyStr, require_of _ _ h.1, except_ok_bind, h.2]

/-! ## Workers -/

structure WorkerProfile where
  id : String
  capabilities : List String
  preferredCapabilities : List String
  deriving DecidableEq, Repr

/-- The registered workers, by distinct identities. -/
structure WorkerRegistry where
  workers : List WorkerProfile
  ids_nodup : (workers.map WorkerProfile.id).Nodup

namespace WorkerRegistry

variable (registry : WorkerRegistry)

/-- `find`. -/
def find (workerId : String) : Except WorkerError WorkerProfile :=
  match registry.workers.find? (fun worker => worker.id = workerId) with
  | some worker => .ok worker
  | none => .error (.workerNotFound workerId)

/-- `list`: sorted by identity. -/
def list : List WorkerProfile := registry.workers.insertionSort fun a b => a.id ≤ b.id

/-- `by_capability`. -/
def byCapability (capability : String) : List WorkerProfile :=
  registry.list.filter fun worker => capability ∈ worker.capabilities

@[simp] theorem mem_list {worker : WorkerProfile} :
    worker ∈ registry.list ↔ worker ∈ registry.workers := List.mem_insertionSort _

theorem find_of_mem {worker : WorkerProfile} (h : worker ∈ registry.workers) :
    registry.find worker.id = .ok worker := by
  have hfind := find?_key registry.ids_nodup h
  simp only [find, hfind]

end WorkerRegistry

/-! ## Health -/

/-- `WorkerHealthManager`. Workers without an entry are healthy and have no failures. -/
structure WorkerHealthManager where
  health : String → WorkerHealth
  failureCounts : String → Nat
  degradeThreshold : Int
  unavailableThreshold : Int

namespace WorkerHealthManager

variable (manager : WorkerHealthManager) (workerId : String)

/-- `record_success`. -/
def recordSuccess : WorkerHealthManager :=
  { manager with
    failureCounts := Function.update manager.failureCounts workerId 0
    health := Function.update manager.health workerId .healthy }

/-- `record_failure`. Below both thresholds the health stays what it was. -/
def recordFailure : WorkerHealthManager :=
  let count := manager.failureCounts workerId + 1
  let counted := { manager with
    failureCounts := Function.update manager.failureCounts workerId count }
  if (count : Int) ≥ manager.unavailableThreshold then
    { counted with health := Function.update manager.health workerId .unavailable }
  else if (count : Int) ≥ manager.degradeThreshold then
    { counted with health := Function.update manager.health workerId .degraded }
  else counted

end WorkerHealthManager

/-! ## The pool -/

/-- State tracking of a worker. -/
structure WorkerInstance where
  state : WorkerState
  currentTaskId : Option String
  deriving DecidableEq, Repr

/-- The registry, the health counters and the instance of every worker. -/
structure WorkerPool where
  registry : WorkerRegistry
  healthManager : WorkerHealthManager
  instances : String → WorkerInstance

/-- What came of a worker's attempt at a task. -/
inductive WorkerOutcome where
  | returned (success : Bool)
  | raised
  deriving DecidableEq, Repr

/-- `result.success`, for the result the runtime makes of an outcome. -/
def WorkerOutcome.success : WorkerOutcome → Bool
  | .returned success => success
  | .raised => false

namespace WorkerPool

variable (pool : WorkerPool)

/-- The state and health of a worker that can be assigned. -/
def isAvailable (worker : WorkerProfile) : Bool :=
  (pool.instances worker.id).state = .idle ∧
    (pool.healthManager.health worker.id = .healthy ∨
      pool.healthManager.health worker.id = .degraded)

/-- The workers with a capability; all of them when none is required. -/
def candidates (requiredCapability : String) : List WorkerProfile :=
  if requiredCapability = "" then pool.registry.list
  else pool.registry.byCapability requiredCapability

/-- `find_best_worker`, for the capability a task requires. -/
def findBestWorker (requiredCapability : String) : Option WorkerProfile :=
  let available := (pool.candidates requiredCapability).filter pool.isAvailable
  let preferred := available.filter fun worker =>
    requiredCapability ∈ worker.preferredCapabilities
  if requiredCapability ≠ "" ∧ preferred ≠ [] then preferred.head? else available.head?

/-- The pool with another instance of a worker. -/
def setInstance (workerId : String) (inst : WorkerInstance) : WorkerPool :=
  { pool with instances := Function.update pool.instances workerId inst }

@[simp] theorem setInstance_registry (workerId : String) (inst : WorkerInstance) :
    (pool.setInstance workerId inst).registry = pool.registry := rfl

@[simp] theorem setInstance_healthManager (workerId : String) (inst : WorkerInstance) :
    (pool.setInstance workerId inst).healthManager = pool.healthManager := rfl

/-- `assign`; no pool when the worker is not idle. -/
def assign (workerId taskId : String) : Option WorkerPool :=
  if (pool.instances workerId).state = .idle then
    some (pool.setInstance workerId ⟨.assigned, some taskId⟩)
  else none

/-- `release`. -/
def release (workerId : String) : WorkerPool := pool.setInstance workerId ⟨.idle, none⟩

/-- The pool once a worker is through with a task: the result counted, the worker
    released. -/
def settle (workerId : String) (success : Bool) : WorkerPool :=
  let healthManager :=
    if success then pool.healthManager.recordSuccess workerId
    else pool.healthManager.recordFailure workerId
  ({ pool with healthManager := healthManager } : WorkerPool).release workerId

@[simp] theorem settle_registry (workerId : String) (success : Bool) :
    (pool.settle workerId success).registry = pool.registry := rfl

/-- `WorkerRuntime.execute`: whether the result is a success, and the pool after it. The
    result that stands for a raised error is checked like any other. -/
def execute (worker : WorkerProfile) (taskId : String) (outcome : WorkerOutcome) :
    Except WorkerError (Bool × WorkerPool) :=
  match outcome with
  | .returned success => .ok (success, pool.settle worker.id success)
  | .raised => do
      let _ ← validateNonEmptyStr worker.id "worker_id"
      let _ ← validateNonEmptyStr taskId "task_id"
      .ok (false, pool.settle worker.id false)

/-! ## What the operations do -/

/-- A worker that is found is registered and available. -/
theorem findBestWorker_eq_some {requiredCapability : String} {worker : WorkerProfile}
    (h : pool.findBestWorker requiredCapability = some worker) :
    worker ∈ pool.registry.workers ∧ pool.isAvailable worker = true := by
  have hmem : worker ∈ (pool.candidates requiredCapability).filter pool.isAvailable := by
    unfold findBestWorker at h
    dsimp only at h
    split at h
    · exact (List.mem_filter.mp (List.mem_of_head? h)).1
    · exact List.mem_of_head? h
  obtain ⟨hcandidate, havailable⟩ := List.mem_filter.mp hmem
  refine ⟨?_, havailable⟩
  unfold candidates at hcandidate
  split at hcandidate
  · exact pool.registry.mem_list.mp hcandidate
  · exact pool.registry.mem_list.mp (List.mem_filter.mp hcandidate).1

/-- The worker that is found can be assigned. -/
theorem assign_of_found {requiredCapability : String} {worker : WorkerProfile}
    (h : pool.findBestWorker requiredCapability = some worker) (taskId : String) :
    pool.assign worker.id taskId =
      some (pool.setInstance worker.id ⟨.assigned, some taskId⟩) := by
  have havailable := (pool.findBestWorker_eq_some h).2
  simp only [isAvailable, decide_eq_true_eq] at havailable
  rw [assign, if_pos havailable.1]

/-- What running a task leaves behind when it yields a result. -/
theorem execute_eq_ok {worker : WorkerProfile} {taskId : String} {outcome : WorkerOutcome}
    {success : Bool} {pool' : WorkerPool}
    (h : pool.execute worker taskId outcome = .ok (success, pool')) :
    success = outcome.success ∧ pool' = pool.settle worker.id outcome.success := by
  unfold execute at h
  cases outcome with
  | returned _ =>
      obtain ⟨rfl, rfl⟩ := Prod.mk.inj (Except.ok.inj h)
      exact ⟨rfl, rfl⟩
  | raised =>
      simp only [except_bind_eq_ok] at h
      obtain ⟨-, -, -, -, h⟩ := h
      obtain ⟨rfl, rfl⟩ := Prod.mk.inj (Except.ok.inj h)
      exact ⟨rfl, rfl⟩

/-- Between identities that are not blank, running a task yields a result. -/
theorem execute_of_nonBlank {worker : WorkerProfile} {taskId : String}
    (outcome : WorkerOutcome) (hworker : NonBlank worker.id) (htask : NonBlank taskId) :
    pool.execute worker taskId outcome =
      .ok (outcome.success, pool.settle worker.id outcome.success) := by
  cases outcome with
  | returned _ => rfl
  | raised =>
      simp only [execute, validateNonEmptyStr, require_of _ _ hworker, require_of _ _ htask,
        except_ok_bind, WorkerOutcome.success]

end WorkerPool

/-! ## Dispatches -/

/-- A task that was handed to a worker, and whether the worker succeeded. -/
structure Dispatch where
  taskId : String
  workerId : String
  success : Bool
  deriving DecidableEq, Repr

/-- The tasks of the dispatches with an outcome. -/
def tasksWith (success : Bool) (dispatches : List Dispatch) : Finset String :=
  ((dispatches.filter (·.success = success)).map Dispatch.taskId).toFinset

theorem mem_tasksWith {success : Bool} {dispatches : List Dispatch} {id : String} :
    id ∈ tasksWith success dispatches ↔
      ∃ entry ∈ dispatches, entry.taskId = id ∧ entry.success = success := by
  simp only [tasksWith, List.mem_toFinset, List.mem_map, List.mem_filter, decide_eq_true_eq]
  constructor
  · rintro ⟨entry, ⟨hmem, hsuccess⟩, hid⟩
    exact ⟨entry, hmem, hid, hsuccess⟩
  · rintro ⟨entry, hmem, hid, hsuccess⟩
    exact ⟨entry, ⟨hmem, hsuccess⟩, hid⟩

theorem tasksWith_append (success : Bool) (xs ys : List Dispatch) :
    tasksWith success (xs ++ ys) = tasksWith success xs ∪ tasksWith success ys := by
  simp [tasksWith, List.toFinset_append]

theorem taskId_mem_tasksWith {entries : List Dispatch} {id : String} :
    id ∈ entries.map Dispatch.taskId ↔ id ∈ tasksWith true entries ∨ id ∈ tasksWith false entries := by
  simp only [List.mem_map, mem_tasksWith]
  constructor
  · rintro ⟨entry, hmem, rfl⟩
    cases hsuccess : entry.success with
    | true => exact Or.inl ⟨entry, hmem, rfl, hsuccess⟩
    | false => exact Or.inr ⟨entry, hmem, rfl, hsuccess⟩
  · rintro (⟨entry, hmem, hid, -⟩ | ⟨entry, hmem, hid, -⟩) <;> exact ⟨entry, hmem, hid⟩

/-- One outcome for each task, when no task occurs twice. -/
theorem disjoint_tasksWith {entries : List Dispatch}
    (hnodup : (entries.map Dispatch.taskId).Nodup) :
    Disjoint (tasksWith true entries) (tasksWith false entries) := by
  rw [Finset.disjoint_left]
  intro id htrue hfalse
  obtain ⟨a, ha, hida, hsuccess⟩ := mem_tasksWith.mp htrue
  obtain ⟨b, hb, hidb, hfailure⟩ := mem_tasksWith.mp hfalse
  obtain rfl := eq_of_key_eq hnodup ha hb (hida.trans hidb.symm)
  rw [hsuccess] at hfailure
  cases hfailure

/-! ## Dependencies -/

/-- Every dispatch comes after successful dispatches of all parents, except for those in
    `done`. -/
def AfterParents (parents : String → List String) (done : Finset String) (dispatches : List Dispatch) :
    Prop :=
  ∀ before entry after, dispatches = before ++ entry :: after →
    ∀ p ∈ parents entry.taskId,
      p ∈ done ∨ ∃ earlier ∈ before, earlier.taskId = p ∧ earlier.success = true

/-- Dispatches whose parents were all done before stay in order. -/
theorem AfterParents.append {parents : String → List String} {done completed : Finset String} {dispatches entries : List Dispatch}
    (h : AfterParents parents done dispatches)
    (hcompleted : ∀ id ∈ completed, id ∈ done ∨ id ∈ tasksWith true dispatches)
    (hparents : ∀ entry ∈ entries, ∀ p ∈ parents entry.taskId, p ∈ completed) :
    AfterParents parents done (dispatches ++ entries) := by
  intro before entry after heq p hp
  rcases List.append_eq_append_iff.mp heq with ⟨middle, rfl, hentries⟩ | ⟨middle, rfl, hrest⟩
  · -- the dispatch is one of the new ones
    have hmem : entry ∈ entries := by rw [hentries]; simp
    refine (hcompleted p (hparents entry hmem p hp)).imp_right fun hsucceeded => ?_
    obtain ⟨earlier, hearlier, hspec⟩ := mem_tasksWith.mp hsucceeded
    exact ⟨earlier, List.mem_append_left _ hearlier, hspec⟩
  · cases middle with
    | nil =>
        have hmem : entry ∈ entries := by rw [← List.nil_append entries, ← hrest]; simp
        refine (hcompleted p (hparents entry hmem p hp)).imp_right fun hsucceeded => ?_
        obtain ⟨earlier, hearlier, hspec⟩ := mem_tasksWith.mp hsucceeded
        exact ⟨earlier, by simpa using hearlier, hspec⟩
    | cons head rest =>
        obtain ⟨rfl, rfl⟩ := List.cons.inj hrest
        exact h before entry rest rfl p hp

end Eag.Workers
