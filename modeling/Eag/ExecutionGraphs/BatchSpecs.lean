/-
  Eag.ExecutionGraphs.BatchSpecs

  What the executor does with a batch: which nodes it gets to, which of them
  complete or fail, and when no error leaves it.
-/

import Eag.ExecutionGraphs.Runtime

namespace Eag.ExecutionGraphs

open Eag.Foundation Eag.Workers

section

variable (policy : FailurePolicy) (outcomes : Nat → WorkerOutcome)

/-- Every node that finds a worker, as a batch is worked off, satisfies `Q` with the worker
    and the outcome. After a failure under the fail-fast policy nothing more is run. -/
def Runs (Q : ExecutionNode → WorkerProfile → WorkerOutcome → Prop) :
    ExecutorState → List ExecutionNode → Prop
  | _, [] => True
  | state, node :: batch =>
      match state.pool.findBestWorker "python" with
      | none => Runs Q state batch
      | some worker =>
          Q node worker (state.outcome outcomes) ∧
          ((state.outcome outcomes).success = true ∨ policy ≠ .failFast →
            Runs Q (state.ran outcomes worker node) batch)

/-- The title is not blank, nor is the identity of a worker that raises. -/
def Executable (node : ExecutionNode) (worker : WorkerProfile) (outcome : WorkerOutcome) :
    Prop :=
  NonBlank node.title ∧ (outcome = .raised → NonBlank worker.id)

variable {policy outcomes}

theorem Runs.and {Q R : ExecutionNode → WorkerProfile → WorkerOutcome → Prop}
    {batch : List ExecutionNode} :
    ∀ {state : ExecutorState}, Runs policy outcomes Q state batch →
      Runs policy outcomes R state batch →
      Runs policy outcomes (fun node worker outcome => Q node worker outcome ∧
        R node worker outcome) state batch := by
  induction batch with
  | nil => intros; trivial
  | cons node batch ih =>
      intro state hQ hR
      cases hfound : state.pool.findBestWorker "python" with
      | none =>
          simp only [Runs, hfound] at hQ hR ⊢
          exact ih hQ hR
      | some worker =>
          simp only [Runs, hfound] at hQ hR ⊢
          exact ⟨⟨hQ.1, hR.1⟩, fun hgoes => ih (hQ.2 hgoes) (hR.2 hgoes)⟩

theorem Runs.imp {Q R : ExecutionNode → WorkerProfile → WorkerOutcome → Prop}
    (h : ∀ node worker outcome, Q node worker outcome → R node worker outcome)
    {batch : List ExecutionNode} :
    ∀ {state : ExecutorState}, Runs policy outcomes Q state batch →
      Runs policy outcomes R state batch := by
  induction batch with
  | nil => intros; trivial
  | cons node batch ih =>
      intro state hQ
      cases hfound : state.pool.findBestWorker "python" with
      | none =>
          simp only [Runs, hfound] at hQ ⊢
          exact ih hQ
      | some worker =>
          simp only [Runs, hfound] at hQ ⊢
          exact ⟨h _ _ _ hQ.1, fun hgoes => ih (hQ.2 hgoes)⟩

/-- A worker yields a result exactly when the node is executable by it. -/
theorem execute_isOk_iff (pool : WorkerPool) (node : ExecutionNode) (worker : WorkerProfile)
    (outcome : WorkerOutcome) :
    (∃ taken, validateNonEmptyStr node.title "title" = .ok taken ∧
      ∃ result, pool.execute worker node.taskId outcome = .ok result) ↔
      Executable node worker outcome := by
  constructor
  · rintro ⟨taken, htitle, result, hexecute⟩
    simp only [validateNonEmptyStr, except_bind_eq_ok, require_eq_ok] at htitle
    obtain ⟨-, htitle, -⟩ := htitle
    refine ⟨htitle, ?_⟩
    rintro rfl
    simp only [WorkerPool.execute, except_bind_eq_ok, validateNonEmptyStr, require_eq_ok] at hexecute
    obtain ⟨-, ⟨-, hworker, -⟩, -⟩ := hexecute
    exact hworker
  · rintro ⟨htitle, hworker⟩
    refine ⟨strip node.title, by simp only [validateNonEmptyStr, require_of _ _ htitle,
      except_ok_bind], ?_⟩
    cases outcome with
    | returned success => exact ⟨_, rfl⟩
    | raised => exact ⟨_, pool.execute_of_nonBlank .raised (hworker rfl) node.taskId_trimmed.1⟩

/-- What a batch adds to the state and the result. It gets as far as `front`; only a
    failure under the fail-fast policy keeps it from the rest. -/
structure BatchRuns (policy : FailurePolicy) (outcomes : Nat → WorkerOutcome)
    (state : ExecutorState) (result : BatchResult) (batch : List ExecutionNode)
    (state' : ExecutorState) (result' : BatchResult) (front : List ExecutionNode)
    (entries : List Dispatch) (failed : Finset String) : Prop where
  prefix_batch : front <+: batch
  stops : front = batch ∨ (policy = .failFast ∧ failed ≠ ∅)
  executions : state'.executions = state.executions ++ entries
  sublist : (entries.map Dispatch.taskId).Sublist (front.map ExecutionNode.id)
  completed : result'.completed = result.completed ∪ tasksWith true entries
  failed_eq : result'.failed = result.failed ∪ failed
  covers : tasksWith true entries ∪ failed = (front.map ExecutionNode.id).toFinset
  disjoint : (front.map ExecutionNode.id).Nodup → Disjoint (tasksWith true entries) failed
  runs : Runs policy outcomes Executable state batch
  runs_iff : ∀ R : String → Prop,
    Runs policy outcomes (fun node _ _ => R node.id) state batch ↔
      ∀ entry ∈ entries, R entry.taskId

theorem tasksWith_cons (success : Bool) (entry : Dispatch) (entries : List Dispatch) :
    tasksWith success (entry :: entries) =
      if entry.success = success then insert entry.taskId (tasksWith success entries)
      else tasksWith success entries := by
  by_cases h : entry.success = success <;> simp [tasksWith, h]

/-- **What `execute_batch` does** when no error leaves it. -/
theorem executeBatch_spec {batch : List ExecutionNode} :
    ∀ {state state' : ExecutorState} {result result' : BatchResult},
      executeBatch policy outcomes state result batch = .ok (state', result') →
      ∃ front entries failed,
        BatchRuns policy outcomes state result batch state' result' front entries failed := by
  -- one case for each way the loop over the batch goes on with a node
  induction batch with
  | nil =>
      intro state state' result result' h
      obtain ⟨rfl, rfl⟩ := Prod.mk.inj (Except.ok.inj h)
      exact ⟨[], [], ∅, {
        prefix_batch := List.prefix_refl _, stops := Or.inl rfl, executions := by simp
        sublist := List.Sublist.refl _, completed := by simp [tasksWith]
        failed_eq := by simp, covers := by simp [tasksWith], disjoint := by simp
        runs := trivial, runs_iff := by simp [Runs] }⟩
  | cons node batch ih =>
      intro state state' result result' h
      unfold executeBatch at h
      split at h
      · next hfound =>
          -- no worker: the node fails without being run
          obtain ⟨front, entries, failed, hbatch⟩ := ih h
          refine ⟨node :: front, entries, insert node.id failed, {
            prefix_batch := List.cons_prefix_cons.mpr ⟨rfl, hbatch.prefix_batch⟩
            stops := ?_, executions := hbatch.executions
            sublist := hbatch.sublist.cons _, completed := hbatch.completed
            failed_eq := ?_, covers := ?_, disjoint := ?_, runs := ?_, runs_iff := ?_ }⟩
          · exact hbatch.stops.imp (congrArg _) fun h => ⟨h.1, Finset.insert_ne_empty _ _⟩
          · rw [hbatch.failed_eq, Finset.insert_union, Finset.union_insert]
          · rw [Finset.union_insert, hbatch.covers, List.map_cons, List.toFinset_cons]
          · intro hnodup
            rw [List.map_cons, List.nodup_cons] at hnodup
            rw [Finset.disjoint_insert_right]
            refine ⟨fun hmem => hnodup.1 (hbatch.sublist.subset ?_), hbatch.disjoint hnodup.2⟩
            exact taskId_mem_tasksWith.mpr (Or.inl hmem)
          · simpa only [Runs, hfound] using hbatch.runs
          · intro R
            simpa only [Runs, hfound] using hbatch.runs_iff R
      · next worker hfound =>
          dsimp only at h
          split at h
          · cases h
          · next taken htitle =>
              split at h
              · cases h
              · next success pool hexecute =>
                  have hexecutable : Executable node worker (state.outcome outcomes) :=
                    (execute_isOk_iff _ node worker _).mp ⟨taken, htitle, _, hexecute⟩
                  obtain ⟨rfl, rfl⟩ := WorkerPool.execute_eq_ok _ hexecute
                  cases hsuccess : (state.outcome outcomes).success with
                  | true =>
                      rw [if_pos hsuccess] at h
                      obtain ⟨front, entries, failed, hbatch⟩ := ih h
                      have hentries := hbatch.executions
                      refine ⟨node :: front, ⟨node.id, worker.id, true⟩ :: entries, failed, {
                        prefix_batch := List.cons_prefix_cons.mpr ⟨rfl, hbatch.prefix_batch⟩
                        stops := hbatch.stops.imp_left (congrArg _)
                        executions := ?_, sublist := hbatch.sublist.cons_cons _
                        completed := ?_, failed_eq := hbatch.failed_eq, covers := ?_
                        disjoint := ?_, runs := ?_, runs_iff := ?_ }⟩
                      · rw [hentries, hsuccess, List.append_assoc]
                        rfl
                      · rw [hbatch.completed, tasksWith_cons, if_pos rfl, Finset.insert_union,
                          Finset.union_insert]
                      · rw [tasksWith_cons, if_pos rfl, Finset.insert_union, hbatch.covers,
                          List.map_cons, List.toFinset_cons]
                      · intro hnodup
                        rw [List.map_cons, List.nodup_cons] at hnodup
                        rw [tasksWith_cons, if_pos rfl, Finset.disjoint_insert_left]
                        refine ⟨fun hmem => hnodup.1 ?_, hbatch.disjoint hnodup.2⟩
                        rw [← List.mem_toFinset, ← hbatch.covers]
                        exact Finset.mem_union_right _ hmem
                      · simp only [Runs, hfound]
                        exact ⟨hexecutable, fun _ => hbatch.runs⟩
                      · intro R
                        have hruns := hbatch.runs_iff R
                        simp only [Runs, hfound, hsuccess, true_or, true_implies,
                          List.mem_cons, forall_eq_or_imp]
                        exact and_congr_right fun _ => hruns
                  | false =>
                      rw [if_neg (by simp [hsuccess])] at h
                      split at h
                      · next hpolicy =>
                          obtain ⟨rfl, rfl⟩ := Prod.mk.inj (Except.ok.inj h)
                          refine ⟨[node], [⟨node.id, worker.id, false⟩], {node.id}, {
                            prefix_batch := List.cons_prefix_cons.mpr ⟨rfl, List.nil_prefix⟩
                            stops := Or.inr ⟨hpolicy, Finset.singleton_ne_empty _⟩
                            executions := by rw [hsuccess]
                            sublist := List.Sublist.refl _, completed := by simp [tasksWith]
                            failed_eq := by simp
                            covers := by simp [tasksWith], disjoint := by simp [tasksWith]
                            runs := ?_, runs_iff := ?_ }⟩
                          · simp only [Runs, hfound]
                            exact ⟨hexecutable, fun hgoes => by simp [hsuccess, hpolicy] at hgoes⟩
                          · intro R
                            simp [Runs, hfound, hsuccess, hpolicy]
                      · next hpolicy =>
                          obtain ⟨front, entries, failed, hbatch⟩ := ih h
                          have hentries := hbatch.executions
                          refine ⟨node :: front, ⟨node.id, worker.id, false⟩ :: entries,
                            insert node.id failed, {
                            prefix_batch := List.cons_prefix_cons.mpr ⟨rfl, hbatch.prefix_batch⟩
                            stops := ?_
                            executions := ?_, sublist := hbatch.sublist.cons_cons _
                            completed := ?_, failed_eq := ?_, covers := ?_
                            disjoint := ?_, runs := ?_, runs_iff := ?_ }⟩
                          · exact hbatch.stops.imp (congrArg _) fun h => absurd h.1 hpolicy
                          · rw [hentries, hsuccess, List.append_assoc]
                            rfl
                          · rw [hbatch.completed, tasksWith_cons, if_neg (by simp)]
                          · rw [hbatch.failed_eq, Finset.insert_union, Finset.union_insert]
                          · rw [tasksWith_cons, if_neg (by simp), Finset.union_insert,
                              hbatch.covers, List.map_cons, List.toFinset_cons]
                          · intro hnodup
                            rw [List.map_cons, List.nodup_cons] at hnodup
                            rw [tasksWith_cons, if_neg (by simp), Finset.disjoint_insert_right]
                            refine ⟨fun hmem => hnodup.1 (hbatch.sublist.subset ?_),
                              hbatch.disjoint hnodup.2⟩
                            exact taskId_mem_tasksWith.mpr (Or.inl hmem)
                          · simp only [Runs, hfound]
                            exact ⟨hexecutable, fun _ => hbatch.runs⟩
                          · intro R
                            have hruns := hbatch.runs_iff R
                            simp only [Runs, hfound, ne_eq, hpolicy, not_false_eq_true, or_true,
                              true_implies, List.mem_cons, forall_eq_or_imp]
                            exact and_congr_right fun _ => hruns

/-- Where every node that finds a worker is executable, no error leaves the batch. -/
theorem executeBatch_isOk {batch : List ExecutionNode} :
    ∀ {state : ExecutorState} (result : BatchResult),
      Runs policy outcomes Executable state batch →
      ∃ after, executeBatch policy outcomes state result batch = .ok after := by
  induction batch with
  | nil => intro state result _; exact ⟨_, rfl⟩
  | cons node batch ih =>
      intro state result h
      cases hfound : state.pool.findBestWorker "python" with
      | none =>
          simp only [Runs, hfound] at h
          simp only [executeBatch, hfound]
          exact ih _ h
      | some worker =>
          simp only [Runs, hfound] at h
          obtain ⟨hexecutable, hrest⟩ := h
          obtain ⟨taken, htitle, ⟨success, pool⟩, hexecute⟩ :=
            (execute_isOk_iff (state.assigned worker node) node worker _).mpr hexecutable
          simp only [executeBatch, hfound, htitle, hexecute]
          obtain ⟨rfl, rfl⟩ := WorkerPool.execute_eq_ok _ hexecute
          split
          · next hsuccess => exact ih _ (hrest (Or.inl hsuccess))
          · split
            · exact ⟨_, rfl⟩
            · next hpolicy => exact ih _ (hrest (Or.inr hpolicy))

end

end Eag.ExecutionGraphs
