/-
  Eag.Mutation.FileSteps

  `GovernedMutationRuntime.mutate` (`mutation/runtime.py`) file operation by file operation:
  the temporary file of `_atomic_write` with its `finally` clause, the bytes that are read
  before the write and after it, the restore, and what other writers do to the target in
  between.

  `Runtime` takes an atomic write for one access.
-/

import Eag.Mutation.AuthorizationRuns

namespace Eag.Mutation

open Eag.Foundation

/-! ## What meets a call -/

/-- `_atomic_write` is called to write the proposed content and to restore the previous one. -/
inductive Phase where
  | write
  | restore
  deriving DecidableEq, Repr

/-- The file operations of a call. -/
inductive FileStep where
  | validate
  | readBefore
  | makeTemporary (phase : Phase)
  /-- Opening, writing, flushing and syncing the temporary file. -/
  | fillTemporary (phase : Phase)
  | replaceTarget (phase : Phase)
  | removeTemporary (phase : Phase)
  | readBack
  | restoreRead
  | removeTarget
  deriving DecidableEq, Repr

/-- The moments at which somebody else may change the target: after the proposal was
    validated and before each operation on the target that follows. -/
inductive Gap where
  | beforeReadBefore
  | beforeWrite
  | beforeReadBack
  | beforeRestoreRead
  | beforeRestoreWrite
  deriving DecidableEq, Repr

/-- Which operations raise `OSError`, the names `mkstemp` draws, and what a write that fails
    leaves in a temporary file. -/
structure Faults where
  fails : FileStep → Bool
  temporaryName : Phase → String
  torn : Phase → FileData

/-- The faults of a call and the other writers: what they put at the target, if they do, or
    that they removed it. -/
structure Surroundings extends Faults where
  others : Gap → Option (Option FileData)

/-- Nobody else writes. -/
def Faults.alone (faults : Faults) : Surroundings := { faults with others := fun _ => none }

/-! ## Atomic writes -/

namespace Faults

variable (faults : Faults) (phase : Phase)

/-- The path that `mkstemp` draws next to the target. -/
def temporary (target : List String) : List String :=
  target.dropLast ++ [faults.temporaryName phase]

/-- The `finally` clause of `_atomic_write`: the files, and whether an `OSError` leaves it. -/
def removeTemporary (temporary : List String) (ws : Workspace) (raised : Bool) :
    Workspace × Bool :=
  if ws.stands temporary then
    if faults.fails (.removeTemporary phase) then (ws, true)
    else (ws.set temporary none, raised)
  else (ws, raised)

/-- `_atomic_write`: the files, and whether it raised `OSError`. -/
def atomicWrite (ws : Workspace) (target : List String) (content : String) : Workspace × Bool :=
  let temporary := faults.temporary phase target
  -- a name that is taken is never used
  if faults.fails (.makeTemporary phase) ∨ ws.entries temporary ≠ none then (ws, true)
  else if faults.fails (.fillTemporary phase) then
    faults.removeTemporary phase temporary
      (ws.set temporary (some (.file (faults.torn phase)))) true
  else
    let filled := ws.set temporary (some (.file (.text content)))
    if faults.fails (.replaceTarget phase) then
      faults.removeTemporary phase temporary filled true
    else
      -- `os.replace` moves the temporary file, which is then gone
      faults.removeTemporary phase temporary
        ((filled.set temporary none).set target (some (.file (.text content)))) false

end Faults

/-! ## Reading -/

/-- The errors that leave a call: an `OSError` of a step, and the `UnicodeDecodeError` over
    the bytes that a step read. -/
inductive Raised where
  | os (step : FileStep)
  | unicodeDecode (step : FileStep)
  deriving DecidableEq, Repr

/-- `path.read_bytes()`; none for an `OSError`. -/
def Faults.readBytes (faults : Faults) (step : FileStep) (ws : Workspace) (path : List String) :
    Option FileData :=
  if faults.fails step then none
  else
    match ws.entries path with
    | some (.file data) => some data
    | _ => none

namespace Surroundings

variable (s : Surroundings)

/-- What the other writers make of the target. -/
def disturb (gap : Gap) (target : List String) (ws : Workspace) : Workspace :=
  match s.others gap with
  | none => ws
  | some data => ws.set target (data.map .file)

/-- What stands before the write: the bytes of a target that exists, none for an
    `OSError`. -/
def readPrevious (targetExists : Bool) (ws : Workspace) (target : List String) :
    Option FileData :=
  if targetExists then s.readBytes .readBefore ws target else some (.text "")

/-- The write of `_conditional_restore`: whether it did without an `OSError`. -/
def restoreTarget (proposal : ChangeProposal) (ws : Workspace) (before : FileData) :
    Except Raised Bool × Workspace :=
  let target := targetPath proposal
  match proposal.operation, before with
  | .createFile, _ =>
      if s.fails .removeTarget ∨ ws.entries target = none then (.ok false, ws)
      else (.ok true, ws.set target none)
  | _, .undecodable _ => (.error (.unicodeDecode .readBefore), ws)
  | _, .text before =>
      let (ws, raised) := s.atomicWrite .restore ws target before
      (.ok (!raised), ws)

/-- `_conditional_restore`: whether the target was restored, or the error that leaves it. -/
def conditionalRestore (proposal : ChangeProposal) (ws : Workspace) (before : FileData)
    (observedPostFingerprint : String) : Except Raised Bool × Workspace :=
  let target := targetPath proposal
  let ws := s.disturb .beforeRestoreRead target ws
  let current := s.readBytes .restoreRead ws target
  let ws := s.disturb .beforeRestoreWrite target ws
  match current with
  | none => (.ok false, ws)
  | some (.undecodable _) => (.error (.unicodeDecode .restoreRead), ws)
  | some (.text current) =>
      -- the text was read with its line ends translated, the observed bytes were not
      if sha256Hex (String.ofList (universalNewlines current.toList)) ≠ observedPostFingerprint
      then (.ok false, ws)
      else s.restoreTarget proposal ws before

end Surroundings

/-! ## One call -/

/-- The arguments of a call, and the fresh identity of its receipt. -/
structure MutateInput where
  validated : ValidatedChangeProposal
  authorization : MutationAuthorization
  mutationId : String

/-- The call of `Runtime` with these arguments. -/
def MutateInput.call (input : MutateInput) (fails : FileAccess → Bool) : MutateCall where
  validated := input.validated
  authorization := input.authorization
  mutationId := input.mutationId
  fails := fails

def MutateInput.proposal (input : MutateInput) : ChangeProposal := input.validated.proposal

/-- What a call did. -/
structure MutatedAmong where
  outcome : Except Raised MutationReceipt
  workspace : Workspace
  events : List MutationEvent

namespace GovernedMutationRuntime

variable (runtime : GovernedMutationRuntime) (s : Surroundings) (input : MutateInput)

/-- The receipts of `Runtime` after the write, over the bytes that stood before it. -/
def receiptFor (current : ValidatedChangeProposal) (consumed : MutationAuthorization)
    (before : FileData) (after : Option String)
    (failure : Option (MutationViolationCode × String)) (rollbackPerformed : Bool) :
    MutationReceipt :=
  { runtime.writeReceipt (input.call fun _ => false) current consumed "" after failure
      rollbackPerformed with
    bytesBefore := before.size
    bytesChanged := (after.map fun content =>
      ((content.utf8ByteSize : Int) - before.size).natAbs).getD 0 }

/-- A write that failed: its receipt and its event. -/
def writeFailed (current : ValidatedChangeProposal) (consumed : MutationAuthorization)
    (before : FileData) : MutationReceipt × MutationEvent :=
  let receipt := runtime.receiptFor input current consumed before none
    (some (.writeFailed, "bounded atomic workspace write failed")) false
  (receipt, failedEvent input.proposal receipt .writeFailed)

/-- The part of `mutate` after the write, over the files as written. -/
def finishAmong (ws : Workspace) (current : ValidatedChangeProposal)
    (consumed : MutationAuthorization) (before : FileData) : MutatedAmong :=
  let proposal := input.proposal
  let target := targetPath proposal
  let ws := s.disturb .beforeReadBack target ws
  match s.readBytes .readBack ws target with
  | none =>
      let (receipt, event) := runtime.writeFailed input current consumed before
      ⟨.ok receipt, ws, [event]⟩
  | some (.undecodable _) => ⟨.error (.unicodeDecode .readBack), ws, []⟩
  | some (.text after) =>
      if verifyPostcondition proposal (sha256Hex after) then
        let receipt := runtime.receiptFor input current consumed before (some after) none false
        ⟨.ok receipt, ws, [.completed proposal.proposalId proposal.runId receipt.mutationId
          proposal.targetPath proposal.operation receipt.result]⟩
      else
        match s.conditionalRestore proposal ws before (sha256Hex after) with
        | (.error raised, ws) => ⟨.error raised, ws, []⟩
        | (.ok restored, ws) =>
            let receipt := runtime.receiptFor input current consumed before (some after)
              (some (.postconditionMismatch, "postcondition fingerprint did not match")) restored
            ⟨.ok receipt, ws, [failedEvent proposal receipt .postconditionMismatch]⟩

/-- `mutate`. -/
def mutateAmong (ws : Workspace) : MutatedAmong :=
  let proposal := input.proposal
  let target := targetPath proposal
  if s.fails .validate then ⟨.error (.os .validate), ws, []⟩
  else
    match runtime.consumeCurrent ws (input.call fun _ => false) with
    | .error violation =>
        -- published once here and once more with the receipt
        ⟨.ok (rejectedReceipt input.mutationId proposal violation (some input.authorization)), ws,
          [rejectedEvent proposal violation, rejectedEvent proposal violation]⟩
    | .ok (current, consumed) =>
        let ws := s.disturb .beforeReadBefore target ws
        match s.readPrevious current.targetExists ws target with
        | none => ⟨.error (.os .readBefore), ws, []⟩
        | some before =>
            let started : MutationEvent := .started proposal.proposalId proposal.runId
              consumed.authorizationId proposal.targetPath proposal.operation
            let ws := s.disturb .beforeWrite target ws
            let (written, raised) := s.atomicWrite .write ws target proposal.content
            if raised then
              let (receipt, event) := runtime.writeFailed input current consumed before
              ⟨.ok receipt, written, [started, event]⟩
            else
              let finished := runtime.finishAmong s input written current consumed before
              { finished with events := started :: finished.events }

end GovernedMutationRuntime

/-! ## What an atomic write comes to -/

@[simp] theorem Workspace.set_set (ws : Workspace) (path : List String)
    (entry later : Option Entry) : (ws.set path entry).set path later = ws.set path later := by
  unfold Workspace.set
  congr 1
  funext other
  by_cases hother : other = path
  · rw [if_pos hother, if_pos hother]
  · rw [if_neg hother, if_neg hother]
    exact if_neg hother

theorem Workspace.stands_set_file (ws : Workspace) (path : List String) (data : FileData) :
    (ws.set path (some (.file data))).stands path = true := by
  rw [Workspace.stands, Workspace.set_entries_self]
  rfl

namespace Faults

variable (faults : Faults) (phase : Phase) (ws : Workspace) (target : List String)

/-- The temporary file is made: the name drawn is not taken. -/
def Makes : Prop :=
  faults.fails (.makeTemporary phase) = false ∧ ws.entries (faults.temporary phase target) = none

/-- The temporary file is filled and takes the place of the target. -/
def Replaces : Prop :=
  faults.Makes phase ws target ∧ faults.fails (.fillTemporary phase) = false ∧
    faults.fails (.replaceTarget phase) = false ∧ faults.temporary phase target ≠ target

/-- The temporary file stays: it was made and did not take the place of the target, and it
    cannot be removed. -/
def LeavesTemporary : Prop :=
  faults.Makes phase ws target ∧ faults.fails (.removeTemporary phase) = true ∧
    (faults.fails (.fillTemporary phase) = true ∨ faults.fails (.replaceTarget phase) = true ∨
      faults.temporary phase target = target)

instance : Decidable (faults.Makes phase ws target) := inferInstanceAs (Decidable (_ ∧ _))

instance : Decidable (faults.Replaces phase ws target) := inferInstanceAs (Decidable (_ ∧ _))

variable {faults phase ws target}

/-- A temporary file is removed, or stays where it was made. -/
theorem removeTemporary_file {temporary : List String} (hfree : ws.entries temporary = none)
    (data : FileData) (raised : Bool) :
    faults.removeTemporary phase temporary (ws.set temporary (some (.file data))) raised =
      if faults.fails (.removeTemporary phase) then
        (ws.set temporary (some (.file data)), true)
      else (ws, raised) := by
  rw [removeTemporary, if_pos (ws.stands_set_file temporary data), Workspace.set_set,
    Workspace.set_of_entries_eq _ hfree]

theorem atomicWrite_of_not_makes (h : ¬faults.Makes phase ws target) (content : String) :
    faults.atomicWrite phase ws target content = (ws, true) := by
  refine if_pos ?_
  by_contra hnot
  rw [not_or, Bool.not_eq_true, not_not] at hnot
  exact h hnot

theorem atomicWrite_of_makes (h : faults.Makes phase ws target) (content : String) :
    faults.atomicWrite phase ws target content =
      if faults.fails (.fillTemporary phase) then
        faults.removeTemporary phase (faults.temporary phase target)
          (ws.set (faults.temporary phase target) (some (.file (faults.torn phase)))) true
      else if faults.fails (.replaceTarget phase) then
        faults.removeTemporary phase (faults.temporary phase target)
          (ws.set (faults.temporary phase target) (some (.file (.text content)))) true
      else
        faults.removeTemporary phase (faults.temporary phase target)
          (ws.set target (some (.file (.text content)))) false := by
  obtain ⟨hmake, hfree⟩ := h
  have hnot : ¬(faults.fails (.makeTemporary phase) = true ∨
      ws.entries (faults.temporary phase target) ≠ none) := by
    rw [not_or, Bool.not_eq_true, not_not]
    exact ⟨hmake, hfree⟩
  rw [atomicWrite, if_neg hnot]
  dsimp only
  rw [Workspace.set_set, Workspace.set_of_entries_eq _ hfree]

theorem atomicWrite_of_replaces (h : faults.Replaces phase ws target) (content : String) :
    faults.atomicWrite phase ws target content =
      (ws.set target (some (.file (.text content))), false) := by
  obtain ⟨hmakes, hfill, hreplace, hne⟩ := h
  have hgone : (ws.set target (some (.file (.text content)))).stands
      (faults.temporary phase target) = false := by
    rw [Workspace.stands, Workspace.set_entries_of_ne _ hne, hmakes.2]
    rfl
  rw [atomicWrite_of_makes hmakes, if_neg (ne_true_of_eq_false hfill),
    if_neg (ne_true_of_eq_false hreplace), removeTemporary, hgone]
  rfl

theorem atomicWrite_of_leavesTemporary (h : faults.LeavesTemporary phase ws target)
    (content : String) :
    ∃ data, faults.atomicWrite phase ws target content =
      (ws.set (faults.temporary phase target) (some (.file data)), true) := by
  obtain ⟨hmakes, hremove, hstays⟩ := h
  rw [atomicWrite_of_makes hmakes]
  split
  · exact ⟨_, by rw [removeTemporary_file hmakes.2, if_pos hremove]⟩
  · next hfill =>
      split
      · exact ⟨_, by rw [removeTemporary_file hmakes.2, if_pos hremove]⟩
      · next hreplace =>
          -- the temporary file has the name of the target
          have hsame := (hstays.resolve_left hfill).resolve_left hreplace
          have hfree := hmakes.2
          rw [hsame] at hfree ⊢
          exact ⟨_, by rw [removeTemporary_file hfree, if_pos hremove]⟩

/-- Otherwise nothing is left of the write. It has not raised only when the name drawn for the
    temporary file is the one of an absent target. -/
theorem atomicWrite_of_neither (hreplaces : ¬faults.Replaces phase ws target)
    (hleaves : ¬faults.LeavesTemporary phase ws target) (content : String) :
    ∃ raised, faults.atomicWrite phase ws target content = (ws, raised) ∧
      (raised = false → faults.temporary phase target = target ∧ ws.entries target = none) := by
  by_cases hmakes : faults.Makes phase ws target
  · have hremoves : ∀ {stays : Prop}, (stays → faults.fails (.fillTemporary phase) = true ∨
        faults.fails (.replaceTarget phase) = true ∨ faults.temporary phase target = target) →
        stays → ¬faults.fails (.removeTemporary phase) = true :=
      fun himp hstays hremove => hleaves ⟨hmakes, hremove, himp hstays⟩
    rw [atomicWrite_of_makes hmakes]
    split
    · next hfill =>
        rw [removeTemporary_file hmakes.2, if_neg (hremoves Or.inl hfill)]
        exact ⟨true, rfl, fun h => by cases h⟩
    · next hfill =>
        split
        · next hreplace =>
            rw [removeTemporary_file hmakes.2,
              if_neg (hremoves (fun h => Or.inr (Or.inl h)) hreplace)]
            exact ⟨true, rfl, fun h => by cases h⟩
        · next hreplace =>
            rw [Bool.not_eq_true] at hfill hreplace
            have hsame : faults.temporary phase target = target := by
              by_contra hne
              exact hreplaces ⟨hmakes, hfill, hreplace, hne⟩
            have hfree := hmakes.2
            have hremove := hremoves (fun h => Or.inr (Or.inr h)) hsame
            rw [hsame] at hfree ⊢
            rw [removeTemporary_file hfree, if_neg hremove]
            exact ⟨false, rfl, fun _ => ⟨rfl, hfree⟩⟩
  · exact ⟨true, atomicWrite_of_not_makes hmakes content, fun h => by cases h⟩

end Faults

/-- The write does not raise: the temporary file takes the place of the target or, where it
    has the name of the target, is removed. -/
def Faults.Completes (faults : Faults) (phase : Phase) (ws : Workspace) (target : List String) :
    Prop :=
  faults.Makes phase ws target ∧ faults.fails (.fillTemporary phase) = false ∧
    faults.fails (.replaceTarget phase) = false ∧
    (faults.temporary phase target = target → faults.fails (.removeTemporary phase) = false)

namespace Faults

variable {faults : Faults} {phase : Phase} {ws : Workspace} {target : List String}

theorem atomicWrite_of_completes (h : faults.Completes phase ws target) (content : String) :
    faults.atomicWrite phase ws target content =
      (if faults.temporary phase target = target then ws
        else ws.set target (some (.file (.text content))), false) := by
  obtain ⟨hmakes, hfill, hreplace, hremove⟩ := h
  by_cases hsame : faults.temporary phase target = target
  · have hfree := hmakes.2
    rw [hsame] at hfree
    rw [atomicWrite_of_makes hmakes, if_neg (ne_true_of_eq_false hfill),
      if_neg (ne_true_of_eq_false hreplace), hsame, removeTemporary_file hfree,
      if_neg (ne_true_of_eq_false (hremove hsame)), if_pos rfl]
  · rw [atomicWrite_of_replaces ⟨hmakes, hfill, hreplace, hsame⟩, if_neg hsame]

theorem removeTemporary_raised (temporary : List String) (ws : Workspace) :
    (faults.removeTemporary phase temporary ws true).2 = true := by
  unfold removeTemporary
  split
  · split
    · rfl
    · rfl
  · rfl

theorem atomicWrite_of_not_completes (h : ¬faults.Completes phase ws target)
    (content : String) :
    ∃ written, faults.atomicWrite phase ws target content = (written, true) := by
  by_cases hmakes : faults.Makes phase ws target
  · rw [atomicWrite_of_makes hmakes]
    by_cases hfill : faults.fails (.fillTemporary phase) = true
    · rw [if_pos hfill]
      exact ⟨_, Prod.ext rfl (removeTemporary_raised _ _)⟩
    · rw [if_neg hfill]
      by_cases hreplace : faults.fails (.replaceTarget phase) = true
      · rw [if_pos hreplace]
        exact ⟨_, Prod.ext rfl (removeTemporary_raised _ _)⟩
      · -- the temporary file has the name of the target and cannot be removed
        have hstays : faults.temporary phase target = target ∧
            faults.fails (.removeTemporary phase) = true := by
          by_contra hnot
          refine h ⟨hmakes, eq_false_of_ne_true hfill, eq_false_of_ne_true hreplace, ?_⟩
          intro hsame
          exact eq_false_of_ne_true fun hremove => hnot ⟨hsame, hremove⟩
        have hfree := hmakes.2
        rw [hstays.1] at hfree
        rw [if_neg hreplace, hstays.1, removeTemporary_file hfree, if_pos hstays.2]
        exact ⟨_, rfl⟩
  · exact ⟨ws, atomicWrite_of_not_makes hmakes content⟩

end Faults

/-! ## What stands at the target -/

namespace Surroundings

variable (s : Surroundings)

/-- What stands at the target after a moment at which the others may have changed it. -/
def left (gap : Gap) (standing : Option FileData) : Option FileData :=
  (s.others gap).getD standing

/-- What stands at the target after a write that does not raise. -/
def writtenData (proposal : ChangeProposal) : Option FileData :=
  if s.temporary .write (targetPath proposal) = targetPath proposal then none
  else some (.text proposal.content)

/-- What a step reads of a target, if it does. -/
def reading (step : FileStep) (standing : Option FileData) : Option FileData :=
  if s.fails step then none else standing

variable {ws : Workspace} {target : List String} {standing : Option FileData}

theorem disturb_entries (h : ws.entries target = standing.map .file) (gap : Gap) :
    (s.disturb gap target ws).entries target = (s.left gap standing).map .file := by
  unfold disturb left
  cases s.others gap with
  | none => exact h
  | some data => exact Workspace.set_entries_self _ _ _

theorem readBytes_eq (h : ws.entries target = standing.map .file) (step : FileStep) :
    s.readBytes step ws target = s.reading step standing := by
  unfold Faults.readBytes reading
  rw [h]
  cases standing with
  | none => rfl
  | some data => rfl

theorem written_entries {found written : Workspace} {proposal : ChangeProposal}
    (hcompletes : s.Completes .write found (targetPath proposal))
    (hwrite : s.atomicWrite .write found (targetPath proposal) proposal.content =
      (written, false)) :
    written.entries (targetPath proposal) = (s.writtenData proposal).map .file := by
  rw [Faults.atomicWrite_of_completes hcompletes] at hwrite
  obtain rfl := (Prod.mk.inj hwrite).1
  unfold writtenData
  by_cases hsame : s.temporary .write (targetPath proposal) = targetPath proposal
  · have hfree := hcompletes.1.2
    rw [hsame] at hfree
    rw [if_pos hsame, if_pos hsame]
    exact hfree
  · rw [if_neg hsame, if_neg hsame]
    exact Workspace.set_entries_self _ _ _

end Surroundings

/-! ## How far a call gets -/

/-- The files as the write finds them. -/
def Surroundings.found (s : Surroundings) (target : List String) (ws : Workspace) : Workspace :=
  s.disturb .beforeWrite target (s.disturb .beforeReadBefore target ws)

namespace GovernedMutationRuntime

variable (runtime : GovernedMutationRuntime) (s : Surroundings) (input : MutateInput)
  (ws : Workspace)

/-- The call gets as far as the write: it validates, the authorization is consumed for what it
    finds, and the previous bytes are read. -/
structure ReachesWrite (current : ValidatedChangeProposal) (consumed : MutationAuthorization)
    (before : FileData) : Prop where
  validates : s.fails .validate = false
  consumes : runtime.consumeCurrent ws (input.call fun _ => false) = .ok (current, consumed)
  reads : s.readPrevious current.targetExists
    (s.disturb .beforeReadBefore (targetPath input.proposal) ws) (targetPath input.proposal) =
      some before

/-- The call finds its authorization available, and no error stops it before the write. -/
structure Proceeds : Prop where
  validates : s.fails .validate = false
  available : (Attempt.mk ws (input.call fun _ => false)).Available runtime
  reads : (ws.entries (targetPath input.proposal)).isSome = true →
    (s.readBytes .readBefore (s.disturb .beforeReadBefore (targetPath input.proposal) ws)
      (targetPath input.proposal)).isSome = true

variable {runtime s input ws}

/-- What stands at the target of an accepted proposal is a text or nothing, and the accepted
    state is about it. -/
theorem entries_of_consumes {current : ValidatedChangeProposal}
    {consumed : MutationAuthorization}
    (h : runtime.consumeCurrent ws (input.call fun _ => false) = .ok (current, consumed)) :
    ∃ text : Option String,
      ws.entries (targetPath input.proposal) = text.map (fun content => .file (.text content)) ∧
      PreconditionHolds input.proposal text ∧
      current.targetFingerprint = text.map sha256Hex ∧ current.targetExists = text.isSome := by
  simp only [consumeCurrent, except_bind_eq_ok, validate_eq_ok] at h
  obtain ⟨validated, ⟨target, text, hinspect, hpre, rfl⟩, authorization, -, h⟩ := h
  obtain ⟨rfl, -⟩ := Prod.mk.inj (Except.ok.inj h)
  obtain ⟨htarget, hentry⟩ := inspect_eq_ok hinspect
  rw [htarget] at hentry
  exact ⟨text, hentry, hpre, rfl, rfl⟩

theorem targetExists_of_consumes {current : ValidatedChangeProposal}
    {consumed : MutationAuthorization}
    (h : runtime.consumeCurrent ws (input.call fun _ => false) = .ok (current, consumed)) :
    current.targetExists = (ws.entries (targetPath input.proposal)).isSome := by
  obtain ⟨text, hentry, -, -, hexists⟩ := entries_of_consumes h
  rw [hexists, hentry, Option.isSome_map]

theorem proceeds_iff :
    runtime.Proceeds s input ws ↔
      ∃ current consumed before, runtime.ReachesWrite s input ws current consumed before := by
  constructor
  · rintro ⟨hvalidates, havailable, hreads⟩
    obtain ⟨⟨current, consumed⟩, hconsumes⟩ :=
      ((Attempt.mk ws (input.call fun _ => false)).consumeCurrent_ok_iff runtime).mpr havailable
    have hexists := targetExists_of_consumes hconsumes
    by_cases hstands : current.targetExists = true
    · obtain ⟨before, hbefore⟩ := Option.isSome_iff_exists.mp (hreads (hexists ▸ hstands))
      exact ⟨current, consumed, before, hvalidates, hconsumes, (if_pos hstands).trans hbefore⟩
    · exact ⟨current, consumed, _, hvalidates, hconsumes, if_neg hstands⟩
  · rintro ⟨current, consumed, before, hvalidates, hconsumes, hreads⟩
    refine ⟨hvalidates, ((Attempt.mk ws (input.call fun _ => false)).consumeCurrent_ok_iff
      runtime).mp ⟨_, hconsumes⟩, fun hstands => ?_⟩
    rw [← targetExists_of_consumes hconsumes] at hstands
    rw [Surroundings.readPrevious, if_pos hstands] at hreads
    rw [hreads]
    rfl

/-- **A call that does not get as far writes nothing**: an `OSError` leaves it without an
    event, or it is rejected and says so twice. -/
theorem mutateAmong_of_not_proceeds (h : ¬runtime.Proceeds s input ws) :
    (∃ step, (runtime.mutateAmong s input ws).outcome = .error (.os step) ∧
        (runtime.mutateAmong s input ws).events = []) ∨
      ∃ violation, runtime.mutateAmong s input ws =
        ⟨.ok (rejectedReceipt input.mutationId input.proposal violation
            (some input.authorization)), ws,
          [rejectedEvent input.proposal violation, rejectedEvent input.proposal violation]⟩ := by
  rw [proceeds_iff] at h
  unfold mutateAmong
  by_cases hvalidate : s.fails .validate = true
  · rw [if_pos hvalidate]
    exact Or.inl ⟨_, rfl, rfl⟩
  · rw [if_neg hvalidate]
    cases hconsume : runtime.consumeCurrent ws (input.call fun _ => false) with
    | error violation => exact Or.inr ⟨violation, rfl⟩
    | ok accepted =>
        obtain ⟨current, consumed⟩ := accepted
        dsimp only
        cases hread : s.readPrevious current.targetExists
            (s.disturb .beforeReadBefore (targetPath input.proposal) ws)
            (targetPath input.proposal) with
        | none => exact Or.inl ⟨_, rfl, rfl⟩
        | some before =>
            exact absurd ⟨current, consumed, before, eq_false_of_ne_true hvalidate, hconsume,
              hread⟩ h

/-- The event of a call that gets as far. -/
def startedEvent (input : MutateInput) (consumed : MutationAuthorization) : MutationEvent :=
  .started input.proposal.proposalId input.proposal.runId consumed.authorizationId
    input.proposal.targetPath input.proposal.operation

section

variable {current : ValidatedChangeProposal} {consumed : MutationAuthorization}
  {before : FileData}

/-- A call whose write raises. -/
theorem mutateAmong_of_raised (h : runtime.ReachesWrite s input ws current consumed before)
    {written : Workspace}
    (hwrite : s.atomicWrite .write (s.found (targetPath input.proposal) ws)
      (targetPath input.proposal) input.proposal.content = (written, true)) :
    runtime.mutateAmong s input ws =
      let failed := runtime.writeFailed input current consumed before
      ⟨.ok failed.1, written, [startedEvent input consumed, failed.2]⟩ := by
  unfold mutateAmong
  rw [if_neg (ne_true_of_eq_false h.validates), h.consumes]
  dsimp only
  rw [h.reads]
  dsimp only
  rw [Surroundings.found] at hwrite
  rw [hwrite]
  rfl

/-- A call whose write does not raise goes on. -/
theorem mutateAmong_of_written (h : runtime.ReachesWrite s input ws current consumed before)
    {written : Workspace}
    (hwrite : s.atomicWrite .write (s.found (targetPath input.proposal) ws)
      (targetPath input.proposal) input.proposal.content = (written, false)) :
    runtime.mutateAmong s input ws =
      let finished := runtime.finishAmong s input written current consumed before
      { finished with events := startedEvent input consumed :: finished.events } := by
  unfold mutateAmong
  rw [if_neg (ne_true_of_eq_false h.validates), h.consumes]
  dsimp only
  rw [h.reads]
  dsimp only
  rw [Surroundings.found] at hwrite
  rw [hwrite]
  rfl

end

/-! ## How a call ends after the write -/

/-- The ways the part after the write ends, over the files as written. -/
inductive Ends (runtime : GovernedMutationRuntime) (s : Surroundings) (input : MutateInput)
    (written : Workspace) (current : ValidatedChangeProposal) (consumed : MutationAuthorization)
    (before : FileData) : MutatedAmong → Prop where
  | unread (hread : s.readBytes .readBack
        (s.disturb .beforeReadBack (targetPath input.proposal) written)
        (targetPath input.proposal) = none) :
      Ends runtime s input written current consumed before
        ⟨.ok (runtime.writeFailed input current consumed before).1,
          s.disturb .beforeReadBack (targetPath input.proposal) written,
          [(runtime.writeFailed input current consumed before).2]⟩
  | undecodable (bytes : List UInt8) (hread : s.readBytes .readBack
        (s.disturb .beforeReadBack (targetPath input.proposal) written)
        (targetPath input.proposal) = some (.undecodable bytes)) :
      Ends runtime s input written current consumed before
        ⟨.error (.unicodeDecode .readBack),
          s.disturb .beforeReadBack (targetPath input.proposal) written, []⟩
  | completed (after : String) (hread : s.readBytes .readBack
        (s.disturb .beforeReadBack (targetPath input.proposal) written)
        (targetPath input.proposal) = some (.text after))
      (hpost : verifyPostcondition input.proposal (sha256Hex after) = true) :
      Ends runtime s input written current consumed before
        ⟨.ok (runtime.receiptFor input current consumed before (some after) none false),
          s.disturb .beforeReadBack (targetPath input.proposal) written,
          [.completed input.proposal.proposalId input.proposal.runId input.mutationId
            input.proposal.targetPath input.proposal.operation .completed]⟩
  | raised (after : String) (error : Raised) (final : Workspace)
      (hread : s.readBytes .readBack
        (s.disturb .beforeReadBack (targetPath input.proposal) written)
        (targetPath input.proposal) = some (.text after))
      (hrestore : s.conditionalRestore input.proposal
        (s.disturb .beforeReadBack (targetPath input.proposal) written) before
        (sha256Hex after) = (.error error, final)) :
      Ends runtime s input written current consumed before ⟨.error error, final, []⟩
  | mismatched (after : String) (restored : Bool) (final : Workspace)
      (hread : s.readBytes .readBack
        (s.disturb .beforeReadBack (targetPath input.proposal) written)
        (targetPath input.proposal) = some (.text after))
      (hpost : verifyPostcondition input.proposal (sha256Hex after) = false)
      (hrestore : s.conditionalRestore input.proposal
        (s.disturb .beforeReadBack (targetPath input.proposal) written) before
        (sha256Hex after) = (.ok restored, final)) :
      Ends runtime s input written current consumed before
        ⟨.ok (runtime.receiptFor input current consumed before (some after)
            (some (.postconditionMismatch, "postcondition fingerprint did not match")) restored),
          final,
          [.failed input.proposal.proposalId input.proposal.runId input.mutationId
            .postconditionMismatch "mutation_execution"]⟩

theorem finishAmong_ends (written : Workspace) (current : ValidatedChangeProposal)
    (consumed : MutationAuthorization) (before : FileData) :
    Ends runtime s input written current consumed before
      (runtime.finishAmong s input written current consumed before) := by
  unfold finishAmong
  dsimp only
  cases hread : s.readBytes .readBack
      (s.disturb .beforeReadBack (targetPath input.proposal) written)
      (targetPath input.proposal) with
  | none => exact .unread hread
  | some data =>
      cases data with
      | undecodable bytes => exact .undecodable bytes hread
      | text after =>
          dsimp only
          by_cases hpost : verifyPostcondition input.proposal (sha256Hex after) = true
          · rw [if_pos hpost]
            exact .completed after hread hpost
          · rw [if_neg hpost]
            rcases hrestore : s.conditionalRestore input.proposal
              (s.disturb .beforeReadBack (targetPath input.proposal) written) before
              (sha256Hex after) with ⟨error | restored, final⟩
            · exact .raised after error final hread hrestore
            · exact .mismatched after restored final hread (eq_false_of_ne_true hpost) hrestore

theorem operation_cases (operation : MutationOperation) :
    operation = .createFile ∨ operation = .modifyFile ∨ ∃ other, operation = .other other := by
  cases operation with
  | createFile => exact Or.inl rfl
  | modifyFile => exact Or.inr (Or.inl rfl)
  | other value => exact Or.inr (Or.inr ⟨value, rfl⟩)

end GovernedMutationRuntime

/-! ## Calls over one text file -/

/-- The system refuses nothing. -/
def Faults.nothing : Faults where
  fails := fun _ => false
  temporaryName := fun _ => ".eag-mutation-0"
  torn := fun _ => .text ""

/-- A proposal to write a content to the file, with a postcondition. -/
def rewriteProposal (content : String) (postcondition : MutationPostcondition) :
    ChangeProposal :=
  { plainProposal with content := content, expectedPostcondition := postcondition }

/-- What the policy answers. -/
def rewriteValidated (content : String) (postcondition : MutationPostcondition) :
    ValidatedChangeProposal :=
  { plainValidated with proposal := rewriteProposal content postcondition }

/-- A call with the authorization the runtime issued. -/
def rewriteInput (content : String) (postcondition : MutationPostcondition) : MutateInput where
  validated := rewriteValidated content postcondition
  authorization :=
    plainRuntime.authorizer.authorize "a" (rewriteValidated content postcondition)
  mutationId := "m"

theorem targetPath_rewrite (content : String) (postcondition : MutationPostcondition) :
    targetPath (rewriteProposal content postcondition) = ["notes"] := by
  have hplain : targetPath plainProposal = ["notes"] := by decide
  exact hplain

theorem inspect_rewrite {content : String} (hsize : content.utf8ByteSize ≤ 64000)
    (postcondition : MutationPostcondition) :
    inspect plainRuntime.policy plainWorkspace (rewriteProposal content postcondition) =
      .ok (["notes"], some "hello") := by
  have hcontent : validateContent plainRuntime.policy (rewriteProposal content postcondition) =
      .ok () := by
    unfold validateContent
    rw [show (rewriteProposal content postcondition).contentBytes = content.utf8ByteSize from rfl]
    simp [require, plainRuntime, hsize]
  have hpath : validateRelativePath plainRuntime.policy (rewriteProposal content postcondition) =
      .ok ["notes"] := by
    have hplain : validateRelativePath plainRuntime.policy plainProposal = .ok ["notes"] := by
      decide
    exact hplain
  unfold inspect
  rw [hpath, hcontent]
  rfl

/-- A call over one text file gets as far as the write, whatever its content. -/
theorem proceeds_rewrite {content : String} (hsize : content.utf8ByteSize ≤ 64000)
    (postcondition : MutationPostcondition) {faults : Faults}
    (hvalidate : faults.fails .validate = false) (hread : faults.fails .readBefore = false) :
    plainRuntime.Proceeds faults.alone (rewriteInput content postcondition) plainWorkspace where
  validates := hvalidate
  available := ⟨rfl, plainRuntime.authorizer.authorize_matches "a" _, _, _,
    inspect_rewrite hsize postcondition, rfl, rfl⟩
  reads _ := by
    have hentry : plainWorkspace.entries ["notes"] = (some (FileData.text "hello")).map .file :=
      rfl
    have hbytes : faults.alone.readBytes .readBefore plainWorkspace ["notes"] =
        some (.text "hello") :=
      (faults.alone.readBytes_eq hentry .readBefore).trans (if_neg (ne_true_of_eq_false hread))
    rw [show targetPath (rewriteInput content postcondition).proposal = ["notes"] from
      targetPath_rewrite content postcondition]
    exact Option.isSome_of_eq_some hbytes

end Eag.Mutation
