/-
  Eag.Mutation.TerminalEvents

  The terminal events of a call of `mutate`: completed, rejected or failed.

  `Ends.reports` is about the part after the write, which tells once how it ended unless an
  error leaves it; `finishAmong_error_iff` says when one does.
-/

import Eag.Mutation.FileSteps

namespace Eag.Mutation

open Eag.Foundation

/-! ## Terminal events -/

/-- The events that end a mutation. -/
def MutationEvent.isTerminal : MutationEvent → Bool
  | .rejected .. | .completed .. | .failed .. => true
  | _ => false

/-- The event tells how the call for a proposal ended: with which receipt, or with an error. -/
def MutationEvent.Reports (proposal : ChangeProposal) :
    MutationEvent → Except Raised MutationReceipt → Prop
  | .rejected proposalId _ code _ _, .ok receipt =>
      proposalId = receipt.proposalId ∧ receipt.result = .rejected ∧
        receipt.failureCode = some code.value
  | .completed proposalId _ receiptId _ _ result, .ok receipt =>
      proposalId = receipt.proposalId ∧ receiptId = receipt.mutationId ∧
        receipt.result = .completed ∧ result = receipt.result
  | .failed proposalId _ receiptId code _, .ok receipt =>
      proposalId = receipt.proposalId ∧ receiptId = receipt.mutationId ∧
        receipt.result = .failed ∧ receipt.failureCode = some code.value
  | .failed proposalId _ _ _ _, .error _ => proposalId = proposal.proposalId
  | _, _ => False

/-- Exactly one terminal event, and it tells how the call ended. -/
def OneTerminalEvent (proposal : ChangeProposal) (mutated : MutatedAmong) : Prop :=
  ∃ event, mutated.events.filter MutationEvent.isTerminal = [event] ∧
    event.Reports proposal mutated.outcome

/-! ## Bytes that are not UTF-8 -/

namespace Surroundings

variable (s : Surroundings) (proposal : ChangeProposal)

/-- What is read back after the write. -/
def readBack : Option FileData :=
  s.reading .readBack (s.left .beforeReadBack (s.writtenData proposal))

/-- What is read again before the restore. -/
def reread : Option FileData :=
  s.reading .restoreRead
    (s.left .beforeRestoreRead (s.left .beforeReadBack (s.writtenData proposal)))

/-- The restore reads the text that was read back, once its line ends are translated. -/
def Recognizes (after : String) : Prop :=
  ∃ current, s.reread proposal = some (.text current) ∧
    sha256Hex (String.ofList (universalNewlines current.toList)) = sha256Hex after

/-- A call that reached the write has to decode bytes that are not UTF-8, which somebody else
    wrote: those it reads back, those it reads again, or those it restores. -/
def MeetsUndecodable (ws : Workspace) : Prop :=
  s.Completes .write (s.found (targetPath proposal) ws) (targetPath proposal) ∧
    ((∃ bytes, s.readBack proposal = some (.undecodable bytes)) ∨
      ∃ after, s.readBack proposal = some (.text after) ∧
        verifyPostcondition proposal (sha256Hex after) = false ∧
        ((∃ bytes, s.reread proposal = some (.undecodable bytes)) ∨
          s.Recognizes proposal after ∧ proposal.operation = .modifyFile ∧
            ∃ bytes, s.others .beforeReadBefore = some (some (.undecodable bytes))))

end Surroundings

/-! ## After the write -/

namespace GovernedMutationRuntime

variable {runtime : GovernedMutationRuntime} {s : Surroundings} {input : MutateInput}
  {ws : Workspace} {current : ValidatedChangeProposal} {consumed : MutationAuthorization}
  {before : FileData}

/-- A receipt of a failure is reported by its event. -/
theorem failedEvent_reports (code : MutationViolationCode) (message : String)
    (after : Option String) (rollbackPerformed : Bool) :
    let receipt := runtime.receiptFor input current consumed before after (some (code, message))
      rollbackPerformed
    (failedEvent input.proposal receipt code).Reports input.proposal (.ok receipt) :=
  ⟨rfl, rfl, rfl, rfl⟩

/-- **After the write a call tells once how it ends**, unless an error leaves it. -/
theorem Ends.reports {finished : MutatedAmong}
    (h : Ends runtime s input ws current consumed before finished) :
    (∃ raised, finished.outcome = .error raised ∧ finished.events = []) ∨
      ∃ receipt event, finished.outcome = .ok receipt ∧ finished.events = [event] ∧
        event.isTerminal = true ∧ event.Reports input.proposal (.ok receipt) := by
  cases h with
  | unread hread => exact Or.inr ⟨_, _, rfl, rfl, rfl, failedEvent_reports _ _ _ _⟩
  | undecodable bytes hread => exact Or.inl ⟨_, rfl, rfl⟩
  | completed after hread hpost => exact Or.inr ⟨_, _, rfl, rfl, rfl, rfl, rfl, rfl, rfl⟩
  | raised after error final hread hrestore => exact Or.inl ⟨_, rfl, rfl⟩
  | mismatched after restored final hread hpost hrestore =>
      exact Or.inr ⟨_, _, rfl, rfl, rfl, failedEvent_reports _ _ _ _⟩

/-- When an error leaves the restore. -/
theorem conditionalRestore_error_iff {standing : Option FileData}
    (hws : ws.entries (targetPath input.proposal) = standing.map .file)
    (hop : input.proposal.operation = .createFile ∨ input.proposal.operation = .modifyFile)
    (observed : String) :
    (∃ raised, (s.conditionalRestore input.proposal ws before observed).1 = .error raised) ↔
      (∃ bytes, s.reading .restoreRead (s.left .beforeRestoreRead standing) =
        some (.undecodable bytes)) ∨
      (∃ text, s.reading .restoreRead (s.left .beforeRestoreRead standing) =
          some (.text text) ∧
        sha256Hex (String.ofList (universalNewlines text.toList)) = observed) ∧
      input.proposal.operation = .modifyFile ∧ ∃ bytes, before = .undecodable bytes := by
  have hread := s.readBytes_eq (s.disturb_entries hws .beforeRestoreRead) .restoreRead
  unfold Surroundings.conditionalRestore
  dsimp only
  rw [hread]
  cases s.reading .restoreRead (s.left .beforeRestoreRead standing) with
  | none => simp
  | some data =>
      cases data with
      | undecodable bytes => simp
      | text text =>
          dsimp only
          by_cases hobserved :
              sha256Hex (String.ofList (universalNewlines text.toList)) = observed
          · rw [if_neg (not_not.mpr hobserved)]
            unfold Surroundings.restoreTarget
            rcases hop with hop | hop
            · rw [hop]
              dsimp only
              split
              · simp
              · simp
            · rw [hop]
              cases before with
              | text content => simp
              | undecodable bytes => simp [hobserved]
          · rw [if_pos hobserved]
            simp [hobserved]

/-- When an error leaves the part after the write. -/
theorem finishAmong_error_iff
    (hws : ws.entries (targetPath input.proposal) = (s.writtenData input.proposal).map .file)
    (hop : input.proposal.operation = .createFile ∨ input.proposal.operation = .modifyFile) :
    (∃ raised, (runtime.finishAmong s input ws current consumed before).outcome =
      .error raised) ↔
      (∃ bytes, s.readBack input.proposal = some (.undecodable bytes)) ∨
      ∃ after, s.readBack input.proposal = some (.text after) ∧
        verifyPostcondition input.proposal (sha256Hex after) = false ∧
        ((∃ bytes, s.reread input.proposal = some (.undecodable bytes)) ∨
          s.Recognizes input.proposal after ∧ input.proposal.operation = .modifyFile ∧
            ∃ bytes, before = .undecodable bytes) := by
  have hback := s.disturb_entries hws .beforeReadBack
  have hread := s.readBytes_eq hback .readBack
  unfold finishAmong
  dsimp only
  rw [hread, ← Surroundings.readBack]
  cases hdata : s.readBack input.proposal with
  | none => simp
  | some data =>
      cases data with
      | undecodable bytes => simp
      | text after =>
          dsimp only
          by_cases hpost : verifyPostcondition input.proposal (sha256Hex after) = true
          · rw [if_pos hpost]
            simp [hpost]
          · have hrestore := @conditionalRestore_error_iff s input _ before _ hback hop
              (sha256Hex after)
            rw [if_neg hpost]
            rcases hresult : s.conditionalRestore input.proposal
              (s.disturb .beforeReadBack (targetPath input.proposal) ws) before
              (sha256Hex after) with ⟨raised | restored, ws⟩
            · rw [hresult] at hrestore
              have herror := hrestore.mp ⟨raised, rfl⟩
              exact ⟨fun _ => Or.inr ⟨after, rfl, eq_false_of_ne_true hpost, herror⟩,
                fun _ => ⟨raised, rfl⟩⟩
            · rw [hresult] at hrestore
              constructor
              · rintro ⟨raised, hraised⟩
                cases hraised
              · rintro (⟨bytes, hbytes⟩ | ⟨other, hother, -, herror⟩)
                · cases hbytes
                · obtain rfl : after = other := by
                    cases hother
                    rfl
                  obtain ⟨raised, hraised⟩ := hrestore.mpr herror
                  cases hraised

/-- An accepted proposal creates a file or modifies one. -/
theorem operation_of_reaches (h : runtime.ReachesWrite s input ws current consumed before) :
    input.proposal.operation = .createFile ∨ input.proposal.operation = .modifyFile := by
  obtain ⟨text, -, hpre, -⟩ := entries_of_consumes h.consumes
  rcases operation_cases input.proposal.operation with hop | hop | ⟨operation, hop⟩
  · exact Or.inl hop
  · exact Or.inr hop
  · unfold PreconditionHolds at hpre
    rw [hop] at hpre
    exact hpre.elim

/-- The policy has found a text at the target of a modification, and what was read there
    before the write is that text or what somebody else left. -/
theorem before_of_modify (h : runtime.ReachesWrite s input ws current consumed before)
    (hop : input.proposal.operation = .modifyFile) :
    ∃ content, ws.entries (targetPath input.proposal) = some (.file (.text content)) ∧
      s.left .beforeReadBefore (some (.text content)) = some before := by
  obtain ⟨text, hentry, hpre, -, hexists⟩ := entries_of_consumes h.consumes
  unfold PreconditionHolds at hpre
  rw [hop] at hpre
  obtain ⟨content, rfl⟩ := Option.ne_none_iff_exists'.mp (current_ne_none hpre.1 hpre.2)
  have hstanding : ws.entries (targetPath input.proposal) =
      (some (FileData.text content)).map .file := hentry
  have hread := h.reads
  rw [Surroundings.readPrevious, hexists, Option.isSome_some, if_pos rfl,
    s.readBytes_eq (s.disturb_entries hstanding .beforeReadBefore), Surroundings.reading] at hread
  split at hread
  · cases hread
  · exact ⟨content, hentry, hread⟩

/-- Bytes at the target of a modification that do not decode are somebody else's. -/
theorem before_undecodable_iff (h : runtime.ReachesWrite s input ws current consumed before)
    (hop : input.proposal.operation = .modifyFile) :
    (∃ bytes, before = .undecodable bytes) ↔
      ∃ bytes, s.others .beforeReadBefore = some (some (.undecodable bytes)) := by
  obtain ⟨content, -, hleft⟩ := before_of_modify h hop
  unfold Surroundings.left at hleft
  cases hothers : s.others .beforeReadBefore with
  | none =>
      -- nobody changed the text
      rw [hothers, Option.getD_none] at hleft
      cases hleft
      simp
  | some data =>
      rw [hothers, Option.getD_some] at hleft
      rw [hleft]
      simp

/-! ## One terminal event -/

/-- **Exactly when one terminal event tells how a call ended**: the authorization is available
    and no error stops the call before the write, which a rejection tells twice and an `OSError`
    not at all, and no bytes of somebody else that are not UTF-8 have to be decoded. -/
theorem one_terminal_event_iff (runtime : GovernedMutationRuntime) (s : Surroundings)
    (input : MutateInput) (ws : Workspace) :
    OneTerminalEvent input.proposal (runtime.mutateAmong s input ws) ↔
      runtime.Proceeds s input ws ∧ ¬s.MeetsUndecodable input.proposal ws := by
  unfold OneTerminalEvent
  by_cases hproceeds : runtime.Proceeds s input ws
  · obtain ⟨current, consumed, before, hreaches⟩ := proceeds_iff.mp hproceeds
    by_cases hcompletes :
        s.Completes .write (s.found (targetPath input.proposal) ws) (targetPath input.proposal)
    · obtain ⟨written, hwrite⟩ : ∃ written, s.atomicWrite .write
          (s.found (targetPath input.proposal) ws) (targetPath input.proposal)
          input.proposal.content = (written, false) :=
        ⟨_, Faults.atomicWrite_of_completes hcompletes input.proposal.content⟩
      have hws := s.written_entries hcompletes hwrite
      have hends := (@finishAmong_ends runtime s input written current consumed before).reports
      have herror := @finishAmong_error_iff runtime s input written current consumed before hws
        (operation_of_reaches hreaches)
      rw [mutateAmong_of_written hreaches hwrite]
      -- an error leaves the part after the write exactly when bytes do not decode
      have hmeets : s.MeetsUndecodable input.proposal ws ↔ ∃ raised, (runtime.finishAmong s input
          written current consumed before).outcome = .error raised := by
        rw [herror, Surroundings.MeetsUndecodable, and_iff_right hcompletes]
        refine or_congr Iff.rfl (exists_congr fun after => and_congr Iff.rfl (and_congr Iff.rfl
          (or_congr Iff.rfl (and_congr Iff.rfl (and_congr_right fun hop => ?_)))))
        exact (before_undecodable_iff hreaches hop).symm
      rw [hmeets, and_iff_right hproceeds]
      rcases hends with
        ⟨raised, houtcome, hevents⟩ | ⟨receipt, event, houtcome, hevents, hterminal, hreports⟩
      · refine iff_of_false ?_ (not_not.mpr ⟨raised, houtcome⟩)
        rintro ⟨event, hone, -⟩
        dsimp only at hone
        rw [hevents] at hone
        cases hone
      · refine iff_of_true ⟨event, ?_, ?_⟩ ?_
        · dsimp only
          have hstarted : ¬(startedEvent input consumed).isTerminal = true := Bool.false_ne_true
          rw [hevents, List.filter_cons_of_neg hstarted, List.filter_cons_of_pos hterminal,
            List.filter_nil]
        · dsimp only
          rw [houtcome]
          exact hreports
        · rintro ⟨raised, hraised⟩
          rw [houtcome] at hraised
          cases hraised
    · obtain ⟨written, hwrite⟩ :=
        Faults.atomicWrite_of_not_completes hcompletes input.proposal.content
      rw [mutateAmong_of_raised hreaches hwrite]
      exact iff_of_true ⟨_, rfl, failedEvent_reports _ _ _ _⟩
        ⟨hproceeds, fun hmeets => hcompletes hmeets.1⟩
  · refine iff_of_false ?_ fun h => hproceeds h.1
    rintro ⟨event, hone, -⟩
    rcases mutateAmong_of_not_proceeds hproceeds with ⟨step, -, hevents⟩ | ⟨violation, hmutated⟩
    · rw [hevents] at hone
      cases hone
    · rw [hmutated] at hone
      cases hone

/-- The system refuses nothing, and nobody else writes. -/
def undisturbed : Surroundings :=
  Faults.alone {
    fails := fun _ => false
    temporaryName := fun _ => ".eag-mutation-0"
    torn := fun _ => .text "" }

/-- A call with a record that is already consumed. -/
def consumedInput : MutateInput where
  validated := plainValidated
  authorization := { plainCall.authorization with state := .consumed }
  mutationId := "m"

/-- **A rejection is published twice.** -/
theorem rejection_published_twice :
    ∃ event, (plainRuntime.mutateAmong undisturbed consumedInput plainWorkspace).events =
        [event, event] ∧
      ¬OneTerminalEvent plainProposal
        (plainRuntime.mutateAmong undisturbed consumedInput plainWorkspace) := by
  have hvalidate : validate plainRuntime.policy plainWorkspace consumedInput.validated.proposal =
      .ok plainValidated := validate_plain
  have hconsume : ∃ violation, plainRuntime.consumeCurrent plainWorkspace
      (consumedInput.call fun _ => false) = .error violation := by
    unfold consumeCurrent
    rw [show (consumedInput.call fun _ => false).validated = consumedInput.validated from rfl,
      hvalidate]
    exact ⟨_, rfl⟩
  obtain ⟨violation, hconsume⟩ := hconsume
  have hmutated : plainRuntime.mutateAmong undisturbed consumedInput plainWorkspace =
      ⟨.ok (rejectedReceipt "m" plainProposal violation (some consumedInput.authorization)),
        plainWorkspace,
        [rejectedEvent plainProposal violation, rejectedEvent plainProposal violation]⟩ := by
    unfold mutateAmong
    rw [if_neg (show ¬undisturbed.fails .validate = true from Bool.false_ne_true), hconsume]
    rfl
  rw [hmutated]
  refine ⟨_, rfl, ?_⟩
  rintro ⟨event, hone, -⟩
  cases hone

end GovernedMutationRuntime

end Eag.Mutation
