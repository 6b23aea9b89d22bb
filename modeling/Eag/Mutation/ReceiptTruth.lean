/-
  Eag.Mutation.ReceiptTruth

  What the receipt of a call of `mutate` says about the files, when nobody else writes: which
  failures of file operations leave a receipt that is not true.
-/

import Eag.Mutation.FileSteps

namespace Eag.Mutation

open Eag.Foundation

/-! ## What a receipt says -/

/-- The bytes of a file. -/
def FileData.bytes : FileData → List UInt8
  | .text content => content.toUTF8.data.toList
  | .undecodable bytes => bytes

/-- What stood at the target was the text with the fingerprint, or nothing when there is no
    fingerprint. -/
def FingerprintOf (ws : Workspace) (target : List String) (fingerprint : Option String) : Prop :=
  ∃ text : Option String, ws.entries target = text.map (fun content => .file (.text content)) ∧
    fingerprint = text.map sha256Hex

/-- A receipt tells the truth about the files before and after its call. -/
structure Truthful (proposal : ChangeProposal) (receipt : MutationReceipt)
    (before after : Workspace) : Prop where
  target : receipt.result = .completed → ∃ data,
    after.entries (targetPath proposal) = some (.file data) ∧
      data.bytes = proposal.content.toUTF8.data.toList
  preFingerprint : receipt.result = .completed →
    FingerprintOf before (targetPath proposal) receipt.preFingerprint
  others : receipt.result = .completed → ∀ path ≠ targetPath proposal,
    after.entries path = before.entries path
  unchanged : receipt.result = .rejected ∨
      receipt.failureCode = some MutationViolationCode.writeFailed.value →
    ∀ path, after.entries path = before.entries path

/-- Whatever receipt a call returned tells the truth about the files. -/
def TruthfulReceipt (proposal : ChangeProposal) (before : Workspace)
    (mutated : MutatedAmong) : Prop :=
  ∀ receipt, mutated.outcome = .ok receipt → Truthful proposal receipt before mutated.workspace

/-- A failed write leaves something behind: a temporary file that cannot be removed, or the
    content itself, where it was not there already and cannot be read back. -/
def Faults.LeavesBehind (faults : Faults) (proposal : ChangeProposal) (ws : Workspace) : Prop :=
  faults.LeavesTemporary .write ws (targetPath proposal) ∨
    (faults.Replaces .write ws (targetPath proposal) ∧ faults.fails .readBack = true ∧
      ws.entries (targetPath proposal) ≠ some (.file (.text proposal.content)))

namespace GovernedMutationRuntime

variable {runtime : GovernedMutationRuntime} {faults : Faults} {input : MutateInput}
  {ws : Workspace} {current : ValidatedChangeProposal} {consumed : MutationAuthorization}
  {before : FileData}

/-- A receipt of another failure promises nothing. -/
theorem truthful_of_mismatched (after : String) (message : String) (restored : Bool)
    (final : Workspace) :
    Truthful input.proposal (runtime.receiptFor input current consumed before (some after)
      (some (.postconditionMismatch, message)) restored) ws final where
  target h := nomatch h
  preFingerprint h := nomatch h
  others h := nomatch h
  unchanged h := by
    rcases h with h | h
    · cases h
    · have hcode : some MutationViolationCode.postconditionMismatch.value ≠
          some MutationViolationCode.writeFailed.value := by decide
      exact absurd h hcode

/-- A receipt of a failed write is true exactly of files that did not change. -/
theorem truthful_writeFailed_iff (final : Workspace) :
    Truthful input.proposal (runtime.writeFailed input current consumed before).1 ws final ↔
      ∀ path, final.entries path = ws.entries path := by
  constructor
  · intro h
    exact h.unchanged (Or.inr rfl)
  · intro h
    exact {
      target := fun h => nomatch h
      preFingerprint := fun h => nomatch h
      others := fun h => nomatch h
      unchanged := fun _ => h }

/-- A receipt of a completed call is true when the content was written. -/
theorem truthful_completed
    (h : runtime.ReachesWrite faults.alone input ws current consumed before) (after : String) :
    Truthful input.proposal (runtime.receiptFor input current consumed before (some after) none
      false) ws (ws.set (targetPath input.proposal)
        (some (.file (.text input.proposal.content)))) where
  target _ := ⟨_, Workspace.set_entries_self _ _ _, rfl⟩
  preFingerprint _ := by
    obtain ⟨text, hentry, -, hfingerprint, -⟩ := entries_of_consumes h.consumes
    exact ⟨text, hentry, hfingerprint⟩
  others _ path hpath := Workspace.set_entries_of_ne _ hpath _
  unchanged h := by
    rcases h with h | h
    · cases h
    · cases h

theorem set_entries_eq_iff {ws : Workspace} {target : List String} {entry : Option Entry} :
    (∀ path, (ws.set target entry).entries path = ws.entries path) ↔
      ws.entries target = entry := by
  constructor
  · intro h
    rw [← h target, Workspace.set_entries_self]
  · intro h path
    rw [Workspace.set_of_entries_eq _ h]

theorem truthfulReceipt_of_ok {mutated : MutatedAmong} {receipt : MutationReceipt}
    (houtcome : mutated.outcome = .ok receipt) :
    TruthfulReceipt input.proposal ws mutated ↔
      Truthful input.proposal receipt ws mutated.workspace := by
  constructor
  · intro h
    exact h receipt houtcome
  · intro h other hother
    rw [houtcome] at hother
    cases hother
    exact h

/-- A call that does not get as far as the write. -/
theorem truthfulReceipt_of_not_proceeds (h : ¬runtime.Proceeds faults.alone input ws) :
    TruthfulReceipt input.proposal ws (runtime.mutateAmong faults.alone input ws) := by
  intro receipt houtcome
  rcases mutateAmong_of_not_proceeds h with ⟨step, herror, -⟩ | ⟨violation, hmutated⟩
  · rw [herror] at houtcome
    cases houtcome
  · rw [hmutated] at houtcome ⊢
    cases houtcome
    exact {
      target := fun h => nomatch h
      preFingerprint := fun h => nomatch h
      others := fun h => nomatch h
      unchanged := fun _ _ => rfl }

/-- A call whose content took the place of the target. -/
theorem truthfulReceipt_of_replaces
    (h : runtime.ReachesWrite faults.alone input ws current consumed before)
    (hreplaces : faults.Replaces .write ws (targetPath input.proposal)) :
    TruthfulReceipt input.proposal ws (runtime.mutateAmong faults.alone input ws) ↔
      ¬(faults.fails .readBack = true ∧
        ws.entries (targetPath input.proposal) ≠ some (.file (.text input.proposal.content))) := by
  have hwrite : faults.alone.atomicWrite .write
      (faults.alone.found (targetPath input.proposal) ws) (targetPath input.proposal)
      input.proposal.content = _ := Faults.atomicWrite_of_replaces hreplaces _
  have hstanding : (ws.set (targetPath input.proposal)
      (some (.file (.text input.proposal.content)))).entries (targetPath input.proposal) =
      (some (FileData.text input.proposal.content)).map .file := Workspace.set_entries_self _ _ _
  have hread : faults.alone.readBytes .readBack (faults.alone.disturb .beforeReadBack
      (targetPath input.proposal) (ws.set (targetPath input.proposal)
        (some (.file (.text input.proposal.content))))) (targetPath input.proposal) =
      if faults.fails .readBack = true then none else some (.text input.proposal.content) :=
    faults.alone.readBytes_eq hstanding .readBack
  have hends := @finishAmong_ends runtime faults.alone input (ws.set (targetPath input.proposal)
    (some (.file (.text input.proposal.content)))) current consumed before
  rw [mutateAmong_of_written h hwrite]
  dsimp only
  generalize hfinished : runtime.finishAmong faults.alone input _ current consumed before =
    finished at hends ⊢
  by_cases hfails : faults.fails .readBack = true
  · rw [if_pos hfails] at hread
    rw [and_iff_right hfails, not_not]
    cases hends with
    | unread _ =>
        rw [truthfulReceipt_of_ok rfl, truthful_writeFailed_iff]
        exact set_entries_eq_iff
    | undecodable bytes hother => rw [hread] at hother; cases hother
    | completed after hother => rw [hread] at hother; cases hother
    | raised after error final hother => rw [hread] at hother; cases hother
    | mismatched after restored final hother => rw [hread] at hother; cases hother
  · rw [if_neg hfails] at hread
    refine iff_of_true ?_ fun h => hfails h.1
    cases hends with
    | unread hother => rw [hread] at hother; cases hother
    | undecodable bytes hother => rw [hread] at hother; cases hother
    | completed after hother =>
        rw [truthfulReceipt_of_ok rfl]
        exact truthful_completed h after
    | raised after error final hother =>
        intro receipt houtcome
        cases houtcome
    | mismatched after restored final hother =>
        rw [truthfulReceipt_of_ok rfl]
        exact truthful_of_mismatched after _ restored final

/-- A call whose write leaves nothing behind changes no file, and says that it failed. -/
theorem truthfulReceipt_of_neither
    (h : runtime.ReachesWrite faults.alone input ws current consumed before)
    (hreplaces : ¬faults.Replaces .write ws (targetPath input.proposal))
    (hleaves : ¬faults.LeavesTemporary .write ws (targetPath input.proposal)) :
    TruthfulReceipt input.proposal ws (runtime.mutateAmong faults.alone input ws) := by
  obtain ⟨raised, hwrite, habsent⟩ :=
    Faults.atomicWrite_of_neither hreplaces hleaves input.proposal.content
  have hfound : faults.alone.atomicWrite .write (faults.alone.found (targetPath input.proposal) ws)
      (targetPath input.proposal) input.proposal.content = (ws, raised) := hwrite
  cases raised with
  | true =>
      rw [mutateAmong_of_raised h hfound, truthfulReceipt_of_ok rfl, truthful_writeFailed_iff]
      exact fun _ => rfl
  | false =>
      -- the target is still absent and cannot be read back
      have hstanding : ws.entries (targetPath input.proposal) =
          (none : Option FileData).map .file := (habsent rfl).2
      have hread : faults.alone.readBytes .readBack
          (faults.alone.disturb .beforeReadBack (targetPath input.proposal) ws)
          (targetPath input.proposal) = none := by
        refine (faults.alone.readBytes_eq hstanding .readBack).trans ?_
        unfold Surroundings.reading
        split
        · rfl
        · rfl
      have hends := @finishAmong_ends runtime faults.alone input ws current consumed before
      rw [mutateAmong_of_written h hfound]
      dsimp only
      generalize runtime.finishAmong faults.alone input ws current consumed before =
        finished at hends ⊢
      cases hends with
      | unread _ =>
          rw [truthfulReceipt_of_ok rfl, truthful_writeFailed_iff]
          exact fun _ => rfl
      | undecodable bytes hother => rw [hread] at hother; cases hother
      | completed after hother => rw [hread] at hother; cases hother
      | raised after error final hother => rw [hread] at hother; cases hother
      | mismatched after restored final hother => rw [hread] at hother; cases hother

/-- A call whose temporary file stays says that nothing was written. -/
theorem not_truthfulReceipt_of_leavesTemporary
    (h : runtime.ReachesWrite faults.alone input ws current consumed before)
    (hleaves : faults.LeavesTemporary .write ws (targetPath input.proposal)) :
    ¬TruthfulReceipt input.proposal ws (runtime.mutateAmong faults.alone input ws) := by
  obtain ⟨data, hwrite⟩ := Faults.atomicWrite_of_leavesTemporary hleaves input.proposal.content
  have hfound : faults.alone.atomicWrite .write (faults.alone.found (targetPath input.proposal) ws)
      (targetPath input.proposal) input.proposal.content = _ := hwrite
  rw [mutateAmong_of_raised h hfound, truthfulReceipt_of_ok rfl, truthful_writeFailed_iff,
    set_entries_eq_iff, hleaves.1.2]
  exact fun habsurd => nomatch habsurd

/-- **Exactly when the receipt of a call is true**, wherever file operations fail: unless a
    write that is reported as failed has left something behind. -/
theorem receipt_truthful_iff (runtime : GovernedMutationRuntime) (faults : Faults)
    (input : MutateInput) (ws : Workspace) :
    TruthfulReceipt input.proposal ws (runtime.mutateAmong faults.alone input ws) ↔
      ¬(runtime.Proceeds faults.alone input ws ∧ faults.LeavesBehind input.proposal ws) := by
  by_cases hproceeds : runtime.Proceeds faults.alone input ws
  · obtain ⟨current, consumed, before, hreaches⟩ := proceeds_iff.mp hproceeds
    rw [and_iff_right hproceeds, Faults.LeavesBehind, not_or]
    by_cases hleaves : faults.LeavesTemporary .write ws (targetPath input.proposal)
    · exact iff_of_false (not_truthfulReceipt_of_leavesTemporary hreaches hleaves)
        fun h => h.1 hleaves
    · rw [and_iff_right hleaves]
      by_cases hreplaces : faults.Replaces .write ws (targetPath input.proposal)
      · rw [truthfulReceipt_of_replaces hreaches hreplaces, and_iff_right hreplaces]
      · exact iff_of_true (truthfulReceipt_of_neither hreaches hreplaces hleaves)
          fun h => hreplaces h.1
  · exact iff_of_true (truthfulReceipt_of_not_proceeds hproceeds) fun h => hproceeds h.1

/-- The content cannot be read back. -/
def unreadable : Faults := { Faults.nothing with fails := fun step => step = .readBack }

/-- **A write that is reported as failed has replaced the file.** -/
theorem writeFailed_replaces_file :
    let input := rewriteInput "bye" ⟨true, none⟩
    let mutated := plainRuntime.mutateAmong unreadable.alone input plainWorkspace
    (∃ receipt, mutated.outcome = .ok receipt ∧ receipt.failureCode = some "write_failed") ∧
      plainWorkspace.entries ["notes"] = some (.file (.text "hello")) ∧
      mutated.workspace.entries ["notes"] = some (.file (.text "bye")) ∧
      ¬TruthfulReceipt input.proposal plainWorkspace mutated := by
  intro input mutated
  have hproceeds : plainRuntime.Proceeds unreadable.alone input plainWorkspace :=
    proceeds_rewrite (by decide) _ rfl rfl
  obtain ⟨current, consumed, before, hreaches⟩ := proceeds_iff.mp hproceeds
  have htarget : targetPath input.proposal = ["notes"] := targetPath_rewrite _ _
  have hreplaces : unreadable.Replaces .write plainWorkspace (targetPath input.proposal) := by
    rw [htarget]
    decide
  have hwrite : unreadable.alone.atomicWrite .write
      (unreadable.alone.found (targetPath input.proposal) plainWorkspace)
      (targetPath input.proposal) input.proposal.content = _ :=
    Faults.atomicWrite_of_replaces hreplaces _
  have hmutated : mutated = ⟨.ok (plainRuntime.writeFailed input current consumed before).1,
      plainWorkspace.set (targetPath input.proposal) (some (.file (.text "bye"))), _⟩ :=
    mutateAmong_of_written hreaches hwrite
  have hafter : mutated.workspace.entries ["notes"] = some (.file (.text "bye")) := by
    rw [hmutated, htarget]
    exact Workspace.set_entries_self _ _ _
  refine ⟨⟨_, by rw [hmutated], rfl⟩, rfl, hafter, fun h => ?_⟩
  rw [hmutated, truthfulReceipt_of_ok rfl, truthful_writeFailed_iff, set_entries_eq_iff,
    htarget] at h
  exact absurd h (by decide)

end GovernedMutationRuntime

end Eag.Mutation
