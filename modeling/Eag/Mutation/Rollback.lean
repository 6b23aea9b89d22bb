/-
  Eag.Mutation.Rollback

  What is left at the target of a call of `mutate` whose postcondition did not hold, and of
  what other writers left there.

  `restoreTarget_ok` says what the write of a restore can do to the target. Everything else at
  the target is `left` there by somebody (`Ends.mismatched`).
-/

import Eag.Mutation.TerminalEvents

namespace Eag.Mutation

open Eag.Foundation

/-! ## Only the target changes -/

/-- The files are the same, but for the target. -/
def SameElsewhere (target : List String) (ws other : Workspace) : Prop :=
  ∀ path ≠ target, other.entries path = ws.entries path

theorem SameElsewhere.trans {target : List String} {ws middle other : Workspace}
    (h : SameElsewhere target ws middle) (hother : SameElsewhere target middle other) :
    SameElsewhere target ws other :=
  fun path hpath => (hother path hpath).trans (h path hpath)

theorem sameElsewhere_disturb (s : Surroundings) (gap : Gap) (target : List String)
    (ws : Workspace) : SameElsewhere target ws (s.disturb gap target ws) := by
  intro path hpath
  unfold Surroundings.disturb
  cases s.others gap with
  | none => rfl
  | some data => exact Workspace.set_entries_of_ne _ hpath _

namespace Faults

variable {faults : Faults} {phase : Phase} {ws other : Workspace} {target : List String}

/-- Whether an atomic write replaces the target does not depend on what stands there. -/
theorem replaces_congr (h : SameElsewhere target ws other) :
    faults.Replaces phase other target ↔ faults.Replaces phase ws target := by
  unfold Replaces Makes
  by_cases hname : faults.temporary phase target = target
  · exact iff_of_false (fun h => h.2.2.2 hname) fun h => h.2.2.2 hname
  · rw [h _ hname]

theorem sameElsewhere_of_completes {written : Workspace} {content : String}
    (hcompletes : faults.Completes phase ws target)
    (hwrite : faults.atomicWrite phase ws target content = (written, false)) :
    SameElsewhere target ws written := by
  rw [atomicWrite_of_completes hcompletes] at hwrite
  obtain rfl := (Prod.mk.inj hwrite).1
  intro path hpath
  split
  · rfl
  · exact Workspace.set_entries_of_ne _ hpath _

/-- The temporary file is given the name of the target and cannot be removed. -/
def LeavesNamesake (faults : Faults) (phase : Phase) (target : List String) : Prop :=
  faults.temporary phase target = target ∧ faults.fails (.makeTemporary phase) = false ∧
    faults.fails (.removeTemporary phase) = true

instance : Decidable (faults.LeavesNamesake phase target) :=
  inferInstanceAs (Decidable (_ ∧ _))

/-- What an atomic write that does not replace the target makes of it. -/
theorem atomicWrite_target (hreplaces : ¬faults.Replaces phase ws target) (content : String) :
    (faults.LeavesNamesake phase target ∧ ws.entries target = none ∧
      ((faults.atomicWrite phase ws target content).1.entries target).isSome = true ∧
      (faults.atomicWrite phase ws target content).2 = true) ∨
    (¬(faults.LeavesNamesake phase target ∧ ws.entries target = none) ∧
      (faults.atomicWrite phase ws target content).1.entries target = ws.entries target ∧
      ((faults.atomicWrite phase ws target content).2 = false → ws.entries target = none)) := by
  by_cases hleaves : faults.LeavesTemporary phase ws target
  · obtain ⟨data, hwrite⟩ := atomicWrite_of_leavesTemporary hleaves content
    obtain ⟨⟨hmake, hfree⟩, hremove, -⟩ := hleaves
    rw [hwrite]
    by_cases hname : faults.temporary phase target = target
    · rw [hname] at hfree ⊢
      refine Or.inl ⟨⟨hname, hmake, hremove⟩, hfree, ?_, rfl⟩
      rw [Workspace.set_entries_self]
      rfl
    · refine Or.inr ⟨fun h => hname h.1.1, ?_, fun h => nomatch h⟩
      exact Workspace.set_entries_of_ne _ (Ne.symm hname) _
  · obtain ⟨raised, hwrite, hnamed⟩ := atomicWrite_of_neither hreplaces hleaves content
    rw [hwrite]
    refine Or.inr ⟨?_, rfl, fun hraised => (hnamed hraised).2⟩
    rintro ⟨⟨hname, hmake, hremove⟩, hfree⟩
    exact hleaves ⟨⟨hmake, by rw [hname]; exact hfree⟩, hremove, Or.inr (Or.inr hname)⟩

end Faults

/-! ## The restore -/

namespace Surroundings

variable {s : Surroundings} {proposal : ChangeProposal} {ws final : Workspace}
  {before : FileData} {restored : Bool}

/-- What the restore of a created file makes of the target. -/
theorem restoreTarget_create (hop : proposal.operation = .createFile)
    (h : s.restoreTarget proposal ws before = (.ok restored, final)) :
    if s.fails .removeTarget = true ∨ ws.entries (targetPath proposal) = none
    then restored = false ∧ final.entries (targetPath proposal) = ws.entries (targetPath proposal)
    else restored = true ∧ final.entries (targetPath proposal) = none := by
  unfold restoreTarget at h
  rw [hop] at h
  dsimp only at h
  split at h
  · next hfails =>
      rw [if_pos hfails]
      cases h
      exact ⟨rfl, rfl⟩
  · next hfails =>
      rw [if_neg hfails]
      cases h
      exact ⟨rfl, Workspace.set_entries_self _ _ _⟩

/-- What the restore of a modified file makes of the target. -/
theorem restoreTarget_modify (hop : proposal.operation = .modifyFile)
    (h : s.restoreTarget proposal ws before = (.ok restored, final)) :
    if s.Replaces .restore ws (targetPath proposal)
    then restored = true ∧ final.entries (targetPath proposal) = some (.file before)
    else
      if s.LeavesNamesake .restore (targetPath proposal) ∧ ws.entries (targetPath proposal) = none
      then (final.entries (targetPath proposal)).isSome = true
      else final.entries (targetPath proposal) = ws.entries (targetPath proposal) ∧
        (restored = true → ws.entries (targetPath proposal) = none) := by
  unfold restoreTarget at h
  rw [hop] at h
  cases before with
  | undecodable bytes => cases h
  | text content =>
      dsimp only at h
      cases h
      by_cases hreplaces : s.Replaces .restore ws (targetPath proposal)
      · rw [if_pos hreplaces, Faults.atomicWrite_of_replaces hreplaces]
        exact ⟨rfl, Workspace.set_entries_self _ _ _⟩
      · rw [if_neg hreplaces]
        rcases Faults.atomicWrite_target hreplaces content with
          ⟨hnamesake, habsent, hstays, -⟩ | ⟨hnot, hsame, hraised⟩
        · rw [if_pos ⟨hnamesake, habsent⟩]
          exact hstays
        · rw [if_neg hnot]
          exact ⟨hsame, fun hok => hraised (by simpa using hok)⟩

end Surroundings

/-! ## Rolled back, or left alone -/

/-- The text or the bytes at a path. -/
def Workspace.dataAt (ws : Workspace) (path : List String) : Option FileData :=
  match ws.entries path with
  | some (.file data) => some data
  | _ => none

namespace Surroundings

variable (s : Surroundings) (proposal : ChangeProposal) (ws : Workspace)

/-- What the last of the others left at the target after the write, if somebody did. -/
def leftAfter : Option (Option FileData) :=
  (s.others .beforeRestoreWrite).or ((s.others .beforeRestoreRead).or (s.others .beforeReadBack))

/-- What the last of the others left there before the write. -/
def leftBefore : Option (Option FileData) :=
  (s.others .beforeWrite).or (s.others .beforeReadBefore)

/-- After a failed postcondition: where nobody else wrote, the target is as it was and the
    receipt says that it was rolled back; otherwise it is as the last of the others left it. -/
def RolledBack (receipt : MutationReceipt) (final : Workspace) : Prop :=
  match s.leftAfter.or s.leftBefore with
  | none => final.entries (targetPath proposal) = ws.entries (targetPath proposal) ∧
      receipt.rollbackPerformed = true
  | some left => final.entries (targetPath proposal) = left.map .file

/-- The restore takes what it reads again for what was read back. -/
def RecognizesWritten : Prop :=
  ∃ after, s.readBack proposal = some (.text after) ∧ s.Recognizes proposal after

/-- The restore finds what it takes for its own content, and can remove the file that was
    created or replace the one that was modified. -/
def Restores : Prop :=
  s.RecognizesWritten proposal ∧
    match proposal.operation with
    | .createFile => s.fails .removeTarget = false
    | _ => s.Replaces .restore ws (targetPath proposal)

/-- What the restore puts at the target: nothing, or what was read there before the write. -/
def restoredData : Option FileData :=
  match proposal.operation with
  | .createFile => none
  | _ => s.left .beforeReadBefore (ws.dataAt (targetPath proposal))

/-- The restore of a modified file that is gone leaves a temporary file in its place. -/
def LeavesRubbish : Prop :=
  s.RecognizesWritten proposal ∧ proposal.operation = .modifyFile ∧
    s.LeavesNamesake .restore (targetPath proposal)

/-- When the target is rolled back or left alone: where nobody else wrote, when it is
    restored; where the last of the others wrote before the write, when what they left is put
    back or is the content itself; where they wrote after it, when the restore does not
    change the target or puts back what they left. -/
def RollsBackRightly : Prop :=
  match s.leftAfter, s.leftBefore with
  | none, none => s.Restores proposal ws
  | none, some left =>
      (s.Restores proposal ws ∧ s.restoredData proposal ws = left) ∨
        (¬s.Restores proposal ws ∧ left = some (.text proposal.content))
  | some left, _ =>
      (s.Restores proposal ws → s.restoredData proposal ws = left) ∧
        ¬(s.LeavesRubbish proposal ∧ left = none)

end Surroundings

/-- The receipt says that the postcondition did not hold. -/
def MutationReceipt.Mismatched (receipt : MutationReceipt) : Prop :=
  receipt.result = .failed ∧
    receipt.failureCode = some MutationViolationCode.postconditionMismatch.value

/-! ## What a mismatch leaves -/

namespace Surroundings

variable {s : Surroundings} {proposal : ChangeProposal}

/-- What stands at the target when the restore writes. -/
def standing (s : Surroundings) (proposal : ChangeProposal) : Option FileData :=
  s.left .beforeRestoreWrite
    (s.left .beforeRestoreRead (s.left .beforeReadBack (s.writtenData proposal)))

theorem standing_eq : s.standing proposal = s.leftAfter.getD (s.writtenData proposal) := by
  unfold standing leftAfter left
  cases s.others .beforeRestoreWrite with
  | some data => rfl
  | none =>
      cases s.others .beforeRestoreRead with
      | some data => rfl
      | none =>
          cases s.others .beforeReadBack with
          | some data => rfl
          | none => rfl

/-- Content that was read back was written. -/
theorem writtenData_of_readBack {after : String} (hafter : s.leftAfter = none)
    (hread : s.readBack proposal = some (.text after)) :
    s.writtenData proposal = some (.text proposal.content) := by
  have hnone : s.others .beforeReadBack = none := by
    unfold leftAfter at hafter
    rw [Option.or_eq_none_iff, Option.or_eq_none_iff] at hafter
    exact hafter.2.2
  unfold readBack reading left at hread
  rw [hnone, Option.getD_none] at hread
  unfold writtenData at hread ⊢
  split at hread
  · cases hread
  · split at hread
    · cases hread
    · next hname => rw [if_neg hname]

theorem recognizesWritten_iff {after : String} (hread : s.readBack proposal = some (.text after)) :
    s.RecognizesWritten proposal ↔ s.Recognizes proposal after := by
  constructor
  · rintro ⟨other, hother, hrecognizes⟩
    rw [hread] at hother
    cases hother
    exact hrecognizes
  · intro hrecognizes
    exact ⟨after, hread, hrecognizes⟩

theorem not_leavesRubbish_of_restores {ws : Workspace} (h : s.Restores proposal ws) :
    ¬s.LeavesRubbish proposal := by
  rintro ⟨-, hop, hname, -⟩
  obtain ⟨-, hreplaces⟩ := h
  rw [hop] at hreplaces
  exact hreplaces.2.2.2 hname

/-- A restore that returned wrote only over what it took for its own content. -/
theorem conditionalRestore_ok {ws final : Workspace} {before : FileData} {observed : String}
    {data : Option FileData} {restored : Bool}
    (hws : ws.entries (targetPath proposal) = data.map .file)
    (h : s.conditionalRestore proposal ws before observed = (.ok restored, final)) :
    let recognizes := ∃ current, s.reading .restoreRead (s.left .beforeRestoreRead data) =
        some (.text current) ∧
      sha256Hex (String.ofList (universalNewlines current.toList)) = observed
    let found := s.disturb .beforeRestoreWrite (targetPath proposal)
      (s.disturb .beforeRestoreRead (targetPath proposal) ws)
    (recognizes ∧ s.restoreTarget proposal found before = (.ok restored, final)) ∨
      (¬recognizes ∧ restored = false ∧ final = found) := by
  intro recognizes found
  unfold conditionalRestore at h
  dsimp only at h
  rw [s.readBytes_eq (s.disturb_entries hws .beforeRestoreRead) .restoreRead] at h
  unfold recognizes
  cases hreading : s.reading .restoreRead (s.left .beforeRestoreRead data) with
  | none =>
      rw [hreading] at h
      cases h
      refine Or.inr ⟨?_, rfl, rfl⟩
      rintro ⟨current, hcurrent, -⟩
      cases hcurrent
  | some read =>
      rw [hreading] at h
      cases read with
      | undecodable bytes => cases h
      | text current =>
          dsimp only at h
          by_cases hsame : sha256Hex (String.ofList (universalNewlines current.toList)) = observed
          · rw [if_neg (not_not.mpr hsame)] at h
            exact Or.inl ⟨⟨current, rfl, hsame⟩, h⟩
          · rw [if_pos hsame] at h
            cases h
            refine Or.inr ⟨?_, rfl, rfl⟩
            rintro ⟨other, hother, hobserved⟩
            cases hother
            exact hsame hobserved

end Surroundings

namespace GovernedMutationRuntime

variable {runtime : GovernedMutationRuntime} {s : Surroundings} {input : MutateInput}
  {ws written final : Workspace} {current : ValidatedChangeProposal}
  {consumed : MutationAuthorization} {before : FileData} {after : String} {restored : Bool}

/-- What the restore of an accepted proposal puts at the target is what was read there. -/
theorem restoredData_of_modify
    (h : runtime.ReachesWrite s input ws current consumed before)
    (hop : input.proposal.operation = .modifyFile) :
    s.restoredData input.proposal ws = some before := by
  obtain ⟨content, hentry, hleft⟩ := before_of_modify h hop
  unfold Surroundings.restoredData Workspace.dataAt
  rw [hop, hentry]
  exact hleft

/-- **What stands at the target when a restore returns.** -/
theorem target_of_mismatched
    (h : runtime.ReachesWrite s input ws current consumed before)
    (hcompletes :
      s.Completes .write (s.found (targetPath input.proposal) ws) (targetPath input.proposal))
    (hwrite : s.atomicWrite .write (s.found (targetPath input.proposal) ws)
      (targetPath input.proposal) input.proposal.content = (written, false))
    (hread : s.readBack input.proposal = some (.text after))
    (hrestore : s.conditionalRestore input.proposal
      (s.disturb .beforeReadBack (targetPath input.proposal) written) before (sha256Hex after) =
        (.ok restored, final)) :
    (s.Restores input.proposal ws →
      final.entries (targetPath input.proposal) =
          (s.restoredData input.proposal ws).map .file ∧
        (s.standing input.proposal ≠ none → restored = true)) ∧
    (¬s.Restores input.proposal ws →
      (s.LeavesRubbish input.proposal ∧ s.standing input.proposal = none →
        (final.entries (targetPath input.proposal)).isSome = true) ∧
      (¬(s.LeavesRubbish input.proposal ∧ s.standing input.proposal = none) →
        final.entries (targetPath input.proposal) = (s.standing input.proposal).map .file ∧
          (restored = true → s.standing input.proposal = none))) := by
  have hws := s.disturb_entries (s.written_entries hcompletes hwrite) .beforeReadBack
  have hfound : _ = (s.standing input.proposal).map Entry.file :=
    s.disturb_entries (s.disturb_entries hws .beforeRestoreRead) .beforeRestoreWrite
  have helsewhere : SameElsewhere (targetPath input.proposal) ws
      (s.disturb .beforeRestoreWrite (targetPath input.proposal)
        (s.disturb .beforeRestoreRead (targetPath input.proposal)
          (s.disturb .beforeReadBack (targetPath input.proposal) written))) :=
    (sameElsewhere_disturb s _ _ _).trans <| (sameElsewhere_disturb s _ _ _).trans <|
      (Faults.sameElsewhere_of_completes hcompletes hwrite).trans <|
      (sameElsewhere_disturb s _ _ _).trans <| (sameElsewhere_disturb s _ _ _).trans <|
      sameElsewhere_disturb s _ _ _
  have hrecognizes := Surroundings.recognizesWritten_iff hread
  have habsent {data : Option FileData} : data.map Entry.file = none ↔ data = none :=
    Option.map_eq_none_iff
  rcases Surroundings.conditionalRestore_ok hws hrestore with
    ⟨hrecognized, htarget⟩ | ⟨hnot, rfl, rfl⟩
  · replace hrecognized := hrecognizes.mpr hrecognized
    rcases operation_of_reaches h with hop | hop
    · -- a created file is removed
      have hrestores : s.Restores input.proposal ws ↔ s.fails .removeTarget = false := by
        unfold Surroundings.Restores
        rw [hop, and_iff_right hrecognized]
      have hremoved := Surroundings.restoreTarget_create hop htarget
      have hnone : s.restoredData input.proposal ws = none := by
        unfold Surroundings.restoredData
        rw [hop]
      have hrubbish : ¬s.LeavesRubbish input.proposal := fun hleaves => by
        have hother := hleaves.2.1
        rw [hop] at hother
        cases hother
      simp only [hfound, habsent] at hremoved
      rw [hrestores, hnone]
      by_cases hfails : s.fails .removeTarget = true
      · rw [if_pos (Or.inl hfails)] at hremoved
        refine ⟨fun hfalse => absurd hfails (ne_true_of_eq_false hfalse), fun _ =>
          ⟨fun hleaves => absurd hleaves.1 hrubbish, fun _ => ⟨hremoved.2, ?_⟩⟩⟩
        intro htrue
        rw [hremoved.1] at htrue
        cases htrue
      · refine ⟨fun _ => ?_, fun hnot => absurd (eq_false_of_ne_true hfails) hnot⟩
        by_cases hstanding : s.standing input.proposal = none
        · rw [if_pos (Or.inr hstanding)] at hremoved
          exact ⟨hremoved.2.trans (by rw [hstanding]), fun hne => absurd hstanding hne⟩
        · rw [if_neg (not_or.mpr ⟨hfails, hstanding⟩)] at hremoved
          exact ⟨hremoved.2, fun _ => hremoved.1⟩
    · -- a modified file is replaced
      have hrestores : s.Restores input.proposal ws ↔
          s.Replaces .restore ws (targetPath input.proposal) := by
        unfold Surroundings.Restores
        rw [hop, and_iff_right hrecognized]
      have hrubbish : s.LeavesRubbish input.proposal ↔
          s.LeavesNamesake .restore (targetPath input.proposal) := by
        unfold Surroundings.LeavesRubbish
        rw [and_iff_right hrecognized, and_iff_right hop]
      have hreplaced := Surroundings.restoreTarget_modify hop htarget
      simp only [hfound, habsent, Faults.replaces_congr helsewhere] at hreplaced
      rw [hrestores, hrubbish, restoredData_of_modify h hop]
      by_cases hreplaces : s.Replaces .restore ws (targetPath input.proposal)
      · rw [if_pos hreplaces] at hreplaced
        exact ⟨fun _ => ⟨hreplaced.2, fun _ => hreplaced.1⟩, fun hnot => absurd hreplaces hnot⟩
      · rw [if_neg hreplaces] at hreplaced
        refine ⟨fun hyes => absurd hyes hreplaces, fun _ => ⟨fun hleaves => ?_, fun hnot => ?_⟩⟩
        · rwa [if_pos hleaves] at hreplaced
        · rwa [if_neg hnot] at hreplaced
  · have hunrecognized : ¬s.RecognizesWritten input.proposal := fun hyes => hnot
      (hrecognizes.mp hyes)
    refine ⟨fun hyes => absurd hyes.1 hunrecognized, fun _ =>
      ⟨fun hleaves => absurd hleaves.1.1 hunrecognized, fun _ => ⟨hfound, fun h => by cases h⟩⟩⟩

theorem not_mismatched_writeFailed :
    ¬(runtime.writeFailed input current consumed before).1.Mismatched := by
  rintro ⟨-, hcode⟩
  have hne : some MutationViolationCode.writeFailed.value ≠
      some MutationViolationCode.postconditionMismatch.value := by decide
  exact hne hcode

/-- How a call gets to a receipt that says that the postcondition did not hold. -/
theorem exists_of_mismatched {receipt : MutationReceipt}
    (houtcome : (runtime.mutateAmong s input ws).outcome = .ok receipt)
    (hmismatched : receipt.Mismatched) :
    ∃ current consumed before written after restored final,
      runtime.ReachesWrite s input ws current consumed before ∧
      s.Completes .write (s.found (targetPath input.proposal) ws) (targetPath input.proposal) ∧
      s.atomicWrite .write (s.found (targetPath input.proposal) ws)
        (targetPath input.proposal) input.proposal.content = (written, false) ∧
      s.readBack input.proposal = some (.text after) ∧
      s.conditionalRestore input.proposal
        (s.disturb .beforeReadBack (targetPath input.proposal) written) before
        (sha256Hex after) = (.ok restored, final) ∧
      (runtime.mutateAmong s input ws).workspace = final ∧
      receipt.rollbackPerformed = restored := by
  by_cases hproceeds : runtime.Proceeds s input ws
  · obtain ⟨current, consumed, before, hreaches⟩ := proceeds_iff.mp hproceeds
    by_cases hcompletes :
        s.Completes .write (s.found (targetPath input.proposal) ws) (targetPath input.proposal)
    · obtain ⟨written, hwrite⟩ : ∃ written, s.atomicWrite .write
          (s.found (targetPath input.proposal) ws) (targetPath input.proposal)
          input.proposal.content = (written, false) :=
        ⟨_, Faults.atomicWrite_of_completes hcompletes input.proposal.content⟩
      have hback := s.readBytes_eq (s.disturb_entries (s.written_entries hcompletes hwrite)
        .beforeReadBack) .readBack
      have hends := @finishAmong_ends runtime s input written current consumed before
      rw [mutateAmong_of_written hreaches hwrite] at houtcome ⊢
      dsimp only at houtcome ⊢
      generalize runtime.finishAmong s input written current consumed before =
        finished at hends houtcome ⊢
      cases hends with
      | unread hread =>
          cases houtcome
          exact absurd hmismatched not_mismatched_writeFailed
      | undecodable bytes hread => cases houtcome
      | completed after hread hpost =>
          cases houtcome
          cases hmismatched.1
      | raised after error final hread hrestore => cases houtcome
      | mismatched after restored final hread hpost hrestore =>
          cases houtcome
          exact ⟨current, consumed, before, written, after, restored, final, hreaches,
            hcompletes, hwrite, hback.symm.trans hread, hrestore, rfl, rfl⟩
    · obtain ⟨written, hwrite⟩ :=
        Faults.atomicWrite_of_not_completes hcompletes input.proposal.content
      rw [mutateAmong_of_raised hreaches hwrite] at houtcome
      cases houtcome
      exact absurd hmismatched not_mismatched_writeFailed
  · rcases mutateAmong_of_not_proceeds hproceeds with ⟨step, herror, -⟩ | ⟨violation, hmutated⟩
    · rw [herror] at houtcome
      cases houtcome
    · rw [hmutated] at houtcome
      cases houtcome
      cases hmismatched.1

/-- Where nobody wrote before the write, what the restore puts at the target is what stood
    there. -/
theorem restoredData_undisturbed
    (h : runtime.ReachesWrite s input ws current consumed before)
    (hothers : s.others .beforeReadBefore = none) :
    (s.restoredData input.proposal ws).map Entry.file =
      ws.entries (targetPath input.proposal) := by
  rcases operation_of_reaches h with hop | hop
  · obtain ⟨text, hentry, hpre, -⟩ := entries_of_consumes h.consumes
    unfold PreconditionHolds at hpre
    rw [hop] at hpre
    unfold Surroundings.restoredData
    rw [hop, hentry, hpre.1]
    rfl
  · obtain ⟨content, hentry, hleft⟩ := before_of_modify h hop
    rw [Surroundings.left, hothers, Option.getD_none] at hleft
    rw [restoredData_of_modify h hop, ← hleft, hentry]
    rfl

theorem file_eq_iff {data other : Option FileData} :
    data.map Entry.file = other.map Entry.file ↔ data = other :=
  (Option.map_injective fun _ _ h => Entry.file.inj h).eq_iff

/-- **Exactly when a failed postcondition is rolled back, and the content of other writers is
    left alone.** -/
theorem rolled_back_iff (runtime : GovernedMutationRuntime) (s : Surroundings)
    (input : MutateInput) (ws : Workspace) (receipt : MutationReceipt)
    (houtcome : (runtime.mutateAmong s input ws).outcome = .ok receipt)
    (hmismatched : receipt.Mismatched) :
    s.RolledBack input.proposal ws receipt (runtime.mutateAmong s input ws).workspace ↔
      s.RollsBackRightly input.proposal ws := by
  obtain ⟨current, consumed, before, written, after, restored, final, hreaches, hcompletes,
    hwrite, hread, hrestore, hfinal, hrestored⟩ := exists_of_mismatched houtcome hmismatched
  obtain ⟨hyes, hno⟩ := target_of_mismatched hreaches hcompletes hwrite hread hrestore
  have hstanding := @Surroundings.standing_eq s input.proposal
  rw [hfinal]
  unfold Surroundings.RolledBack Surroundings.RollsBackRightly
  rw [hrestored]
  cases hafter : s.leftAfter with
  | none =>
      -- the content stands when the restore writes
      have hwritten := Surroundings.writtenData_of_readBack hafter hread
      rw [hafter, Option.getD_none, hwritten] at hstanding
      have hstands : s.standing input.proposal ≠ none := by
        rw [hstanding]
        exact Option.some_ne_none _
      have hno' : ¬s.Restores input.proposal ws → _ := fun hnot =>
        (hno hnot).2 fun hleaves => hstands hleaves.2
      cases hbefore : s.leftBefore with
      | none =>
          have hothers : s.others .beforeReadBefore = none := by
            rw [Surroundings.leftBefore, Option.or_eq_none_iff] at hbefore
            exact hbefore.2
          dsimp only [Option.or_none]
          constructor
          · rintro ⟨-, htrue⟩
            by_contra hnot
            exact hstands ((hno' hnot).2 htrue)
          · intro hrestores
            obtain ⟨htarget, htrue⟩ := hyes hrestores
            exact ⟨htarget.trans (restoredData_undisturbed hreaches hothers), htrue hstands⟩
      | some left =>
          dsimp only [Option.none_or]
          by_cases hrestores : s.Restores input.proposal ws
          · rw [(hyes hrestores).1, file_eq_iff]
            simp [hrestores]
          · rw [(hno' hrestores).1, file_eq_iff, hstanding]
            simp [hrestores, eq_comm]
  | some left =>
      rw [hafter, Option.getD_some] at hstanding
      dsimp only [Option.some_or]
      by_cases hrestores : s.Restores input.proposal ws
      · have hrubbish := Surroundings.not_leavesRubbish_of_restores hrestores
        rw [(hyes hrestores).1, file_eq_iff]
        simp [hrestores, hrubbish]
      · rw [hstanding] at hno
        by_cases hleaves : s.LeavesRubbish input.proposal ∧ left = none
        · have hstays := (hno hrestores).1 hleaves
          refine iff_of_false (fun hsame => ?_) fun h => h.2 hleaves
          rw [hsame, hleaves.2] at hstays
          cases hstays
        · exact iff_of_true ((hno hrestores).2 hleaves).1
            ⟨fun h => absurd h hrestores, hleaves⟩

/-! ## A carriage return -/

/-- The call of a proposal whose content ends with a carriage return and whose postcondition
    never holds. -/
def returnInput : MutateInput := rewriteInput "a\r" ⟨false, none⟩

/-- The content stays, although nobody else wrote: read as a text it has another
    fingerprint. -/
theorem mutateAmong_returnInput :
    ∃ receipt events, plainRuntime.mutateAmong Faults.nothing.alone returnInput plainWorkspace =
        ⟨.ok receipt, plainWorkspace.set ["notes"] (some (.file (.text "a\r"))), events⟩ ∧
      receipt.Mismatched ∧ receipt.rollbackPerformed = false := by
  have hproceeds : plainRuntime.Proceeds Faults.nothing.alone returnInput plainWorkspace :=
    proceeds_rewrite (by decide) _ rfl rfl
  obtain ⟨current, consumed, before, hreaches⟩ := proceeds_iff.mp hproceeds
  have htarget : targetPath returnInput.proposal = ["notes"] := targetPath_rewrite _ _
  have hreplaces : Faults.nothing.Replaces .write plainWorkspace
      (targetPath returnInput.proposal) := by
    rw [htarget]
    decide
  have hwrite : Faults.nothing.alone.atomicWrite .write
      (Faults.nothing.alone.found (targetPath returnInput.proposal) plainWorkspace)
      (targetPath returnInput.proposal) returnInput.proposal.content = _ :=
    Faults.atomicWrite_of_replaces hreplaces _
  have hstands := (plainWorkspace).set_entries_self (targetPath returnInput.proposal)
    (some (.file (.text returnInput.proposal.content)))
  generalize hwritten : plainWorkspace.set (targetPath returnInput.proposal)
    (some (.file (.text returnInput.proposal.content))) = written at hwrite hstands
  have hread : ∀ step, Faults.nothing.alone.readBytes step written
      (targetPath returnInput.proposal) = some (.text "a\r") := by
    intro step
    unfold Faults.readBytes
    rw [hstands]
    rfl
  have hquiet : ∀ gap, Faults.nothing.alone.disturb gap (targetPath returnInput.proposal)
      written = written := fun _ => rfl
  have hfingerprint : sha256Hex (String.ofList (universalNewlines "a\r".toList)) ≠
      sha256Hex "a\r" := by decide +kernel
  have hrestore : Faults.nothing.alone.conditionalRestore returnInput.proposal written before
      (sha256Hex "a\r") = (.ok false, written) := by
    unfold Surroundings.conditionalRestore
    dsimp only
    rw [hquiet, hquiet, hread]
    exact if_pos hfingerprint
  have hpost : ¬verifyPostcondition returnInput.proposal (sha256Hex "a\r") = true :=
    Bool.false_ne_true
  obtain ⟨events, hfinish⟩ : ∃ events, plainRuntime.finishAmong Faults.nothing.alone returnInput
      written current consumed before = ⟨.ok (plainRuntime.receiptFor returnInput current consumed
        before (some "a\r") (some (.postconditionMismatch,
          "postcondition fingerprint did not match")) false), written, events⟩ := by
    unfold finishAmong
    dsimp only
    rw [hquiet, hread]
    dsimp only
    rw [if_neg hpost, hrestore]
    exact ⟨_, rfl⟩
  have hmutated := mutateAmong_of_written hreaches hwrite
  rw [hfinish, ← hwritten, htarget] at hmutated
  exact ⟨_, _, hmutated, ⟨rfl, rfl⟩, rfl⟩

/-- The theorem at this call. -/
theorem rolled_back_returnInput :
    ∃ receipt, (plainRuntime.mutateAmong Faults.nothing.alone returnInput
        plainWorkspace).outcome = .ok receipt ∧ receipt.Mismatched ∧
      (Faults.nothing.alone.RolledBack returnInput.proposal plainWorkspace receipt
          (plainRuntime.mutateAmong Faults.nothing.alone returnInput plainWorkspace).workspace ↔
        Faults.nothing.alone.RollsBackRightly returnInput.proposal plainWorkspace) := by
  obtain ⟨receipt, events, hmutated, hmismatched, -⟩ := mutateAmong_returnInput
  have houtcome : (plainRuntime.mutateAmong Faults.nothing.alone returnInput
      plainWorkspace).outcome = .ok receipt := by rw [hmutated]
  exact ⟨receipt, houtcome, hmismatched,
    rolled_back_iff plainRuntime _ returnInput plainWorkspace receipt houtcome hmismatched⟩

/-- **A failed postcondition is not rolled back.** -/
theorem mismatch_not_rolled_back :
    ∃ receipt, (plainRuntime.mutateAmong Faults.nothing.alone returnInput
        plainWorkspace).outcome = .ok receipt ∧ receipt.Mismatched ∧
      plainWorkspace.entries ["notes"] = some (.file (.text "hello")) ∧
      (plainRuntime.mutateAmong Faults.nothing.alone returnInput
        plainWorkspace).workspace.entries ["notes"] = some (.file (.text "a\r")) ∧
      ¬Faults.nothing.alone.RolledBack returnInput.proposal plainWorkspace receipt
        (plainRuntime.mutateAmong Faults.nothing.alone returnInput plainWorkspace).workspace := by
  obtain ⟨receipt, events, hmutated, hmismatched, hrollback⟩ := mutateAmong_returnInput
  rw [hmutated]
  refine ⟨receipt, rfl, hmismatched, rfl, Workspace.set_entries_self _ _ _, fun h => ?_⟩
  have htrue : receipt.rollbackPerformed = true := h.2
  rw [hrollback] at htrue
  cases htrue

end GovernedMutationRuntime

end Eag.Mutation
