/-
  Eag.GovernedSession.TornClaims

  What becomes of a claim whose record was cut short: whatever prefix of the record a
  crash or a failed write left at its path, and whatever claims and reads any process
  makes later, the claim is never granted again, and claims and reads of other keys
  go as if the file were not there (`torn_claims_fail_closed`).

  The lock of the control root makes each claim and each read one step, so the later
  calls of any processes are a sequence of steps.
-/

import Eag.GovernedSession.LedgerFiles

namespace Eag.GovernedSession

open Eag.Foundation

/-! ## Later calls -/

/-- A claim or a read, with what the file system does to it. -/
inductive LedgerStep where
  | claim (record : DurableReplayLedgerRecord) (fault : Option FileFault)
  | read (kind : ReplayLedgerEntryKind) (identityKey : String) (fault : Option FileFault)

/-- The kind and the identity a step is about. -/
def LedgerStep.key : LedgerStep → ReplayLedgerEntryKind × String
  | .claim record _ => (record.entryKind, record.identityKey)
  | .read kind identityKey _ => (kind, identityKey)

/-- The path of a key. -/
def LedgerStep.path (step : LedgerStep) : String := recordPath step.key.1 step.key.2

/-- What a step answers, if its process lives to answer. -/
inductive LedgerAnswer where
  | claim (result : Except WriteOnce.Failure ReplayLedgerClaim)
  | read (result : Except WriteOnce.Failure (Option DurableReplayLedgerRecord))
  | refused (text : String)
  | ended

section

variable (decode : List UInt8 → Option Json)

/-- One step on the files. -/
def ledgerFileStep (files : LedgerFiles) : LedgerStep → LedgerFiles × LedgerAnswer
  | .claim record fault =>
      let result := claimFile decode fault files record
      (result.1, match result.2 with
        | some answer => .claim answer
        | none => .ended)
  | .read kind identityKey fault =>
      (files, if NonBlank identityKey then .read (readFile decode fault files kind identityKey)
        else .refused "identity_key cannot be empty")

/-- The files after a sequence of steps. -/
def filesAfter (files : LedgerFiles) (steps : List LedgerStep) : LedgerFiles :=
  runFrom (fun files step => (ledgerFileStep decode files step).1) files steps

/-- What a step answers after a sequence of others. -/
def answerAfter (files : LedgerFiles) (before : List LedgerStep) (step : LedgerStep) :
    LedgerAnswer :=
  (ledgerFileStep decode (filesAfter decode files before) step).2

end

/-- Two keys whose texts have one SHA-256 digest. -/
def KeysCollide (a b : ReplayLedgerEntryKind × String) : Prop :=
  a ≠ b ∧ sha256Hex (a.1.value ++ ":" ++ a.2) = sha256Hex (b.1.value ++ ":" ++ b.2)

/-- The answers that grant nothing. -/
def FailsClosed (answer : LedgerAnswer) : Prop :=
  (∃ existing, answer = .claim (.ok (.alreadyClaimed existing))) ∨
  (∃ existing, answer = .claim (.ok (.conflict existing))) ∨
  answer = .claim (.error .corrupt) ∨ answer = .claim (.error .unavailable)

/-! ## Steps -/

section

variable {decode : List UInt8 → Option Json}

/-- What an operation reads of the files is what stands at its own path. -/
theorem readFile_congr {files other : LedgerFiles} {kind : ReplayLedgerEntryKind}
    {identityKey : String}
    (h : files (recordPath kind identityKey) = other (recordPath kind identityKey))
    (fault : Option FileFault) :
    readFile decode fault files kind identityKey = readFile decode fault other kind identityKey := by
  unfold readFile
  rw [h]

theorem put_agree {files other : LedgerFiles} {path : String} {p : String}
    (h : files p = other p) (bytes : List UInt8) :
    files.put path bytes p = other.put path bytes p := by
  unfold LedgerFiles.put
  by_cases hp : p = path
  · rw [hp, Function.update_self, Function.update_self]
  · rw [Function.update_of_ne hp, Function.update_of_ne hp, h]

theorem writeFile_agree {files other : LedgerFiles} {p : String} (h : files p = other p)
    (fault : Option FileFault) (record : DurableReplayLedgerRecord) :
    (writeFile fault files record).1 p = (writeFile fault other record).1 p ∧
    (writeFile fault files record).2 = (writeFile fault other record).2 := by
  cases fault with
  | none => exact ⟨put_agree h _, rfl⟩
  | some fault =>
      cases fault with
      | cutShort written => exact ⟨put_agree h _, rfl⟩
      | unsynced => exact ⟨put_agree h _, rfl⟩
      | crashed written => exact ⟨put_agree h _, rfl⟩
      | unlocked => exact ⟨h, rfl⟩
      | unread => exact ⟨h, rfl⟩
      | uncreated => exact ⟨h, rfl⟩

/-- **Frame.** A step on files that agree at its path answers the same, and leaves files that
    agree wherever they agreed. -/
theorem step_agree {files other : LedgerFiles} {step : LedgerStep}
    (h : files step.path = other step.path) :
    (ledgerFileStep decode files step).2 = (ledgerFileStep decode other step).2 ∧
    ∀ p, files p = other p →
      (ledgerFileStep decode files step).1 p = (ledgerFileStep decode other step).1 p := by
  cases step with
  | read kind identityKey fault =>
      refine ⟨?_, fun p hp => hp⟩
      have hread : readFile decode fault files kind identityKey
          = readFile decode fault other kind identityKey := readFile_congr h fault
      simp only [ledgerFileStep, hread]
  | claim record fault =>
      have hread : readFile decode fault files record.entryKind record.identityKey
          = readFile decode fault other record.entryKind record.identityKey :=
        readFile_congr h fault
      simp only [ledgerFileStep, claimFile, hread]
      cases readFile decode fault other record.entryKind record.identityKey with
      | error failure => exact ⟨rfl, fun p hp => hp⟩
      | ok standing =>
          cases standing with
          | some existing => exact ⟨rfl, fun p hp => hp⟩
          | none =>
              refine ⟨?_, fun p hp => (writeFile_agree hp fault record).1⟩
              simp only [(writeFile_agree h fault record).2]

/-- A step changes nothing but its own path. -/
theorem step_off_path (files : LedgerFiles) (step : LedgerStep) {p : String}
    (hp : p ≠ step.path) : (ledgerFileStep decode files step).1 p = files p := by
  cases step with
  | read kind identityKey fault => rfl
  | claim record fault =>
      have hput : ∀ bytes, files.put record.path bytes p = files p :=
        fun bytes => Function.update_of_ne hp ..
      simp only [ledgerFileStep, claimFile]
      cases readFile decode fault files record.entryKind record.identityKey with
      | error failure => rfl
      | ok standing =>
          cases standing with
          | some existing => rfl
          | none =>
              cases fault with
              | none => exact hput _
              | some fault =>
                  cases fault with
                  | cutShort written => exact hput _
                  | unsynced => exact hput _
                  | crashed written => exact hput _
                  | unlocked => rfl
                  | unread => rfl
                  | uncreated => rfl

/-- A file that is there is read or refused, never taken for absent. -/
theorem readFile_of_present {files : LedgerFiles} {kind : ReplayLedgerEntryKind}
    {identityKey : String} {bytes : List UInt8}
    (h : files (recordPath kind identityKey) = some bytes) (fault : Option FileFault) :
    readFile decode fault files kind identityKey ≠ .ok none := by
  unfold readFile
  rw [h]
  split
  · exact fun heq => by cases heq
  · dsimp only
    split
    · exact fun heq => by cases heq
    · split <;> exact fun heq => by cases heq

/-- A claim of a path where something stands changes nothing and grants nothing. -/
theorem claim_of_present {files : LedgerFiles} {record : DurableReplayLedgerRecord}
    {bytes : List UInt8} (h : files record.path = some bytes) (fault : Option FileFault) :
    (ledgerFileStep decode files (.claim record fault)).1 = files ∧
    FailsClosed (ledgerFileStep decode files (.claim record fault)).2 := by
  have hpresent : readFile decode fault files record.entryKind record.identityKey ≠ .ok none :=
    readFile_of_present h fault
  simp only [ledgerFileStep, claimFile]
  cases hread : readFile decode fault files record.entryKind record.identityKey with
  | error failure =>
      refine ⟨rfl, ?_⟩
      cases failure with
      | corrupt => exact .inr (.inr (.inl rfl))
      | unavailable => exact .inr (.inr (.inr rfl))
  | ok standing =>
      cases standing with
      | none => exact absurd hread hpresent
      | some existing =>
          refine ⟨rfl, ?_⟩
          by_cases hsame : existing = record
          · exact .inl ⟨existing, by simp [claimReport, hsame]⟩
          · exact .inr (.inl ⟨existing, by simp [claimReport, hsame]⟩)

/-! ## Runs -/

theorem filesAfter_snoc (files : LedgerFiles) (steps : List LedgerStep) (step : LedgerStep) :
    filesAfter decode files (steps ++ [step])
      = (ledgerFileStep decode (filesAfter decode files steps) step).1 := by
  simp [filesAfter]

/-- What stands at a path stands there after every step. -/
theorem step_keeps {files : LedgerFiles} {path : String} {bytes : List UInt8}
    (h : files path = some bytes) (step : LedgerStep) :
    (ledgerFileStep decode files step).1 path = some bytes := by
  by_cases hpath : path = step.path
  · cases step with
    | read kind identityKey fault => exact h
    | claim record fault =>
        have hpresent : files record.path = some bytes := by
          rw [← h, hpath]
          rfl
        rw [(claim_of_present hpresent fault).1, h]
  · rw [step_off_path files step hpath, h]

/-- **Run lemma.** -/
theorem run_keeps {files : LedgerFiles} {path : String} {bytes : List UInt8}
    (h : files path = some bytes) (steps : List LedgerStep) :
    filesAfter decode files steps path = some bytes :=
  runFrom_invariant (P := fun files : LedgerFiles => files path = some bytes) _
    (fun _ step hfiles => step_keeps hfiles step) steps h

/-- Files that agree except at one path agree so after any steps. -/
theorem run_agree {files other : LedgerFiles} {path : String}
    (h : ∀ p, p ≠ path → files p = other p) (steps : List LedgerStep) {p : String}
    (hp : p ≠ path) : filesAfter decode files steps p = filesAfter decode other steps p := by
  induction steps using List.reverseRecOn generalizing p with
  | nil => exact h p hp
  | append_singleton steps step ih =>
      rw [filesAfter_snoc, filesAfter_snoc]
      by_cases hstep : step.path = path
      · rw [step_off_path _ step (hstep ▸ hp), step_off_path _ step (hstep ▸ hp)]
        exact ih hp
      · exact (step_agree (ih hstep)).2 p (ih hp)

/-- Keys with one path have one kind and one digest. -/
theorem digest_of_recordPath {k l : ReplayLedgerEntryKind} {a b : String}
    (h : recordPath k a = recordPath l b) :
    sha256Hex (k.value ++ ":" ++ a) = sha256Hex (l.value ++ ":" ++ b) := by
  have hkind : k = l := by
    by_contra hne
    exact recordPath_ne hne a b h
  subst hkind
  have hlist := congrArg String.toList h
  simp only [recordPath, String.toList_append] at hlist
  exact String.toList_injective (List.append_cancel_left (List.append_cancel_right hlist))

/-- **Torn claims fail closed.** Take any files, with any prefix of the bytes of a record at its
    path, and any later claims and reads. A claim of the record's kind and identity is never
    granted. Claims and reads of another key are answered as they are without that file, and
    leave the same files, unless the two keys have one SHA-256 digest. -/
theorem torn_claims_fail_closed (decode : List UInt8 → Option Json) (files : LedgerFiles)
    (record : DurableReplayLedgerRecord) (written : Nat) (later : List LedgerStep) :
    let torn := files.put record.path (record.bytes.take written)
    let absent := files.without record.path
    AtEach (fun before step => ∀ claimed fault, step = .claim claimed fault →
      claimed.entryKind = record.entryKind → claimed.identityKey = record.identityKey →
      FailsClosed (answerAfter decode torn before step)) later ∧
    AtEach (fun before step => step.key ≠ (record.entryKind, record.identityKey) →
      KeysCollide step.key (record.entryKind, record.identityKey) ∨
      answerAfter decode torn before step = answerAfter decode absent before step) later ∧
    ∀ path, path ≠ record.path →
      filesAfter decode torn later path = filesAfter decode absent later path := by
  intro torn absent
  have htorn : torn record.path = some (record.bytes.take written) := Function.update_self ..
  have hagree : ∀ p, p ≠ record.path → torn p = absent p := by
    intro p hp
    exact (Function.update_of_ne hp ..).trans (Function.update_of_ne hp ..).symm
  refine ⟨?_, ?_, fun path hpath => run_agree hagree later hpath⟩
  · rintro before step after - claimed fault rfl hkind hkey
    have hpath : claimed.path = record.path := by
      unfold DurableReplayLedgerRecord.path
      rw [hkind, hkey]
    have hpresent : filesAfter decode torn before claimed.path
        = some (record.bytes.take written) := by
      rw [hpath]
      exact run_keeps htorn before
    exact (claim_of_present hpresent fault).2
  · intro before step after _ hkey
    by_cases hpath : step.path = record.path
    · exact .inl ⟨hkey, digest_of_recordPath hpath⟩
    · exact .inr (step_agree (run_agree hagree before hpath)).1

/-- The state that theorem starts from is the one that a claim of a free path leaves when its
    process ends, or its write fails, after so many bytes. -/
theorem claim_leaves_prefix {files : LedgerFiles} {record : DurableReplayLedgerRecord}
    (hfree : files record.path = none) (written : Nat) :
    (claimFile decode (some (.crashed written)) files record).1
      = files.put record.path (record.bytes.take written) ∧
    (claimFile decode (some (.cutShort written)) files record).1
      = files.put record.path (record.bytes.take written) := by
  have hread : ∀ fault : FileFault, fault ≠ .unlocked → fault ≠ .unread →
      readFile decode (some fault) files record.entryKind record.identityKey = .ok none := by
    intro fault hlocked hreadable
    unfold readFile
    rw [if_neg (by simp [hlocked, hreadable])]
    simp only [hfree]
  constructor
  · simp only [claimFile, hread (.crashed written) (by simp) (by simp), writeFile]
  · simp only [claimFile, hread (.cutShort written) (by simp) (by simp), writeFile]

end

end Eag.GovernedSession
