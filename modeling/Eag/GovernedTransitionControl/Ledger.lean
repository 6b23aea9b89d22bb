/-
  Eag.GovernedTransitionControl.Ledger

  The durable transition-control ledger (`governed_transition_control/ledger.py`):
  one write-once file for each control key.
-/

import Eag.Foundation.Interleaving
import Eag.Foundation.WriteOnce
import Eag.GovernedTransitionControl.Models

namespace Eag.GovernedTransitionControl

open Eag.Foundation

/-- Outcomes of a claim. -/
inductive TransitionControlClaimDisposition where
  | claimed
  | duplicate
  | conflict
  | ambiguous
  deriving DecidableEq, Repr

/-- Result of one claim. -/
structure TransitionControlClaim where
  disposition : TransitionControlClaimDisposition
  record : TransitionControlRecord
  state_consistent : record.state =
    if disposition = .ambiguous then .ambiguous else .claimed
  deriving DecidableEq

/-- The files under the control root. -/
abbrev ControlLedger := WriteOnce.Store String TransitionControlRecord

/-- `_record_path`, relative to the control root. -/
def controlPath (controlKey : String) : String := "control-" ++ controlKey ++ ".json"

/-- The record a first claim of the request writes. -/
def recordFor (request : ExternalTransitionControlRequest) : TransitionControlRecord :=
  .create ("control-" ++ String.ofList (request.controlKey.toList.take 16)) request .claimed
    request.occurredAt 0 (nonBlank_of_mem (c := '-') (by simp) (by decide))

/-- What a claim reports about the record that was standing. -/
def controlReport (request : ExternalTransitionControlRequest) :
    Option TransitionControlRecord → TransitionControlClaim
  | none => ⟨.claimed, recordFor request, rfl⟩
  | some existing =>
      if hstate : existing.state = .ambiguous then ⟨.ambiguous, existing, by simp [hstate]⟩
      else
        have hclaimed : existing.state = .claimed := by
          cases h : existing.state with
          | claimed => rfl
          | ambiguous => exact absurd h hstate
        if existing.bindingDigest = request.bindingDigest then
          ⟨.duplicate, existing, by simp [hclaimed]⟩
        else ⟨.conflict, existing, by simp [hclaimed]⟩

/-- `FileDurableTransitionControlLedger.claim`. -/
def claimControl (fault : Option WriteOnce.Fault) (ledger : ControlLedger)
    (request : ExternalTransitionControlRequest) :
    ControlLedger × Except WriteOnce.Failure TransitionControlClaim :=
  let result := WriteOnce.claim (fun r => r.controlKey = request.controlKey) fault ledger
    (controlPath request.controlKey) (recordFor request)
  (result.1, result.2.map (controlReport request))

/-! ## What a claim does -/

theorem controlReport_eq_claimed {request : ExternalTransitionControlRequest}
    {standing : Option TransitionControlRecord} :
    (controlReport request standing).disposition = .claimed ↔ standing = none := by
  cases standing with
  | none => simp [controlReport]
  | some existing =>
      simp only [controlReport]
      split
      · simp
      · split <;> simp

/-- What is reported about the record another claim wrote. -/
theorem controlReport_recordFor (request other : ExternalTransitionControlRequest) :
    (controlReport request (some (recordFor other))).disposition =
      if other.bindingDigest = request.bindingDigest then .duplicate else .conflict := by
  have hstate : (recordFor other).state = .claimed := rfl
  have hbinding : (recordFor other).bindingDigest = other.bindingDigest := rfl
  have hne : ¬ (recordFor other).state = .ambiguous := by rw [hstate]; decide
  rw [controlReport, dif_neg hne]
  simp only [hbinding]
  split <;> rfl

/-- **What a claim of a control key can do**: fail, report a standing record, or
    put something at its own free path; it reports success exactly when it left its
    record there. -/
theorem claimControl_cases (fault : Option WriteOnce.Fault) (ledger : ControlLedger)
    (request : ExternalTransitionControlRequest) :
    ((claimControl fault ledger request).1 = ledger ∧
      ((∃ failure, (claimControl fault ledger request).2 = .error failure) ∨
        ∃ existing, ledger (controlPath request.controlKey) = some (.whole existing) ∧
          (claimControl fault ledger request).2 =
            .ok (controlReport request (some existing)))) ∨
    (ledger (controlPath request.controlKey) = none ∧
      (claimControl fault ledger request).1 =
        ledger.put (controlPath request.controlKey) (.whole (recordFor request)) ∧
      ((claimControl fault ledger request).2 = .ok (controlReport request none) ∨
        (claimControl fault ledger request).2 = .error .unavailable)) ∨
    (ledger (controlPath request.controlKey) = none ∧
      (claimControl fault ledger request).1 =
        ledger.put (controlPath request.controlKey) .torn ∧
      (claimControl fault ledger request).2 = .error .unavailable) := by
  simp only [claimControl]
  rcases WriteOnce.claim_cases (fun r => decide (r.controlKey = request.controlKey)) fault
      ledger (controlPath request.controlKey) (recordFor request) with
      ⟨hs, hn, hsome⟩ | ⟨hfree, hs, hr⟩ | ⟨hfree, hs, hr⟩
  · refine Or.inl ⟨hs, ?_⟩
    cases hreply : (WriteOnce.claim (fun r => decide (r.controlKey = request.controlKey)) fault
        ledger (controlPath request.controlKey) (recordFor request)).2 with
    | error failure => exact Or.inl ⟨failure, rfl⟩
    | ok standing =>
        cases standing with
        | none => exact absurd hreply hn
        | some existing => exact Or.inr ⟨existing, (hsome existing hreply).1, rfl⟩
  · refine Or.inr (Or.inl ⟨hfree, hs, ?_⟩)
    rcases hr with hr | hr <;> rw [hr]
    · exact Or.inl rfl
    · exact Or.inr rfl
  · exact Or.inr (Or.inr ⟨hfree, hs, by rw [hr]; rfl⟩)

/-- A claim that the file system lets read reports the record that stands there. -/
theorem claimControl_of_whole {fault : Option WriteOnce.Fault} {ledger : ControlLedger}
    {request : ExternalTransitionControlRequest} {existing : TransitionControlRecord}
    (hstands : ledger (controlPath request.controlKey) = some (.whole existing))
    (hkey : existing.controlKey = request.controlKey)
    (hfault : fault ≠ some .unlocked ∧ fault ≠ some .unread) :
    claimControl fault ledger request =
      (ledger, .ok (controlReport request (some existing))) := by
  have hread : WriteOnce.read (fun r => decide (r.controlKey = request.controlKey)) fault ledger
      (controlPath request.controlKey) = .ok (some existing) :=
    WriteOnce.read_of_whole hstands (by simpa using hkey) hfault
  simp only [claimControl, WriteOnce.claim, hread]
  rfl

/-- An undisturbed claim of a free path succeeds. -/
theorem claimControl_of_free {ledger : ControlLedger}
    {request : ExternalTransitionControlRequest}
    (hfree : ledger (controlPath request.controlKey) = none) :
    (claimControl none ledger request).2 = .ok (controlReport request none) := by
  simp [claimControl, WriteOnce.claim, WriteOnce.read, WriteOnce.write, hfree, Except.map]

/-- An undisturbed claim is never answered as unavailable. -/
theorem claimControl_undisturbed (ledger : ControlLedger)
    (request : ExternalTransitionControlRequest) :
    (claimControl none ledger request).2 ≠ .error .unavailable := by
  simp only [claimControl, WriteOnce.claim, WriteOnce.read, WriteOnce.write]
  cases ledger (controlPath request.controlKey) with
  | none => simp [Except.map]
  | some slot =>
      cases slot with
      | torn => simp [Except.map]
      | whole record =>
          by_cases hkey : record.controlKey = request.controlKey <;> simp [hkey, Except.map]

end Eag.GovernedTransitionControl
