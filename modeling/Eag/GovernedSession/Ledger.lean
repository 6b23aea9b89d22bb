/-
  Eag.GovernedSession.Ledger

  The durable replay ledger (`governed_session/ledger.py`): one write-once file
  for each claim, at a path derived from the kind and the identity of the record,
  and the locked claim and read operations on them.

  A file holds a complete record or the remains of an interrupted write, which
  no longer parse.
-/

import Eag.Foundation.Interleaving
import Eag.Foundation.WriteOnce
import Eag.GovernedSession.Digests

namespace Eag.GovernedSession

open Eag.Foundation Eag.GovernedRuntime

/-- The replay claims persisted by the session boundary. -/
inductive ReplayLedgerEntryKind where
  | activationClaimed
  | sessionIssued
  | sessionConsumed
  deriving DecidableEq, Repr

def ReplayLedgerEntryKind.value : ReplayLedgerEntryKind → String
  | .activationClaimed => "activation_claimed"
  | .sessionIssued => "session_issued"
  | .sessionConsumed => "session_consumed"

/-- Immutable, redacted replay claim. -/
@[ext]
structure DurableReplayLedgerRecord where
  entryKind : ReplayLedgerEntryKind
  identityKey : String
  bindingDigest : String
  identityKey_nonBlank : NonBlank identityKey
  bindingDigest_isDigest : IsDigest bindingDigest

instance : DecidableEq DurableReplayLedgerRecord := fun _ _ =>
  decidable_of_iff _ DurableReplayLedgerRecord.ext_iff.symm

/-- Result of one atomic claim. -/
inductive ReplayLedgerClaim where
  | claimed
  | alreadyClaimed (existing : DurableReplayLedgerRecord)
  | conflict (existing : DurableReplayLedgerRecord)
  deriving DecidableEq

/-- `_record_path`, relative to the control root. -/
def recordPath (kind : ReplayLedgerEntryKind) (identityKey : String) : String :=
  kind.value ++ "-" ++ sha256Hex (kind.value ++ ":" ++ identityKey) ++ ".json"

/-- Where a record is stored. -/
abbrev DurableReplayLedgerRecord.path (record : DurableReplayLedgerRecord) : String :=
  recordPath record.entryKind record.identityKey

/-- The files under the control root. -/
abbrev ReplayLedger := WriteOnce.Store String DurableReplayLedgerRecord

/-- A stored record belongs to the key it is read under. -/
def belongs (kind : ReplayLedgerEntryKind) (identityKey : String)
    (record : DurableReplayLedgerRecord) : Bool :=
  record.entryKind = kind && record.identityKey = identityKey

/-- `FileDurableSessionReplayLedger.read`. -/
def readRecord (fault : Option WriteOnce.Fault) (ledger : ReplayLedger)
    (kind : ReplayLedgerEntryKind) (identityKey : String) :
    Except WriteOnce.Failure (Option DurableReplayLedgerRecord) :=
  WriteOnce.read (belongs kind identityKey) fault ledger (recordPath kind identityKey)

/-- What a claim reports about the record that was standing. -/
def claimReport (record : DurableReplayLedgerRecord) :
    Option DurableReplayLedgerRecord → ReplayLedgerClaim
  | none => .claimed
  | some existing =>
      if existing = record then .alreadyClaimed existing else .conflict existing

theorem claimReport_eq_claimed {record : DurableReplayLedgerRecord}
    {standing : Option DurableReplayLedgerRecord} :
    claimReport record standing = .claimed ↔ standing = none := by
  cases standing with
  | none => simp [claimReport]
  | some existing =>
      simp only [claimReport]
      split <;> simp

/-- `FileDurableSessionReplayLedger.claim`. -/
def claimRecord (fault : Option WriteOnce.Fault) (ledger : ReplayLedger)
    (record : DurableReplayLedgerRecord) :
    ReplayLedger × Except WriteOnce.Failure ReplayLedgerClaim :=
  let result := WriteOnce.claim (belongs record.entryKind record.identityKey) fault ledger
    record.path record
  (result.1, result.2.map (claimReport record))

/-! ## Operations of a call -/

/-- The shared operations of the calls: ledger claims and reads, and the dispatch
    to the supplied runtime. -/
inductive SessionOp where
  | claim (record : DurableReplayLedgerRecord)
  | read (kind : ReplayLedgerEntryKind) (identityKey : String)
  | execute (request : GovernedExecutionRequest)

/-- What each operation answers; a dispatch returns a result or the type name of
    the exception it raised. -/
abbrev SessionOp.Reply : SessionOp → Type
  | .claim _ => Except WriteOnce.Failure ReplayLedgerClaim
  | .read _ _ => Except WriteOnce.Failure (Option DurableReplayLedgerRecord)
  | .execute _ => Except String GovernedExecutionResult

abbrev SessionProg (α : Type) := Prog SessionOp SessionOp.Reply α

/-- `ledger.claim(record)`. -/
def ledgerClaim (record : DurableReplayLedgerRecord) :
    SessionProg (Except WriteOnce.Failure ReplayLedgerClaim) := Prog.perform (SessionOp.claim record)

/-- `ledger.read(entry_kind, identity_key)`. -/
def ledgerRead (kind : ReplayLedgerEntryKind) (identityKey : String) :
    SessionProg (Except WriteOnce.Failure (Option DurableReplayLedgerRecord)) :=
  Prog.perform (SessionOp.read kind identityKey)

/-- `executor.execute(request)`. -/
def dispatch (request : GovernedExecutionRequest) :
    SessionProg (Except String GovernedExecutionResult) := Prog.perform (SessionOp.execute request)

@[simp] theorem ledgerClaim_bind {α : Type} (record : DurableReplayLedgerRecord)
    (f : Except WriteOnce.Failure ReplayLedgerClaim → SessionProg α) :
    (ledgerClaim record >>= f) = .call (.claim record) f := rfl

@[simp] theorem ledgerRead_bind {α : Type} (kind : ReplayLedgerEntryKind)
    (identityKey : String)
    (f : Except WriteOnce.Failure (Option DurableReplayLedgerRecord) → SessionProg α) :
    (ledgerRead kind identityKey >>= f) = .call (.read kind identityKey) f := rfl

@[simp] theorem dispatch_bind {α : Type} (request : GovernedExecutionRequest)
    (f : Except String GovernedExecutionResult → SessionProg α) :
    (dispatch request >>= f) = .call (.execute request) f := rfl

/-- What the outside does to one operation. -/
structure SessionEnv where
  fault : Option WriteOnce.Fault
  answer : Except String GovernedExecutionResult

/-- One atomic operation on the ledger. -/
def performOp (ledger : ReplayLedger) (env : SessionEnv) :
    (op : SessionOp) → ReplayLedger × op.Reply
  | .claim record => claimRecord env.fault ledger record
  | .read kind identityKey => (ledger, readRecord env.fault ledger kind identityKey)
  | .execute _ => (ledger, env.answer)

/-! ## What an operation does -/

/-- Records of different kinds have different paths. -/
theorem recordPath_ne {k l : ReplayLedgerEntryKind} (h : k ≠ l) (a b : String) :
    recordPath k a ≠ recordPath l b := by
  intro he
  have he := congrArg String.toList he
  simp only [recordPath, String.toList_append] at he
  cases k <;> cases l <;> first | exact h rfl | simp [ReplayLedgerEntryKind.value] at he

/-- An undisturbed claim of a free path succeeds. -/
theorem claimRecord_of_free {ledger : ReplayLedger} {record : DurableReplayLedgerRecord}
    (h : ledger record.path = none) :
    claimRecord none ledger record = (ledger.put record.path (.whole record), .ok .claimed) := by
  simp [claimRecord, WriteOnce.claim, WriteOnce.read, WriteOnce.write, h, claimReport, Except.map]

/-- An undisturbed read returns the record that stands at its own path. -/
theorem readRecord_of_whole {ledger : ReplayLedger} (record : DurableReplayLedgerRecord)
    (h : ledger record.path = some (.whole record)) :
    readRecord none ledger record.entryKind record.identityKey = .ok (some record) :=
  WriteOnce.read_of_whole h (by simp [belongs]) (by simp)

/-- A successful claim found its path free and left its record there. -/
theorem claimRecord_claimed {fault : Option WriteOnce.Fault} {ledger : ReplayLedger}
    {record : DurableReplayLedgerRecord}
    (h : (claimRecord fault ledger record).2 = .ok .claimed) :
    ledger record.path = none ∧
      (claimRecord fault ledger record).1 record.path =
        some (.whole record) := by
  have hc : (WriteOnce.claim (belongs record.entryKind record.identityKey) fault ledger
      record.path record).2 = .ok none := by
    simp only [claimRecord] at h
    cases hr : (WriteOnce.claim (belongs record.entryKind record.identityKey) fault ledger
        record.path record).2 with
    | error failure => rw [hr] at h; cases h
    | ok standing =>
        rw [hr] at h
        rw [claimReport_eq_claimed.mp (Except.ok.inj h)]
  obtain ⟨hnone, hput⟩ := WriteOnce.claim_eq_ok_none hc
  exact ⟨hnone, by simp only [claimRecord, hput, WriteOnce.Store.put_self]⟩

/-- A complete record that stands after a claim stood before it, or was written by
    it; then the claim succeeded, or its final flush was reported as failed. -/
theorem claimRecord_slot {fault : Option WriteOnce.Fault} {ledger : ReplayLedger}
    {record existing : DurableReplayLedgerRecord} {path : String}
    (h : (claimRecord fault ledger record).1 path = some (.whole existing)) :
    ledger path = some (.whole existing) ∨
      (existing = record ∧ path = recordPath record.entryKind record.identityKey ∧
        ((claimRecord fault ledger record).2 = .ok .claimed ∨
          (claimRecord fault ledger record).2 = .error .unavailable)) := by
  simp only [claimRecord] at h ⊢
  rcases WriteOnce.claim_cases (belongs record.entryKind record.identityKey) fault ledger
      record.path record with ⟨hs, -⟩ | ⟨-, hs, hr⟩ |
      ⟨-, hs, -⟩ <;> rw [hs] at h
  · exact Or.inl h
  · by_cases hp : path = recordPath record.entryKind record.identityKey
    · subst hp
      rw [WriteOnce.Store.put_self] at h
      cases h
      refine Or.inr ⟨rfl, rfl, ?_⟩
      rcases hr with hr | hr <;> rw [hr]
      · exact Or.inl rfl
      · exact Or.inr rfl
    · rw [WriteOnce.Store.put_of_ne _ hp] at h
      exact Or.inl h
  · by_cases hp : path = recordPath record.entryKind record.identityKey
    · subst hp
      rw [WriteOnce.Store.put_self] at h
      cases h
    · rw [WriteOnce.Store.put_of_ne _ hp] at h
      exact Or.inl h

theorem extends_performOp (ledger : ReplayLedger) (env : SessionEnv) (op : SessionOp) :
    ledger.Extends (performOp ledger env op).1 := by
  cases op with
  | claim record =>
      exact WriteOnce.extends_claim (belongs record.entryKind record.identityKey) env.fault
        ledger record.path record
  | read kind identityKey => exact .refl _
  | execute request => exact .refl _

end Eag.GovernedSession
