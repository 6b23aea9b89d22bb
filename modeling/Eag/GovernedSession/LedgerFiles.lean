/-
  Eag.GovernedSession.LedgerFiles

  The durable replay ledger at the level of its files: the bytes of a record, what a
  claim or a read makes of the bytes it finds, and what a write that is cut short
  leaves behind.

  `json.loads` is taken as any function of the bytes: nothing here depends on what it
  makes of a record that was cut short. In `Eag.GovernedSession.Ledger` a file is reduced
  to whether its record can be read back.
-/

import Eag.Foundation.Runs
import Eag.GovernedSession.Ledger

namespace Eag.GovernedSession

open Eag.Foundation

/-! ## Records and their bytes -/

def durableReplayLedgerSchemaVersion : String := "g2.4.8"

namespace DurableReplayLedgerRecord

/-- `to_payload`. -/
def toPayload (record : DurableReplayLedgerRecord) : Json :=
  .object [
    ("binding_digest", .str record.bindingDigest),
    ("entry_kind", .str record.entryKind.value),
    ("identity_key", .str record.identityKey),
    ("schema_version", .str durableReplayLedgerSchemaVersion)]

/-- The bytes `_write_unlocked` writes. -/
def bytes (record : DurableReplayLedgerRecord) : List UInt8 :=
  record.toPayload.dumps.toUTF8.toList

end DurableReplayLedgerRecord

/-- `ReplayLedgerEntryKind(value)`. -/
def entryKind? (value : String) : Option ReplayLedgerEntryKind :=
  [.activationClaimed, .sessionIssued, .sessionConsumed].find? fun kind => kind.value = value

/-- The fields of a stored record. -/
def recordFields : List String := ["binding_digest", "entry_kind", "identity_key", "schema_version"]

/-- The record of a payload with these fields. -/
def fromFields (fields : List (String × Json)) : Option DurableReplayLedgerRecord :=
  let text := fun name => (fields.lookup name).bind Json.str?
  if text "schema_version" = some durableReplayLedgerSchemaVersion ∧
      (∀ name ∈ fields.map (·.1), name ∈ recordFields) ∧
      ∀ name ∈ recordFields, name ∈ fields.map (·.1) then
    match (text "entry_kind").bind entryKind?, text "identity_key", text "binding_digest" with
    | some kind, some identityKey, some bindingDigest =>
        if h : NonBlank identityKey ∧ IsDigest bindingDigest then
          some ⟨kind, identityKey, bindingDigest, h.1, h.2⟩
        else none
    | _, _, _ => none
  else none

/-- `from_payload`; `none` when it raises corruption. -/
def fromPayload : Json → Option DurableReplayLedgerRecord
  | .obj entries => fromFields entries.toList
  | _ => none

/-! ## Files -/

/-- The record files under the control root, by name. -/
abbrev LedgerFiles := String → Option (List UInt8)

/-- The files with these bytes at a path. -/
def LedgerFiles.put (files : LedgerFiles) (path : String) (bytes : List UInt8) : LedgerFiles :=
  Function.update files path (some bytes)

/-- The files without the one at a path. -/
def LedgerFiles.without (files : LedgerFiles) (path : String) : LedgerFiles :=
  Function.update files path none

/-- What the file system, or the end of the process, does to an operation. -/
inductive FileFault where
  /-- The root or its lock file cannot be opened or locked. -/
  | unlocked
  /-- The record file cannot be read. -/
  | unread
  /-- The record file cannot be created. -/
  | uncreated
  /-- The write fails after so many bytes. -/
  | cutShort (written : Nat)
  /-- Every byte is written and the final flush fails. -/
  | unsynced
  /-- The process ends after so many bytes are written. -/
  | crashed (written : Nat)
  deriving DecidableEq, Repr

section

variable (decode : List UInt8 → Option Json)

/-- `_read_unlocked` under the lock; `decode` is `json.loads` of the file's text, `none` when
    either raises. -/
def readFile (fault : Option FileFault) (files : LedgerFiles) (kind : ReplayLedgerEntryKind)
    (identityKey : String) : Except WriteOnce.Failure (Option DurableReplayLedgerRecord) :=
  if fault = some .unlocked ∨ fault = some .unread then .error .unavailable
  else
    match files (recordPath kind identityKey) with
    | none => .ok none
    | some bytes =>
        match (decode bytes).bind fromPayload with
        | none => .error .corrupt
        | some record =>
            if belongs kind identityKey record then .ok (some record) else .error .corrupt

/-- `_write_unlocked`; no answer from a process that ended. -/
def writeFile (fault : Option FileFault) (files : LedgerFiles)
    (record : DurableReplayLedgerRecord) : LedgerFiles × Option (Except WriteOnce.Failure Unit) :=
  match fault with
  | none => (files.put record.path record.bytes, some (.ok ()))
  | some (.cutShort written) =>
      (files.put record.path (record.bytes.take written), some (.error .unavailable))
  | some .unsynced => (files.put record.path record.bytes, some (.error .unavailable))
  | some (.crashed written) => (files.put record.path (record.bytes.take written), none)
  | some _ => (files, some (.error .unavailable))

/-- `claim`. -/
def claimFile (fault : Option FileFault) (files : LedgerFiles)
    (record : DurableReplayLedgerRecord) :
    LedgerFiles × Option (Except WriteOnce.Failure ReplayLedgerClaim) :=
  match readFile decode fault files record.entryKind record.identityKey with
  | .error failure => (files, some (.error failure))
  | .ok (some existing) => (files, some (.ok (claimReport record (some existing))))
  | .ok none =>
      let written := writeFile fault files record
      (written.1, written.2.map fun outcome => outcome.map fun _ => .claimed)

end

end Eag.GovernedSession
