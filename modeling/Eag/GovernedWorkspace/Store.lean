/-
  Eag.GovernedWorkspace.Store

  `FileDurableWorkspaceCustodyStore.claim`: one record file for each attestation id, created
  once under the lock of the root and never replaced.
-/

import Eag.Foundation.WriteOnce
import Eag.GovernedWorkspace.Descriptors

namespace Eag.GovernedWorkspace

open Eag.Foundation

/-- The record files by the digest in their name. -/
abbrev CustodyStore := WriteOnce.Store String WorkspaceCustodyAttestation

/-- What the file system does to a claim. -/
structure StoreFault where
  fault : Option WriteOnce.Fault
  /-- Releasing the lock raises an `OSError`. -/
  unlockFails : Bool

/-- `_record_path`: the digest of the id, when it has a UTF-8 form. -/
def recordKey (id : Identifier) : Option String :=
  id.val.scalars?.map fun text => sha256Hex (String.ofList text)

/-- What `claim` answers to what happened at the path; `readBack` is what reading the record
    of an attestation returns. -/
def claimAnswer (readBack : WorkspaceCustodyAttestation → Option WorkspaceCustodyAttestation)
    (attestation : WorkspaceCustodyAttestation) :
    Except WriteOnce.Failure (Option WorkspaceCustodyAttestation) →
      Except Raised WorkspaceCustodyClaimDisposition
  | .ok none => .ok .claimed
  | .ok (some standing) =>
      .ok (if readBack standing = some attestation then .duplicate else .conflict)
  | .error .unavailable => .error .storeUnavailable
  | .error .corrupt => .error .storeCorruption

/-- A standing record that is read as one with the id that is claimed. -/
def belongs (readBack : WorkspaceCustodyAttestation → Option WorkspaceCustodyAttestation)
    (attestation standing : WorkspaceCustodyAttestation) : Bool :=
  match readBack standing with
  | none => false
  | some read => decide (read.attestationId = attestation.attestationId)

/-- `claim`. -/
def claimRecord (readBack : WorkspaceCustodyAttestation → Option WorkspaceCustodyAttestation)
    (env : StoreFault) (store : CustodyStore) (attestation : WorkspaceCustodyAttestation) :
    CustodyStore × Except Raised WorkspaceCustodyClaimDisposition :=
  if env.fault = some .unlocked then (store, .error .storeUnavailable)
  else
    match recordKey attestation.attestationId with
    | none => (store, .error (if env.unlockFails then .osError else .valueError))
    | some key =>
        let claimed := WriteOnce.claim (belongs readBack attestation) env.fault store key attestation
        (claimed.1,
          if env.unlockFails then .error .osError
          else claimAnswer readBack attestation claimed.2)

/-- **A claim that is answered `CLAIMED`** found the path of its id free and occupied it. -/
theorem claimRecord_claimed
    {readBack : WorkspaceCustodyAttestation → Option WorkspaceCustodyAttestation}
    {env : StoreFault} {store : CustodyStore} {attestation : WorkspaceCustodyAttestation}
    (h : (claimRecord readBack env store attestation).2 = .ok .claimed) :
    ∃ key, recordKey attestation.attestationId = some key ∧ store key = none ∧
      (claimRecord readBack env store attestation).1 key ≠ none := by
  unfold claimRecord at h ⊢
  split at h
  · cases h
  · rename_i hlocked
    rw [if_neg hlocked]
    cases hkey : recordKey attestation.attestationId with
    | none =>
        rw [hkey] at h
        cases h
    | some key =>
        rw [hkey] at h
        dsimp only at h
        split at h
        · cases h
        · have hfree : (WriteOnce.claim (belongs readBack attestation) env.fault store key
              attestation).2 = .ok none := by
            generalize (WriteOnce.claim (belongs readBack attestation) env.fault store key
              attestation).2 = outcome at h
            match outcome, h with
            | .ok none, _ => rfl
            | .ok (some standing), h =>
                have hfalse : (if readBack standing = some attestation
                    then WorkspaceCustodyClaimDisposition.duplicate else .conflict) = .claimed :=
                  Except.ok.inj h
                split at hfalse <;> cases hfalse
            | .error .unavailable, h => cases h
            | .error .corrupt, h => cases h
          obtain ⟨hnone, hput⟩ := WriteOnce.claim_eq_ok_none hfree
          refine ⟨key, rfl, hnone, ?_⟩
          show (WriteOnce.claim _ _ _ _ _).1 key ≠ none
          rw [hput, WriteOnce.Store.put_self]
          exact Option.some_ne_none _

/-- A claim removes and replaces nothing. -/
theorem extends_claimRecord
    (readBack : WorkspaceCustodyAttestation → Option WorkspaceCustodyAttestation)
    (env : StoreFault) (store : CustodyStore) (attestation : WorkspaceCustodyAttestation) :
    WriteOnce.Store.Extends store (claimRecord readBack env store attestation).1 := by
  unfold claimRecord
  split
  · exact WriteOnce.Store.Extends.refl store
  · split
    · exact WriteOnce.Store.Extends.refl store
    · exact WriteOnce.extends_claim _ _ _ _ _

end Eag.GovernedWorkspace
