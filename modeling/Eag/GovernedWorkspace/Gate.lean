/-
  Eag.GovernedWorkspace.Gate

  `WorkspaceCustodyGate`: the admission of a request on freshly opened descriptors, the
  evidence-only `attest`, and `attest_and_acquire_root_handoff`, which keeps the workspace
  descriptor in a live handle.

  The ancestor walk is a `while True`; it is run for a number of steps, and `stuck` when
  they do not suffice.
-/

import Eag.GovernedWorkspace.Descriptors

namespace Eag.GovernedWorkspace

open Eag.Foundation

/-- A program over the calls. -/
abbrev Calls (α : Type) : Type := Prog Operation (fun op => Except Raised (Answer op)) α

/-- A program over the calls in which what a call raises is not caught. -/
abbrev Raising (α : Type) : Type := Prog.Fallible Raised Operation Answer α

open Prog (perform ask)

/-- A dictionary from the names of roots to their descriptors. -/
abbrev Descriptors := List (Root × Descriptor)

/-! ## Descriptors -/

/-- `_close_all`. -/
def closeAll : List Descriptor → Calls Unit
  | [] => pure ()
  | descriptor :: rest => do
      let _ ← perform (Operation.close .suppressed descriptor)
      closeAll rest

/-- What `from_descriptor` raises. -/
def unavailable : Raised := .custody "workspace descriptor is unavailable"

/-- `WorkspaceCustodyFilesystemObjectIdentity.from_descriptor`. -/
def fromDescriptor (check : Check) (descriptor : Descriptor) :
    Calls (Except Raised WorkspaceCustodyFilesystemObjectIdentity) := do
  match ← perform (Operation.fstat check descriptor) with
  | .ok stat => pure (.ok (.observed stat))
  | .error _ => pure (.error unavailable)

/-- `from_descriptor` of every descriptor of a dictionary. -/
def identitiesOf : Descriptors →
    Calls (Except Raised (List (Root × WorkspaceCustodyFilesystemObjectIdentity)))
  | [] => pure (.ok [])
  | (root, descriptor) :: rest => do
      match ← fromDescriptor .admission descriptor with
      | .error error => pure (.error error)
      | .ok identity => do
          match ← identitiesOf rest with
          | .error error => pure (.error error)
          | .ok identities => pure (.ok ((root, identity) :: identities))

/-- The loop of `_open_declared_roots`, after `descriptors`. -/
def openRoots (request : WorkspaceCustodyRequest) :
    List Root → Descriptors → Calls (Except Raised (Option Descriptors))
  | [], descriptors => pure (.ok (some descriptors))
  | root :: rest, descriptors => do
      match ← perform (Operation.openRoot root (request.root root)) with
      | .ok (descriptor : Descriptor) =>
          openRoots request rest (descriptors ++ [(root, descriptor)])
      | .error .osError => do
          closeAll (descriptors.map (·.2))
          pure (.ok none)
      | .error error => pure (.error error)

/-- `_open_declared_roots`. -/
def openDeclaredRoots (request : WorkspaceCustodyRequest) :
    Calls (Except Raised (Option Descriptors)) :=
  openRoots request Root.all []

/-! ## Isolation -/

/-- `_descriptor_empty`. -/
def descriptorEmpty (descriptor : Descriptor) : Calls Bool := do
  match ← perform (Operation.scandir descriptor) with
  | .ok first => pure (Option.isNone first)
  | .error _ => pure false

/-- The loop of `_is_ancestor` from `current`; it hands `current` on to the `finally`. -/
def walk (target : WorkspaceCustodyFilesystemObjectIdentity) :
    Nat → Descriptor → Calls (Descriptor × Except Raised Bool)
  | 0, current => pure (current, .error .stuck)
  | steps + 1, current => do
      match ← fromDescriptor .admission current with
      | .error error => pure (current, .error error)
      | .ok observed =>
          if observed = target then pure (current, .ok true)
          else do
            match ← perform (Operation.openParent current) with
            | .error _ => pure (current, .ok true)
            | .ok parent => do
                match ← fromDescriptor .admission parent with
                | .error error => pure (current, .error error)
                | .ok parentIdentity =>
                    if parentIdentity = observed then do
                      match ← perform (Operation.close .top parent) with
                      | .error _ => pure (current, .ok true)
                      | .ok _ => pure (current, .ok false)
                    else do
                      match ← perform (Operation.close .left current) with
                      | .error _ => pure (current, .ok true)
                      | .ok _ => walk target steps parent

/-- `_is_ancestor`. -/
def isAncestor (steps : Nat) (ancestor descendant : Descriptor) :
    Calls (Except Raised Bool) := do
  match ← fromDescriptor .admission ancestor with
  | .error error => pure (.error error)
  | .ok target => do
      match ← perform (Operation.dup descendant) with
      | .error error => pure (.error error)
      | .ok current => do
          let (current, result) ← walk target steps current
          let _ ← perform (Operation.close .suppressed current)
          pure result

/-- The pairs of different roots, in the order of the two loops of `_any_nested`. -/
def orderedPairs (descriptors : Descriptors) : List (Descriptor × Descriptor) :=
  descriptors.flatMap fun ancestor =>
    (descriptors.filter (·.1 ≠ ancestor.1)).map fun descendant => (ancestor.2, descendant.2)

/-- Whether the first of some pair is an ancestor of the second. -/
def anyAncestor (steps : Nat) : List (Descriptor × Descriptor) → Calls (Except Raised Bool)
  | [] => pure (.ok false)
  | (ancestor, descendant) :: rest => do
      match ← isAncestor steps ancestor descendant with
      | .error error => pure (.error error)
      | .ok true => pure (.ok true)
      | .ok false => anyAncestor steps rest

/-- `_any_nested`. -/
def anyNested (steps : Nat) (descriptors : Descriptors) : Calls (Except Raised Bool) :=
  anyAncestor steps (orderedPairs descriptors)

/-- The empty-workspace check of `_descriptor_rejection`: the workspace is required to be
    empty and is not. -/
def unwantedEntries (request : WorkspaceCustodyRequest) (descriptors : Descriptors) :
    Calls (Except Raised Bool) :=
  if request.policy.requireEmptyWorkspace = false then pure (.ok false)
  else
    match descriptors.lookup .workspace with
    | none => pure (.error .keyError)
    | some workspace => do
        let empty ← descriptorEmpty workspace
        pure (.ok (!empty))

/-- `_descriptor_rejection`. -/
def descriptorRejection (steps : Nat) (request : WorkspaceCustodyRequest)
    (descriptors : Descriptors) :
    Calls (Except Raised (Option WorkspaceCustodyRejectionReason)) := do
  match ← identitiesOf descriptors with
  | .error error => pure (.error error)
  | .ok identities =>
      if ¬(identities.map (·.2.digest)).Nodup then pure (.ok (some .invalidIsolation))
      else do
        match ← unwantedEntries request descriptors with
        | .error error => pure (.error error)
        | .ok true => pure (.ok (some .nonemptyWorkspace))
        | .ok false => do
            match ← anyNested steps descriptors with
            | .error error => pure (.error error)
            | .ok true => pure (.ok (some .invalidIsolation))
            | .ok false => pure (.ok none)

/-! ## The gate -/

/-- `WorkspaceCustodyGate` with the control root of its store. -/
structure WorkspaceCustodyGate where
  /-- `_handoff_capability_available()`. -/
  platform : Bool
  controlRoot : PyText

/-- Run a constructor whose checks end in `outcome`. -/
def built {α : Type} (record : Record) : Except Raised α → Raising α
  | .ok a => do
      let _ ← ask (Operation.build record none)
      return a
  | .error error => do
      let _ ← ask (Operation.build record (some error))
      throw error

/-- `_handoff_capability_digest`. -/
def handoffCapabilityDigest : Digest := digestOf <| .object
  [("profile", .text "g2.4.10-descriptor-handoff-posix.v1"),
   ("root_directory_open", .bool true),
   ("root_no_follow", .bool true),
   ("descriptor_fstat", .bool true),
   ("descriptor_scandir", .bool true),
   ("descriptor_relative_open", .bool true)]

namespace WorkspaceCustodyGate

variable (gate : WorkspaceCustodyGate)

/-- `_handoff_capability_available() and self._capability_probe()`. -/
def capable : Raising Bool :=
  if gate.platform then ask Operation.probe else pure false

/-- Whether the declared control root resolves to the one of the store. -/
def controlsStore (request : WorkspaceCustodyRequest) : Raising Bool := do
  let declared : PyText ← ask (Operation.resolve request.controlRoot)
  let own : PyText ← ask (Operation.resolve gate.controlRoot)
  return decide (declared = own)

/-- The evidence of an admitted request. -/
def issue (request : WorkspaceCustodyRequest) (occurredAt : DateTime)
    (descriptors : Descriptors) : Raising WorkspaceCustodyAttestation := do
  let identities ← ExceptT.mk (identitiesOf descriptors)
  match identities.lookup .workspace, identities.lookup .source, identities.lookup .audit,
      identities.lookup .control with
  | some workspace, some source, some audit, some control => do
      let attestation ← built .attestation <|
        WorkspaceCustodyAttestation.issueFromObservations request workspace source audit control
          occurredAt
      built .admission (.ok attestation)
  | _, _, _, _ => throw .keyError

/-- What `_admit_descriptors` does once the roots are open. -/
def admitOpened (steps : Nat) (request : WorkspaceCustodyRequest) (occurredAt : DateTime)
    (descriptors : Descriptors) : Raising (WorkspaceCustodyAdmission × Descriptors) := do
  let rejection ← ExceptT.mk (descriptorRejection steps request descriptors)
  match rejection with
  | some reason => ExceptT.mk do
      closeAll (descriptors.map (·.2))
      pure (.ok (.rejected reason, []))
  | none => do
      let attestation ← issue request occurredAt descriptors
      return (.attested attestation, descriptors)

/-- `_admit_descriptors`. -/
def admitDescriptors (steps : Nat) (request : WorkspaceCustodyRequest) (occurredAt : DateTime) :
    Raising (WorkspaceCustodyAdmission × Descriptors) := do
  let capable ← gate.capable
  if capable = false then return (.rejected .handoffCapabilityUnsupported, [])
  let controls ← gate.controlsStore request
  if controls = false then return (.rejected .invalidIsolation, [])
  let opened ← ExceptT.mk (openDeclaredRoots request)
  match opened with
  | none => return (.rejected .unsafeRoot, [])
  | some descriptors => admitOpened steps request occurredAt descriptors

end WorkspaceCustodyGate

/-- `_claim`. -/
def claim (attestation : WorkspaceCustodyAttestation) :
    Calls (Except Raised (Option WorkspaceCustodyRejectionReason)) := do
  match ← perform (Operation.claim attestation) with
  | .ok disposition =>
      match disposition with
      | WorkspaceCustodyClaimDisposition.claimed => pure (.ok none)
      | .duplicate => pure (.ok (some .attestationIdDuplicate))
      | .conflict => pure (.ok (some .attestationIdConflict))
  | .error .storeCorruption => pure (.ok (some .storeCorrupt))
  | .error .storeUnavailable => pure (.ok (some .storeUnavailable))
  | .error error => pure (.error error)

/-- The `try` of `attest`. -/
def attestAdmitted : WorkspaceCustodyAdmission → Raising WorkspaceCustodyAdmission
  | .rejected reason => return .rejected reason
  | .attested attestation => do
      let refused ← ExceptT.mk (claim attestation)
      match refused with
      | some reason => return .rejected reason
      | none => built .result (.ok (.attested attestation))

/-- The binding and the handle of a claimed attestation. -/
def issueHandle (request : WorkspaceCustodyRequest) (occurredAt : DateTime)
    (attestation : WorkspaceCustodyAttestation) (workspace : Descriptor) :
    Raising (WorkspaceCustodyRootBinding × WorkspaceCustodyRootHandle) := do
  let identity ← ExceptT.mk (fromDescriptor .binding workspace)
  let binding ← built .binding <|
    WorkspaceCustodyRootBinding.issue request attestation identity handoffCapabilityDigest
      occurredAt
  let handle ← built .handle (.ok (WorkspaceCustodyRootHandle.mk workspace binding.bindingDigest))
  return (binding, handle)

/-- The `try` of `attest_and_acquire_root_handoff`, with the dictionary its `finally`
    closes. -/
def acquire (request : WorkspaceCustodyRequest) (occurredAt : DateTime)
    (descriptors : Descriptors) : WorkspaceCustodyAdmission →
      Calls (Except Raised WorkspaceCustodyRootHandoff × Descriptors)
  | .rejected reason => pure (.ok (.rejected reason), descriptors)
  | .attested attestation =>
      match descriptors.lookup .workspace with
      | none => pure (.ok (.rejected .unsafeRoot), descriptors)
      | some workspace => do
          match ← claim attestation with
          | .error error => pure (.error error, descriptors)
          | .ok (some reason) => pure (.ok (.rejected reason), descriptors)
          | .ok none => do
              match ← (issueHandle request occurredAt attestation workspace).run with
              | .error error => pure (.error error, descriptors)
              | .ok (binding, handle) => do
                  let handoff ←
                    (built .handoff (.ok (.acquired attestation binding handle))).run
                  pure (handoff, descriptors.filter (·.1 ≠ .workspace))

namespace WorkspaceCustodyGate

variable (gate : WorkspaceCustodyGate)

/-- `attest`. -/
def attest (steps : Nat) (request : WorkspaceCustodyRequest) (occurredAt : DateTime) :
    Raising WorkspaceCustodyAdmission := do
  let (admission, descriptors) ← gate.admitDescriptors steps request occurredAt
  ExceptT.mk do
    let result ← (attestAdmitted admission).run
    closeAll (descriptors.map (·.2))
    pure result

/-- `attest_and_acquire_root_handoff`. -/
def attestAndAcquireRootHandoff (steps : Nat) (request : WorkspaceCustodyRequest) :
    Raising WorkspaceCustodyRootHandoff := do
  let capable ← gate.capable
  if capable = false then return .rejected .handoffCapabilityUnsupported
  let occurredAt : Occurrence ← ask Operation.now
  let (admission, descriptors) ← gate.admitDescriptors steps request occurredAt
  ExceptT.mk do
    let (result, remaining) ← acquire request occurredAt descriptors admission
    closeAll (remaining.map (·.2))
    pure result

end WorkspaceCustodyGate

end Eag.GovernedWorkspace
