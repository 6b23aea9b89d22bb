/-
  Eag.GovernedComposition.Models

  Runtime composition manifests and the attestations of them
  (`governed_composition/models.py`). A digest of a record is a function of the rest of the
  record, and a disposition has one admitted value.
-/

import Eag.Foundation.Identifiers
import Eag.GovernedWorkspace.Models

namespace Eag.GovernedComposition

open Eag.Foundation
open Eag.GovernedWorkspace (Identifier Digest Occurrence digestOf)

/-- `RuntimeCompositionDisposition`. -/
inductive RuntimeCompositionDisposition where
  | attested
  deriving DecidableEq, Repr

/-! ## Manifests -/

/-- `RuntimeComponentIdentity`. -/
structure RuntimeComponentIdentity where
  role : Identifier
  componentId : Identifier
  version : Identifier
  digest : Digest
  deriving DecidableEq

/-- `to_payload`. -/
def RuntimeComponentIdentity.toPayload (component : RuntimeComponentIdentity) : Payload :=
  .object
    [("component_id", .str component.componentId),
     ("digest", .text component.digest),
     ("role", .str component.role),
     ("version", .str component.version)]

/-- `RuntimeDependencyBinding`. -/
structure RuntimeDependencyBinding where
  componentRole : Identifier
  dependencyRole : Identifier
  bindingDigest : Digest
  not_selfReferent : componentRole ≠ dependencyRole
  deriving DecidableEq

namespace RuntimeDependencyBinding

/-- `to_payload`. -/
def toPayload (binding : RuntimeDependencyBinding) : Payload :=
  .object
    [("binding_digest", .text binding.bindingDigest),
     ("component_role", .str binding.componentRole),
     ("dependency_role", .str binding.dependencyRole)]

/-- What bindings are ordered by. -/
def key (binding : RuntimeDependencyBinding) : Lex (List Nat × List Nat) :=
  toLex (binding.componentRole.val.order, binding.dependencyRole.val.order)

end RuntimeDependencyBinding

/-- `RuntimeCompositionManifest`. -/
structure RuntimeCompositionManifest where
  compositionId : Identifier
  executionId : Identifier
  runId : Identifier
  runtimeId : Identifier
  executorIdentity : Identifier
  componentIdentities : List RuntimeComponentIdentity
  dependencyBindings : List RuntimeDependencyBinding
  compositionPolicyDigest : Digest
  invocationBindingDigest : Digest
  contractVersion : Identifier
  componentIdentities_ne_nil : componentIdentities ≠ []
  roles_ordered : componentIdentities.Pairwise fun a b => a.role.val.order < b.role.val.order
  bindings_ordered : dependencyBindings.Pairwise fun a b => a.key < b.key
  bindings_declared : ∀ binding ∈ dependencyBindings,
    (∃ component ∈ componentIdentities, component.role = binding.componentRole) ∧
      ∃ component ∈ componentIdentities, component.role = binding.dependencyRole
  deriving DecidableEq

namespace RuntimeCompositionManifest

/-- `to_payload`. -/
def toPayload (manifest : RuntimeCompositionManifest) : Payload :=
  .object
    [("component_identities",
       .array (manifest.componentIdentities.map RuntimeComponentIdentity.toPayload)),
     ("composition_id", .str manifest.compositionId),
     ("composition_policy_digest", .text manifest.compositionPolicyDigest),
     ("contract_version", .str manifest.contractVersion),
     ("dependency_bindings",
       .array (manifest.dependencyBindings.map RuntimeDependencyBinding.toPayload)),
     ("execution_id", .str manifest.executionId),
     ("executor_identity", .str manifest.executorIdentity),
     ("invocation_binding_digest", .text manifest.invocationBindingDigest),
     ("run_id", .str manifest.runId),
     ("runtime_id", .str manifest.runtimeId)]

/-- `digest`. -/
def digest (manifest : RuntimeCompositionManifest) : Digest := digestOf manifest.toPayload

end RuntimeCompositionManifest

/-! ## Attestations -/

/-- `RuntimeCompositionAttestation`. -/
structure RuntimeCompositionAttestation where
  attestationId : Identifier
  manifest : RuntimeCompositionManifest
  occurredAt : Occurrence
  deriving DecidableEq

namespace RuntimeCompositionAttestation

/-- `disposition`. -/
def disposition (_ : RuntimeCompositionAttestation) : RuntimeCompositionDisposition := .attested

/-- `binding_digest`. -/
def bindingDigest (attestation : RuntimeCompositionAttestation) : Digest := digestOf <| .object
  [("attestation_id", .str attestation.attestationId),
   ("manifest_digest", .text attestation.manifest.digest),
   ("occurred_at", .text attestation.occurredAt.val.isoformat)]

end RuntimeCompositionAttestation

end Eag.GovernedComposition
