/-
  Eag.GovernedArtifactReadiness.Models

  Evidence of artifact readiness (`governed_artifact_readiness/models.py`, `canonical.py`): the
  request, the snapshot it is about, external validation receipts, and the assessment.

  What the constructors check is carried by the types. The digests of a snapshot and of an
  assessment are functions of the rest; that of a receipt is not checked when the receipt is
  made, and stays a field.
-/

import Eag.Foundation.Identifiers
import Eag.GovernedWorkspace.Models

namespace Eag.GovernedArtifactReadiness

open Eag.Foundation
open Eag.GovernedWorkspace (Identifier Digest Occurrence digestOf)

/-- `ARTIFACT_READINESS_SCHEMA_VERSION`. -/
def artifactReadinessSchemaVersion : String := "g2.4.14"

/-! ## Vocabulary -/

/-- `ArtifactPackagingProfile`. -/
inductive ArtifactPackagingProfile where
  | setuptoolsFlatModule
  deriving DecidableEq, Repr

def ArtifactPackagingProfile.value : ArtifactPackagingProfile → String
  | .setuptoolsFlatModule => "setuptools_flat_module"

/-- `ArtifactValidationClass`. -/
inductive ArtifactValidationClass where
  | testExecution
  | editableInstall
  | wheelBuild
  | sdistBuild
  | wheelInstall
  | entrypointValidation
  deriving DecidableEq, Repr

def ArtifactValidationClass.value : ArtifactValidationClass → String
  | .testExecution => "test_execution"
  | .editableInstall => "editable_install"
  | .wheelBuild => "wheel_build"
  | .sdistBuild => "sdist_build"
  | .wheelInstall => "wheel_install"
  | .entrypointValidation => "entrypoint_validation"

/-- `ArtifactValidationResult`. -/
inductive ArtifactValidationResult where
  | passed
  | failed
  deriving DecidableEq, Repr

def ArtifactValidationResult.value : ArtifactValidationResult → String
  | .passed => "passed"
  | .failed => "failed"

/-- `ArtifactHygieneClassification`. -/
inductive ArtifactHygieneClassification where
  | absent
  | allowedIgnored
  | retainedDeliverable
  | policyViolation
  deriving DecidableEq, Repr

/-- `ArtifactReadinessDisposition`. -/
inductive ArtifactReadinessDisposition where
  | ready
  | notReady
  | unsupportedProfile
  deriving DecidableEq, Repr

/-- `ArtifactReadinessFindingCode`. -/
inductive ArtifactReadinessFindingCode where
  | packageLayoutAmbiguous
  | packageConfigurationMissing
  | unsupportedPackagingProfile
  | artifactFingerprintMismatch
  | snapshotManifestMismatch
  | pyprojectDigestMismatch
  | entrypointMissing
  | receiptMissing
  | receiptUnknownClass
  | receiptDuplicate
  | receiptInvalid
  | receiptFailed
  | hygienePolicyViolation
  deriving DecidableEq, Repr

def ArtifactReadinessFindingCode.value : ArtifactReadinessFindingCode → String
  | .packageLayoutAmbiguous => "package_layout_ambiguous"
  | .packageConfigurationMissing => "package_configuration_missing"
  | .unsupportedPackagingProfile => "unsupported_packaging_profile"
  | .artifactFingerprintMismatch => "artifact_fingerprint_mismatch"
  | .snapshotManifestMismatch => "snapshot_manifest_mismatch"
  | .pyprojectDigestMismatch => "pyproject_digest_mismatch"
  | .entrypointMissing => "entrypoint_missing"
  | .receiptMissing => "receipt_missing"
  | .receiptUnknownClass => "receipt_unknown_class"
  | .receiptDuplicate => "receipt_duplicate"
  | .receiptInvalid => "receipt_invalid"
  | .receiptFailed => "receipt_failed"
  | .hygienePolicyViolation => "hygiene_policy_violation"

theorem ArtifactReadinessFindingCode.value_injective :
    Function.Injective ArtifactReadinessFindingCode.value := by
  intro a b h
  cases a <;> cases b <;> first | rfl | exact absurd h (by decide)

/-- A field annotated `T | str`: a member of the enumeration, or any other text that is not
    blank, also one that spells a member. -/
inductive Declared (T : Type) where
  | member (value : T)
  | text (value : Identifier)
  deriving DecidableEq

/-- The text of the field, where a member's is its value. -/
def Declared.str {T : Type} (value : T → String) : Declared T → PyText
  | .member t => .ofString (value t)
  | .text t => t

/-! ## Relative paths -/

/-- `require_relative_path` accepts the text. -/
def RelativePath (t : PyText) : Prop :=
  t.NonBlank ∧ t.posixIsAbsolute = false ∧ PyText.ofString ".." ∉ t.posixParts ∧
    t.startsWith (.ofString "./") = false ∧ t.posixText ∉ [PyText.ofString ".", []] ∧
    CodePoint.scalar '\\' ∉ t

instance (t : PyText) : Decidable (RelativePath t) :=
  inferInstanceAs (Decidable (_ ∧ _ ∧ _ ∧ _ ∧ _ ∧ _))

/-- What `require_relative_path` returns. -/
abbrev SafePath := { value : PyText // RelativePath value }

/-- The texts are in order, and none is there twice. -/
def StrictlyOrdered {Admits : PyText → Prop} (values : List { value : PyText // Admits value }) :
    Prop :=
  values.Pairwise fun a b => a.val.order < b.val.order

/-! ## Snapshots -/

/-- `ArtifactFileManifestEntry`. -/
structure ArtifactFileManifestEntry where
  path : SafePath
  digest : Digest

def ArtifactFileManifestEntry.toPayload (entry : ArtifactFileManifestEntry) : Payload :=
  .object [("digest", .text entry.digest), ("path", .str entry.path)]

/-- `"pyproject.toml"`. -/
def pyprojectPath : PyText := .ofString "pyproject.toml"

/-- `ArtifactSnapshotEvidence`. The paths of the manifest differ, so the entry of the project
    file is the one that `next` finds. -/
structure ArtifactSnapshotEvidence where
  snapshotId : Identifier
  canonicalFileManifest : List ArtifactFileManifestEntry
  metadataFiles : List SafePath
  pyprojectDigest : Digest
  declaredOutputs : List SafePath
  packagingBackend : Identifier
  setuptoolsPyModules : List Identifier
  declaredEntrypoints : List Identifier
  manifest_ordered : StrictlyOrdered (canonicalFileManifest.map (·.path))
  metadataFiles_ordered : StrictlyOrdered metadataFiles
  declaredOutputs_ordered : StrictlyOrdered declaredOutputs
  setuptoolsPyModules_ordered : StrictlyOrdered setuptoolsPyModules
  declaredEntrypoints_ordered : StrictlyOrdered declaredEntrypoints
  pyproject_listed : ∃ entry ∈ canonicalFileManifest,
    entry.path.val = pyprojectPath ∧ entry.digest = pyprojectDigest

/-- `list(values)` in a payload. -/
def texts {Admits : PyText → Prop} (values : List { value : PyText // Admits value }) : Payload :=
  .array (values.map fun value => .str value)

namespace ArtifactSnapshotEvidence

variable (snapshot : ArtifactSnapshotEvidence)

/-- `manifest_digest`, by `calculate_snapshot_manifest_digest`. -/
def manifestDigest : Digest := digestOf <| .object
  [("canonical_file_manifest",
      .array (snapshot.canonicalFileManifest.map ArtifactFileManifestEntry.toPayload)),
   ("declared_entrypoints", texts snapshot.declaredEntrypoints),
   ("declared_outputs", texts snapshot.declaredOutputs),
   ("metadata_files", texts snapshot.metadataFiles),
   ("packaging_backend", .str snapshot.packagingBackend),
   ("schema_version", .text artifactReadinessSchemaVersion),
   ("setuptools_py_modules", texts snapshot.setuptoolsPyModules),
   ("snapshot_id", .str snapshot.snapshotId)]

/-- `file_paths`. -/
def filePaths : List PyText := snapshot.canonicalFileManifest.map (·.path.val)

end ArtifactSnapshotEvidence

/-- `calculate_artifact_fingerprint`. -/
def calculateArtifactFingerprint (artifactId snapshotId rootIdentity : Identifier)
    (manifestDigest pyprojectDigest : Digest) : Digest := digestOf <| .object
  [("artifact_id", .str artifactId),
   ("manifest_digest", .text manifestDigest),
   ("pyproject_digest", .text pyprojectDigest),
   ("root_identity", .str rootIdentity),
   ("snapshot_id", .str snapshotId)]

/-! ## Requests -/

/-- `ArtifactReadinessRequest`. -/
structure ArtifactReadinessRequest where
  artifactId : Identifier
  snapshotId : Identifier
  rootIdentity : Identifier
  artifactFingerprint : Digest
  packagingProfile : Declared ArtifactPackagingProfile
  expectedEntrypoints : List Identifier
  requiredValidationClasses : List ArtifactValidationClass
  hygienePolicy : List (SafePath × ArtifactHygieneClassification)
  expectedEntrypoints_ordered : StrictlyOrdered expectedEntrypoints
  requiredValidationClasses_ordered : requiredValidationClasses ≠ [] ∧
    requiredValidationClasses.Pairwise fun a b => a.value < b.value
  hygienePolicy_ordered : StrictlyOrdered (hygienePolicy.map Prod.fst)

/-! ## Receipts -/

/-- `ArtifactValidationReceipt`. -/
structure ArtifactValidationReceipt where
  receiptId : Identifier
  receiptType : Declared ArtifactValidationClass
  producerIdentity : Identifier
  producerVersion : Identifier
  artifactFingerprint : Digest
  commandClass : Identifier
  result : Declared ArtifactValidationResult
  outputDigest : Digest
  timestamp : Occurrence
  receiptDigest : Digest

/-- `digest`, by `calculate_receipt_digest`. -/
def ArtifactValidationReceipt.digest (receipt : ArtifactValidationReceipt) : Digest :=
  digestOf <| .object
    [("artifact_fingerprint", .text receipt.artifactFingerprint),
     ("command_class", .str receipt.commandClass),
     ("output_digest", .text receipt.outputDigest),
     ("producer_identity", .str receipt.producerIdentity),
     ("producer_version", .str receipt.producerVersion),
     ("receipt_id", .str receipt.receiptId),
     ("receipt_type", .str (receipt.receiptType.str ArtifactValidationClass.value)),
     ("result", .str (receipt.result.str ArtifactValidationResult.value)),
     ("schema_version", .text artifactReadinessSchemaVersion),
     ("timestamp", .text receipt.timestamp.val.isoformat)]

/-- `issue`: the receipt carries its own digest. -/
def ArtifactValidationReceipt.issue (receipt : ArtifactValidationReceipt) :
    ArtifactValidationReceipt :=
  { receipt with receiptDigest := receipt.digest }

theorem ArtifactValidationReceipt.issue_canonical (receipt : ArtifactValidationReceipt) :
    receipt.issue.receiptDigest = receipt.issue.digest := rfl

/-! ## Assessments -/

/-- `ArtifactHygieneObservation`. -/
structure ArtifactHygieneObservation where
  path : SafePath
  classification : ArtifactHygieneClassification

/-- What hygiene observations are ordered by. -/
def ArtifactHygieneObservation.key (observation : ArtifactHygieneObservation) : List Nat :=
  observation.path.val.order

/-- `ArtifactReadinessFinding`. -/
abbrev ArtifactReadinessFinding :=
  EvidenceFinding ArtifactReadinessFindingCode PyText.NonBlank

/-- `ArtifactReadinessAssessment`. -/
structure ArtifactReadinessAssessment where
  assessmentId : Identifier
  artifactIdentity : Identifier
  disposition : ArtifactReadinessDisposition
  findings : List ArtifactReadinessFinding
  evidenceReferences : List PyText
  hygieneObservations : List ArtifactHygieneObservation
  recommendations : List PyText
  findings_ordered : EvidenceFinding.Ordered ArtifactReadinessFindingCode.value findings
  evidenceReferences_ordered : OrderedTexts PyText.NonBlank evidenceReferences
  hygieneObservations_ordered : hygieneObservations.Pairwise fun a b => a.key < b.key
  recommendations_ordered : OrderedTexts PyText.NonBlank recommendations

namespace ArtifactReadinessAssessment

/-- The text of the error for a text that `require_non_empty` refuses. -/
def emptyError (fieldName : String) : String := fieldName ++ " cannot be empty"

/-- `issue`. -/
def issue (assessmentId artifactIdentity : PyText)
    (disposition : ArtifactReadinessDisposition) (findings : List ArtifactReadinessFinding)
    (evidenceReferences : List PyText) (hygieneObservations : List ArtifactHygieneObservation)
    (recommendations : List PyText) : Except String ArtifactReadinessAssessment := do
  let ⟨hassessment⟩ ← ensure assessmentId.NonBlank (emptyError "assessment_id")
  let ⟨hartifact⟩ ← ensure artifactIdentity.NonBlank (emptyError "artifact_identity")
  let ⟨hfindings⟩ ← ensure
    (EvidenceFinding.Ordered ArtifactReadinessFindingCode.value findings)
    "findings must be strictly ordered and unique"
  let ⟨hreferences⟩ ← ensure (OrderedTexts PyText.NonBlank evidenceReferences)
    (orderedTextsError PyText.NonBlank (fun _ => emptyError "evidence_references")
      "evidence_references" evidenceReferences)
  let ⟨hhygiene⟩ ← ensure (hygieneObservations.Pairwise fun a b => a.key < b.key)
    "hygiene_observations must be strictly path-ordered and unique"
  let ⟨hrecommendations⟩ ← ensure (OrderedTexts PyText.NonBlank recommendations)
    (orderedTextsError PyText.NonBlank (fun _ => emptyError "recommendations")
      "recommendations" recommendations)
  return {
    assessmentId := ⟨assessmentId, hassessment⟩
    artifactIdentity := ⟨artifactIdentity, hartifact⟩
    disposition, findings, evidenceReferences, hygieneObservations, recommendations
    findings_ordered := hfindings
    evidenceReferences_ordered := hreferences
    hygieneObservations_ordered := hhygiene
    recommendations_ordered := hrecommendations }

variable {assessmentId artifactIdentity : PyText} {disposition : ArtifactReadinessDisposition}
  {findings : List ArtifactReadinessFinding} {evidenceReferences recommendations : List PyText}
  {hygieneObservations : List ArtifactHygieneObservation}

/-- An assessment of ordered parts is issued with the disposition that it is given. -/
theorem issue_isOk (hassessment : assessmentId.NonBlank) (hartifact : artifactIdentity.NonBlank)
    (hfindings : EvidenceFinding.Ordered ArtifactReadinessFindingCode.value findings)
    (hreferences : OrderedTexts PyText.NonBlank evidenceReferences)
    (hhygiene : hygieneObservations.Pairwise fun a b => a.key < b.key)
    (hrecommendations : OrderedTexts PyText.NonBlank recommendations) :
    ∃ assessment, issue assessmentId artifactIdentity disposition findings evidenceReferences
        hygieneObservations recommendations = .ok assessment ∧
      assessment.disposition = disposition := by
  refine ⟨⟨⟨assessmentId, hassessment⟩, ⟨artifactIdentity, hartifact⟩, disposition, findings,
    evidenceReferences, hygieneObservations, recommendations, hfindings, hreferences, hhygiene,
    hrecommendations⟩, ?_, rfl⟩
  rw [issue, ensure_of hassessment, ensure_of hartifact, ensure_of hfindings,
    ensure_of hreferences, ensure_of hhygiene, ensure_of hrecommendations]
  rfl

end ArtifactReadinessAssessment

end Eag.GovernedArtifactReadiness
