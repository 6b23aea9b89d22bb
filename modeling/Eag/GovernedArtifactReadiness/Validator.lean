/-
  Eag.GovernedArtifactReadiness.Validator

  `ArtifactReadinessValidator.assess` (`governed_artifact_readiness/validator.py`): findings
  about the snapshot, the packaging profile, the entrypoints, the receipts and the hygiene of
  the observed paths, and the disposition that follows from them.
-/

import Eag.GovernedArtifactReadiness.Models

namespace Eag.GovernedArtifactReadiness

open Eag.Foundation
open Eag.GovernedWorkspace (Identifier Digest)

/-! ## Findings -/

/-- A formatted text that starts with a label that is not blank. -/
def labelled (label : Identifier) (rest : PyText) : Identifier :=
  ⟨label.val ++ rest, PyText.nonBlank_append_left label.property rest⟩

/-- `_finding`: the references that the validator reports are not blank. -/
def finding (code : ArtifactReadinessFindingCode) (evidenceReference : Identifier) :
    ArtifactReadinessFinding :=
  ⟨code, evidenceReference⟩

/-- `_validate_snapshot_binding`. -/
def validateSnapshotBinding (request : ArtifactReadinessRequest)
    (snapshot : ArtifactSnapshotEvidence) : List ArtifactReadinessFinding :=
  (if request.snapshotId ≠ snapshot.snapshotId then
    [finding .snapshotManifestMismatch ⟨.ofString "snapshot_id", by decide⟩] else []) ++
  (if request.artifactFingerprint ≠ calculateArtifactFingerprint request.artifactId
      snapshot.snapshotId request.rootIdentity snapshot.manifestDigest
      snapshot.pyprojectDigest then
    [finding .artifactFingerprintMismatch
      (labelled ⟨.ofString "artifact:", by decide⟩ request.artifactId)] else [])

/-- `".py"`. -/
def pySuffix : PyText := .ofString ".py"

/-- The modules at the root of the snapshot. -/
def rootModules (snapshot : ArtifactSnapshotEvidence) : List PyText :=
  (snapshot.filePaths.filter fun path =>
    pySuffix.isSuffixOf path && !path.contains (.scalar '/')).map
      fun path => path.take (path.length - pySuffix.length)

/-- `_validate_packaging_profile`: what is found, and whether the profile is supported. -/
def validatePackagingProfile (request : ArtifactReadinessRequest)
    (snapshot : ArtifactSnapshotEvidence) : List ArtifactReadinessFinding × Bool :=
  if request.packagingProfile ≠ .member .setuptoolsFlatModule then
    ([finding .unsupportedPackagingProfile (labelled ⟨.ofString "profile:", by decide⟩
      (request.packagingProfile.str ArtifactPackagingProfile.value))], false)
  else if snapshot.packagingBackend.val ≠ .ofString "setuptools.build_meta" then
    ([finding .unsupportedPackagingProfile (labelled ⟨.ofString "backend:", by decide⟩
      snapshot.packagingBackend)], false)
  else if snapshot.setuptoolsPyModules = [] then
    let code := if 1 < (rootModules snapshot).length then .packageLayoutAmbiguous
      else .packageConfigurationMissing
    ([finding code ⟨pyprojectPath, by decide⟩], true)
  else if ∃ module ∈ snapshot.setuptoolsPyModules, module.val ++ pySuffix ∉ snapshot.filePaths
  then ([finding .packageConfigurationMissing ⟨pyprojectPath, by decide⟩], true)
  else ([], true)

/-- `_validate_entrypoints`. -/
def validateEntrypoints (request : ArtifactReadinessRequest)
    (snapshot : ArtifactSnapshotEvidence) : List ArtifactReadinessFinding :=
  (request.expectedEntrypoints.filter fun entrypoint =>
    entrypoint ∉ snapshot.declaredEntrypoints).map (finding .entrypointMissing)

/-! ## Receipts -/

/-- The locals of the loop over the receipts. -/
structure ReceiptScan where
  receiptByType : List (ArtifactValidationClass × ArtifactValidationReceipt)
  findings : List ArtifactReadinessFinding
  references : List Identifier

namespace ReceiptScan

/-- No receipt has been looked at. -/
def start : ReceiptScan := ⟨[], [], []⟩

/-- The keys of `receipt_by_type`. -/
def classes (scan : ReceiptScan) : List ArtifactValidationClass :=
  scan.receiptByType.map Prod.fst

/-- `findings.append(_finding(code, reference))`. -/
def found (scan : ReceiptScan) (code : ArtifactReadinessFindingCode) (reference : Identifier) :
    ReceiptScan :=
  { scan with findings := scan.findings ++ [finding code reference] }

/-- `references.append(…)`. -/
def referTo (scan : ReceiptScan) (receipt : ArtifactValidationReceipt) : ReceiptScan :=
  { scan with references := scan.references ++
      [labelled ⟨.ofString "receipt:", by decide⟩
        (receipt.receiptId.val ++ .ofString ":" ++ .ofString receipt.receiptDigest)] }

/-- `receipt_by_type[validation_class] = candidate` of a key that is not there. -/
def store (scan : ReceiptScan) (validationClass : ArtifactValidationClass)
    (receipt : ArtifactValidationReceipt) : ReceiptScan :=
  { scan with receiptByType := scan.receiptByType ++ [(validationClass, receipt)] }

/-- What the loop does with a receipt that names a known class. -/
def consider (request : ArtifactReadinessRequest) (scan : ReceiptScan)
    (candidate : ArtifactValidationReceipt) (validationClass : ArtifactValidationClass) :
    ReceiptScan :=
  if candidate.artifactFingerprint ≠ request.artifactFingerprint then
    scan.found .artifactFingerprintMismatch candidate.receiptId
  else if candidate.result ∉ [.member .passed, .member .failed] ∨
      candidate.receiptDigest ≠ candidate.digest then
    scan.found .receiptInvalid candidate.receiptId
  else if validationClass ∈ scan.classes then
    scan.found .receiptDuplicate candidate.receiptId
  else if candidate.result ≠ .member .passed then
    (scan.store validationClass candidate).found .receiptFailed candidate.receiptId
  else scan.store validationClass candidate

/-- One turn of the loop over the receipts. -/
def step (request : ArtifactReadinessRequest) (scan : ReceiptScan) :
    Option ArtifactValidationReceipt × Nat → ReceiptScan
  | (none, index) => scan.found .receiptInvalid
      (labelled ⟨.ofString "receipt:", by decide⟩ (.ofString (toString index)))
  | (some candidate, _) =>
      match candidate.receiptType with
      | .text _ => (scan.referTo candidate).found .receiptUnknownClass candidate.receiptId
      | .member validationClass =>
          consider request (scan.referTo candidate) candidate validationClass

end ReceiptScan

theorem ArtifactValidationClass.value_nonBlank (validationClass : ArtifactValidationClass) :
    PyText.NonBlank (.ofString validationClass.value) := by
  cases validationClass <;> decide

/-- `_validate_receipts`: what is found, and what is referred to. -/
def validateReceipts (request : ArtifactReadinessRequest)
    (receipts : List (Option ArtifactValidationReceipt)) :
    List ArtifactReadinessFinding × List Identifier :=
  let scan := receipts.zipIdx.foldl (ReceiptScan.step request) .start
  (scan.findings ++
    (request.requiredValidationClasses.filter fun validationClass =>
      validationClass ∉ scan.classes).map fun validationClass =>
        finding .receiptMissing
          ⟨.ofString validationClass.value, validationClass.value_nonBlank⟩,
    scan.references)

/-! ## Hygiene -/

/-- `_policy_matches`. -/
def policyMatches (policyPath observedPath : PyText) : Bool :=
  if policyPath = .ofString "*.egg-info" then
    (PyText.ofString ".egg-info").isSuffixOf observedPath ||
      decide (PyText.ofString ".egg-info/" <:+: observedPath)
  else decide (observedPath = policyPath) ||
    observedPath.startsWith (policyPath ++ .ofString "/")

/-- `_safe_observed_paths`, where `none` is a value that is not a text. -/
def safeObservedPaths (values : List (Option PyText)) :
    List PyText × List ArtifactReadinessFinding :=
  if none ∈ values ∨ some [] ∈ values then
    ([], [finding .hygienePolicyViolation ⟨.ofString "hygiene_input", by decide⟩])
  else (sortedTexts (values.filterMap id), [])

/-- The observed paths that an entry of the policy is about. -/
def presentPaths (observed : List PyText) (policyPath : SafePath) : List PyText :=
  observed.filter (policyMatches policyPath)

/-- The classifications of paths that are not to be there. -/
def forbiddenPresent : List ArtifactHygieneClassification := [.policyViolation, .absent]

/-- `_classify_hygiene`: the observations, and what is found. -/
def classifyHygiene (request : ArtifactReadinessRequest)
    (observedHygienePaths : List (Option PyText)) :
    List ArtifactHygieneObservation × List ArtifactReadinessFinding :=
  let observed := safeObservedPaths observedHygienePaths
  let observations := request.hygienePolicy.map fun policy =>
    { path := policy.1
      classification := if presentPaths observed.1 policy.1 = [] then .absent else policy.2 }
  let violations := (request.hygienePolicy.filter fun policy =>
    policy.2 ∈ forbiddenPresent ∧ presentPaths observed.1 policy.1 ≠ []).map
      fun policy => finding .hygienePolicyViolation ⟨policy.1, policy.1.property.1⟩
  (sortedBy ArtifactHygieneObservation.key observations, observed.2 ++ violations)

/-! ## Assessments -/

/-- `_recommendation`. -/
def recommendation : ArtifactReadinessFindingCode → String
  | .artifactFingerprintMismatch => "supply evidence bound to the exact artifact fingerprint"
  | .entrypointMissing => "declare each required entrypoint in supplied metadata evidence"
  | .hygienePolicyViolation =>
      "supply artifact outputs that satisfy the declared hygiene policy"
  | .packageConfigurationMissing =>
      "declare explicit setuptools py-modules for the flat module layout"
  | .packageLayoutAmbiguous =>
      "declare explicit setuptools py-modules for the flat module layout"
  | .receiptDuplicate => "supply one canonical receipt per required validation class"
  | .receiptFailed => "supply a passed immutable receipt from the declared external validator"
  | .receiptInvalid => "supply a complete canonical immutable validation receipt"
  | .receiptMissing => "supply every required external validation receipt"
  | .receiptUnknownClass => "supply only declared validation receipt classes"
  | .snapshotManifestMismatch =>
      "supply snapshot evidence matching the declared snapshot identity"
  | .unsupportedPackagingProfile =>
      "use an explicitly supported packaging profile and backend"
  | .pyprojectDigestMismatch => "supply canonical pyproject metadata evidence"

/-- `_assessment`. -/
def assessmentOf (assessmentId : PyText) (request : ArtifactReadinessRequest)
    (disposition : ArtifactReadinessDisposition) (findings : List ArtifactReadinessFinding)
    (references : List Identifier) (hygiene : List ArtifactHygieneObservation) :
    Except String ArtifactReadinessAssessment :=
  let orderedFindings :=
    sortedSet (EvidenceFinding.key ArtifactReadinessFindingCode.value) findings
  let orderedReferences := sortedTexts (references.map Subtype.val)
  let recommendations :=
    sortedTexts (orderedFindings.map fun f => .ofString (recommendation f.code))
  ArtifactReadinessAssessment.issue assessmentId
    (request.artifactId.val ++ .ofString ":" ++ request.snapshotId.val)
    disposition orderedFindings orderedReferences hygiene recommendations

/-- All that is found about a snapshot, in the order in which it is found. -/
def findingsOf (request : ArtifactReadinessRequest) (snapshot : ArtifactSnapshotEvidence)
    (receipts : List (Option ArtifactValidationReceipt))
    (observedHygienePaths : List (Option PyText)) : List ArtifactReadinessFinding :=
  (classifyHygiene request observedHygienePaths).2 ++
    validateSnapshotBinding request snapshot ++
    (validatePackagingProfile request snapshot).1 ++
    validateEntrypoints request snapshot ++ (validateReceipts request receipts).1

/-- The conditional in `assess` that picks the disposition. -/
def dispositionFor (profileSupported : Bool) (findings : List ArtifactReadinessFinding) :
    ArtifactReadinessDisposition :=
  if profileSupported = false then .unsupportedProfile
  else if findings ≠ [] then .notReady else .ready

/-- `assess`, where `none` stands for a snapshot, a receipt or an observed path of another
    type. -/
def assess (assessmentId : PyText) (request : ArtifactReadinessRequest)
    (snapshot : Option ArtifactSnapshotEvidence)
    (receipts : List (Option ArtifactValidationReceipt))
    (observedHygienePaths : List (Option PyText)) :
    Except String ArtifactReadinessAssessment :=
  let hygiene := classifyHygiene request observedHygienePaths
  match snapshot with
  | none => assessmentOf assessmentId request .notReady
      (hygiene.2 ++ [finding .snapshotManifestMismatch ⟨.ofString "snapshot", by decide⟩]) []
      hygiene.1
  | some snapshot =>
      let findings := findingsOf request snapshot receipts observedHygienePaths
      let references := labelled ⟨.ofString "snapshot:", by decide⟩
        (snapshot.snapshotId.val ++ .ofString ":" ++ .ofString snapshot.manifestDigest) ::
          (validateReceipts request receipts).2
      let disposition := dispositionFor (validatePackagingProfile request snapshot).2 findings
      assessmentOf assessmentId request disposition findings references hygiene.1

end Eag.GovernedArtifactReadiness
