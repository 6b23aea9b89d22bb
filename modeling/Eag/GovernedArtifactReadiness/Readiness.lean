/-
  Eag.GovernedArtifactReadiness.Readiness

  When `assess` answers ready. Each validator finds nothing exactly when what it checks holds;
  the scan of the receipts finds nothing exactly when every receipt is sound and no two are of
  one class, whatever the order they come in (`ReceiptScan.run_clean_iff`). The answer therefore
  depends on the receipts and the observed paths only through what holds of all of them.
-/

import Eag.GovernedArtifactReadiness.Validator

namespace Eag.GovernedArtifactReadiness

open Eag.Foundation

/-! ## What the evidence is to say -/

/-- The receipt names a known class. -/
def OfClass (candidate : Option ArtifactValidationReceipt)
    (validationClass : ArtifactValidationClass) : Prop :=
  ∃ receipt, candidate = some receipt ∧ receipt.receiptType = .member validationClass

/-- The receipt is well formed, passed, and bound to the fingerprint of the request. -/
structure Sound (request : ArtifactReadinessRequest)
    (candidate : Option ArtifactValidationReceipt) : Prop where
  ofClass : ∃ validationClass, OfClass candidate validationClass
  bound : ∀ receipt ∈ candidate, receipt.artifactFingerprint = request.artifactFingerprint
  passed : ∀ receipt ∈ candidate, receipt.result = .member .passed
  canonical : ∀ receipt ∈ candidate, receipt.receiptDigest = receipt.digest

/-- The receipts are of different classes. -/
def Apart (a b : Option ArtifactValidationReceipt) : Prop :=
  ∀ validationClass, OfClass a validationClass → ¬OfClass b validationClass

/-- The path breaks an entry of the hygiene policy. -/
def Breaks (policy : SafePath × ArtifactHygieneClassification) (path : PyText) : Prop :=
  policy.2 ∈ forbiddenPresent ∧ policyMatches policy.1 path = true

/-- The evidence about an artifact holds. -/
structure EvidenceHolds (request : ArtifactReadinessRequest)
    (snapshot : ArtifactSnapshotEvidence)
    (receipts : List (Option ArtifactValidationReceipt))
    (observedHygienePaths : List (Option PyText)) : Prop where
  profile : request.packagingProfile = .member .setuptoolsFlatModule ∧
    snapshot.packagingBackend.val = .ofString "setuptools.build_meta"
  modules : ∀ module ∈ snapshot.setuptoolsPyModules, module.val ++ pySuffix ∈ snapshot.filePaths
  snapshotId : request.snapshotId = snapshot.snapshotId
  fingerprint : request.artifactFingerprint = calculateArtifactFingerprint request.artifactId
    snapshot.snapshotId request.rootIdentity snapshot.manifestDigest snapshot.pyprojectDigest
  sound : ∀ candidate ∈ receipts, Sound request candidate
  apart : receipts.Pairwise Apart
  required : ∀ validationClass ∈ request.requiredValidationClasses,
    ∃ candidate ∈ receipts, OfClass candidate validationClass
  entrypoints : ∀ entrypoint ∈ request.expectedEntrypoints,
    entrypoint ∈ snapshot.declaredEntrypoints
  hygiene : ∀ path, some path ∈ observedHygienePaths → ∀ policy ∈ request.hygienePolicy,
    ¬Breaks policy path

/-- Every observed path is a text that is not empty. -/
def PathsAreTexts (observedHygienePaths : List (Option PyText)) : Prop :=
  none ∉ observedHygienePaths ∧ some [] ∉ observedHygienePaths

theorem not_ofClass_none (validationClass : ArtifactValidationClass) :
    ¬OfClass none validationClass := by
  rintro ⟨receipt, hnone, -⟩
  cases hnone

@[simp] theorem ofClass_some {receipt : ArtifactValidationReceipt}
    {validationClass : ArtifactValidationClass} :
    OfClass (some receipt) validationClass ↔ receipt.receiptType = .member validationClass := by
  constructor
  · rintro ⟨_, ⟨⟩, hclass⟩
    exact hclass
  · intro hclass
    exact ⟨receipt, rfl, hclass⟩

/-- What makes a receipt of a class sound. -/
theorem sound_some_iff {request : ArtifactReadinessRequest}
    {receipt : ArtifactValidationReceipt} {validationClass : ArtifactValidationClass}
    (hclass : receipt.receiptType = .member validationClass) :
    Sound request (some receipt) ↔ receipt.artifactFingerprint = request.artifactFingerprint ∧
      receipt.result = .member .passed ∧ receipt.receiptDigest = receipt.digest := by
  constructor
  · intro h
    exact ⟨h.bound receipt rfl, h.passed receipt rfl, h.canonical receipt rfl⟩
  · rintro ⟨hbound, hpassed, hcanonical⟩
    refine ⟨⟨validationClass, ofClass_some.mpr hclass⟩, ?_, ?_, ?_⟩ <;>
      rintro _ ⟨⟩ <;> assumption

theorem Apart.symm {a b : Option ArtifactValidationReceipt} (h : Apart a b) : Apart b a :=
  fun validationClass hb ha => h validationClass ha hb

/-- The evidence does not depend on the order of the receipts, nor on how often and in which
    order the paths were observed. -/
theorem EvidenceHolds.congr {request : ArtifactReadinessRequest}
    {snapshot : ArtifactSnapshotEvidence}
    {receipts receipts' : List (Option ArtifactValidationReceipt)}
    {observed observed' : List (Option PyText)} (hreceipts : receipts.Perm receipts')
    (hobserved : ∀ path, path ∈ observed ↔ path ∈ observed')
    (h : EvidenceHolds request snapshot receipts observed) :
    EvidenceHolds request snapshot receipts' observed' where
  profile := h.profile
  modules := h.modules
  snapshotId := h.snapshotId
  fingerprint := h.fingerprint
  sound candidate hcandidate := h.sound candidate (hreceipts.mem_iff.mpr hcandidate)
  apart := (hreceipts.pairwise_iff Apart.symm).mp h.apart
  required validationClass hrequired := by
    obtain ⟨candidate, hcandidate, hclass⟩ := h.required validationClass hrequired
    exact ⟨candidate, hreceipts.mem_iff.mp hcandidate, hclass⟩
  entrypoints := h.entrypoints
  hygiene path hpath := h.hygiene path ((hobserved _).mpr hpath)

/-! ## The scan of the receipts -/

namespace ReceiptScan

variable {request : ArtifactReadinessRequest}

/-- Nothing has been found. -/
def Clean (scan : ReceiptScan) : Prop := scan.findings = []

@[simp] theorem found_not_clean (scan : ReceiptScan) (code : ArtifactReadinessFindingCode)
    (reference : Eag.GovernedWorkspace.Identifier) : ¬(scan.found code reference).Clean :=
  List.append_ne_nil_of_right_ne_nil _ (List.cons_ne_nil _ _)

@[simp] theorem clean_referTo (scan : ReceiptScan) (receipt : ArtifactValidationReceipt) :
    (scan.referTo receipt).Clean ↔ scan.Clean := Iff.rfl

@[simp] theorem clean_store (scan : ReceiptScan) (validationClass : ArtifactValidationClass)
    (receipt : ArtifactValidationReceipt) :
    (scan.store validationClass receipt).Clean ↔ scan.Clean := Iff.rfl

@[simp] theorem classes_referTo (scan : ReceiptScan) (receipt : ArtifactValidationReceipt) :
    (scan.referTo receipt).classes = scan.classes := rfl

@[simp] theorem classes_store (scan : ReceiptScan) (validationClass : ArtifactValidationClass)
    (receipt : ArtifactValidationReceipt) :
    (scan.store validationClass receipt).classes = scan.classes ++ [validationClass] :=
  List.map_append

/-- A receipt that names a class is taken without a finding exactly when it is sound and the
    first of its class. -/
theorem consider_clean_iff (scan : ReceiptScan) {receipt : ArtifactValidationReceipt}
    {validationClass : ArtifactValidationClass}
    (hclass : receipt.receiptType = .member validationClass) :
    (consider request scan receipt validationClass).Clean ↔
      scan.Clean ∧ Sound request (some receipt) ∧ validationClass ∉ scan.classes := by
  rw [sound_some_iff hclass, consider]
  split
  · next hfingerprint => simp [hfingerprint]
  · next hfingerprint =>
      split
      · next hinvalid =>
          refine iff_of_false (found_not_clean _ _ _) ?_
          rintro ⟨-, ⟨-, hpassed, hdigest⟩, -⟩
          rcases hinvalid with hresult | hforged
          · exact hresult (hpassed ▸ List.mem_cons_self)
          · exact hforged hdigest
      · next hvalid =>
          rw [not_or, not_not] at hvalid
          split
          · next hduplicate => simp [hduplicate]
          · next hfirst =>
              split
              · next hfailed => simp [hfailed]
              · next hpassed =>
                  rw [not_not] at hfingerprint hpassed
                  rw [clean_store, not_not] at *
                  exact ⟨fun h => ⟨h, ⟨hfingerprint, hpassed, hvalid.2⟩, hfirst⟩, And.left⟩

/-- A receipt that is taken without a finding has its class recorded. -/
theorem classes_consider {scan : ReceiptScan} {receipt : ArtifactValidationReceipt}
    {validationClass : ArtifactValidationClass}
    (h : (consider request scan receipt validationClass).Clean) :
    (consider request scan receipt validationClass).classes =
      scan.classes ++ [validationClass] := by
  rw [consider] at h ⊢
  split at h
  · exact absurd h (found_not_clean _ _ _)
  · next hfingerprint =>
      rw [if_neg hfingerprint]
      split at h
      · exact absurd h (found_not_clean _ _ _)
      · next hvalid =>
          rw [if_neg hvalid]
          split at h
          · exact absurd h (found_not_clean _ _ _)
          · next hfirst =>
              rw [if_neg hfirst]
              split at h
              · exact absurd h (found_not_clean _ _ _)
              · next hpassed => rw [if_neg hpassed, classes_store]

/-- **One turn of the loop** finds nothing exactly when the receipt is sound and the first of
    its class. -/
theorem step_clean_iff (scan : ReceiptScan) (candidate : Option ArtifactValidationReceipt)
    (index : Nat) :
    (step request scan (candidate, index)).Clean ↔ scan.Clean ∧ Sound request candidate ∧
      ∀ validationClass ∈ scan.classes, ¬OfClass candidate validationClass := by
  cases candidate with
  | none =>
      refine iff_of_false (found_not_clean _ _ _) ?_
      rintro ⟨-, ⟨⟨validationClass, hclass⟩, -⟩, -⟩
      exact not_ofClass_none validationClass hclass
  | some receipt =>
      rw [step]
      split
      · next text htext =>
          refine iff_of_false (found_not_clean _ _ _) ?_
          rintro ⟨-, ⟨⟨validationClass, hclass⟩, -⟩, -⟩
          rw [ofClass_some, htext] at hclass
          cases hclass
      · next validationClass hclass =>
          rw [consider_clean_iff _ hclass, clean_referTo, classes_referTo]
          refine and_congr_right' (and_congr_right' ⟨?_, ?_⟩)
          · intro hfirst other hother hsame
            rw [ofClass_some, hclass] at hsame
            cases hsame
            exact hfirst hother
          · intro hfirst hmem
            exact hfirst validationClass hmem (ofClass_some.mpr hclass)

/-- A turn that finds nothing records the class of the receipt. -/
theorem mem_classes_step {scan : ReceiptScan} {candidate : Option ArtifactValidationReceipt}
    {index : Nat} (h : (step request scan (candidate, index)).Clean)
    (validationClass : ArtifactValidationClass) :
    validationClass ∈ (step request scan (candidate, index)).classes ↔
      validationClass ∈ scan.classes ∨ OfClass candidate validationClass := by
  cases candidate with
  | none => exact absurd h (found_not_clean _ _ _)
  | some receipt =>
      rw [step] at h ⊢
      split at h
      · exact absurd h (found_not_clean _ _ _)
      · next other hother =>
          rw [classes_consider h, List.mem_append, List.mem_singleton, classes_referTo,
            ofClass_some, hother, Declared.member.injEq]
          exact or_congr_right eq_comm

/-- **The scan finds nothing** exactly when every receipt is sound, no two are of one class,
    and none is of a class that was there before; then every class is recorded. -/
theorem run_clean_iff (receipts : List (Option ArtifactValidationReceipt)) (index : Nat)
    (scan : ReceiptScan) :
    ((receipts.zipIdx index).foldl (step request) scan).Clean ↔
      scan.Clean ∧ (∀ candidate ∈ receipts, Sound request candidate) ∧
        receipts.Pairwise Apart ∧ ∀ validationClass ∈ scan.classes,
          ∀ candidate ∈ receipts, ¬OfClass candidate validationClass := by
  induction receipts generalizing index scan with
  | nil => simp
  | cons candidate rest ih =>
      rw [List.zipIdx_cons, List.foldl_cons, ih, List.forall_mem_cons, List.pairwise_cons]
      constructor
      · rintro ⟨hstep, hsound, hapart, hnew⟩
        have hclasses := mem_classes_step hstep
        obtain ⟨hclean, hhere, hfirst⟩ := (step_clean_iff scan candidate index).mp hstep
        refine ⟨hclean, ⟨hhere, hsound⟩, ⟨?_, hapart⟩, ?_⟩
        · intro other hother validationClass hclass
          exact hnew validationClass ((hclasses _).mpr (Or.inr hclass)) other hother
        · intro validationClass hmem other hother
          rcases List.mem_cons.mp hother with rfl | hother
          · exact hfirst validationClass hmem
          · exact hnew validationClass ((hclasses _).mpr (Or.inl hmem)) other hother
      · rintro ⟨hclean, ⟨hhere, hsound⟩, ⟨hhead, hapart⟩, hnew⟩
        have hstep : (step request scan (candidate, index)).Clean :=
          (step_clean_iff scan candidate index).mpr ⟨hclean, hhere, fun validationClass hmem =>
            hnew validationClass hmem candidate List.mem_cons_self⟩
        refine ⟨hstep, hsound, hapart, fun validationClass hmem other hother => ?_⟩
        rcases (mem_classes_step hstep validationClass).mp hmem with hold | hclass
        · exact hnew validationClass hold other (List.mem_cons_of_mem _ hother)
        · exact hhead other hother validationClass hclass

/-- A scan that finds nothing has recorded the classes of the receipts. -/
theorem mem_classes_run {receipts : List (Option ArtifactValidationReceipt)} {index : Nat}
    {scan : ReceiptScan} (h : ((receipts.zipIdx index).foldl (step request) scan).Clean)
    (validationClass : ArtifactValidationClass) :
    validationClass ∈ ((receipts.zipIdx index).foldl (step request) scan).classes ↔
      validationClass ∈ scan.classes ∨ ∃ candidate ∈ receipts,
        OfClass candidate validationClass := by
  induction receipts generalizing index scan with
  | nil => simp
  | cons candidate rest ih =>
      rw [List.zipIdx_cons, List.foldl_cons] at h ⊢
      have hstep : (step request scan (candidate, index)).Clean :=
        ((run_clean_iff rest (index + 1) _).mp h).1
      rw [ih h, mem_classes_step hstep, List.exists_mem_cons_iff, or_assoc]

end ReceiptScan

/-! ## What each validator finds -/

section Validators

variable {request : ArtifactReadinessRequest} {snapshot : ArtifactSnapshotEvidence}

theorem validateSnapshotBinding_eq_nil :
    validateSnapshotBinding request snapshot = [] ↔
      request.snapshotId = snapshot.snapshotId ∧
        request.artifactFingerprint = calculateArtifactFingerprint request.artifactId
          snapshot.snapshotId request.rootIdentity snapshot.manifestDigest
          snapshot.pyprojectDigest := by
  rw [validateSnapshotBinding, List.append_eq_nil_iff]
  simp only [ne_eq, ite_not, ite_eq_left_iff, imp_false, not_not, List.cons_ne_nil]

/-- A profile is supported when it is the setuptools one with its backend. -/
theorem profile_supported_iff :
    (validatePackagingProfile request snapshot).2 = true ↔
      request.packagingProfile = .member .setuptoolsFlatModule ∧
        snapshot.packagingBackend.val = .ofString "setuptools.build_meta" := by
  rw [validatePackagingProfile]
  split
  · next hprofile => simp [hprofile]
  · next hprofile =>
      split
      · next hbackend => simp [hbackend]
      · next hbackend =>
          refine iff_of_true ?_ ⟨not_not.mp hprofile, not_not.mp hbackend⟩
          split
          · rfl
          · split <;> rfl

/-- Nothing is found about a supported profile exactly when there are declared modules, all
    of them present. -/
theorem validatePackagingProfile_eq_nil :
    (validatePackagingProfile request snapshot).1 = [] ↔
      (validatePackagingProfile request snapshot).2 = true ∧
        snapshot.setuptoolsPyModules ≠ [] ∧
        ∀ module ∈ snapshot.setuptoolsPyModules,
          module.val ++ pySuffix ∈ snapshot.filePaths := by
  rw [validatePackagingProfile]
  split
  · simp
  · split
    · simp
    · split
      · next hnone => simp [hnone]
      · next hsome =>
          split
          · next hmissing =>
              obtain ⟨module, hmodule, habsent⟩ := hmissing
              refine iff_of_false (List.cons_ne_nil _ _) ?_
              rintro ⟨-, -, hpresent⟩
              exact habsent (hpresent module hmodule)
          · next hpresent =>
              push Not at hpresent
              exact iff_of_true rfl ⟨rfl, hsome, hpresent⟩

theorem validateEntrypoints_eq_nil :
    validateEntrypoints request snapshot = [] ↔
      ∀ entrypoint ∈ request.expectedEntrypoints,
        entrypoint ∈ snapshot.declaredEntrypoints := by
  rw [validateEntrypoints, List.map_eq_nil_iff, List.filter_eq_nil_iff]
  simp

/-- Nothing is found about the receipts exactly when all are sound, no two are of one class,
    and every required class is there. -/
theorem validateReceipts_eq_nil {receipts : List (Option ArtifactValidationReceipt)} :
    (validateReceipts request receipts).1 = [] ↔
      (∀ candidate ∈ receipts, Sound request candidate) ∧ receipts.Pairwise Apart ∧
        ∀ validationClass ∈ request.requiredValidationClasses,
          ∃ candidate ∈ receipts, OfClass candidate validationClass := by
  have hrun : (receipts.zipIdx.foldl (ReceiptScan.step request) .start).Clean ↔
      (∀ candidate ∈ receipts, Sound request candidate) ∧ receipts.Pairwise Apart := by
    rw [ReceiptScan.run_clean_iff]
    -- The scan starts with nothing found and no class recorded.
    constructor
    · rintro ⟨-, hsound, hapart, -⟩
      exact ⟨hsound, hapart⟩
    · rintro ⟨hsound, hapart⟩
      exact ⟨rfl, hsound, hapart, nofun⟩
  rw [validateReceipts, List.append_eq_nil_iff, List.map_eq_nil_iff, List.filter_eq_nil_iff,
    ← and_assoc, ← hrun]
  refine and_congr_right fun hclean => forall₂_congr fun validationClass _ => ?_
  rw [decide_eq_true_eq, not_not, ReceiptScan.mem_classes_run hclean]
  exact or_iff_right List.not_mem_nil

/-- The observed paths are usable exactly when they are texts that are not empty. -/
theorem safeObservedPaths_eq_nil {observed : List (Option PyText)} :
    (safeObservedPaths observed).2 = [] ↔ PathsAreTexts observed := by
  rw [safeObservedPaths, PathsAreTexts, ← not_or]
  split
  · next h => simp [h]
  · next h => simp [h]

theorem mem_safeObservedPaths {observed : List (Option PyText)} (h : PathsAreTexts observed)
    (path : PyText) : path ∈ (safeObservedPaths observed).1 ↔ some path ∈ observed := by
  rw [safeObservedPaths, if_neg (not_or.mpr h), sortedTexts, mem_sortedSet, List.mem_filterMap]
  simp

/-- Nothing is found about hygiene exactly when the observed paths are texts and none breaks
    the policy. -/
theorem classifyHygiene_eq_nil {observed : List (Option PyText)} :
    (classifyHygiene request observed).2 = [] ↔ PathsAreTexts observed ∧
      ∀ path, some path ∈ observed → ∀ policy ∈ request.hygienePolicy,
        ¬Breaks policy path := by
  rw [classifyHygiene, List.append_eq_nil_iff, safeObservedPaths_eq_nil, List.map_eq_nil_iff,
    List.filter_eq_nil_iff]
  refine and_congr_right fun htexts => ?_
  constructor
  · intro h path hpath policy hpolicy hbreaks
    have hpresent : path ∈ presentPaths (safeObservedPaths observed).1 policy.1 :=
      List.mem_filter.mpr ⟨(mem_safeObservedPaths htexts path).mpr hpath, hbreaks.2⟩
    exact h policy hpolicy (decide_eq_true ⟨hbreaks.1, List.ne_nil_of_mem hpresent⟩)
  · intro h policy hpolicy hviolation
    obtain ⟨hforbidden, hpresent⟩ := of_decide_eq_true hviolation
    obtain ⟨path, hpath⟩ := List.exists_mem_of_ne_nil _ hpresent
    obtain ⟨hobserved, hmatches⟩ := List.mem_filter.mp hpath
    exact h path ((mem_safeObservedPaths htexts path).mp hobserved) policy hpolicy
      ⟨hforbidden, hmatches⟩

end Validators

/-! ## The answer -/

/-- What is required of the evidence besides holding: modules are declared, and the observed
    paths can be read. -/
def Assessable (snapshot : ArtifactSnapshotEvidence) (observed : List (Option PyText)) : Prop :=
  snapshot.setuptoolsPyModules ≠ [] ∧ PathsAreTexts observed

theorem PathsAreTexts.congr {observed observed' : List (Option PyText)}
    (hobserved : ∀ path, path ∈ observed ↔ path ∈ observed') (h : PathsAreTexts observed) :
    PathsAreTexts observed' :=
  ⟨fun hnone => h.1 ((hobserved _).mpr hnone), fun hempty => h.2 ((hobserved _).mpr hempty)⟩

/-- Nothing is found about a snapshot exactly when the evidence holds and is assessable. -/
theorem findingsOf_eq_nil {request : ArtifactReadinessRequest}
    {snapshot : ArtifactSnapshotEvidence}
    {receipts : List (Option ArtifactValidationReceipt)} {observed : List (Option PyText)} :
    findingsOf request snapshot receipts observed = [] ↔
      EvidenceHolds request snapshot receipts observed ∧ Assessable snapshot observed := by
  simp only [findingsOf, List.append_eq_nil_iff, classifyHygiene_eq_nil,
    validateSnapshotBinding_eq_nil, validatePackagingProfile_eq_nil, profile_supported_iff,
    validateEntrypoints_eq_nil, validateReceipts_eq_nil]
  constructor
  · rintro ⟨⟨⟨⟨⟨htexts, hhygiene⟩, hid, hfingerprint⟩, hprofile, hdeclared, hmodules⟩,
      hentrypoints⟩, hsound, hapart, hrequired⟩
    exact ⟨⟨hprofile, hmodules, hid, hfingerprint, hsound, hapart, hrequired, hentrypoints,
      hhygiene⟩, hdeclared, htexts⟩
  · rintro ⟨h, hdeclared, htexts⟩
    exact ⟨⟨⟨⟨⟨htexts, h.hygiene⟩, h.snapshotId, h.fingerprint⟩, h.profile, hdeclared,
      h.modules⟩, h.entrypoints⟩, h.sound, h.apart, h.required⟩

theorem recommendation_nonBlank (code : ArtifactReadinessFindingCode) :
    PyText.NonBlank (.ofString (recommendation code)) := by
  cases code <;> decide +kernel

/-- The observations of a request come out in the order of its policy. -/
theorem hygiene_ordered (request : ArtifactReadinessRequest) (observed : List (Option PyText)) :
    (classifyHygiene request observed).1.Pairwise fun a b => a.key < b.key := by
  have hpolicy := request.hygienePolicy_ordered
  rw [StrictlyOrdered, List.pairwise_map] at hpolicy
  rw [classifyHygiene, sortedBy, List.Pairwise.insertionSort_eq]
  · exact List.pairwise_map.mpr hpolicy
  · exact List.pairwise_map.mpr (hpolicy.imp le_of_lt)

/-- What is found is always issued, whatever it is. -/
theorem assessmentOf_isOk {assessmentId : PyText} (hid : assessmentId.NonBlank)
    (request : ArtifactReadinessRequest) (disposition : ArtifactReadinessDisposition)
    (findings : List ArtifactReadinessFinding)
    (references : List Eag.GovernedWorkspace.Identifier) (observed : List (Option PyText)) :
    ∃ assessment, assessmentOf assessmentId request disposition findings references
        (classifyHygiene request observed).1 = .ok assessment ∧
      assessment.disposition = disposition := by
  refine ArtifactReadinessAssessment.issue_isOk hid ?_ ?_ ?_ (hygiene_ordered request observed)
    ?_
  · rw [List.append_assoc]
    exact PyText.nonBlank_append_left request.artifactId.property _
  · exact sortedSet_strict _
      (EvidenceFinding.key_injective ArtifactReadinessFindingCode.value_injective) findings
  · rw [orderedTexts_sortedTexts]
    intro value hvalue
    obtain ⟨reference, -, rfl⟩ := List.mem_map.mp hvalue
    exact reference.property
  · rw [orderedTexts_sortedTexts]
    intro value hvalue
    obtain ⟨found, -, rfl⟩ := List.mem_map.mp hvalue
    exact recommendation_nonBlank found.code

/-- The disposition that `assess` answers. -/
def answer (request : ArtifactReadinessRequest) (snapshot : Option ArtifactSnapshotEvidence)
    (receipts : List (Option ArtifactValidationReceipt)) (observed : List (Option PyText)) :
    ArtifactReadinessDisposition :=
  match snapshot with
  | none => .notReady
  | some snapshot => dispositionFor (validatePackagingProfile request snapshot).2
      (findingsOf request snapshot receipts observed)

section Answer

variable {request : ArtifactReadinessRequest} {snapshot : Option ArtifactSnapshotEvidence}
  {receipts receipts' : List (Option ArtifactValidationReceipt)}
  {observed observed' : List (Option PyText)}

/-- Every request is answered. -/
theorem assess_isOk {assessmentId : PyText} (hid : assessmentId.NonBlank)
    (request : ArtifactReadinessRequest) (snapshot : Option ArtifactSnapshotEvidence)
    (receipts : List (Option ArtifactValidationReceipt)) (observed : List (Option PyText)) :
    ∃ assessment, assess assessmentId request snapshot receipts observed = .ok assessment ∧
      assessment.disposition = answer request snapshot receipts observed := by
  cases snapshot with
  | none => exact assessmentOf_isOk hid request .notReady _ _ observed
  | some snapshot => exact assessmentOf_isOk hid request _ _ _ observed

theorem dispositionFor_eq_ready_iff {supported : Bool}
    {findings : List ArtifactReadinessFinding} :
    dispositionFor supported findings = .ready ↔ supported = true ∧ findings = [] := by
  rw [dispositionFor]
  split
  · next h => simp [h]
  · next h =>
      split
      · next hfound => simp [hfound]
      · next hnone => exact iff_of_true rfl ⟨by simpa using h, not_not.mp hnone⟩

/-- When the answer is ready. -/
theorem answer_eq_ready_iff :
    answer request snapshot receipts observed = .ready ↔ ∃ evidence, snapshot = some evidence ∧
      EvidenceHolds request evidence receipts observed ∧ Assessable evidence observed := by
  cases snapshot with
  | none => simp [answer]
  | some evidence =>
      rw [answer, dispositionFor_eq_ready_iff, findingsOf_eq_nil, profile_supported_iff]
      constructor
      · rintro ⟨-, hholds⟩
        exact ⟨evidence, rfl, hholds⟩
      · rintro ⟨_, ⟨⟩, hholds⟩
        exact ⟨hholds.1.profile, hholds⟩

/-- The answer does not depend on the order of the receipts, nor on how often and in which
    order the paths were observed. -/
theorem answer_congr (hreceipts : receipts.Perm receipts')
    (hobserved : ∀ path, path ∈ observed ↔ path ∈ observed') :
    answer request snapshot receipts' observed' = answer request snapshot receipts observed := by
  cases snapshot with
  | none => rfl
  | some evidence =>
      -- Only whether anything is found matters, and that is a matter of what holds.
      have hfindings : findingsOf request evidence receipts' observed' = [] ↔
          findingsOf request evidence receipts observed = [] := by
        rw [findingsOf_eq_nil, findingsOf_eq_nil]
        constructor
        · rintro ⟨hholds, hdeclared, htexts⟩
          exact ⟨hholds.congr hreceipts.symm fun path => (hobserved path).symm, hdeclared,
            htexts.congr fun path => (hobserved path).symm⟩
        · rintro ⟨hholds, hdeclared, htexts⟩
          exact ⟨hholds.congr hreceipts hobserved, hdeclared, htexts.congr hobserved⟩
      simp only [answer, dispositionFor, ne_eq, hfindings]

end Answer

/-- **Readiness is exact.** Every assessment that is named is made. It says ready exactly when
    the evidence holds, modules are declared and the observed paths can be read, and it says
    the same whatever the order of the receipts and however the paths were observed. -/
theorem assess_ready_iff (assessmentId : PyText) (hid : assessmentId.NonBlank)
    (request : ArtifactReadinessRequest) (snapshot : Option ArtifactSnapshotEvidence)
    (receipts : List (Option ArtifactValidationReceipt)) (observed : List (Option PyText)) :
    ∃ assessment, assess assessmentId request snapshot receipts observed = .ok assessment ∧
      (assessment.disposition = .ready ↔ ∃ evidence, snapshot = some evidence ∧
        EvidenceHolds request evidence receipts observed ∧
        evidence.setuptoolsPyModules ≠ [] ∧ PathsAreTexts observed) ∧
      ∀ receipts' observed', receipts.Perm receipts' →
        (∀ path, path ∈ observed ↔ path ∈ observed') →
          ∃ other, assess assessmentId request snapshot receipts' observed' = .ok other ∧
            other.disposition = assessment.disposition := by
  obtain ⟨assessment, hok, hdisposition⟩ :=
    assess_isOk hid request snapshot receipts observed
  refine ⟨assessment, hok, ?_, fun receipts' observed' hreceipts hobserved => ?_⟩
  · rw [hdisposition]
    exact answer_eq_ready_iff
  · obtain ⟨other, hother, hsame⟩ := assess_isOk hid request snapshot receipts' observed'
    exact ⟨other, hother, by rw [hsame, hdisposition, answer_congr hreceipts hobserved]⟩

/-! ## A library -/

section Library

/-- An identifier for the evidence below. -/
def libraryId : Eag.GovernedWorkspace.Identifier := ⟨.ofString "library", by decide⟩

/-- A digest of some file. -/
def libraryDigest : Eag.GovernedWorkspace.Digest :=
  Eag.GovernedWorkspace.digestOf (.text "library")

/-- The snapshot of a library of one file besides its project file, with the modules that are
    declared. -/
def librarySnapshot (declared : List Eag.GovernedWorkspace.Identifier)
    (hdeclared : StrictlyOrdered declared) : ArtifactSnapshotEvidence where
  snapshotId := libraryId
  canonicalFileManifest := [⟨⟨.ofString "library.py", by decide +kernel⟩, libraryDigest⟩,
    ⟨⟨pyprojectPath, by decide +kernel⟩, libraryDigest⟩]
  metadataFiles := []
  pyprojectDigest := libraryDigest
  declaredOutputs := []
  packagingBackend := ⟨.ofString "setuptools.build_meta", by decide⟩
  setuptoolsPyModules := declared
  declaredEntrypoints := []
  manifest_ordered := by simp only [StrictlyOrdered]; decide +kernel
  metadataFiles_ordered := List.Pairwise.nil
  declaredOutputs_ordered := List.Pairwise.nil
  setuptoolsPyModules_ordered := hdeclared
  declaredEntrypoints_ordered := List.Pairwise.nil
  pyproject_listed := ⟨_, List.mem_cons_of_mem _ List.mem_cons_self, rfl, rfl⟩

/-- The request to assess a snapshot of the library: its tests are to have been run. -/
def libraryRequest (snapshot : ArtifactSnapshotEvidence) : ArtifactReadinessRequest where
  artifactId := libraryId
  snapshotId := snapshot.snapshotId
  rootIdentity := libraryId
  artifactFingerprint := calculateArtifactFingerprint libraryId snapshot.snapshotId libraryId
    snapshot.manifestDigest snapshot.pyprojectDigest
  packagingProfile := .member .setuptoolsFlatModule
  expectedEntrypoints := []
  requiredValidationClasses := [.testExecution]
  hygienePolicy := []
  expectedEntrypoints_ordered := List.Pairwise.nil
  requiredValidationClasses_ordered := ⟨List.cons_ne_nil _ _, List.pairwise_singleton _ _⟩
  hygienePolicy_ordered := List.Pairwise.nil

/-- The receipt of a test run that passed. -/
def libraryReceipt (request : ArtifactReadinessRequest) : ArtifactValidationReceipt :=
  ArtifactValidationReceipt.issue
    { receiptId := libraryId
      receiptType := .member .testExecution
      producerIdentity := libraryId
      producerVersion := libraryId
      artifactFingerprint := request.artifactFingerprint
      commandClass := libraryId
      result := .member .passed
      outputDigest := libraryDigest
      timestamp := ⟨⟨0, some 0⟩, DateTime.epoch_utc⟩
      receiptDigest := libraryDigest }

theorem library_listed {declared : List Eag.GovernedWorkspace.Identifier}
    {hdeclared : StrictlyOrdered declared} :
    PyText.ofString "library" ++ pySuffix ∈ (librarySnapshot declared hdeclared).filePaths := by
  have hname : PyText.ofString "library" ++ pySuffix = .ofString "library.py" := by decide
  rw [hname]
  exact List.mem_cons_self

/-- The evidence about the library holds, as far as its declared modules are there. -/
theorem library_evidenceHolds {declared : List Eag.GovernedWorkspace.Identifier}
    (hdeclared : StrictlyOrdered declared)
    (hmodules : ∀ module ∈ declared, module.val = .ofString "library") :
    EvidenceHolds (libraryRequest (librarySnapshot declared hdeclared))
      (librarySnapshot declared hdeclared)
      [some (libraryReceipt (libraryRequest (librarySnapshot declared hdeclared)))] [] where
  profile := ⟨rfl, rfl⟩
  modules module hmodule := by
    rw [hmodules module hmodule]
    exact library_listed
  snapshotId := rfl
  fingerprint := rfl
  sound candidate hcandidate := by
    rw [List.mem_singleton.mp hcandidate, sound_some_iff rfl]
    exact ⟨rfl, rfl, ArtifactValidationReceipt.issue_canonical _⟩
  apart := List.pairwise_singleton _ _
  required validationClass hrequired := by
    rw [List.mem_singleton.mp hrequired]
    exact ⟨_, List.mem_cons_self, ofClass_some.mpr rfl⟩
  entrypoints entrypoint hentrypoint := nomatch hentrypoint
  hygiene path hpath := nomatch hpath

end Library

/-- The library that declares its module is ready. -/
theorem library_ready : ∃ assessment,
    assess (.ofString "assessment")
        (libraryRequest (librarySnapshot [libraryId] (List.pairwise_singleton _ _)))
        (some (librarySnapshot [libraryId] (List.pairwise_singleton _ _)))
        [some (libraryReceipt
          (libraryRequest (librarySnapshot [libraryId] (List.pairwise_singleton _ _))))] [] =
      .ok assessment ∧ assessment.disposition = .ready := by
  obtain ⟨assessment, hok, hready, -⟩ := assess_ready_iff (.ofString "assessment") (by decide)
    (libraryRequest (librarySnapshot [libraryId] (List.pairwise_singleton _ _)))
    (some (librarySnapshot [libraryId] (List.pairwise_singleton _ _)))
    [some (libraryReceipt
      (libraryRequest (librarySnapshot [libraryId] (List.pairwise_singleton _ _))))] []
  refine ⟨assessment, hok, hready.mpr ⟨_, rfl, library_evidenceHolds _ ?_,
    List.cons_ne_nil _ _, List.not_mem_nil, List.not_mem_nil⟩⟩
  intro module hmodule
  rw [List.mem_singleton.mp hmodule]
  rfl

/-- The library that declares no module is not ready, though every module that it declares is
    there and all the rest holds too. -/
theorem undeclared_library_not_ready : ∃ assessment,
    assess (.ofString "assessment") (libraryRequest (librarySnapshot [] List.Pairwise.nil))
        (some (librarySnapshot [] List.Pairwise.nil))
        [some (libraryReceipt (libraryRequest (librarySnapshot [] List.Pairwise.nil)))] [] =
      .ok assessment ∧
    EvidenceHolds (libraryRequest (librarySnapshot [] List.Pairwise.nil))
      (librarySnapshot [] List.Pairwise.nil)
      [some (libraryReceipt (libraryRequest (librarySnapshot [] List.Pairwise.nil)))] [] ∧
    assessment.disposition ≠ .ready := by
  have hid : PyText.NonBlank (.ofString "assessment") := by decide
  obtain ⟨assessment, hok, hdisposition⟩ := assess_isOk hid (libraryRequest (librarySnapshot [] List.Pairwise.nil))
    (some (librarySnapshot [] List.Pairwise.nil))
    [some (libraryReceipt (libraryRequest (librarySnapshot [] List.Pairwise.nil)))] []
  refine ⟨assessment, hok, library_evidenceHolds _ (List.forall_mem_nil _), ?_⟩
  rw [hdisposition, Ne, answer_eq_ready_iff]
  rintro ⟨_, ⟨⟩, -, hdeclared, -⟩
  exact hdeclared rfl

end Eag.GovernedArtifactReadiness
