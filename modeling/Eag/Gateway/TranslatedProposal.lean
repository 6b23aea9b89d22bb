/-
  Eag.Gateway.TranslatedProposal

  The change proposal that `translate` builds once its checks have passed
  (`chief/intelligence/gateway/mutation_translation.py`). It is bound to the file that
  the translation read, to the content it proposes and to every preservation
  requirement (`translated_proposal_bound`).
-/

import Eag.Gateway.Agreement

namespace Eag.Gateway

open Eag.Foundation Eag.Mutation

/-! ## Proposals -/

/-- What leaves `translate` in place of a proposal: a rejection, or the
    `UnicodeEncodeError` of a text with a lone surrogate. -/
inductive TranslationFailure where
  | violation (violation : TranslationViolation)
  | encode
  deriving DecidableEq, Repr

/-- `_sha256_text`. -/
def sha256Text (value : PyText) : Except TranslationFailure String :=
  match value.scalars? with
  | none => .error .encode
  | some characters => .ok (sha256Hex (String.ofList characters))

/-- A `ChangeProposal` with the texts of a decision, which may hold lone surrogates. -/
structure TranslatedProposal where
  proposalId : String
  runId : String
  decisionId : String
  targetPath : PyText
  operation : MutationOperation
  content : PyText
  precondition : MutationPrecondition
  reason : PyText
  provenanceIds : List PyText
  risk : MutationRisk
  authorizationMetadata : List (String × PyText)
  expectedPostcondition : MutationPostcondition
  contextFingerprint : String
  repositorySnapshotFingerprint : String
  workspaceFingerprint : String
  identities_nonBlank : NonBlank proposalId ∧ NonBlank runId ∧ NonBlank decisionId
  targetPath_nonBlank : targetPath.NonBlank
  reason_nonBlank : reason.NonBlank
  provenanceIds_nonBlank : ∀ id ∈ provenanceIds, id.NonBlank
  provenanceIds_nodup : provenanceIds.Nodup

/-! ## Building the proposal -/

/-- What the proposal takes from outside the decision and the trusted bindings. -/
structure TranslationSurroundings where
  /-- The JSON text whose digest is `decision.digest`. -/
  decisionText : EngineeringDecision → String
  /-- The device and the inode of the workspace root. -/
  rootIdentity : Nat × Nat

section

variable (surroundings : TranslationSurroundings) (state : TrustedWorkspaceState)

/-- `trusted_state.workspace_fingerprint`. -/
def TranslationSurroundings.workspaceFingerprint : String :=
  sha256Hex (toString surroundings.rootIdentity.1 ++ ":" ++ toString surroundings.rootIdentity.2)

/-- `decision.digest`. -/
def TranslationSurroundings.decisionDigest (decision : EngineeringDecision) : String :=
  sha256Hex (surroundings.decisionText decision)

/-- `_risk_from_decision`. -/
def riskFromDecision (decision : EngineeringDecision) : MutationRisk :=
  let severities := decision.risks.map (·.severity)
  if .critical ∈ severities ∨ .high ∈ severities then .high
  else if ∀ severity ∈ severities, severity = .low then .low
  else .medium

theorem nonBlank_proposalId (digest : String) : NonBlank ("proposal-" ++ digest) :=
  nonBlank_of_mem (c := 'p') (by simp) (by decide)

/-- `_proposal_id`. -/
def proposalIdOf (runId decisionId : String) (intent : MutationIntent) :
    Except TranslationFailure { id : String // NonBlank id } := do
  let content ← sha256Text intent.proposedContent
  let payload ← sha256Text (PyText.join (.scalar '\x1f')
    [.ofString runId, .ofString decisionId, intent.intentId, intent.targetPath,
      intent.operation, .ofString content, .ofString state.contextFingerprint,
      .ofString state.repositorySnapshotFingerprint,
      .ofString surroundings.workspaceFingerprint, .ofString state.policyVersion])
  return ⟨"proposal-" ++ payload, nonBlank_proposalId payload⟩

/-- The precondition for the state that `read_target_state` returned. -/
def preconditionOf : TargetState → MutationPrecondition
  | none => ⟨false, none, nofun, fun _ => rfl⟩
  | some content =>
      ⟨true, some (sha256Hex content), fun _ heq => by
        have hblank := nonBlank_of_isDigest (isDigest_sha256Hex content)
        rw [Option.getD_some] at heq
        rw [heq] at hblank
        exact absurd hblank (by decide), nofun⟩

/-- The end of `translate`, after its checks. -/
def buildProposal (request : EngineeringDecisionRequest) (decision : EngineeringDecision)
    (runId : String) (hrun : NonBlank runId) (checked : Translatable) :
    Except TranslationFailure TranslatedProposal := do
  let intent := checked.intent
  let contentFingerprint ← sha256Text intent.proposedContent
  let decisionId := surroundings.decisionDigest decision
  let proposalId ← proposalIdOf surroundings state runId decisionId intent
  return {
    proposalId := proposalId.1
    runId
    decisionId
    targetPath := intent.targetPath
    operation := checked.operation
    content := intent.proposedContent
    precondition := preconditionOf checked.target
    reason := intent.rationale
    provenanceIds := intent.groundingReferences
    risk := riskFromDecision decision
    authorizationMetadata := [
      ("mutation_intent_id", intent.intentId),
      ("mutation_intent_schema_version", intent.schemaVersion),
      ("gateway_request_id", .ofString request.requestId),
      ("policy_version", .ofString state.policyVersion)]
    expectedPostcondition := ⟨true, some contentFingerprint⟩
    contextFingerprint := state.contextFingerprint
    repositorySnapshotFingerprint := state.repositorySnapshotFingerprint
    workspaceFingerprint := surroundings.workspaceFingerprint
    identities_nonBlank :=
      ⟨proposalId.2, hrun, nonBlank_of_isDigest (isDigest_sha256Hex _)⟩
    targetPath_nonBlank := intent.target_nonBlank.1
    reason_nonBlank := intent.rationale_nonBlank
    provenanceIds_nonBlank := intent.groundingReferences_nonBlank.2
    provenanceIds_nodup := intent.groundingReferences_nodup }

end

/-! ## The checks that passed -/

/-- What the checks of `translate` have established. -/
structure TranslationChecks (result : EngineeringDecisionResult)
    (request : EngineeringDecisionRequest) (runId : String) (state : TrustedWorkspaceState)
    (checked : Translatable) (decision : EngineeringDecision) (policy : MutationIntentPolicy) :
    Prop where
  decided : result.decision = some decision
  runId_nonBlank : NonBlank runId
  enabled : request.mutationIntentPolicy = some policy
  intent : decision.mutationIntents = [checked.intent]
  target : state.readTargetState checked.intent.targetPath = .ok checked.target
  operation : operationOf checked.intent = .ok checked.operation
  preservation :
    validatePreservation checked.intent policy.preservationRequirements checked.target = .ok ()

section

variable {result : EngineeringDecisionResult} {request : EngineeringDecisionRequest}
  {runId : String} {state : TrustedWorkspaceState} {checked : Translatable}

theorem translationChecks_of_translate (h : translate result request runId state = .ok checked) :
    ∃ decision policy, TranslationChecks result request runId state checked decision policy := by
  unfold translate at h
  split at h
  · next decision hsuccess hdecision herror =>
      simp only [except_bind_eq_ok, require_eq_ok] at h
      obtain ⟨_, hrun, _, -, h⟩ := h
      split at h
      · cases h
      · next policy hpolicy =>
          split at h
          · next intent hintent =>
              simp only [except_bind_eq_ok, except_pure_eq_ok] at h
              obtain ⟨_, -, target, htarget, operation, hoperation, _, hpreservation, rfl⟩ := h
              exact ⟨decision, policy, hdecision, hrun, hpolicy, hintent, htarget, hoperation,
                hpreservation⟩
          · cases h
  · cases h

theorem decision_isSome_of_translate (h : translate result request runId state = .ok checked) :
    result.decision.isSome = true := by
  obtain ⟨decision, policy, hchecks⟩ := translationChecks_of_translate h
  rw [hchecks.decided]
  rfl

theorem runId_nonBlank_of_translate (h : translate result request runId state = .ok checked) :
    NonBlank runId := by
  obtain ⟨decision, policy, hchecks⟩ := translationChecks_of_translate h
  exact hchecks.runId_nonBlank

end

/-- `translate`: the checks, and the proposal when they pass. -/
def translateProposal (surroundings : TranslationSurroundings)
    (result : EngineeringDecisionResult) (request : EngineeringDecisionRequest) (runId : String)
    (state : TrustedWorkspaceState) : Except TranslationFailure TranslatedProposal :=
  match h : translate result request runId state with
  | .error violation => .error (.violation violation)
  | .ok checked =>
      buildProposal surroundings state request
        (result.decision.get (decision_isSome_of_translate h)) runId
        (runId_nonBlank_of_translate h) checked

/-! ## What a proposal is bound to -/

/-- The precondition describes the file: it is absent, or it is there and the
    fingerprint is that of the text whose UTF-8 form its bytes are. -/
def MatchesFile (view : WorkspaceView) (path : List PyText)
    (precondition : MutationPrecondition) : Prop :=
  (view.pathExists path = false ∧ precondition.expectExists = false ∧
      precondition.expectedFingerprint = none) ∨
    view.pathExists path = true ∧ ∃ content : String,
      content.toUTF8.data.toList = view.bytes path ∧ precondition.expectExists = true ∧
        precondition.expectedFingerprint = some (sha256Hex content)

/-- The required leading text stands at the head of the file, and the proposal has the
    same text there. -/
def KeepsRegion (view : WorkspaceView) (path : List PyText) (proposed : PyText)
    (requirement : PreservationRequirement) : Prop :=
  view.pathExists path = true ∧ ∃ content : String,
    content.toUTF8.data.toList = view.bytes path ∧
      requirement.requiredPrefix.toList <+: content.toList ∧
      proposed.take requirement.requiredPrefix.length =
        (PyText.ofString content).take requirement.requiredPrefix.length

/-- A requirement of the policy is matched: the intent declares it, and its leading text
    is kept. -/
structure RequirementMatched (view : WorkspaceView) (intent : MutationIntent)
    (proposed : PyText) (requirement : PreservationRequirement) : Prop where
  declared : .ofString requirement.requirementId ∈ intent.preservationRequirementIds
  kept : KeepsRegion view intent.targetPath.posixParts proposed requirement

/-- The proposal is bound to the file at the target, to the content of the intent and to
    the requirements of the policy. -/
structure BoundProposal (view : WorkspaceView) (policy : MutationIntentPolicy)
    (intent : MutationIntent) (proposal : TranslatedProposal) : Prop where
  targetPath : proposal.targetPath = intent.targetPath
  content : proposal.content = intent.proposedContent
  precondition : MatchesFile view intent.targetPath.posixParts proposal.precondition
  postcondition : ∃ fingerprint, sha256Text proposal.content = .ok fingerprint ∧
    proposal.expectedPostcondition = ⟨true, some fingerprint⟩
  preserved : ∀ requirement ∈ policy.preservationRequirements,
    RequirementMatched view intent proposal.content requirement
  declared : ∀ id ∈ intent.preservationRequirementIds,
    id ∈ requirementIds policy.preservationRequirements

/-! ## The file that was read -/

section

variable {state : TrustedWorkspaceState} {targetPath : PyText} {target : TargetState}

theorem toUTF8_of_fromUTF8? {bytes : List UInt8} {content : String}
    (h : String.fromUTF8? ⟨bytes.toArray⟩ = some content) :
    content.toUTF8.data.toList = bytes := by
  unfold String.fromUTF8? at h
  split at h
  · cases h
    rfl
  · cases h

theorem bytes_of_readContent {path : List PyText} {content : String}
    (h : state.readContent targetPath path = .ok (some content)) :
    content.toUTF8.data.toList = state.view.bytes path := by
  unfold TrustedWorkspaceState.readContent at h
  split at h
  · cases h
  · dsimp only at h
    split at h
    · cases h
    · split at h
      · cases h
      · next decoded hdecoded =>
          cases h
          exact toUTF8_of_fromUTF8? hdecoded

theorem ne_none_of_readContent {path : List PyText} :
    state.readContent targetPath path ≠ .ok none := by
  intro h
  unfold TrustedWorkspaceState.readContent at h
  split at h
  · cases h
  · dsimp only at h
    split at h
    · cases h
    · split at h <;> cases h

/-- What a successful read says of the file. -/
theorem target_of_read (h : state.readTargetState targetPath = .ok target) :
    (target = none ∧ state.view.pathExists targetPath.posixParts = false) ∨
      ∃ content, target = some content ∧
        state.view.pathExists targetPath.posixParts = true ∧
        content.toUTF8.data.toList = state.view.bytes targetPath.posixParts := by
  unfold TrustedWorkspaceState.readTargetState at h
  simp only [except_bind_eq_ok, safeRelativePath_eq_ok] at h
  obtain ⟨parts, ⟨-, rfl⟩, _, -, h⟩ := h
  split at h
  · cases h
  · split at h
    · cases h
    · split at h
      · next hexists =>
          cases h
          exact Or.inl ⟨rfl, hexists⟩
      · next hexists =>
          cases target with
          | none => exact absurd h ne_none_of_readContent
          | some content =>
              exact Or.inr ⟨content, rfl, Bool.of_not_eq_false hexists, bytes_of_readContent h⟩

/-- The precondition of the proposal describes the file that was read. -/
theorem matchesFile_of_read (h : state.readTargetState targetPath = .ok target) :
    MatchesFile state.view targetPath.posixParts (preconditionOf target) := by
  rcases target_of_read h with ⟨rfl, habsent⟩ | ⟨content, rfl, hexists, hbytes⟩
  · exact Or.inl ⟨habsent, rfl, rfl⟩
  · exact Or.inr ⟨hexists, content, hbytes, rfl, rfl⟩

/-- Two texts that begin with a text agree on its length. -/
theorem take_of_startsWith {proposed : PyText} {content affix : String}
    (hproposed : proposed.startsWith (.ofString affix) = true)
    (hcontent : affix.toList <+: content.toList) :
    proposed.take affix.length = (PyText.ofString content).take affix.length := by
  have hlength : affix.length = (PyText.ofString affix).length := by
    rw [PyText.ofString, List.length_map, String.length_toList]
  have hfile : PyText.ofString affix <+: PyText.ofString content := hcontent.map _
  have hproposal : PyText.ofString affix <+: proposed := List.isPrefixOf_iff_prefix.mp hproposed
  rw [hlength, ← List.prefix_iff_eq_take.mp hfile, ← List.prefix_iff_eq_take.mp hproposal]

theorem keepsRegion_of_leading {intent : MutationIntent}
    {requirements : List PreservationRequirement}
    (hread : state.readTargetState intent.targetPath = .ok target)
    (h : validateLeadingContent intent requirements target = .ok ()) :
    ∀ requirement ∈ requirements,
      KeepsRegion state.view intent.targetPath.posixParts intent.proposedContent
        requirement := by
  intro requirement hrequirement
  rcases validateLeadingContent_eq_ok.mp h with rfl | ⟨content, rfl, hfile, hproposal⟩
  · cases hrequirement
  · rcases target_of_read hread with ⟨⟨⟩, -⟩ | ⟨_, ⟨⟩, hexists, hbytes⟩
    exact ⟨hexists, content, hbytes, hfile requirement hrequirement,
      take_of_startsWith (hproposal requirement hrequirement) (hfile requirement hrequirement)⟩

/-- What the preservation check establishes. -/
theorem matched_of_preservation {intent : MutationIntent}
    {requirements : List PreservationRequirement}
    (hread : state.readTargetState intent.targetPath = .ok target)
    (h : validatePreservation intent requirements target = .ok ()) :
    (∀ requirement ∈ requirements,
      RequirementMatched state.view intent intent.proposedContent requirement) ∧
      ∀ id ∈ intent.preservationRequirementIds, id ∈ requirementIds requirements := by
  unfold validatePreservation at h
  simp only [except_bind_eq_ok, require_eq_ok] at h
  obtain ⟨_, ⟨hdeclared, hrequired⟩, hleading⟩ := h
  refine ⟨fun requirement hmem => ⟨?_, keepsRegion_of_leading hread hleading _ hmem⟩, hdeclared⟩
  exact hrequired _ (List.mem_map.mpr ⟨requirement, hmem, rfl⟩)

end

/-! ## The result -/

section

variable {surroundings : TranslationSurroundings} {result : EngineeringDecisionResult}
  {request : EngineeringDecisionRequest} {runId : String} {state : TrustedWorkspaceState}

/-- The parts of a built proposal that the checks speak about. -/
theorem buildProposal_eq_ok {decision : EngineeringDecision} {hrun : NonBlank runId}
    {checked : Translatable} {proposal : TranslatedProposal}
    (h : buildProposal surroundings state request decision runId hrun checked = .ok proposal) :
    proposal.targetPath = checked.intent.targetPath ∧
      proposal.content = checked.intent.proposedContent ∧
      proposal.precondition = preconditionOf checked.target ∧
      ∃ fingerprint, sha256Text checked.intent.proposedContent = .ok fingerprint ∧
        proposal.expectedPostcondition = ⟨true, some fingerprint⟩ := by
  unfold buildProposal at h
  simp only [except_bind_eq_ok, except_pure_eq_ok] at h
  obtain ⟨fingerprint, hfingerprint, _, -, rfl⟩ := h
  exact ⟨rfl, rfl, rfl, fingerprint, hfingerprint, rfl⟩

theorem translateProposal_eq_ok {proposal : TranslatedProposal}
    (h : translateProposal surroundings result request runId state = .ok proposal) :
    ∃ checked decision hrun, translate result request runId state = .ok checked ∧
      buildProposal surroundings state request decision runId hrun checked = .ok proposal := by
  unfold translateProposal at h
  split at h
  · cases h
  · next checked hchecked => exact ⟨checked, _, _, hchecked, h⟩

/-- A refused check refuses the translation. -/
theorem translateProposal_of_error {violation : TranslationViolation}
    (h : translate result request runId state = .error violation) :
    translateProposal surroundings result request runId state = .error (.violation violation) := by
  unfold translateProposal
  split
  · next other hother =>
      rw [h] at hother
      rw [Except.error.inj hother]
  · next checked hchecked =>
      rw [h] at hchecked
      cases hchecked

/-- **Translated proposals are bound to what was approved**: a proposal has a precondition
    for the file that was read, the fingerprint of its content as postcondition, and every
    required region of the file unchanged. Where a requirement cannot be matched, or the
    intent declares one that the policy does not have, the translation is refused. -/
theorem translated_proposal_bound :
    (∀ proposal, translateProposal surroundings result request runId state = .ok proposal →
      ∃ decision policy intent, result.decision = some decision ∧
        request.mutationIntentPolicy = some policy ∧ decision.mutationIntents = [intent] ∧
        BoundProposal state.view policy intent proposal) ∧
    ∀ decision policy intent, result.decision = some decision →
      request.mutationIntentPolicy = some policy → decision.mutationIntents = [intent] →
      ((∃ requirement ∈ policy.preservationRequirements,
          ¬ RequirementMatched state.view intent intent.proposedContent requirement) ∨
        ∃ id ∈ intent.preservationRequirementIds,
          id ∉ requirementIds policy.preservationRequirements) →
      ∃ violation, translateProposal surroundings result request runId state =
        .error (.violation violation) := by
  constructor
  · intro proposal h
    obtain ⟨checked, built, hrun, hchecked, hbuilt⟩ := translateProposal_eq_ok h
    obtain ⟨decision, policy, hchecks⟩ := translationChecks_of_translate hchecked
    obtain ⟨htarget, hcontent, hprecondition, hpostcondition⟩ := buildProposal_eq_ok hbuilt
    obtain ⟨hmatched, hdeclared⟩ := matched_of_preservation hchecks.target hchecks.preservation
    have hprecondition : MatchesFile state.view checked.intent.targetPath.posixParts
        proposal.precondition := hprecondition ▸ matchesFile_of_read hchecks.target
    refine ⟨decision, policy, checked.intent, hchecks.decided, hchecks.enabled, hchecks.intent,
      htarget, hcontent, hprecondition, ?_, ?_, hdeclared⟩
    · rwa [hcontent]
    · rwa [hcontent]
  · intro decision policy intent hdecided henabled hintent hunmatched
    cases htranslate : translate result request runId state with
    | error violation => exact ⟨violation, translateProposal_of_error htranslate⟩
    | ok checked =>
        -- Passed checks would have matched every requirement.
        obtain ⟨_, _, hchecks⟩ := translationChecks_of_translate htranslate
        cases hdecided.symm.trans hchecks.decided
        cases henabled.symm.trans hchecks.enabled
        cases hintent.symm.trans hchecks.intent
        obtain ⟨hmatched, hdeclared⟩ :=
          matched_of_preservation hchecks.target hchecks.preservation
        rcases hunmatched with ⟨requirement, hmem, hnot⟩ | ⟨id, hid, hnot⟩
        · exact absurd (hmatched requirement hmem) hnot
        · exact absurd (hdeclared id hid) hnot

end

end Eag.Gateway
