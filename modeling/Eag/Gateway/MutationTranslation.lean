/-
  Eag.Gateway.MutationTranslation

  The checks between a governed decision and one change proposal
  (`chief/intelligence/gateway/mutation_translation.py`, `translate`). The proposal
  that is built after the checks is left out.

  The trusted state shows the workspace through a view: what the file system calls
  answer at the moment of the translation.
-/

import Eag.Gateway.Runtime
import Eag.Mutation.Models

namespace Eag.Gateway

open Eag.Foundation Eag.Mutation

/-! ## Violations -/

/-- Failure categories at the boundary. -/
inductive TranslationViolationCode where
  | gatewayResultInvalid
  | mutationModeDisabled
  | mutationIntentCountInvalid
  | mutationIntentStepInvalid
  | mutationIntentDependenciesForbidden
  | mutationOperationUnsupported
  | targetPathInvalid
  | targetParentInvalid
  | targetNotRegularFile
  | targetNotUtf8
  | sensitiveTarget
  | trustedBindingInvalid
  | preservationRequirementInvalid
  deriving DecidableEq, Repr

/-- A redacted translation rejection. -/
structure TranslationViolation where
  code : TranslationViolationCode
  message : String
  targetPath : Option PyText
  deriving DecidableEq, Repr

/-- `_reject`. -/
def reject {α : Type} (code : TranslationViolationCode) (message : String)
    (targetPath : Option PyText) : Except TranslationViolation α :=
  .error ⟨code, message, targetPath⟩

/-! ## The trusted state -/

/-- What `lstat` shows of a path. -/
inductive FileKind where
  | symbolicLink
  | directory
  | regularFile
  | other
  deriving DecidableEq, Repr

/-- What the file system answers about the paths below the root. -/
structure WorkspaceView where
  /-- `path.exists()`, which follows links. -/
  pathExists : List PyText → Bool
  /-- `path.lstat().st_mode`. -/
  kind : List PyText → FileKind
  /-- The path resolves to one below the root. -/
  confined : List PyText → Bool
  /-- The sensitivity policy excludes the path. -/
  excluded : List PyText → Bool
  /-- `path.read_bytes()`. -/
  bytes : List PyText → List UInt8

/-- Trusted bindings supplied outside provider control. -/
structure TrustedWorkspaceState where
  view : WorkspaceView
  repositorySnapshotFingerprint : String
  contextFingerprint : String
  policyVersion : String
  repositorySnapshotFingerprint_nonBlank : NonBlank repositorySnapshotFingerprint
  contextFingerprint_nonBlank : NonBlank contextFingerprint
  policyVersion_nonBlank : NonBlank policyVersion

/-- What `read_target_state` returns: the content when the target exists; its
    fingerprint is the digest of the content. -/
abbrev TargetState := Option String

/-- `_safe_relative_path`. -/
def safeRelativePath (value : PyText) : Except TranslationViolation (List PyText) :=
  if isUnsafeRelativePath value then reject .targetPathInvalid "target path is invalid" value
  else .ok value.posixParts

namespace TrustedWorkspaceState

variable (state : TrustedWorkspaceState) (targetPath : PyText)

/-- The walk over the parent directories: `current` is the directory reached. -/
def checkParents : List PyText → List PyText → Except TranslationViolation Unit
  | _, [] => .ok ()
  | current, component :: rest =>
      let next := current ++ [component]
      if state.view.pathExists next = false then
        reject .targetParentInvalid "target parent directory does not exist" targetPath
      else if state.view.kind next ≠ .directory then
        reject .targetParentInvalid "target parent is not a safe directory" targetPath
      else checkParents next rest

/-- The content of an existing target. -/
def readContent (parts : List PyText) : Except TranslationViolation TargetState :=
  if state.view.kind parts ≠ .regularFile then
    reject .targetNotRegularFile "target is not a safe regular file" targetPath
  else
    let data := state.view.bytes parts
    if 0 ∈ data then
      reject .targetNotUtf8 "target is not a supported UTF-8 text file" targetPath
    else
      match String.fromUTF8? ⟨data.toArray⟩ with
      | none => reject .targetNotUtf8 "target is not a supported UTF-8 text file" targetPath
      | some content => .ok (some content)

/-- `read_target_state`. -/
def readTargetState : Except TranslationViolation TargetState := do
  let parts ← safeRelativePath targetPath
  state.checkParents targetPath [] parts.dropLast
  if state.view.confined parts.dropLast = false then
    reject .targetPathInvalid "target path escapes the trusted workspace root" targetPath
  else if state.view.excluded parts then
    reject .sensitiveTarget "target is protected by sensitivity policy" targetPath
  else if state.view.pathExists parts = false then .ok none
  else state.readContent targetPath parts

end TrustedWorkspaceState

/-! ## The translator -/

/-- `_validate_trusted_bindings`. -/
def validateTrustedBindings (request : EngineeringDecisionRequest)
    (state : TrustedWorkspaceState) : Except TranslationViolation Unit := do
  require (((request.context.truncationMetadata.lookup "snapshot_fingerprint").bind Json.str?) =
      some state.repositorySnapshotFingerprint)
    ⟨.trustedBindingInvalid,
      "trusted repository snapshot binding does not match the governed request", none⟩
  require (((request.context.truncationMetadata.lookup "context_fingerprint").bind Json.str?) =
      some state.contextFingerprint)
    ⟨.trustedBindingInvalid, "trusted context binding does not match the governed request",
      none⟩

/-- `_validate_intent_shape`. -/
def validateIntentShape (intent : MutationIntent) (decision : EngineeringDecision)
    (mutationCapabilityId : String) (allowedOperations : List String) :
    Except TranslationViolation Unit := do
  match stepOf? decision intent.stepId with
  | none =>
      reject .mutationIntentStepInvalid
        "mutation intent does not match the configured mutation step" intent.targetPath
  | some step =>
      require (step.capabilityId = .ofString mutationCapabilityId)
        ⟨.mutationIntentStepInvalid,
          "mutation intent does not match the configured mutation step", intent.targetPath⟩
      require (step.dependencies = [] ∧ intent.dependencies = [])
        ⟨.mutationIntentDependenciesForbidden, "mutation intent dependencies are not supported",
          intent.targetPath⟩
  require (intent.operation ∈ allowedOperations.map PyText.ofString)
    ⟨.mutationOperationUnsupported, "mutation intent operation is not supported",
      intent.targetPath⟩
  let _ ← safeRelativePath intent.targetPath

/-- The loop over the preservation requirements. -/
def validatePrefixes (intent : MutationIntent) (content : String) :
    List PreservationRequirement → Except TranslationViolation Unit
  | [] => .ok ()
  | requirement :: rest => do
      require (requirement.requiredPrefix.toList <+: content.toList)
        ⟨.preservationRequirementInvalid,
          "trusted preservation requirement does not match the current target",
          intent.targetPath⟩
      require (intent.proposedContent.startsWith (.ofString requirement.requiredPrefix) = true)
        ⟨.preservationRequirementInvalid,
          "proposed replacement omits required preserved leading content", intent.targetPath⟩
      validatePrefixes intent content rest

/-- The part of `_validate_preservation` about the texts. -/
def validateLeadingContent (intent : MutationIntent) :
    List PreservationRequirement → TargetState → Except TranslationViolation Unit
  | [], _ => .ok ()
  | _ :: _, none =>
      reject .preservationRequirementInvalid
        "trusted preservation requirements need an existing text target" intent.targetPath
  | r :: rest, some content => validatePrefixes intent content (r :: rest)

/-- `_validate_preservation`. -/
def validatePreservation (intent : MutationIntent)
    (requirements : List PreservationRequirement) (target : TargetState) :
    Except TranslationViolation Unit := do
  let expected := requirementIds requirements
  require ((∀ id ∈ intent.preservationRequirementIds, id ∈ expected) ∧
      ∀ id ∈ expected, id ∈ intent.preservationRequirementIds)
    ⟨.preservationRequirementInvalid,
      "mutation intent preservation bindings do not match trusted requirements",
      intent.targetPath⟩
  validateLeadingContent intent requirements target

/-- `MutationOperation(value)`. -/
def mutationOperation? (value : PyText) : Option MutationOperation :=
  [MutationOperation.createFile, .modifyFile].find? fun operation =>
    value = .ofString operation.value

/-- `_operation`. -/
def operationOf (intent : MutationIntent) : Except TranslationViolation MutationOperation :=
  match mutationOperation? intent.operation with
  | some operation => .ok operation
  | none =>
      reject .mutationOperationUnsupported
        "mutation intent operation is not supported by the mutation boundary" intent.targetPath

/-- What the checks hand to the proposal. -/
structure Translatable where
  intent : MutationIntent
  operation : MutationOperation
  target : TargetState

/-- The checks of `translate`, in their order. -/
def translate (result : EngineeringDecisionResult) (request : EngineeringDecisionRequest)
    (runId : String) (state : TrustedWorkspaceState) :
    Except TranslationViolation Translatable :=
  match result.success, result.decision, result.error with
  | true, some decision, none => do
      require (NonBlank runId)
        ⟨.trustedBindingInvalid, "trusted run identity is required", none⟩
      validateTrustedBindings request state
      match request.mutationIntentPolicy with
      | none =>
          reject .mutationModeDisabled
            "mutation intent mode is not enabled for this request" none
      | some policy =>
          match decision.mutationIntents with
          | [intent] => do
              validateIntentShape intent decision policy.capabilityId policy.allowedOperations
              let target ← state.readTargetState intent.targetPath
              let operation ← operationOf intent
              validatePreservation intent policy.preservationRequirements target
              return ⟨intent, operation, target⟩
          | _ =>
              reject .mutationIntentCountInvalid "exactly one mutation intent is required" none
  | _, _, _ =>
      reject .gatewayResultInvalid "translation requires a successful governed decision result"
        none

end Eag.Gateway
