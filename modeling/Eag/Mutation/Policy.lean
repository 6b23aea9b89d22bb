/-
  Eag.Mutation.Policy

  `MutationPolicyValidator` (`mutation/policy.py`) over the files of a workspace.
  The sensitivity policy is a parameter: which paths it excludes, and how many
  redactions it makes in a text.

  A read that the file system refuses is a fault of the call and not modelled
  here.
-/

import Eag.Foundation.Checks
import Eag.Mutation.Models

namespace Eag.Mutation

open Eag.Foundation

/-! ## Files -/

/-- The bytes of a file: the text they decode to, or bytes that do not decode. -/
inductive FileData where
  | text (content : String)
  | undecodable (bytes : List UInt8)
  deriving DecidableEq, Repr

namespace FileData

/-- `len(data)`. -/
def size : FileData → Nat
  | .text content => content.utf8ByteSize
  | .undecodable bytes => bytes.length

/-- `b"\x00" in data`. -/
def hasNul : FileData → Bool
  | .text content => content.toList.any (· = Char.ofNat 0)
  | .undecodable bytes => bytes.any (· = 0)

end FileData

/-- What stands at a path. A symbolic link is known by whether it resolves. -/
inductive Entry where
  | directory
  | file (data : FileData)
  | symlink (resolves : Bool)
  | special
  deriving DecidableEq, Repr

/-- `path.exists()`, which follows links. -/
def Entry.stands : Entry → Bool
  | .symlink resolves => resolves
  | _ => true

/-- The files under the resolved root, and the device and inode of the root. -/
structure Workspace where
  rootIdentity : String
  entries : List String → Option Entry

namespace Workspace

/-- `path.exists()`. -/
def stands (ws : Workspace) (path : List String) : Bool :=
  ((ws.entries path).map Entry.stands).getD false

/-- The workspace with something else at a path. -/
def set (ws : Workspace) (path : List String) (entry : Option Entry) : Workspace :=
  { ws with entries := fun p => if p = path then entry else ws.entries p }

@[simp] theorem set_entries_self (ws : Workspace) (path : List String) (entry : Option Entry) :
    (ws.set path entry).entries path = entry := by
  simp [set]

theorem set_entries_of_ne (ws : Workspace) {path other : List String} (h : other ≠ path)
    (entry : Option Entry) : (ws.set path entry).entries other = ws.entries other := by
  simp [set, h]

theorem set_of_entries_eq (ws : Workspace) {path : List String} {entry : Option Entry}
    (h : ws.entries path = entry) : ws.set path entry = ws := by
  have hentries : (ws.set path entry).entries = ws.entries := by
    funext other
    by_cases hother : other = path
    · rw [hother, set_entries_self, h]
    · exact ws.set_entries_of_ne hother entry
  cases ws
  exact congrArg _ hentries

end Workspace

/-! ## Settings -/

/-- `MutationPolicySettings`. -/
structure MutationPolicySettings where
  maxContentBytes : Nat
  maxTargetBytes : Nat
  policyVersion : String
  limits_pos : 0 < maxContentBytes ∧ 0 < maxTargetBytes
  policyVersion_nonBlank : NonBlank policyVersion

/-- What the validator asks the sensitivity policy. -/
structure SensitivityPolicy where
  excludes : List String → Bool
  redactions : String → Nat

/-- The settings of a validator. -/
structure MutationPolicy where
  settings : MutationPolicySettings
  sensitivity : SensitivityPolicy

/-! ## Validation -/

/-- `_reject` of the policy. -/
def MutationPolicy.violation (policy : MutationPolicy) (code : MutationViolationCode)
    (message : String) (proposal : ChangeProposal) : MutationViolation where
  code := code
  stage := "mutation_policy"
  message := message
  targetPath := some proposal.targetPath
  policyVersion := policy.settings.policyVersion

/-- `PurePosixPath(raw).parts`: the names between separators, without empty ones and
    single dots. -/
def posixParts (raw : String) : List String :=
  ((raw.toList.splitOn '/').map String.ofList).filter fun part => part ≠ "" ∧ part ≠ "."

section

variable (policy : MutationPolicy) (ws : Workspace) (proposal : ChangeProposal)

/-- `_validate_relative_path`. -/
def validateRelativePath : Except MutationViolation (List String) := do
  let raw := proposal.targetPath
  let parts := posixParts raw
  require (raw.toList.head? ≠ some '/')
    (policy.violation .absolutePath "absolute target paths are forbidden" proposal)
  require (parts ≠ [] ∧ ".." ∉ parts)
    (policy.violation .pathTraversal "target path traversal is forbidden" proposal)
  require (Char.ofNat 0 ∉ raw.toList ∧ ∀ part ∈ parts, '\\' ∉ part.toList)
    (policy.violation .malformedProposal "target path is malformed" proposal)
  .ok parts

/-- The loop of `_resolve_safe_target` over the parents, from `current` down. -/
def resolveParents (current : List String) : List String → Except MutationViolation (List String)
  | [] => .ok current
  | component :: rest => do
      let current := current ++ [component]
      require (ws.stands current = true)
        (policy.violation .parentMissing "target parent directory does not exist" proposal)
      match ws.entries current with
      | some (.symlink _) =>
          .error (policy.violation .symlinkPath "symlink parent is forbidden" proposal)
      | some .directory => resolveParents current rest
      | _ => .error (policy.violation .pathEscape "target parent is not a directory" proposal)

/-- `_resolve_safe_target`. Its parents are directories and no links, so the final
    containment check never fails. -/
def resolveSafeTarget (relative : List String) : Except MutationViolation (List String) := do
  let parent ← resolveParents policy ws proposal [] relative.dropLast
  let target := parent ++ relative.getLast?.toList
  if let some (.symlink _) := ws.entries target then
    .error (policy.violation .symlinkPath "symlink target is forbidden" proposal)
  .ok target

/-- `_validate_content`. -/
def validateContent : Except MutationViolation Unit := do
  require (proposal.contentBytes ≤ policy.settings.maxContentBytes)
    (policy.violation .contentTooLarge "proposed content exceeds mutation size limit" proposal)
  require (policy.sensitivity.redactions proposal.content = 0)
    (policy.violation .sensitiveContent "proposed content contains sensitive material" proposal)

/-- The checks of an existing target, and its text. -/
def inspectTarget (entry : Entry) : Except MutationViolation String := do
  let notRegular := fun message => policy.violation .targetNotRegularFile message proposal
  match entry with
  | .file data => do
      require (data.size ≤ policy.settings.maxTargetBytes)
        (policy.violation .targetTooLarge "target file exceeds mutation size limit" proposal)
      require (data.hasNul = false) (notRegular "binary target files are not supported")
      match data with
      | .text content => .ok content
      | .undecodable _ => .error (notRegular "non-UTF-8 target files are not supported")
  | _ => .error (notRegular "target is not a regular file")

/-- `_validate_operation_state`, for the text that stands at the target. -/
def validateOperationState (current : Option String) : Except MutationViolation Unit :=
  match proposal.operation with
  | .createFile => do
      require (current = none)
        (policy.violation .createTargetExists "create proposal target already exists" proposal)
      require (proposal.precondition.expectExists = false)
        (policy.violation .preconditionMismatch
          "create proposal requires absent-target precondition" proposal)
  | .modifyFile => do
      require (current ≠ none)
        (policy.violation .modifyTargetMissing "modify proposal target is missing" proposal)
      require (proposal.precondition.expectExists = true)
        (policy.violation .preconditionMismatch
          "modify proposal requires existing-target precondition" proposal)
      require (current.map sha256Hex = proposal.precondition.expectedFingerprint)
        (policy.violation .preconditionStale
          "target fingerprint does not match proposal precondition" proposal)
  | .other _ =>
      .error (policy.violation .unsupportedOperation "operation is not supported" proposal)

/-- `workspace_fingerprint`. -/
def workspaceFingerprint : String := sha256Hex ws.rootIdentity

/-- What the policy finds at the target before it looks at the operation: the path,
    and the text that stands there. -/
def inspect : Except MutationViolation (List String × Option String) := do
  let relative ← validateRelativePath policy proposal
  let target ← resolveSafeTarget policy ws proposal relative
  require (policy.sensitivity.excludes target = false)
    (policy.violation .sensitivePath "target is protected by sensitivity policy" proposal)
  validateContent policy proposal
  match ws.entries target with
  | none => .ok (target, none)
  | some entry => do
      let content ← inspectTarget policy proposal entry
      .ok (target, some content)

/-- `MutationPolicyValidator.validate`. -/
def validate : Except MutationViolation ValidatedChangeProposal := do
  let (_, current) ← inspect policy ws proposal
  validateOperationState policy proposal current
  .ok {
    proposal := proposal
    targetFingerprint := current.map sha256Hex
    targetSize := (current.map String.utf8ByteSize).getD 0
    targetExists := current.isSome
    workspaceFingerprint := workspaceFingerprint ws }

end

/-! ## What is accepted -/

/-- The state the operation of a proposal requires of its target. -/
def PreconditionHolds (proposal : ChangeProposal) (current : Option String) : Prop :=
  match proposal.operation with
  | .createFile => current = none ∧ proposal.precondition.expectExists = false
  | .modifyFile =>
      proposal.precondition.expectExists = true ∧
      current.map sha256Hex = proposal.precondition.expectedFingerprint
  | .other _ => False

/-- A proposal the policy lets through in a workspace: nothing is wrong with its path,
    its content and what stands at its target, and its precondition holds there. -/
def Acceptable (policy : MutationPolicy) (ws : Workspace) (proposal : ChangeProposal) : Prop :=
  ∃ target current, inspect policy ws proposal = .ok (target, current) ∧
    PreconditionHolds proposal current

/-- A fingerprint that is expected is not empty, so a modified file exists. -/
theorem current_ne_none {proposal : ChangeProposal} {current : Option String}
    (hexists : proposal.precondition.expectExists = true)
    (hfp : current.map sha256Hex = proposal.precondition.expectedFingerprint) :
    current ≠ none := by
  rintro rfl
  have hne := proposal.precondition.fingerprint_of_exists hexists
  rw [← hfp] at hne
  exact hne rfl

theorem validateOperationState_eq_ok (policy : MutationPolicy) (proposal : ChangeProposal)
    (current : Option String) (u : Unit) :
    validateOperationState policy proposal current = .ok u ↔
      PreconditionHolds proposal current := by
  unfold validateOperationState PreconditionHolds
  cases proposal.operation with
  | createFile => simp only [except_bind_eq_ok, require_eq_ok, exists_and_left, exists_const]
  | modifyFile =>
      simp only [except_bind_eq_ok, require_eq_ok, exists_and_left, exists_const]
      constructor
      · rintro ⟨-, hexists, hfp⟩
        exact ⟨hexists, hfp⟩
      · rintro ⟨hexists, hfp⟩
        exact ⟨current_ne_none hexists hfp, hexists, hfp⟩
  | other _ => simp

/-- **What `validate` accepts**, and what it answers with. -/
theorem validate_eq_ok (policy : MutationPolicy) (ws : Workspace) (proposal : ChangeProposal)
    (validated : ValidatedChangeProposal) :
    validate policy ws proposal = .ok validated ↔
      ∃ target current, inspect policy ws proposal = .ok (target, current) ∧
        PreconditionHolds proposal current ∧
        validated = {
          proposal := proposal
          targetFingerprint := current.map sha256Hex
          targetSize := (current.map String.utf8ByteSize).getD 0
          targetExists := current.isSome
          workspaceFingerprint := workspaceFingerprint ws } := by
  simp only [validate, except_bind_eq_ok, validateOperationState_eq_ok]
  constructor
  · rintro ⟨⟨target, current⟩, hinspect, -, hpre, hvalidated⟩
    exact ⟨target, current, hinspect, hpre, (Except.ok.inj hvalidated).symm⟩
  · rintro ⟨target, current, hinspect, hpre, rfl⟩
    exact ⟨(target, current), hinspect, (), hpre, rfl⟩

/-! ## The target -/

/-- The parents are walked in order, so what is resolved is the path itself. -/
theorem resolveParents_eq_ok (policy : MutationPolicy) (ws : Workspace)
    (proposal : ChangeProposal) (components : List String) :
    ∀ {current parent : List String},
      resolveParents policy ws proposal current components = .ok parent →
      parent = current ++ components := by
  -- the walk extends `current` by one component a step
  induction components with
  | nil =>
      intro current parent h
      simp only [resolveParents, Except.ok.injEq] at h
      rw [List.append_nil, h]
  | cons component rest ih =>
      intro current parent h
      simp only [resolveParents, except_bind_eq_ok, require_eq_ok] at h
      obtain ⟨-, -, h⟩ := h
      split at h
      · cases h
      · rw [ih h, List.append_assoc, List.singleton_append]
      · cases h

theorem resolveSafeTarget_eq_ok {policy : MutationPolicy} {ws : Workspace}
    {proposal : ChangeProposal} {relative target : List String}
    (h : resolveSafeTarget policy ws proposal relative = .ok target) (hne : relative ≠ []) :
    target = relative := by
  simp only [resolveSafeTarget, except_bind_eq_ok] at h
  obtain ⟨parent, hparent, h⟩ := h
  have hpath : parent ++ relative.getLast?.toList = relative := by
    rw [resolveParents_eq_ok policy ws proposal _ hparent, List.nil_append,
      List.getLast?_eq_some_getLast hne]
    exact List.dropLast_append_getLast hne
  rw [hpath] at h
  split at h
  · cases h
  · exact (Except.ok.inj h).symm

/-- The path that was inspected is the path of the proposal, and the text found is the
    text that stands there. -/
theorem inspect_eq_ok {policy : MutationPolicy} {ws : Workspace} {proposal : ChangeProposal}
    {target : List String} {current : Option String}
    (h : inspect policy ws proposal = .ok (target, current)) :
    target = posixParts proposal.targetPath ∧
      ws.entries target = current.map fun content => .file (.text content) := by
  simp only [inspect, except_bind_eq_ok, require_eq_ok] at h
  obtain ⟨relative, hrelative, resolved, hresolved, -, -, -, -, h⟩ := h
  simp only [validateRelativePath, except_bind_eq_ok, require_eq_ok] at hrelative
  obtain ⟨-, -, -, ⟨hne, -⟩, -, -, hrelative⟩ := hrelative
  obtain rfl := Except.ok.inj hrelative
  obtain rfl := resolveSafeTarget_eq_ok hresolved hne
  split at h
  · next hnone =>
      obtain ⟨rfl, rfl⟩ := Prod.mk.inj (Except.ok.inj h)
      exact ⟨rfl, hnone⟩
  · next entry hentry =>
      simp only [except_bind_eq_ok] at h
      obtain ⟨content, hcontent, h⟩ := h
      obtain ⟨rfl, rfl⟩ := Prod.mk.inj (Except.ok.inj h)
      refine ⟨rfl, ?_⟩
      rw [hentry, Option.map_some]
      -- only a file whose bytes decode yields a text
      unfold inspectTarget at hcontent
      split at hcontent
      · simp only [except_bind_eq_ok, require_eq_ok] at hcontent
        obtain ⟨-, -, -, -, hcontent⟩ := hcontent
        split at hcontent
        · rw [Except.ok.inj hcontent]
        · cases hcontent
      · cases hcontent

end Eag.Mutation
