/-
  Eag.GovernedExecution.Verification

  `DeterministicVerifier` (`governed_execution/verification.py`) over a tree of files with
  symbolic links: the request and its specification, the walk to the target, what is observed
  there and how it is judged. Nothing changes the tree while it is verified.

  The execution context of a request, which is only compared with the run, is left out. The
  identity of a result is an argument.
-/

import Eag.Foundation.FileTree
import Eag.Mutation.Runtime

namespace Eag.GovernedExecution

open Eag.Foundation Eag.Mutation

/-- `VERIFICATION_CONTRACT_VERSION`. -/
def verificationContractVersion : String := "1.0"

/-! ## Vocabulary -/

/-- The only supported assertions. -/
inductive VerificationCheck where
  | exactContent
  | fileExists
  | fileAbsent
  | expectedFingerprint
  deriving DecidableEq, Repr

/-- Outcome of a verification. -/
inductive VerificationStatus where
  | passed
  | failed
  | notRun
  deriving DecidableEq, Repr

/-- Reasons of a verification that did not pass. -/
inductive VerificationFailureCode where
  | mutationNotSuccessful
  | targetPathMismatch
  | targetOutsideWorkspace
  | targetSymlink
  | targetTooLarge
  | targetReadFailed
  | assertionFailed
  deriving DecidableEq, Repr

/-! ## Requests -/

/-- `_validate_relative_path`. -/
def Confined (targetPath : String) : Prop :=
  NonBlank targetPath ∧ isAbsolutePath targetPath = false ∧
    ∀ part ∈ posixParts targetPath, IsPlain part

instance (targetPath : String) : Decidable (Confined targetPath) :=
  inferInstanceAs (Decidable (_ ∧ _ ∧ _))

/-- One trusted assertion. -/
structure VerificationSpecification where
  specificationId : String
  targetPath : String
  check : VerificationCheck
  expectedContent : Option String
  expectedFingerprint : Option String
  maxBytes : Nat
  version : String
  specificationId_nonBlank : NonBlank specificationId
  targetPath_confined : Confined targetPath
  maxBytes_pos : 1 ≤ maxBytes
  version_supported : version = verificationContractVersion
  of_exactContent : check = .exactContent → expectedFingerprint = none ∧
    ∃ content, expectedContent = some content ∧ content.utf8ByteSize ≤ maxBytes
  of_expectedFingerprint : check = .expectedFingerprint →
    expectedContent = none ∧ expectedFingerprint.getD "" ≠ ""
  of_existence : check = .fileExists ∨ check = .fileAbsent →
    expectedContent = none ∧ expectedFingerprint = none

/-- A request that binds a receipt to a specification. -/
structure VerificationRequest where
  requestId : String
  runId : String
  receipt : MutationReceipt
  specification : VerificationSpecification
  requestId_nonBlank : NonBlank requestId ∧ NonBlank runId
  receipt_nonBlank : NonBlank receipt.mutationId ∧ NonBlank receipt.runId ∧
    NonBlank receipt.targetPath
  runId_eq : runId = receipt.runId
  targetPath_eq : specification.targetPath = receipt.targetPath

/-- What was observed. -/
structure VerificationEvidence where
  targetPath : String
  check : VerificationCheck
  observedExists : Bool
  observedFingerprint : Option String
  observedBytes : Nat
  targetPath_confined : Confined targetPath
  observedFingerprint_length : ∀ digest, observedFingerprint = some digest →
    digest.toList.length = 64

/-- The outcome of a verification. -/
structure VerificationResult where
  verificationId : String
  requestId : String
  runId : String
  receiptId : String
  specificationId : String
  status : VerificationStatus
  evidence : Option VerificationEvidence
  failureCode : Option VerificationFailureCode
  version : String
  identities_nonBlank :
    ∀ identity ∈ [verificationId, requestId, runId, receiptId, specificationId],
      NonBlank identity
  passed_iff : status = .passed ↔ failureCode = none
  version_supported : version = verificationContractVersion

/-! ## Reading -/

/-- The reads of a verification that may raise `OSError`. -/
inductive VerifyRead where
  | stat
  | read
  | reread
  deriving DecidableEq, Repr

/-- One call of `verify`: its argument, the fresh identity of its result, and the reads that
    fail. -/
structure VerifyCall where
  request : VerificationRequest
  verificationId : String
  verificationId_nonBlank : NonBlank verificationId
  fails : VerifyRead → Bool

/-- `DeterministicVerifier`: its root, the tree it reads, and how deep calls may nest. -/
structure DeterministicVerifier where
  tree : FileTree ByteArray
  workspaceRoot : List String
  depth : Nat

/-- `_mutation_succeeded`. -/
def MutationSucceeded (receipt : MutationReceipt) : Prop :=
  receipt.result = .completed ∧ receipt.verificationPassed = true

instance (receipt : MutationReceipt) : Decidable (MutationSucceeded receipt) :=
  inferInstanceAs (Decidable (_ ∧ _))

/-- `bytes.decode("utf-8")` with the line ends translated, as `read_text` does. -/
def decodeText (bytes : ByteArray) : Option String :=
  (String.fromUTF8? bytes).map fun text => String.ofList (universalNewlines text.toList)

namespace DeterministicVerifier

variable (verifier : DeterministicVerifier)

/-- The loop of `_confined_target`: whether it meets a link that exists. -/
def meetsLink : List String → List String → Bool
  | _, [] => false
  | current, part :: rest =>
      if verifier.tree.pathExists (current ++ [part]) ∧
          verifier.tree.isSymlink (current ++ [part]) then true
      else meetsLink (current ++ [part]) rest

/-- The path of a target, as it is walked to. -/
def targetOf (targetPath : String) : List String :=
  verifier.workspaceRoot ++ posixParts targetPath

/-- `_confined_target`: the target, or why there is none. Errors of `resolve` leave it. -/
def confinedTarget (targetPath : String) :
    Except FileTree.ResolveError (Except VerificationFailureCode (List String)) :=
  if ¬Confined targetPath then .ok (.error .targetOutsideWorkspace)
  else if verifier.meetsLink verifier.workspaceRoot (posixParts targetPath) then
    .ok (.error .targetSymlink)
  else
    match verifier.tree.resolve false verifier.depth (verifier.targetOf targetPath) with
    | .error error => .error error
    | .ok resolved =>
        if verifier.workspaceRoot <+: resolved then .ok (.ok (verifier.targetOf targetPath))
        else .ok (.error .targetOutsideWorkspace)

/-- The evidence of an observation. -/
def evidence (specification : VerificationSpecification) (observedExists : Bool)
    (content : Option ByteArray) : VerificationEvidence where
  targetPath := specification.targetPath
  check := specification.check
  observedExists := observedExists
  observedFingerprint := content.map fun bytes => sha256HexBytes bytes.data.toList
  observedBytes := (content.map ByteArray.size).getD 0
  targetPath_confined := specification.targetPath_confined
  observedFingerprint_length := by
    intro digest hdigest
    obtain ⟨bytes, -, rfl⟩ := Option.map_eq_some_iff.mp hdigest
    exact (isDigest_sha256HexBytes _).1

/-- `_observe`. -/
def observe (fails : VerifyRead → Bool) (target : List String)
    (specification : VerificationSpecification) :
    Except VerificationFailureCode VerificationEvidence :=
  let targetExists := verifier.tree.pathExists target
  if specification.check = .fileAbsent then .ok (evidence specification targetExists none)
  else if targetExists = false then .ok (evidence specification false none)
  else
    match verifier.tree.fileData target with
    | none => .error .targetReadFailed
    | some content =>
        if fails .stat then .error .targetReadFailed
        else if specification.maxBytes < content.size then .error .targetTooLarge
        else if fails .read then .error .targetReadFailed
        else .ok (evidence specification true (some content))

/-- `_evaluate`. -/
def evaluate (fails : VerifyRead → Bool) (target : List String)
    (specification : VerificationSpecification) (evidence : VerificationEvidence) : Bool :=
  match specification.check with
  | .fileExists => evidence.observedExists
  | .fileAbsent => !evidence.observedExists
  | .expectedFingerprint =>
      evidence.observedExists && evidence.observedFingerprint == specification.expectedFingerprint
  | .exactContent =>
      evidence.observedExists && !fails .reread &&
        match (verifier.tree.fileData target).bind decodeText with
        | none => false
        | some text => some text == specification.expectedContent

/-- `_result`. -/
def result (call : VerifyCall) (evidence : Option VerificationEvidence)
    (outcome : Except (VerificationStatus × VerificationFailureCode) Unit)
    (houtcome : ∀ status code, outcome = .error (status, code) → status ≠ .passed) :
    VerificationResult where
  verificationId := call.verificationId
  requestId := call.request.requestId
  runId := call.request.runId
  receiptId := call.request.receipt.mutationId
  specificationId := call.request.specification.specificationId
  status := match outcome with
    | .ok () => .passed
    | .error (status, _) => status
  evidence := evidence
  failureCode := match outcome with
    | .ok () => none
    | .error (_, code) => some code
  version := verificationContractVersion
  identities_nonBlank := by
    simp [call.verificationId_nonBlank, call.request.requestId_nonBlank,
      call.request.receipt_nonBlank, call.request.specification.specificationId_nonBlank]
  passed_iff := by
    cases outcome with
    | ok u => simp
    | error failure => simp [houtcome failure.1 failure.2 rfl]
  version_supported := rfl

/-- `verify`. -/
def verify (call : VerifyCall) : Except FileTree.ResolveError VerificationResult := do
  let specification := call.request.specification
  let failed := fun evidence code =>
    result call evidence (.error (.failed, code)) (by rintro _ _ ⟨⟩; exact fun h => nomatch h)
  if ¬MutationSucceeded call.request.receipt then
    .ok (result call none (.error (.notRun, .mutationNotSuccessful))
      (by rintro _ _ ⟨⟩; exact fun h => nomatch h))
  else
    match ← verifier.confinedTarget specification.targetPath with
    | .error code => .ok (failed none code)
    | .ok target =>
        match verifier.observe call.fails target specification with
        | .error code => .ok (failed none code)
        | .ok evidence =>
            if verifier.evaluate call.fails target specification evidence then
              .ok (result call (some evidence) (.ok ()) (fun _ _ h => nomatch h))
            else .ok (failed (some evidence) .assertionFailed)

end DeterministicVerifier

end Eag.GovernedExecution
