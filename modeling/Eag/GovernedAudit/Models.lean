/-
  Eag.GovernedAudit.Models

  Audit envelopes of governed executions (`governed_audit/models.py`): the redacted records,
  the structural validation of an envelope, its payload and digest, and the decoder
  `from_payload`.

  A record digest is checked to be the digest of the rest of the envelope, so it is a
  function of the rest. The time of a record is written, compared and hashed by its
  instant, so it is kept in UTC.

  The evidence constructor asks `if self.digest`, so it keeps every falsy value. For one
  that is no text the decoder answers `untyped`, and nothing is said about what the source
  then goes on with.
-/

import Eag.Foundation.JsonRoundTrip
import Eag.GovernedExecution.Ledger
import Eag.GovernedTransitionControl.RecordPayload

namespace Eag.GovernedAudit

open Eag.Foundation Eag.GovernedExecution
open Eag.GovernedTransitionControl (DigestText IdentityText UtcTime PayloadFault field)

/-- `AUDIT_SCHEMA_VERSION`. -/
def auditSchemaVersion : String := "1.0"

/-- What escapes the constructors: `AuditIntegrityError`, the `OverflowError` of `astimezone`,
    or a plain `ValueError`; and the falsy digest that is not a text. -/
inductive AuditFault where
  | integrity
  | overflow
  | valueError
  | untyped
  deriving DecidableEq, Repr

/-- `AuditDisposition`. -/
inductive AuditDisposition where
  | terminal
  | interrupted
  deriving DecidableEq, Repr

def AuditDisposition.value : AuditDisposition → String
  | .terminal => "terminal"
  | .interrupted => "interrupted"

/-- The members in the order of the source. -/
def AuditDisposition.all : List AuditDisposition := [.terminal, .interrupted]

/-! ## Records -/

/-- `AuditEvidenceReference`; the empty digest is `none`. -/
@[ext]
structure AuditEvidenceReference where
  kind : ExecutionEvidenceKind
  referenceId : PyText
  digest : Option DigestText
  referenceId_nonBlank : referenceId.NonBlank

instance : DecidableEq AuditEvidenceReference := fun _ _ =>
  decidable_of_iff _ AuditEvidenceReference.ext_iff.symm

namespace AuditEvidenceReference

/-- The text of the digest. -/
def digestText (reference : AuditEvidenceReference) : PyText :=
  match reference.digest with
  | none => []
  | some digest => .ofString digest

/-- `to_payload`. -/
def toPayload (reference : AuditEvidenceReference) : Payload := .object
  [("digest", .str reference.digestText),
   ("kind", .text reference.kind.value),
   ("reference_id", .str reference.referenceId)]

end AuditEvidenceReference

/-- `AuditTransitionRecord`. -/
@[ext]
structure AuditTransitionRecord where
  sequence : Nat
  iteration : Nat
  fromState : GovernedExecutionState
  toState : GovernedExecutionState
  occurredAt : UtcTime
  reason : Option GovernedExecutionStopReason
  evidence : List AuditEvidenceReference
  sequence_pos : 1 ≤ sequence

instance : DecidableEq AuditTransitionRecord := fun _ _ =>
  decidable_of_iff _ AuditTransitionRecord.ext_iff.symm

namespace AuditTransitionRecord

/-- The payload of a stop reason. -/
def reasonPayload : Option GovernedExecutionStopReason → Payload
  | none => .null
  | some reason => .text reason.value

/-- `to_payload`. -/
def toPayload (record : AuditTransitionRecord) : Payload := .object
  [("evidence", .array (record.evidence.map AuditEvidenceReference.toPayload)),
   ("from_state", .text record.fromState.value),
   ("iteration", .int record.iteration),
   ("occurred_at", .text record.occurredAt.val.isoformat),
   ("reason", reasonPayload record.reason),
   ("sequence", .int record.sequence),
   ("to_state", .text record.toState.value)]

end AuditTransitionRecord

/-! ## Envelopes -/

/-- The arguments of an envelope, before its structure and its digest are checked. -/
structure EnvelopeFields where
  executionId : IdentityText
  runId : IdentityText
  goalDigest : DigestText
  disposition : AuditDisposition
  state : GovernedExecutionState
  iteration : Nat
  budget : ExecutionBudget
  history : List AuditTransitionRecord
  evidence : List AuditEvidenceReference
  deriving DecidableEq

/-- The accumulators of the loop in `_validate_structure`. -/
structure AuditReplay where
  expectedSequence : Nat
  expectedState : GovernedExecutionState
  expectedIteration : Nat
  flattened : List AuditEvidenceReference
  mutationEntries : Nat
  verificationEntries : Nat
  deriving DecidableEq

def AuditReplay.init : AuditReplay := ⟨1, .created, 0, [], 0, 0⟩

/-- One turn of the loop in `_validate_structure`. -/
def AuditReplay.step (r : AuditReplay) (record : AuditTransitionRecord) :
    Except String AuditReplay := do
  require (record.sequence = r.expectedSequence)
    "audit history sequence must be contiguous from one"
  require (record.fromState = r.expectedState) "audit history must remain contiguous"
  require (record.toState ∈ legalTransitions record.fromState)
    "audit history contains an illegal transition"
  let expectedIteration :=
    if record.toState = .contextAssembling then r.expectedIteration + 1
    else r.expectedIteration
  require (record.iteration = expectedIteration) "audit transition iteration is inconsistent"
  .ok {
    expectedSequence := r.expectedSequence + 1
    expectedState := record.toState
    expectedIteration := expectedIteration
    flattened := r.flattened ++ record.evidence
    mutationEntries :=
      if record.toState = .mutating then r.mutationEntries + 1 else r.mutationEntries
    verificationEntries :=
      if record.toState = .verifying then r.verificationEntries + 1
      else r.verificationEntries }

namespace EnvelopeFields

/-- The comparisons of `_validate_structure` after its loop. -/
def checkReplay (f : EnvelopeFields) (r : AuditReplay) : Except String Unit := do
  require (r.expectedState = f.state) "audit state must equal final history state"
  require (r.expectedIteration = f.iteration)
    "audit iteration must equal final history iteration"
  require (f.iteration = f.budget.iterationsUsed)
    "audit iteration must equal consumed iteration budget"
  require (r.mutationEntries = f.budget.mutationsUsed)
    "audit mutation count must equal consumed mutation budget"
  require (r.verificationEntries = f.budget.verificationsUsed)
    "audit verification count must equal consumed verification budget"
  require (r.flattened = f.evidence) "audit evidence must exactly flatten transition evidence"
  require (f.disposition = .terminal → f.state.isTerminal = true)
    "terminal audit disposition requires a terminal state"
  require (f.disposition = .interrupted → f.state.isTerminal = false)
    "interrupted audit disposition requires a nonterminal state"

/-- `_validate_structure`. -/
def validateStructure (f : EnvelopeFields) : Except String Unit := do
  require (f.history ≠ []) "audit history cannot be empty"
  let r ← f.history.foldlM AuditReplay.step AuditReplay.init
  f.checkReplay r

/-- The payload of a budget. -/
def budgetPayload (budget : ExecutionBudget) : Payload := .object
  [("iterations_used", .int budget.iterationsUsed),
   ("max_iterations", .int budget.maxIterations),
   ("max_mutations", .int budget.maxMutations),
   ("max_verifications", .int budget.maxVerifications),
   ("mutations_used", .int budget.mutationsUsed),
   ("verifications_used", .int budget.verificationsUsed)]

/-- The members of `_payload_without_digest`. -/
def payloadFields (f : EnvelopeFields) : List (String × Payload) :=
  [("budget", budgetPayload f.budget),
   ("disposition", .text f.disposition.value),
   ("evidence", .array (f.evidence.map AuditEvidenceReference.toPayload)),
   ("execution_id", .str f.executionId),
   ("goal_digest", .text f.goalDigest),
   ("history", .array (f.history.map AuditTransitionRecord.toPayload)),
   ("iteration", .int f.iteration),
   ("run_id", .str f.runId),
   ("schema_version", .text auditSchemaVersion),
   ("state", .text f.state.value)]

/-- `_payload_without_digest`. -/
def payloadWithoutDigest (f : EnvelopeFields) : Payload := .object f.payloadFields

/-- `calculate_digest`, where the payload can be written. -/
def calculateDigest (f : EnvelopeFields) : DigestText :=
  ⟨f.payloadWithoutDigest.digest, f.payloadWithoutDigest.isDigest_digest⟩

end EnvelopeFields

/-- `GovernedExecutionAuditEnvelope`. -/
structure GovernedExecutionAuditEnvelope extends EnvelopeFields where
  structured : toEnvelopeFields.validateStructure = .ok ()
  convertible : toEnvelopeFields.payloadWithoutDigest.Convertible
  deriving DecidableEq

namespace GovernedExecutionAuditEnvelope

/-- `record_digest`. -/
def recordDigest (envelope : GovernedExecutionAuditEnvelope) : DigestText :=
  envelope.calculateDigest

/-- `to_payload`. -/
def toPayload (envelope : GovernedExecutionAuditEnvelope) : Payload :=
  .object (envelope.payloadFields ++ [("record_digest", .text envelope.recordDigest)])

/-- The end of `__post_init__`; a digest that cannot be calculated is a `ValueError`. -/
def construct (f : EnvelopeFields) (recordDigest : DigestText) :
    Except AuditFault GovernedExecutionAuditEnvelope :=
  if hstructured : f.validateStructure = .ok () then
    if hconvertible : f.payloadWithoutDigest.Convertible then
      if recordDigest = f.calculateDigest then .ok ⟨f, hstructured, hconvertible⟩
      else .error .integrity
    else .error .valueError
  else .error .integrity

theorem construct_eq_ok {f : EnvelopeFields} {digest : DigestText}
    {envelope : GovernedExecutionAuditEnvelope} :
    construct f digest = .ok envelope ↔
      envelope.toEnvelopeFields = f ∧ digest = envelope.recordDigest := by
  unfold construct
  constructor
  · intro h
    split at h
    · split at h
      · split at h
        · next hdigest =>
            obtain rfl := Except.ok.inj h
            exact ⟨rfl, hdigest⟩
        · cases h
      · cases h
    · cases h
  · rintro ⟨rfl, rfl⟩
    rw [dif_pos envelope.structured, dif_pos envelope.convertible]
    exact if_pos rfl

end GovernedExecutionAuditEnvelope

/-! ## Readers -/

/-- What the readers of `GovernedTransitionControl` raise, which check the same. -/
def lifted {α : Type} : Except PayloadFault α → Except AuditFault α
  | .ok a => .ok a
  | .error .corruption => .error .integrity
  | .error .overflow => .error .overflow

@[simp] theorem lifted_eq_ok {α : Type} {x : Except PayloadFault α} {a : α} :
    lifted x = .ok a ↔ x = .ok a := by
  cases x with
  | ok b => simp [lifted]
  | error fault => cases fault <;> simp [lifted]

/-- `_require_non_empty`. -/
def requireNonEmpty (value : PyValue) : Except AuditFault IdentityText :=
  lifted (GovernedTransitionControl.requireNonEmpty (some value))

/-- `_require_digest`. -/
def requireDigest (value : PyValue) : Except AuditFault DigestText :=
  lifted (GovernedTransitionControl.requireDigest (some value))

/-- `_timestamp_from_text`. -/
def timestampFromText (value : PyValue) : Except AuditFault UtcTime :=
  lifted (GovernedTransitionControl.parsedTime (some value) >>=
    GovernedTransitionControl.canonicalTimestamp)

/-- `payload[key]`. -/
def present (entries : PyEntries) (key : String) : Except AuditFault PyValue :=
  match field entries key with
  | none => .error .integrity
  | some value => .ok value

/-- The member of an enumeration with this value. -/
def enumMember {α : Type} (all : List α) (text : α → String) : PyValue → Except AuditFault α
  | .str t =>
      match all.find? fun member => t = .ofString (text member) with
      | some member => .ok member
      | none => .error .integrity
  | _ => .error .integrity

/-- An integer of at least this size that is not a boolean. -/
def natural (least : Nat) : PyValue → Except AuditFault Nat
  | .int n => if (least : Int) ≤ n then .ok n.toNat else .error .integrity
  | _ => .error .integrity

/-- `schema_version != AUDIT_SCHEMA_VERSION`. -/
def requireSchema : PyValue → Except AuditFault Unit
  | .str t => require (t = .ofString auditSchemaVersion) .integrity
  | _ => .error .integrity

/-- The decimal literal is rounded to the double zero. -/
def roundsToZero (digits : Nat) (exponent : Int) : Bool :=
  digits = 0 || (exponent < 0 && digits * 2 ^ 1075 ≤ 10 ^ exponent.natAbs)

/-- A value that is false in a condition. -/
def isFalsy : PyValue → Bool
  | .none | .bool false | .int 0 | .str [] | .list .nil | .dict .nil => true
  | .float (.decimal _ digits exponent) => roundsToZero digits exponent
  | _ => false

/-- The digest of `AuditEvidenceReference.from_payload`. -/
def evidenceDigest : Option PyValue → Except AuditFault (Option DigestText)
  | none => .ok none
  | some value =>
      if value matches .str [] then .ok none
      else if isFalsy value then .error .untyped
      else (requireDigest value).map some

/-- `AuditEvidenceReference.from_payload`. -/
def AuditEvidenceReference.fromPayload : PyValue → Except AuditFault AuditEvidenceReference
  | .dict entries => do
      let kind ← present entries "kind"
      let kind ← enumMember ExecutionEvidenceKind.all ExecutionEvidenceKind.value kind
      let referenceId ← present entries "reference_id"
      let referenceId ← requireNonEmpty referenceId
      let digest ← evidenceDigest (field entries "digest")
      .ok ⟨kind, referenceId.val, digest, referenceId.property⟩
  | _ => .error .integrity

/-- The items of a list value. -/
def listItems : PyValue → Except AuditFault (List PyValue)
  | .list items => .ok items.toList
  | _ => .error .integrity

/-- The stop reason of `AuditTransitionRecord.from_payload`. -/
def readReason : Option PyValue → Except AuditFault (Option GovernedExecutionStopReason)
  | none | some .none => .ok none
  | some value =>
      (enumMember GovernedExecutionStopReason.all GovernedExecutionStopReason.value value).map some

/-- `AuditTransitionRecord.from_payload`. -/
def AuditTransitionRecord.fromPayload : PyValue → Except AuditFault AuditTransitionRecord
  | .dict entries => do
      let evidence ← listItems ((field entries "evidence").getD (.list .nil))
      let sequence ← present entries "sequence"
      let iteration ← present entries "iteration"
      let fromState ← present entries "from_state"
      let fromState ← enumMember GovernedExecutionState.all GovernedExecutionState.value fromState
      let toState ← present entries "to_state"
      let toState ← enumMember GovernedExecutionState.all GovernedExecutionState.value toState
      let occurredAt ← present entries "occurred_at"
      let occurredAt ← timestampFromText occurredAt
      let reason ← readReason (field entries "reason")
      let evidence ← evidence.mapM AuditEvidenceReference.fromPayload
      let sequence ← natural 1 sequence
      let iteration ← natural 0 iteration
      let positive ← ensure (1 ≤ sequence) .integrity
      .ok {
        sequence := sequence
        iteration := iteration
        fromState := fromState
        toState := toState
        occurredAt := occurredAt
        reason := reason
        evidence := evidence
        sequence_pos := positive.down }
  | _ => .error .integrity

/-- `ExecutionBudget(...)` with the counters of a payload. -/
def readBudget : PyValue → Except AuditFault ExecutionBudget
  | .dict entries => do
      let maxIterations ← present entries "max_iterations"
      let maxMutations ← present entries "max_mutations"
      let maxVerifications ← present entries "max_verifications"
      let iterationsUsed ← present entries "iterations_used"
      let mutationsUsed ← present entries "mutations_used"
      let verificationsUsed ← present entries "verifications_used"
      let maxIterations ← natural 1 maxIterations
      let maxMutations ← natural 1 maxMutations
      let maxVerifications ← natural 1 maxVerifications
      let iterationsUsed ← natural 0 iterationsUsed
      let mutationsUsed ← natural 0 mutationsUsed
      let verificationsUsed ← natural 0 verificationsUsed
      let fits ← ensure ((1 ≤ maxIterations ∧ 1 ≤ maxMutations ∧ 1 ≤ maxVerifications) ∧
        iterationsUsed ≤ maxIterations ∧ mutationsUsed ≤ maxMutations ∧
        verificationsUsed ≤ maxVerifications) .integrity
      .ok {
        maxIterations := maxIterations
        maxMutations := maxMutations
        maxVerifications := maxVerifications
        iterationsUsed := iterationsUsed
        mutationsUsed := mutationsUsed
        verificationsUsed := verificationsUsed
        maxIterations_pos := fits.down.1.1
        maxMutations_pos := fits.down.1.2.1
        maxVerifications_pos := fits.down.1.2.2
        iterationsUsed_le := fits.down.2.1
        mutationsUsed_le := fits.down.2.2.1
        verificationsUsed_le := fits.down.2.2.2 }
  | _ => .error .integrity

namespace GovernedExecutionAuditEnvelope

/-- A plain `ValueError` inside `from_payload` becomes an `AuditIntegrityError`. -/
def wrapped {α : Type} : Except AuditFault α → Except AuditFault α
  | .error .valueError => .error .integrity
  | result => result

/-- `from_payload`. -/
def fromPayload : PyValue → Except AuditFault GovernedExecutionAuditEnvelope
  | .dict entries => do
      let budget ← present entries "budget"
      let history ← present entries "history"
      let evidence ← present entries "evidence"
      let history ← listItems history
      let evidence ← listItems evidence
      let schemaVersion ← present entries "schema_version"
      let executionId ← present entries "execution_id"
      let runId ← present entries "run_id"
      let goalDigest ← present entries "goal_digest"
      let disposition ← present entries "disposition"
      let disposition ← enumMember AuditDisposition.all AuditDisposition.value disposition
      let state ← present entries "state"
      let state ← enumMember GovernedExecutionState.all GovernedExecutionState.value state
      let iteration ← present entries "iteration"
      let budget ← readBudget budget
      let history ← history.mapM AuditTransitionRecord.fromPayload
      let evidence ← evidence.mapM AuditEvidenceReference.fromPayload
      let recordDigest ← present entries "record_digest"
      requireSchema schemaVersion
      let executionId ← requireNonEmpty executionId
      let runId ← requireNonEmpty runId
      let goalDigest ← requireDigest goalDigest
      let iteration ← natural 0 iteration
      let recordDigest ← requireDigest recordDigest
      wrapped (construct
        ⟨executionId, runId, goalDigest, disposition, state, iteration, budget, history, evidence⟩
        recordDigest)
  | _ => .error .integrity

end GovernedExecutionAuditEnvelope

/-! ## Projection -/

/-- The audit reference of an evidence reference. -/
def AuditEvidenceReference.ofReference (reference : ExecutionEvidenceRef) :
    Except AuditFault AuditEvidenceReference := do
  let digest ← evidenceDigest (some (.str reference.digest))
  .ok ⟨reference.kind, reference.referenceId, digest, reference.referenceId_nonBlank⟩

/-- The audit record of a ledger record. -/
def AuditTransitionRecord.ofRecord (record : ExecutionTransitionRecord) :
    Except AuditFault AuditTransitionRecord := do
  let evidence ← record.evidence.mapM AuditEvidenceReference.ofReference
  let occurredAt ← lifted (GovernedTransitionControl.canonicalTimestamp record.occurredAt)
  .ok {
    sequence := record.sequence
    iteration := record.iteration
    fromState := record.fromState
    toState := record.toState
    occurredAt := occurredAt
    reason := record.reason
    evidence := evidence
    sequence_pos := record.sequence_pos }

theorem isDigest_goalDigest (text : List Char) : IsDigest (sha256Hex (String.ofList text)) :=
  isDigest_sha256Hex _

/-- `hashlib.sha256(context.goal.encode("utf-8")).hexdigest()`. -/
def goalDigest (goal : PyText) : Except AuditFault DigestText :=
  match goal.scalars? with
  | none => .error .valueError
  | some text => .ok ⟨sha256Hex (String.ofList text), isDigest_goalDigest text⟩

/-- `from_context`. -/
def GovernedExecutionAuditEnvelope.fromContext (context : GovernedExecutionContext)
    (disposition : Option AuditDisposition) : Except AuditFault GovernedExecutionAuditEnvelope := do
  let resolved := disposition.getD (if context.state.isTerminal then .terminal else .interrupted)
  let history ← context.history.mapM AuditTransitionRecord.ofRecord
  let goal ← goalDigest context.goal
  let executionId ← ensure context.executionId.NonBlank .integrity
  let runId ← ensure context.runId.NonBlank .integrity
  let draft : EnvelopeFields :=
    { executionId := ⟨context.executionId, executionId.down⟩
      runId := ⟨context.runId, runId.down⟩
      goalDigest := goal
      disposition := resolved
      state := context.state
      iteration := context.iteration
      budget := context.budget
      history := history
      evidence := history.flatMap (·.evidence) }
  require draft.payloadWithoutDigest.Convertible .valueError
  construct draft draft.calculateDigest

end Eag.GovernedAudit
