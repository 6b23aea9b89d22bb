/-
  Eag.GovernedAudit.Projection

  Which envelopes the audit accepts. The structural validation in closed form: each record
  follows the records before it (`Follows`), and the counters are those of the history
  (`Structured`). An envelope is the projection of a context exactly when its stop reasons are
  admissible and its goal digest is that of a goal (`projected_iff`). The decoder reads the
  payload of every envelope back (`fromPayload_toPayload`).
-/

import Mathlib.Data.Fintype.Basic
import Eag.Foundation.Interleaving
import Eag.GovernedAudit.Models

namespace Eag.GovernedAudit

open Eag.Foundation Eag.GovernedExecution
open Eag.GovernedTransitionControl (DigestText IdentityText UtcTime PayloadFault field)

/-! ## Legal steps -/

/-- What the order of a history is about. -/
structure Step where
  sequence : Nat
  iteration : Nat
  fromState : GovernedExecutionState
  toState : GovernedExecutionState
  deriving DecidableEq, Repr

/-- The step of a ledger record. -/
def ledgerStep (record : ExecutionTransitionRecord) : Step :=
  ⟨record.sequence, record.iteration, record.fromState, record.toState⟩

/-- The step of an audit record. -/
def AuditTransitionRecord.step (record : AuditTransitionRecord) : Step :=
  ⟨record.sequence, record.iteration, record.fromState, record.toState⟩

/-- The state that a sequence of entered states ends in. -/
def finalState (entered : List GovernedExecutionState) : GovernedExecutionState :=
  entered.getLast?.getD .created

/-- A step goes on from the states entered before it. -/
structure Follows (entered : List GovernedExecutionState) (step : Step) : Prop where
  sequence : step.sequence = entered.length + 1
  fromState : step.fromState = finalState entered
  legal : step.toState ∈ legalTransitions step.fromState
  iteration : step.iteration = (entered ++ [step.toState]).count .contextAssembling

/-- Each step follows the ones before it. -/
def LegalSteps (steps : List Step) : Prop :=
  AtEach (fun before step => Follows (before.map Step.toState) step) steps

theorem legalSteps_nil : LegalSteps [] := atEach_nil _

theorem legalSteps_snoc {steps : List Step} {step : Step} :
    LegalSteps (steps ++ [step]) ↔ LegalSteps steps ∧ Follows (steps.map Step.toState) step :=
  ⟨AtEach.of_snoc, fun h => AtEach.snoc h.1 h.2⟩

/-! ## The ledger -/

/-- The states that a ledger history enters. -/
def ledgerStates (h : List ExecutionTransitionRecord) : List GovernedExecutionState :=
  (h.map ledgerStep).map Step.toState

theorem ledgerStates_eq (h : List ExecutionTransitionRecord) :
    ledgerStates h = h.map (·.toState) := by
  rw [ledgerStates, List.map_map]
  rfl

theorem lastState_eq (h : List ExecutionTransitionRecord) :
    lastState h = finalState (ledgerStates h) := by
  rw [lastState, finalState, ledgerStates_eq, List.getLast?_map]

theorem entries_eq (state : GovernedExecutionState) (h : List ExecutionTransitionRecord) :
    entries state h = (ledgerStates h).count state := by
  rw [entries, ledgerStates_eq, List.count, List.countP_map]
  congr 1

/-- **What the ledger asks of a record**: that it follows, with an admissible stop reason. -/
theorem recordFits_iff {h : List ExecutionTransitionRecord} {record : ExecutionTransitionRecord} :
    RecordFits (Replay.of h) record ↔
      Follows (ledgerStates h) (ledgerStep record) ∧ Admissible record.toState record.reason := by
  have hcount : (ledgerStates h ++ [record.toState]).count .contextAssembling =
      entries .contextAssembling h + entryCount .contextAssembling record.toState := by
    rw [List.count_append, entries_eq, entryCount, List.count_singleton]
    by_cases hs : record.toState = .contextAssembling
    · rw [if_pos hs, if_pos (beq_iff_eq.mpr hs)]
    · rw [if_neg hs, if_neg fun hb => hs (beq_iff_eq.mp hb)]
  have hlength : (ledgerStates h).length = h.length := by
    rw [ledgerStates_eq, List.length_map]
  constructor
  · intro fits
    have hfrom : record.fromState = finalState (ledgerStates h) := by
      rw [← lastState_eq]
      exact fits.fromState
    refine ⟨⟨?_, hfrom, ?_, ?_⟩, fits.reason⟩
    · rw [hlength]
      exact fits.sequence
    · have hlegal := of_decide_eq_true fits.legal
      rw [← fits.fromState] at hlegal
      exact hlegal
    · exact fits.iteration.trans hcount.symm
  · rintro ⟨hfollows, hreason⟩
    have hfrom : record.fromState = lastState h := by
      rw [lastState_eq]
      exact hfollows.fromState
    have hsequence := hfollows.sequence
    rw [hlength] at hsequence
    refine ⟨hsequence, hfrom, decide_eq_true ?_, ?_, hreason⟩
    · have hlegal : record.toState ∈ legalTransitions record.fromState := hfollows.legal
      rw [hfrom] at hlegal
      exact hlegal
    · exact hfollows.iteration.trans hcount

/-- **A ledger history is legal** when its steps are and its stop reasons are admissible. -/
theorem legalLedger_iff_legalSteps (h : List ExecutionTransitionRecord) :
    LegalLedger h ↔ LegalSteps (h.map ledgerStep) ∧
      ∀ record ∈ h, Admissible record.toState record.reason := by
  induction h using List.reverseRecOn with
  | nil => exact ⟨fun _ => ⟨legalSteps_nil, fun _ hr => nomatch hr⟩, fun _ => .nil⟩
  | append_singleton h record ih =>
      rw [legalLedger_append_singleton, ih, recordFits_iff, List.map_append, List.map_singleton,
        legalSteps_snoc, List.forall_mem_append, List.forall_mem_singleton]
      constructor
      · rintro ⟨⟨hsteps, hreasons⟩, hfollows, hreason⟩
        exact ⟨⟨hsteps, hfollows⟩, hreasons, hreason⟩
      · rintro ⟨⟨hsteps, hfollows⟩, hreasons, hreason⟩
        exact ⟨⟨hsteps, hreasons⟩, hfollows, hreason⟩

/-! ## The audit -/

/-- The states that an audit history enters. -/
def auditStates (h : List AuditTransitionRecord) : List GovernedExecutionState :=
  (h.map AuditTransitionRecord.step).map Step.toState

theorem auditStates_append (h : List AuditTransitionRecord) (record : AuditTransitionRecord) :
    auditStates (h ++ [record]) = auditStates h ++ [record.toState] := by
  rw [auditStates, List.map_append, List.map_append]
  rfl

/-- The accumulators after reading the whole history. -/
def AuditReplay.of (h : List AuditTransitionRecord) : AuditReplay where
  expectedSequence := (auditStates h).length + 1
  expectedState := finalState (auditStates h)
  expectedIteration := (auditStates h).count .contextAssembling
  flattened := h.flatMap (·.evidence)
  mutationEntries := (auditStates h).count .mutating
  verificationEntries := (auditStates h).count .verifying

theorem count_snoc (state : GovernedExecutionState) (entered : List GovernedExecutionState)
    (next : GovernedExecutionState) : (entered ++ [next]).count state =
      if next = state then entered.count state + 1 else entered.count state := by
  rw [List.count_append, List.count_singleton]
  by_cases hs : next = state
  · rw [if_pos hs, if_pos (beq_iff_eq.mpr hs)]
  · rw [if_neg hs, if_neg fun hb => hs (beq_iff_eq.mp hb), Nat.add_zero]

/-- **Step**: what one turn asks, and where it leaves the accumulators. -/
theorem AuditReplay.step_of_eq_ok (h : List AuditTransitionRecord)
    (record : AuditTransitionRecord) (r' : AuditReplay) :
    (AuditReplay.of h).step record = .ok r' ↔
      Follows (auditStates h) record.step ∧ r' = AuditReplay.of (h ++ [record]) := by
  have hnext : ({
        expectedSequence := (AuditReplay.of h).expectedSequence + 1
        expectedState := record.toState
        expectedIteration := if record.toState = .contextAssembling then
          (AuditReplay.of h).expectedIteration + 1 else (AuditReplay.of h).expectedIteration
        flattened := (AuditReplay.of h).flattened ++ record.evidence
        mutationEntries := if record.toState = .mutating then
          (AuditReplay.of h).mutationEntries + 1 else (AuditReplay.of h).mutationEntries
        verificationEntries := if record.toState = .verifying then
          (AuditReplay.of h).verificationEntries + 1
          else (AuditReplay.of h).verificationEntries } : AuditReplay) =
      AuditReplay.of (h ++ [record]) := by
    simp only [AuditReplay.of, auditStates_append, count_snoc, List.length_append,
      List.length_singleton, List.flatMap_append, List.flatMap_cons, List.flatMap_nil,
      List.append_nil, finalState, List.getLast?_concat, Option.getD_some]
  unfold AuditReplay.step
  simp only [except_bind_eq_ok, require_eq_ok, exists_const, hnext, Except.ok.injEq]
  constructor
  · rintro ⟨hsequence, hfrom, hlegal, hiteration, hr⟩
    refine ⟨⟨hsequence, hfrom, hlegal, ?_⟩, hr.symm⟩
    rw [count_snoc]
    exact hiteration
  · rintro ⟨hfollows, hr⟩
    refine ⟨hfollows.sequence, hfollows.fromState, hfollows.legal, ?_, hr.symm⟩
    have hiteration := hfollows.iteration
    rw [count_snoc] at hiteration
    exact hiteration

/-- **Run**: the loop accepts exactly the legal histories. -/
theorem foldlM_auditStep_eq_ok (h : List AuditTransitionRecord) (r : AuditReplay) :
    h.foldlM AuditReplay.step AuditReplay.init = .ok r ↔
      LegalSteps (h.map AuditTransitionRecord.step) ∧ r = AuditReplay.of h := by
  induction h using List.reverseRecOn generalizing r with
  | nil =>
      rw [List.foldlM_nil, except_pure_eq_ok]
      exact ⟨fun h => ⟨legalSteps_nil, h.symm⟩, fun h => h.2.symm⟩
  | append_singleton h record ih =>
      rw [List.foldlM_append, except_bind_eq_ok, List.map_append, List.map_singleton,
        legalSteps_snoc]
      simp only [List.foldlM_cons, List.foldlM_nil, except_bind_eq_ok, except_pure_eq_ok,
        exists_eq_right]
      constructor
      · rintro ⟨r0, h0, h1⟩
        obtain ⟨hlegal, rfl⟩ := (ih r0).mp h0
        obtain ⟨hfollows, hr⟩ := (AuditReplay.step_of_eq_ok h record r).mp h1
        exact ⟨⟨hlegal, hfollows⟩, hr⟩
      · rintro ⟨⟨hlegal, hfollows⟩, hr⟩
        exact ⟨_, (ih _).mpr ⟨hlegal, rfl⟩,
          (AuditReplay.step_of_eq_ok h record r).mpr ⟨hfollows, hr⟩⟩

/-- **What an accepted envelope says**: its history is a legal sequence of transitions from
    `created`, and its state, counters, evidence and disposition are those of the history. -/
structure EnvelopeFields.Structured (f : EnvelopeFields) : Prop where
  nonempty : f.history ≠ []
  legal : LegalSteps (f.history.map AuditTransitionRecord.step)
  state : f.state = finalState (auditStates f.history)
  iteration : f.iteration = (auditStates f.history).count .contextAssembling
  iterationsUsed : f.budget.iterationsUsed = (auditStates f.history).count .contextAssembling
  mutationsUsed : f.budget.mutationsUsed = (auditStates f.history).count .mutating
  verificationsUsed : f.budget.verificationsUsed = (auditStates f.history).count .verifying
  evidence : f.evidence = f.history.flatMap (·.evidence)
  disposition : f.disposition = if f.state.isTerminal then .terminal else .interrupted

/-- **The structural validation in closed form.** -/
theorem EnvelopeFields.validateStructure_eq_ok (f : EnvelopeFields) :
    f.validateStructure = .ok () ↔ f.Structured := by
  have hdisposition : (f.disposition = .terminal → f.state.isTerminal = true) ∧
      (f.disposition = .interrupted → f.state.isTerminal = false) ↔
      f.disposition = if f.state.isTerminal then .terminal else .interrupted := by
    cases f.disposition <;> cases f.state.isTerminal <;> decide
  unfold validateStructure checkReplay
  simp only [except_bind_eq_ok, require_eq_ok, exists_const, foldlM_auditStep_eq_ok]
  constructor
  · rintro ⟨hne, r, ⟨hlegal, rfl⟩, hs, hi, hu, hm, hv, he, hd⟩
    exact ⟨hne, hlegal, hs.symm, hi.symm, hu.symm.trans hi.symm, hm.symm, hv.symm, he.symm,
      hdisposition.mp hd⟩
  · intro h
    exact ⟨h.nonempty, _, ⟨h.legal, rfl⟩, h.state.symm, h.iteration.symm,
      h.iteration.trans h.iterationsUsed.symm, h.mutationsUsed.symm, h.verificationsUsed.symm,
      h.evidence.symm, hdisposition.mpr h.disposition⟩

theorem GovernedExecutionAuditEnvelope.is_structured (envelope : GovernedExecutionAuditEnvelope) :
    envelope.Structured := (EnvelopeFields.validateStructure_eq_ok _).mp envelope.structured

/-! ## Readers -/

theorem requireNonEmpty_text (t : IdentityText) : requireNonEmpty (.str t) = .ok t :=
  lifted_eq_ok.mpr (GovernedTransitionControl.requireNonEmpty_eq_ok.mpr rfl)

theorem requireDigest_text (d : DigestText) : requireDigest (.str (.ofString d)) = .ok d :=
  lifted_eq_ok.mpr (GovernedTransitionControl.requireDigest_eq_ok.mpr rfl)

/-- A time in UTC is its own canonical form. -/
theorem canonicalTimestamp_utc (t : UtcTime) :
    GovernedTransitionControl.canonicalTimestamp t.val = .ok t := by
  refine GovernedTransitionControl.canonicalTimestamp_eq_ok.mpr ⟨0, t.property.1, ?_⟩
  obtain ⟨⟨wall, offset⟩, hutc, _⟩ := t
  obtain rfl : offset = some 0 := hutc
  show DateTime.mk (wall - 0) (some 0) = _
  rw [Int.sub_zero]

theorem timestampFromText_isoformat (t : UtcTime) :
    timestampFromText (.str (.ofString t.val.isoformat)) = .ok t := by
  have hparsed := GovernedTransitionControl.parsedTime_eq_ok.mpr
    ⟨_, rfl, DateTime.fromisoformat_isoformat t.property.1 t.property.2⟩
  rw [timestampFromText, lifted_eq_ok, hparsed]
  exact canonicalTimestamp_utc t

/-- A member of an enumeration is found by its value. -/
theorem enumMember_value {α : Type} {all : List α} {text : α → String} {member : α}
    (hmem : member ∈ all) (hnodup : (all.map text).Nodup) :
    enumMember all text (.str (.ofString (text member))) = .ok member := by
  have hfind : all.find? (fun other => PyText.ofString (text member) = .ofString (text other)) =
      some member := by
    induction all with
    | nil => cases hmem
    | cons first rest ih =>
        rw [List.map_cons, List.nodup_cons] at hnodup
        rcases List.mem_cons.mp hmem with rfl | hrest
        · exact List.find?_cons_of_pos (decide_eq_true rfl)
        · have hne : PyText.ofString (text member) ≠ .ofString (text first) := by
            intro heq
            exact hnodup.1 (PyText.ofString_injective heq ▸ List.mem_map_of_mem hrest)
          rw [List.find?_cons, decide_eq_false hne]
          exact ih hrest hnodup.2
  rw [enumMember, hfind]

theorem enumMember_state (state : GovernedExecutionState) :
    enumMember GovernedExecutionState.all GovernedExecutionState.value
      (.str (.ofString state.value)) = .ok state :=
  enumMember_value (by cases state <;> decide) (by decide)

theorem enumMember_kind (kind : ExecutionEvidenceKind) :
    enumMember ExecutionEvidenceKind.all ExecutionEvidenceKind.value
      (.str (.ofString kind.value)) = .ok kind :=
  enumMember_value (by cases kind <;> decide) (by decide)

theorem enumMember_disposition (disposition : AuditDisposition) :
    enumMember AuditDisposition.all AuditDisposition.value
      (.str (.ofString disposition.value)) = .ok disposition :=
  enumMember_value (by cases disposition <;> decide) (by decide)

theorem natural_int {least n : Nat} (h : least ≤ n) : natural least (.int n) = .ok n := by
  rw [natural, if_pos (Int.ofNat_le.mpr h), Int.toNat_natCast]

theorem evidenceDigest_digestText (reference : AuditEvidenceReference) :
    evidenceDigest (some (.str reference.digestText)) = .ok reference.digest := by
  obtain ⟨kind, referenceId, digest, hblank⟩ := reference
  cases digest with
  | none => rfl
  | some digest =>
      have hne : PyText.ofString digest.val ≠ [] := by
        intro hnil
        have hlength := digest.property.1
        have hzero := congrArg List.length hnil
        rw [PyText.ofString, List.length_map, hlength] at hzero
        cases hzero
      show evidenceDigest (some (.str (.ofString digest.val))) = _
      obtain ⟨c, rest, hcons⟩ := List.exists_cons_of_ne_nil hne
      have hread := requireDigest_text digest
      rw [hcons] at hread ⊢
      show (requireDigest (.str (c :: rest))).map some = _
      rw [hread]
      rfl

/-! ## Payloads are read back -/

/-- A reading that leaves texts without surrogates as they are. -/
def Plain (r : Reading) : Prop := ∀ s : String, r.text (.ofString s) = .ofString s

theorem plain_direct : Plain .direct := fun _ => rfl

theorem plain_stored : Plain .stored := mend_ofString

variable {r : Reading}

/-- The entries hold what the payload fields become. -/
def Holds (r : Reading) (entries : PyEntries) (fields : List (String × Payload)) : Prop :=
  ∀ key, entries.get? (.ofString key) = (fields.lookup key).map (Payload.value r)

theorem Holds.field {entries : PyEntries} {fields : List (String × Payload)}
    (h : Holds r entries fields) (key : String) {v : Payload} (hv : fields.lookup key = some v) :
    field entries key = some (v.value r) := by
  show entries.get? _ = _
  rw [h, hv]
  rfl

theorem Holds.present {entries : PyEntries} {fields : List (String × Payload)}
    (h : Holds r entries fields) (key : String) {v : Payload} (hv : fields.lookup key = some v) :
    present entries key = .ok (v.value r) := by
  rw [GovernedAudit.present, h.field key hv]

theorem text_value (hr : Plain r) (s : String) :
    (Payload.text s).value r = .str (.ofString s) := congrArg PyValue.str (hr s)

/-- The texts of an evidence reference that a reading may change. -/
def AuditEvidenceReference.Kept (r : Reading) (reference : AuditEvidenceReference) : Prop :=
  r.text reference.referenceId = reference.referenceId

theorem text_digestText (hr : Plain r) (reference : AuditEvidenceReference) :
    r.text reference.digestText = reference.digestText := by
  unfold AuditEvidenceReference.digestText
  cases reference.digest with
  | none => exact hr ""
  | some digest => exact hr digest

/-- An evidence reference is read back. -/
theorem AuditEvidenceReference.fromPayload_toPayload (hr : Plain r)
    {reference : AuditEvidenceReference} (hkept : reference.Kept r) :
    AuditEvidenceReference.fromPayload (reference.toPayload.value r) = .ok reference := by
  obtain ⟨entries, hvalue, hget⟩ := Payload.value_object r
    [("digest", .str reference.digestText), ("kind", .text reference.kind.value),
      ("reference_id", .str reference.referenceId)]
    (show ["digest", "kind", "reference_id"].Nodup by decide)
  have hholds : Holds r entries _ := hget
  have hdigest : (Payload.str reference.digestText).value r = .str reference.digestText :=
    congrArg PyValue.str (text_digestText hr reference)
  have hid : (Payload.str reference.referenceId).value r = .str reference.referenceId :=
    congrArg PyValue.str hkept
  rw [AuditEvidenceReference.toPayload, hvalue, AuditEvidenceReference.fromPayload,
    hholds.present "kind" rfl, hholds.present "reference_id" rfl, hholds.field "digest" rfl,
    hdigest, hid, text_value hr]
  simp only [except_ok_bind, enumMember_kind, evidenceDigest_digestText]
  rw [requireNonEmpty_text ⟨_, reference.referenceId_nonBlank⟩]
  rfl

/-- The items of an array of payloads are read back one by one. -/
theorem mapM_array {α : Type} {read : PyValue → Except AuditFault α} {write : α → Payload}
    {xs : List α} (h : ∀ x ∈ xs, read ((write x).value r) = .ok x) :
    ∃ items, listItems ((Payload.array (xs.map write)).value r) = .ok items ∧
      items.mapM read = .ok xs := by
  obtain ⟨values, hvalue, hlist⟩ := Payload.value_array r (xs.map write)
  refine ⟨values.toList, by rw [hvalue, listItems], ?_⟩
  rw [hlist, List.map_map, List.mapM_map]
  have hall := mapM_ok (f := read ∘ Payload.value r ∘ write) (g := id) h
  rw [List.map_id] at hall
  exact hall

theorem readReason_payload (hr : Plain r) (reason : Option GovernedExecutionStopReason) :
    readReason (some ((AuditTransitionRecord.reasonPayload reason).value r)) = .ok reason := by
  cases reason with
  | none => rfl
  | some reason =>
      have hmember : enumMember GovernedExecutionStopReason.all GovernedExecutionStopReason.value
          (.str (.ofString reason.value)) = .ok reason :=
        enumMember_value (by cases reason <;> decide) (by decide)
      show readReason (some ((Payload.text reason.value).value r)) = _
      rw [text_value hr]
      show (enumMember _ _ (.str (.ofString reason.value))).map some = _
      rw [hmember]
      rfl

/-- Every text of the record is left as it is. -/
def AuditTransitionRecord.Kept (r : Reading) (record : AuditTransitionRecord) : Prop :=
  ∀ reference ∈ record.evidence, reference.Kept r

/-- A transition record is read back. -/
theorem AuditTransitionRecord.fromPayload_toPayload (hr : Plain r)
    {record : AuditTransitionRecord} (hkept : record.Kept r) :
    AuditTransitionRecord.fromPayload (record.toPayload.value r) = .ok record := by
  obtain ⟨entries, hvalue, hget⟩ := Payload.value_object r
    [("evidence", .array (record.evidence.map AuditEvidenceReference.toPayload)),
     ("from_state", .text record.fromState.value),
     ("iteration", .int record.iteration),
     ("occurred_at", .text record.occurredAt.val.isoformat),
     ("reason", reasonPayload record.reason),
     ("sequence", .int record.sequence),
     ("to_state", .text record.toState.value)]
    (show ["evidence", "from_state", "iteration", "occurred_at", "reason", "sequence",
      "to_state"].Nodup by decide)
  have hholds : Holds r entries _ := hget
  obtain ⟨items, hitems, hevidence⟩ := mapM_array (r := r)
    fun reference hmem => AuditEvidenceReference.fromPayload_toPayload hr (hkept reference hmem)
  rw [AuditTransitionRecord.toPayload, hvalue, AuditTransitionRecord.fromPayload,
    hholds.field "evidence" rfl, hholds.field "reason" rfl, hholds.present "sequence" rfl,
    hholds.present "iteration" rfl, hholds.present "from_state" rfl,
    hholds.present "to_state" rfl, hholds.present "occurred_at" rfl, Option.getD_some, hitems,
    readReason_payload hr, text_value hr, text_value hr, text_value hr]
  simp only [except_ok_bind, enumMember_state, timestampFromText_isoformat, hevidence,
    Payload.value, natural_int record.sequence_pos, natural_int (Nat.zero_le record.iteration),
    ensure_of record.sequence_pos]

/-- A budget is read back. -/
theorem readBudget_budgetPayload (budget : ExecutionBudget) :
    readBudget ((EnvelopeFields.budgetPayload budget).value r) = .ok budget := by
  obtain ⟨entries, hvalue, hget⟩ := Payload.value_object r
    [("iterations_used", .int budget.iterationsUsed),
     ("max_iterations", .int budget.maxIterations),
     ("max_mutations", .int budget.maxMutations),
     ("max_verifications", .int budget.maxVerifications),
     ("mutations_used", .int budget.mutationsUsed),
     ("verifications_used", .int budget.verificationsUsed)]
    (show ["iterations_used", "max_iterations", "max_mutations", "max_verifications",
      "mutations_used", "verifications_used"].Nodup by decide)
  have hholds : Holds r entries _ := hget
  rw [EnvelopeFields.budgetPayload, hvalue, readBudget, hholds.present "max_iterations" rfl,
    hholds.present "max_mutations" rfl, hholds.present "max_verifications" rfl,
    hholds.present "iterations_used" rfl, hholds.present "mutations_used" rfl,
    hholds.present "verifications_used" rfl]
  simp only [except_ok_bind, Payload.value, natural_int budget.maxIterations_pos,
    natural_int budget.maxMutations_pos, natural_int budget.maxVerifications_pos,
    natural_int (Nat.zero_le budget.iterationsUsed), natural_int (Nat.zero_le budget.mutationsUsed),
    natural_int (Nat.zero_le budget.verificationsUsed)]
  rw [ensure_of ⟨⟨budget.maxIterations_pos, budget.maxMutations_pos, budget.maxVerifications_pos⟩,
    budget.iterationsUsed_le, budget.mutationsUsed_le, budget.verificationsUsed_le⟩]
  rfl

namespace GovernedExecutionAuditEnvelope

/-- Every text of the envelope is left as it is. -/
structure Kept (r : Reading) (envelope : GovernedExecutionAuditEnvelope) : Prop where
  executionId : r.text envelope.executionId = envelope.executionId
  runId : r.text envelope.runId = envelope.runId
  history : ∀ record ∈ envelope.history, record.Kept r

theorem kept_direct (envelope : GovernedExecutionAuditEnvelope) : envelope.Kept .direct :=
  ⟨rfl, rfl, fun _ _ _ _ => rfl⟩

/-- **The decoder reads back what was written.** -/
theorem fromPayload_toPayload (hr : Plain r) {envelope : GovernedExecutionAuditEnvelope}
    (hkept : envelope.Kept r) : fromPayload (envelope.toPayload.value r) = .ok envelope := by
  obtain ⟨entries, hvalue, hget⟩ := Payload.value_object r
    (envelope.payloadFields ++ [("record_digest", Payload.text envelope.recordDigest)])
    (show ["budget", "disposition", "evidence", "execution_id", "goal_digest", "history",
      "iteration", "run_id", "schema_version", "state", "record_digest"].Nodup by decide)
  have hholds : Holds r entries _ := hget
  have hstructured := envelope.is_structured
  obtain ⟨records, hrecords, hhistory⟩ := mapM_array (r := r) fun record hmem =>
    AuditTransitionRecord.fromPayload_toPayload hr (hkept.history record hmem)
  have hflat : ∀ reference ∈ envelope.evidence, reference.Kept r := by
    intro reference hmem
    rw [hstructured.evidence] at hmem
    obtain ⟨record, hrecord, hmem⟩ := List.mem_flatMap.mp hmem
    exact hkept.history record hrecord reference hmem
  obtain ⟨references, hreferences, hevidence⟩ := mapM_array (r := r) fun reference hmem =>
    AuditEvidenceReference.fromPayload_toPayload hr (hflat reference hmem)
  have hexecution : (Payload.str envelope.executionId).value r = .str envelope.executionId :=
    congrArg PyValue.str hkept.executionId
  have hrun : (Payload.str envelope.runId).value r = .str envelope.runId :=
    congrArg PyValue.str hkept.runId
  have hschema : requireSchema (.str (.ofString auditSchemaVersion)) = .ok () :=
    require_of _ _ rfl
  have hconstruct : construct envelope.toEnvelopeFields envelope.recordDigest = .ok envelope :=
    construct_eq_ok.mpr ⟨rfl, rfl⟩
  rw [toPayload, hvalue, fromPayload, hholds.present "budget" rfl, hholds.present "history" rfl,
    hholds.present "evidence" rfl, hholds.present "schema_version" rfl,
    hholds.present "execution_id" rfl, hholds.present "run_id" rfl,
    hholds.present "goal_digest" rfl, hholds.present "disposition" rfl,
    hholds.present "state" rfl, hholds.present "iteration" rfl,
    hholds.present "record_digest" rfl, hexecution, hrun]
  simp only [except_ok_bind, hrecords, hreferences, text_value hr, enumMember_disposition,
    enumMember_state, readBudget_budgetPayload, hhistory, hevidence, hschema,
    requireNonEmpty_text, requireDigest_text, Payload.value,
    natural_int (Nat.zero_le envelope.iteration)]
  show wrapped (construct envelope.toEnvelopeFields envelope.recordDigest) = _
  rw [hconstruct]
  rfl

end GovernedExecutionAuditEnvelope

/-! ## Projections of contexts -/

/-- The audit digest of an evidence text. -/
theorem evidenceDigest_text {t : PyText} {reference : AuditEvidenceReference}
    (h : evidenceDigest (some (.str t)) = .ok reference.digest) : t = reference.digestText := by
  unfold AuditEvidenceReference.digestText
  cases t with
  | nil =>
      obtain hnone : reference.digest = none := (Except.ok.inj h).symm
      rw [hnone]
  | cons c rest =>
      have hread : (requireDigest (.str (c :: rest))).map some = .ok reference.digest := h
      cases hd : requireDigest (.str (c :: rest)) with
      | error fault =>
          rw [hd] at hread
          cases hread
      | ok digest =>
          rw [hd] at hread
          rw [← Except.ok.inj hread]
          have htext := GovernedTransitionControl.requireDigest_eq_ok.mp (lifted_eq_ok.mp hd)
          exact PyValue.str.inj (Option.some.inj htext)

/-- **An evidence reference is audited** when its digest is empty or a SHA-256 digest. -/
theorem ofReference_eq_ok {reference : ExecutionEvidenceRef} {audited : AuditEvidenceReference} :
    AuditEvidenceReference.ofReference reference = .ok audited ↔
      audited.kind = reference.kind ∧ audited.referenceId = reference.referenceId ∧
        audited.digestText = reference.digest := by
  unfold AuditEvidenceReference.ofReference
  rw [except_bind_eq_ok]
  constructor
  · rintro ⟨digest, hdigest, haudited⟩
    obtain rfl := Except.ok.inj haudited
    exact ⟨rfl, rfl, (evidenceDigest_text hdigest).symm⟩
  · rintro ⟨hkind, hid, hdigest⟩
    refine ⟨audited.digest, ?_, ?_⟩
    · rw [← hdigest]
      exact evidenceDigest_digestText audited
    · obtain ⟨kind, referenceId, digest, hblank⟩ := audited
      obtain rfl : kind = reference.kind := hkind
      obtain rfl : referenceId = reference.referenceId := hid
      rfl

/-- **A ledger record is audited** with its evidence, at its time in UTC. -/
theorem ofRecord_eq_ok {record : ExecutionTransitionRecord} {audited : AuditTransitionRecord} :
    AuditTransitionRecord.ofRecord record = .ok audited ↔
      audited.step = ledgerStep record ∧ audited.reason = record.reason ∧
        record.evidence.mapM AuditEvidenceReference.ofReference = .ok audited.evidence ∧
        GovernedTransitionControl.canonicalTimestamp record.occurredAt =
          .ok audited.occurredAt := by
  unfold AuditTransitionRecord.ofRecord
  simp only [except_bind_eq_ok, lifted_eq_ok]
  constructor
  · rintro ⟨evidence, hevidence, occurredAt, htime, haudited⟩
    obtain rfl := Except.ok.inj haudited
    exact ⟨rfl, rfl, hevidence, htime⟩
  · rintro ⟨hstep, hreason, hevidence, htime⟩
    refine ⟨_, hevidence, _, htime, ?_⟩
    obtain ⟨sequence, iteration, fromState, toState, occurredAt, reason, evidence, hpos⟩ := audited
    obtain ⟨rfl, rfl, rfl, rfl⟩ := Step.mk.inj hstep
    obtain rfl : reason = record.reason := hreason
    rfl

namespace GovernedExecutionAuditEnvelope

variable {context : GovernedExecutionContext} {envelope : GovernedExecutionAuditEnvelope}

/-- The disposition that a context has by itself. -/
def ownDisposition (context : GovernedExecutionContext) : AuditDisposition :=
  if context.state.isTerminal then .terminal else .interrupted

/-- **What `from_context` returns.** -/
theorem fromContext_eq_ok {disposition : Option AuditDisposition} :
    fromContext context disposition = .ok envelope ↔
      context.history.mapM AuditTransitionRecord.ofRecord = .ok envelope.history ∧
        goalDigest context.goal = .ok envelope.goalDigest ∧
        envelope.executionId.val = context.executionId ∧ envelope.runId.val = context.runId ∧
        envelope.state = context.state ∧ envelope.iteration = context.iteration ∧
        envelope.budget = context.budget ∧
        envelope.disposition = disposition.getD (ownDisposition context) := by
  unfold fromContext
  simp only [except_bind_eq_ok, exists_ensure, require_eq_ok, exists_const, construct_eq_ok]
  constructor
  · rintro ⟨history, hhistory, goal, hgoal, hexecution, hrun, -, hfields, -⟩
    rw [hfields]
    exact ⟨hhistory, hgoal, rfl, rfl, rfl, rfl, rfl, rfl⟩
  · rintro ⟨hhistory, hgoal, hexecution, hrun, hstate, hiteration, hbudget, hdisposition⟩
    have hfields : envelope.toEnvelopeFields =
        { executionId := ⟨context.executionId, hexecution ▸ envelope.executionId.property⟩
          runId := ⟨context.runId, hrun ▸ envelope.runId.property⟩
          goalDigest := envelope.goalDigest
          disposition := disposition.getD (ownDisposition context)
          state := context.state
          iteration := context.iteration
          budget := context.budget
          history := envelope.history
          evidence := envelope.history.flatMap (·.evidence) } := by
      have hevidence := envelope.is_structured.evidence
      obtain ⟨⟨⟨executionId, _⟩, ⟨runId, _⟩, goal, own, state, iteration, budget, history,
        evidence⟩, hvalid, hconvertible⟩ := envelope
      obtain rfl : executionId = context.executionId := hexecution
      obtain rfl : runId = context.runId := hrun
      obtain rfl : state = context.state := hstate
      obtain rfl : iteration = context.iteration := hiteration
      obtain rfl : budget = context.budget := hbudget
      obtain rfl : own = disposition.getD (ownDisposition context) := hdisposition
      obtain rfl : evidence = history.flatMap (·.evidence) := hevidence
      rfl
    refine ⟨_, hhistory, _, hgoal, hexecution ▸ envelope.executionId.property,
      hrun ▸ envelope.runId.property, ?_, hfields, ?_⟩
    · show EnvelopeFields.payloadWithoutDigest _ |>.Convertible
      exact hfields ▸ envelope.convertible
    · exact congrArg EnvelopeFields.calculateDigest hfields.symm

end GovernedExecutionAuditEnvelope

/-! ## Contexts of envelopes -/

/-- A reference of the ledger for an audit reference. -/
def AuditEvidenceReference.toReference (reference : AuditEvidenceReference) :
    ExecutionEvidenceRef :=
  ⟨reference.kind, reference.referenceId, reference.digestText, .nil,
    reference.referenceId_nonBlank⟩

/-- A ledger record for an audit record. -/
def AuditTransitionRecord.toRecord (record : AuditTransitionRecord) :
    ExecutionTransitionRecord where
  sequence := record.sequence
  iteration := record.iteration
  fromState := record.fromState
  toState := record.toState
  occurredAt := record.occurredAt
  reason := record.reason
  evidence := record.evidence.map AuditEvidenceReference.toReference
  sequence_pos := record.sequence_pos

theorem ofRecord_toRecord (record : AuditTransitionRecord) :
    AuditTransitionRecord.ofRecord record.toRecord = .ok record := by
  refine ofRecord_eq_ok.mpr ⟨rfl, rfl, ?_, canonicalTimestamp_utc record.occurredAt⟩
  have hall := @mapM_ok AuditFault AuditEvidenceReference AuditEvidenceReference
    (AuditEvidenceReference.ofReference ∘ AuditEvidenceReference.toReference) id record.evidence
    fun _ _ => ofReference_eq_ok.mpr ⟨rfl, rfl, rfl⟩
  rw [List.map_id] at hall
  show (record.evidence.map AuditEvidenceReference.toReference).mapM _ = _
  rw [List.mapM_map]
  exact hall

namespace GovernedExecutionAuditEnvelope

variable (envelope : GovernedExecutionAuditEnvelope)

/-- The fields of a context that the envelope is the projection of. -/
def toContextFields (goal : PyText) : ContextFields where
  executionId := envelope.executionId
  runId := envelope.runId
  goal := goal
  state := envelope.state
  iteration := envelope.iteration
  budget := envelope.budget
  history := envelope.history.map AuditTransitionRecord.toRecord
  evidence := (envelope.history.map AuditTransitionRecord.toRecord).flatMap (·.evidence)
  stopReason := if envelope.state.isTerminal then
    (envelope.history.map AuditTransitionRecord.toRecord).getLast?.bind (·.reason) else none
  metadata := .nil

/-- **The ledger accepts them** when the stop reasons are admissible. -/
theorem toContextFields_consistent {goal : PyText} (hgoal : goal.NonBlank)
    (hreasons : ∀ record ∈ envelope.history, Admissible record.toState record.reason) :
    (envelope.toContextFields goal).Consistent := by
  have hstructured := envelope.is_structured
  have hsteps : (envelope.history.map AuditTransitionRecord.toRecord).map ledgerStep =
      envelope.history.map AuditTransitionRecord.step := by
    rw [List.map_map]
    rfl
  have hstates : ledgerStates (envelope.history.map AuditTransitionRecord.toRecord) =
      auditStates envelope.history := congrArg (List.map Step.toState) hsteps
  have hentries : ∀ state, entries state
      (envelope.history.map AuditTransitionRecord.toRecord) =
        (auditStates envelope.history).count state := by
    intro state
    rw [entries_eq, hstates]
  refine {
    executionId := envelope.executionId.property
    runId := envelope.runId.property
    goal := hgoal
    ledger := (legalLedger_iff_legalSteps _).mpr ⟨?_, ?_⟩
    state := ?_
    iteration := hstructured.iteration.trans (hentries _).symm
    iterationsUsed := hstructured.iterationsUsed.trans (hentries _).symm
    mutationsUsed := hstructured.mutationsUsed.trans (hentries _).symm
    verificationsUsed := hstructured.verificationsUsed.trans (hentries _).symm
    evidence := rfl
    stopReason := rfl }
  · exact hsteps.symm ▸ hstructured.legal
  · intro record hrecord
    obtain ⟨audited, haudited, rfl⟩ := List.mem_map.mp hrecord
    exact hreasons audited haudited
  · show envelope.state = lastState (envelope.history.map AuditTransitionRecord.toRecord)
    rw [lastState_eq, hstates]
    exact hstructured.state

/-- **An envelope is the projection of a context** exactly when its stop reasons are admissible
    and its goal digest is that of a goal. -/
theorem projected_iff :
    (∃ context disposition, fromContext context disposition = .ok envelope) ↔
      (∀ record ∈ envelope.history, Admissible record.toState record.reason) ∧
        ∃ goal : PyText, goal.NonBlank ∧ goalDigest goal = .ok envelope.goalDigest := by
  constructor
  · rintro ⟨context, disposition, hcontext⟩
    obtain ⟨hhistory, hgoal, -⟩ := fromContext_eq_ok.mp hcontext
    have hconsistent := context.consistent
    refine ⟨fun audited haudited => ?_, context.goal, hconsistent.goal, hgoal⟩
    have hreasons := ((legalLedger_iff_legalSteps _).mp hconsistent.ledger).2
    obtain ⟨record, hrecord, hof⟩ := exists_mem_of_forall₂
      (mapM_eq_ok_forall₂.mp hhistory).flip haudited
    obtain ⟨hstep, hreason, -⟩ := ofRecord_eq_ok.mp hof
    have hstate : audited.toState = record.toState := congrArg Step.toState hstep
    rw [hstate, hreason]
    exact hreasons record hrecord
  · rintro ⟨hreasons, goal, hblank, hgoal⟩
    have hconsistent := envelope.toContextFields_consistent hblank hreasons
    refine ⟨⟨envelope.toContextFields goal, (ContextFields.validate_eq_ok _).mpr hconsistent⟩,
      none, fromContext_eq_ok.mpr ⟨?_, hgoal, rfl, rfl, rfl, rfl, rfl,
        envelope.is_structured.disposition⟩⟩
    have hall := @mapM_ok AuditFault AuditTransitionRecord AuditTransitionRecord
      (AuditTransitionRecord.ofRecord ∘ AuditTransitionRecord.toRecord) id envelope.history
      fun record _ => ofRecord_toRecord record
    rw [List.map_id] at hall
    show (envelope.history.map AuditTransitionRecord.toRecord).mapM _ = _
    rw [List.mapM_map]
    exact hall

/-! ## What the decoder accepts -/

/-- An accepted payload carries the digest of the envelope that is made of it. -/
theorem fromPayload_digest {payload : PyValue} {envelope : GovernedExecutionAuditEnvelope}
    (h : fromPayload payload = .ok envelope) : ∃ entries, payload = .dict entries ∧
      field entries "record_digest" = some (.str (.ofString envelope.recordDigest)) := by
  cases payload with
  | dict entries =>
      refine ⟨entries, rfl, ?_⟩
      simp only [fromPayload, except_bind_eq_ok] at h
      obtain ⟨_, -, _, -, _, -, _, -, _, -, _, -, _, -, _, -, _, -, _, -, _, -, _, -, _, -, _, -, _, -,
        _, -, _, -, digest, hdigest, -, -, _, -, _, -, _, -, _, -, text, htext, hconstruct⟩ := h
      have hrecord : text = envelope.recordDigest := by
        unfold wrapped at hconstruct
        split at hconstruct
        · cases hconstruct
        · exact (construct_eq_ok.mp hconstruct).2
      have hvalue := GovernedTransitionControl.requireDigest_eq_ok.mp (lifted_eq_ok.mp htext)
      unfold present at hdigest
      split at hdigest
      · cases hdigest
      · next value hfield =>
          rw [hfield, Except.ok.inj hdigest, hvalue, hrecord]
  | _ => cases h

/-- **The decoder and the ledger.** The decoder accepts legal histories only, with the counters,
    the state and the disposition of the history, under the digest of the envelope. Of the
    envelopes it returns, the projections of contexts are those whose stop reasons are
    admissible and whose goal digest is that of a goal; and it accepts every projection. -/
theorem decoder_accepts_projections :
    (∀ payload envelope, fromPayload payload = .ok envelope → envelope.Structured ∧
      (∃ entries, payload = .dict entries ∧
        field entries "record_digest" = some (.str (.ofString envelope.recordDigest))) ∧
      ((∃ context disposition, fromContext context disposition = .ok envelope) ↔
        (∀ record ∈ envelope.history, Admissible record.toState record.reason) ∧
          ∃ goal : PyText, goal.NonBlank ∧ goalDigest goal = .ok envelope.goalDigest)) ∧
    ∀ context disposition envelope, fromContext context disposition = .ok envelope →
      fromPayload (envelope.toPayload.value .direct) = .ok envelope := by
  refine ⟨fun payload envelope h => ⟨envelope.is_structured, fromPayload_digest h, ?_⟩, ?_⟩
  · exact envelope.projected_iff
  · intro context disposition envelope _
    exact fromPayload_toPayload plain_direct envelope.kept_direct

theorem run_text_nonBlank : (PyText.ofString "run").NonBlank := by decide

theorem nothing_used : 0 ≤ 1 := by decide

/-- The envelope of an execution that was observed while it assembled its context. -/
def observedEnvelope : GovernedExecutionAuditEnvelope where
  executionId := ⟨.ofString "execution", by decide⟩
  runId := ⟨.ofString "run", run_text_nonBlank⟩
  goalDigest := ⟨sha256Hex "goal", isDigest_sha256Hex _⟩
  disposition := .interrupted
  state := .contextAssembling
  iteration := 1
  budget := ⟨1, 1, 1, 1, 0, 0, Nat.one_pos, Nat.one_pos, Nat.one_pos, Nat.one_pos, nothing_used,
    nothing_used⟩
  history := [⟨1, 1, .created, .contextAssembling, ⟨⟨0, some 0⟩, by decide⟩, none, [], Nat.one_pos⟩]
  evidence := []
  structured := by decide
  convertible := by decide

theorem decoder_accepts_projections_observed : observedEnvelope.Structured ∧
    ∃ context disposition, fromContext context disposition = .ok observedEnvelope ∧
      fromPayload (observedEnvelope.toPayload.value .direct) = .ok observedEnvelope := by
  have hread := fromPayload_toPayload plain_direct observedEnvelope.kept_direct
  obtain ⟨hstructured, -, hprojected⟩ := decoder_accepts_projections.1 _ _ hread
  have hgoal : goalDigest (.ofString "goal") = .ok observedEnvelope.goalDigest := by
    simp only [goalDigest, PyText.scalars?_ofString, String.ofList_toList, observedEnvelope]
  have hreasons : ∀ record ∈ observedEnvelope.history, Admissible record.toState record.reason := by
    intro record hrecord
    rw [List.mem_singleton.mp hrecord]
    rfl
  obtain ⟨context, disposition, h⟩ := hprojected.mpr ⟨hreasons, .ofString "goal", by decide, hgoal⟩
  exact ⟨hstructured, context, disposition, h, decoder_accepts_projections.2 _ _ _ h⟩

/-- An envelope of an unfinished execution is accepted and is no projection of a finished one. -/
theorem unfinished_accepted : ∃ payload envelope, fromPayload payload = .ok envelope ∧
    ¬ ∃ context : GovernedExecutionContext, context.state.isTerminal = true ∧
      ∃ disposition, fromContext context disposition = .ok envelope := by
  refine ⟨observedEnvelope.toPayload.value .direct, observedEnvelope,
    fromPayload_toPayload plain_direct observedEnvelope.kept_direct, ?_⟩
  rintro ⟨context, hterminal, disposition, hcontext⟩
  have hstate := (fromContext_eq_ok.mp hcontext).2.2.2.2.1
  rw [← hstate] at hterminal
  cases hterminal

end GovernedExecutionAuditEnvelope

end Eag.GovernedAudit
