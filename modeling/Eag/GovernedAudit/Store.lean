/-
  Eag.GovernedAudit.Store

  The file store of audit envelopes (`governed_audit/store.py`) as programs over the steps that
  it takes on its files, interleaved by any number of stores on one root.

  The lock of a store is shared within its process only, so the model has none. A temporary
  file has a name of its own and is seen by nobody else.

  `append_only`: while no replacing step finds a file in its place, a record that was appended
  is the one that is read ever after. `lost_record` is a run of two stores in which one does.
-/

import Mathlib
import Eag.GovernedAudit.Projection

namespace Eag.GovernedAudit

open Eag.Foundation
open Eag.GovernedExecution (GovernedExecutionContext)
open GovernedExecutionAuditEnvelope (fromPayload fromContext)

/-! ## Records and their files -/

/-- What a call raises: `AuditStoreWriteError`, `AuditCollisionError`, what escapes the record's
    constructors, a `RecursionError` of `json.loads`, or the `OSError` of `path.exists`. -/
inductive StoreError where
  | write
  | collision
  | audit (fault : AuditFault)
  | recursion
  | os
  deriving DecidableEq, Repr

/-- The name of the file in `_path_for`. -/
def pathFor (executionId : PyText) : Except AuditFault String :=
  if executionId.isBlank then .error .valueError
  else
    match executionId.scalars? with
    | none => .error .valueError
    | some text => .ok (sha256Hex (String.ofList text))

/-- `_canonical_bytes`. -/
def canonicalBytes (envelope : GovernedExecutionAuditEnvelope) : ByteArray :=
  (envelope.toPayload.dumps ++ "\n").toUTF8

/-- `json.loads(raw.decode("utf-8"))`, with what is made of its errors. The interpreter has room
    for so many nested containers. -/
def decodeRecord (room : Nat) (raw : ByteArray) : Except StoreError PyValue :=
  match String.fromUTF8? raw with
  | none => .error (.audit .integrity)
  | some text =>
      match loads room (.ofString text) with
      | .error .recursion => .error .recursion
      | .error .digits => .error (.audit .valueError)
      | .error _ => .error (.audit .integrity)
      | .ok payload => .ok payload

/-- `_load_path`, of the bytes that were read. -/
def loadPath (room : Nat) (path : String) (raw : ByteArray) :
    Except StoreError GovernedExecutionAuditEnvelope := do
  let payload ← decodeRecord room raw
  let envelope ← (fromPayload payload).mapError .audit
  let expected ← (pathFor envelope.executionId).mapError .audit
  require (path = expected) (.audit .integrity)
  require (canonicalBytes envelope = raw) (.audit .integrity)
  .ok envelope

theorem fromUTF8?_toUTF8 (text : String) : String.fromUTF8? text.toUTF8 = some text := by
  unfold String.fromUTF8?
  rw [String.toUTF8_eq_toByteArray, dif_pos text.isValidUTF8]
  rfl

theorem reference_depth (reference : AuditEvidenceReference) : reference.toPayload.depth ≤ 1 := by
  refine Payload.depth_object_le.mpr ?_
  simp only [List.forall_mem_cons, List.not_mem_nil, IsEmpty.forall_iff, implies_true, and_true]
  exact ⟨Nat.le_refl 0, Nat.le_refl 0, Nat.le_refl 0⟩

theorem record_depth (record : AuditTransitionRecord) : record.toPayload.depth ≤ 3 := by
  refine Payload.depth_object_le.mpr ?_
  simp only [List.forall_mem_cons, List.not_mem_nil, IsEmpty.forall_iff, implies_true, and_true]
  have hreason : (AuditTransitionRecord.reasonPayload record.reason).depth ≤ 2 := by
    cases record.reason with
    | none => exact Nat.zero_le 2
    | some reason => exact Nat.zero_le 2
  refine ⟨Payload.depth_array_le.mpr ?_, Nat.zero_le 2, Nat.zero_le 2, Nat.zero_le 2, hreason,
    Nat.zero_le 2, Nat.zero_le 2⟩
  intro item hitem
  obtain ⟨reference, -, rfl⟩ := List.mem_map.mp hitem
  exact reference_depth reference

/-- An envelope is written with five nested containers. -/
theorem envelope_depth (envelope : GovernedExecutionAuditEnvelope) :
    envelope.toPayload.depth ≤ 5 := by
  have hbudget : (EnvelopeFields.budgetPayload envelope.budget).depth ≤ 4 := by
    refine Payload.depth_object_le.mpr ?_
    simp only [List.forall_mem_cons, List.not_mem_nil, IsEmpty.forall_iff, implies_true, and_true]
    exact ⟨Nat.zero_le 3, Nat.zero_le 3, Nat.zero_le 3, Nat.zero_le 3, Nat.zero_le 3,
      Nat.zero_le 3⟩
  have hevidence :
      (Payload.array (envelope.evidence.map AuditEvidenceReference.toPayload)).depth ≤ 4 := by
    refine Payload.depth_array_le.mpr fun item hitem => ?_
    obtain ⟨reference, -, rfl⟩ := List.mem_map.mp hitem
    exact Nat.le_trans (reference_depth reference) (by decide)
  have hhistory :
      (Payload.array (envelope.history.map AuditTransitionRecord.toPayload)).depth ≤ 4 := by
    refine Payload.depth_array_le.mpr fun item hitem => ?_
    obtain ⟨record, -, rfl⟩ := List.mem_map.mp hitem
    exact record_depth record
  have hfields : ∀ member ∈ envelope.payloadFields, member.2.depth ≤ 4 := by
    simp only [EnvelopeFields.payloadFields, List.forall_mem_cons, List.not_mem_nil,
      IsEmpty.forall_iff, implies_true, and_true]
    exact ⟨hbudget, Nat.zero_le 4, hevidence, Nat.zero_le 4, Nat.zero_le 4, hhistory,
      Nat.zero_le 4, Nat.zero_le 4, Nat.zero_le 4, Nat.zero_le 4⟩
  refine Payload.depth_object_le.mpr fun member hmember => ?_
  rcases List.mem_append.mp hmember with hmember | hmember
  · exact hfields member hmember
  · rw [List.mem_singleton.mp hmember]
    exact Nat.zero_le 4

theorem convertible_toPayload (envelope : GovernedExecutionAuditEnvelope) :
    envelope.toPayload.Convertible := by
  refine Payload.convertible_object.mpr fun member hmember => ?_
  rcases List.mem_append.mp hmember with hmember | hmember
  · exact Payload.convertible_object.mp envelope.convertible member hmember
  · rw [List.mem_singleton.mp hmember]
    rfl

/-- What is made of the bytes of an envelope. -/
theorem decodeRecord_canonicalBytes {room : Nat} (hroom : 5 ≤ room)
    (envelope : GovernedExecutionAuditEnvelope) :
    decodeRecord room (canonicalBytes envelope) = .ok (envelope.toPayload.value .stored) := by
  have htext : PyText.ofString (envelope.toPayload.dumps ++ "\n") =
      ofChars envelope.toPayload.render ++ [.scalar '\n'] := by
    rw [PyText.ofString, String.toList_append, List.map_append, Payload.dumps, String.toList_ofList]
    rfl
  unfold decodeRecord canonicalBytes
  rw [fromUTF8?_toUTF8]
  dsimp only
  rw [htext, Payload.loads_render (Nat.le_trans (envelope_depth envelope) hroom)
    (convertible_toPayload envelope) (by decide)]

/-- **A record is read back from its own bytes**, if no text of it has a pair of surrogates. -/
theorem loadPath_canonicalBytes {room : Nat} (hroom : 5 ≤ room) {path : String}
    {envelope stored : GovernedExecutionAuditEnvelope} (hkept : envelope.Kept .stored)
    (hpath : pathFor envelope.executionId = .ok path) :
    loadPath room path (canonicalBytes envelope) = .ok stored ↔ stored = envelope := by
  unfold loadPath
  rw [decodeRecord_canonicalBytes hroom, except_ok_bind,
    GovernedExecutionAuditEnvelope.fromPayload_toPayload plain_stored hkept]
  show ((pathFor envelope.executionId).mapError StoreError.audit >>= _) = _ ↔ _
  rw [hpath]
  show (require (path = path) _ >>= _) = _ ↔ _
  rw [require_of _ _ rfl, except_ok_bind, require_of _ _ rfl, except_ok_bind, Except.ok.injEq]
  exact eq_comm

/-! ## Steps -/

/-- The steps that a call takes on the files. -/
inductive StoreStep where
  | ensureRoot
  | pathExists (path : String)
  | readBytes (path : String)
  | writeTemporary (encoded : ByteArray)
  | replace (path : String) (encoded : ByteArray)
  | syncDirectory

/-- What a step answers. -/
abbrev StepAnswer : StoreStep → Type
  | .pathExists _ => Bool
  | .readBytes _ => ByteArray
  | _ => Unit

abbrev StepReply (step : StoreStep) : Type := Except StoreError (StepAnswer step)

/-- The records in the root, by the names of their files. -/
abbrev RecordFiles : Type := String → Option ByteArray

/-- What comes of a step that the system refuses. -/
def refusal : StoreStep → StoreError
  | .pathExists _ => .os
  | .readBytes _ => .audit .integrity
  | _ => .write

/-- One step that the system carries out. -/
def carryOut (files : RecordFiles) : (step : StoreStep) → RecordFiles × StepReply step
  | .ensureRoot => (files, .ok ())
  | .pathExists path => (files, .ok (files path).isSome)
  | .readBytes path =>
      match files path with
      | none => (files, .error (.audit .integrity))
      | some raw => (files, .ok raw)
  | .writeTemporary _ => (files, .ok ())
  | .replace path encoded => (Function.update files path (some encoded), .ok ())
  | .syncDirectory => (files, .ok ())

/-- One step, which the system may refuse; a refused one changes nothing. -/
def takeStep (files : RecordFiles) (refused : Bool) (step : StoreStep) :
    RecordFiles × StepReply step :=
  if refused then (files, .error (refusal step)) else carryOut files step

/-- Only a replacing step changes the files. -/
theorem takeStep_shared (files : RecordFiles) (refused : Bool) (step : StoreStep) :
    (takeStep files refused step).1 = files ∨ ∃ path encoded,
      step = .replace path encoded ∧ refused = false ∧
        (takeStep files refused step).1 = Function.update files path (some encoded) := by
  cases refused with
  | true => exact .inl rfl
  | false =>
      cases step with
      | replace path encoded => exact .inr ⟨path, encoded, rfl, rfl, rfl⟩
      | readBytes path =>
          refine .inl ?_
          unfold takeStep carryOut
          rw [if_neg Bool.false_ne_true]
          dsimp only
          split
          · rfl
          · rfl
      | ensureRoot => exact .inl rfl
      | pathExists path => exact .inl rfl
      | writeTemporary encoded => exact .inl rfl
      | syncDirectory => exact .inl rfl

/-! ## Calls -/

/-- A call of a store: a program over the steps. -/
abbrev StoreCall (α : Type) : Type := Prog.Fallible StoreError StoreStep StepAnswer α

abbrev take (step : StoreStep) : StoreCall (StepAnswer step) := Prog.ask step

/-- A result that takes no step. -/
abbrev settled {α : Type} (result : Except StoreError α) : StoreCall α :=
  ExceptT.mk (Prog.ret result)

/-- `_load_path`. -/
def load (room : Nat) (path : String) : StoreCall GovernedExecutionAuditEnvelope := do
  let raw ← take (.readBytes path)
  settled (loadPath room path raw)

/-- `append`. -/
def append (room : Nat) (envelope : GovernedExecutionAuditEnvelope) :
    StoreCall GovernedExecutionAuditEnvelope := do
  let encoded := canonicalBytes envelope
  take .ensureRoot
  let path ← settled ((pathFor envelope.executionId).mapError .audit)
  if ← take (.pathExists path) then
    let existing ← load room path
    if existing.recordDigest = envelope.recordDigest then return existing
    else throw .collision
  else
    take (.writeTemporary encoded)
    take (.replace path encoded)
    take .syncDirectory
    let persisted ← load room path
    if persisted.recordDigest ≠ envelope.recordDigest then throw (.audit .integrity)
    else return persisted

/-- `get`. -/
def get (room : Nat) (executionId : PyText) :
    StoreCall (Option GovernedExecutionAuditEnvelope) := do
  let path ← settled ((pathFor executionId).mapError .audit)
  if ← take (.pathExists path) then
    let envelope ← load room path
    return some envelope
  else return none

/-- The calls of a run. -/
inductive Call where
  | append (envelope : GovernedExecutionAuditEnvelope)
  | get (executionId : PyText)

/-- What a call does. -/
def Call.program (room : Nat) :
    Call → Prog StoreStep StepReply (Except StoreError (Option GovernedExecutionAuditEnvelope))
  | .append envelope => (do
      let stored ← GovernedAudit.append room envelope
      return some stored : StoreCall (Option GovernedExecutionAuditEnvelope)).run
  | .get executionId => (GovernedAudit.get room executionId).run

/-! ## What the calls see -/

/-- A step sees a record in its file. -/
def Sees (path : String) (raw : ByteArray) : Sigma StepReply → Prop
  | ⟨.pathExists name, reply⟩ => name = path → reply = .ok true
  | ⟨.readBytes name, reply⟩ => name = path → reply = .ok raw
  | _ => True

/-- What a call says of its replacing steps: `append` writes its own record. -/
def WritesOwn (call : Call) : Sigma StepReply → Prop
  | ⟨.replace path encoded, _⟩ => ∃ envelope, call = .append envelope ∧
      pathFor envelope.executionId = .ok path ∧ encoded = canonicalBytes envelope
  | _ => True

/-- An `append` that returned read a record with its own digest, at its own path. -/
def ReadOwn (room : Nat) (envelope : GovernedExecutionAuditEnvelope)
    (steps : List (Sigma StepReply)) (stored : GovernedExecutionAuditEnvelope) : Prop :=
  ∃ path raw, pathFor envelope.executionId = .ok path ∧
    (⟨.readBytes path, .ok raw⟩ : Sigma StepReply) ∈ steps ∧
    loadPath room path raw = .ok stored ∧ stored.recordDigest = envelope.recordDigest

section

variable {room : Nat} {path : String} {raw : ByteArray}
  {envelope : GovernedExecutionAuditEnvelope}

/-- What `_load_path` returns was read. -/
theorem meets_load {mine : List (Sigma StepReply)} (call : Call) :
    (load room path).run.Meets (fun _ step => WritesOwn call step)
      (fun later result => ∀ stored, result = .ok stored → ∃ raw,
        (⟨.readBytes path, .ok raw⟩ : Sigma StepReply) ∈ later ∧
          loadPath room path raw = .ok stored) mine := by
  refine Prog.meets_ask (fun error => ⟨trivial, fun stored h => by cases h⟩) fun raw => ?_
  refine ⟨trivial, fun stored h => ⟨raw, ?_, h⟩⟩
  exact List.mem_append_right _ (List.mem_singleton_self _)

theorem meets_append {mine : List (Sigma StepReply)} :
    (append room envelope).run.Meets (fun _ step => WritesOwn (.append envelope) step)
      (fun later result => ∀ stored, result = .ok stored → ReadOwn room envelope later stored)
      mine := by
  refine Prog.meets_ask (fun error => ⟨trivial, fun stored h => by cases h⟩) fun _ => ?_
  refine ⟨trivial, ?_⟩
  cases hpath : pathFor envelope.executionId with
  | error fault => exact fun stored h => by cases h
  | ok path =>
      refine Prog.meets_ask (fun error => ⟨trivial, fun stored h => by cases h⟩) fun found => ?_
      refine ⟨trivial, ?_⟩
      cases found with
      | true =>
          refine Prog.meets_bind (meets_load _) (fun later error _ stored h => by cases h) ?_
          intro later existing hload
          by_cases hdigest : existing.recordDigest = envelope.recordDigest
          · rw [if_pos hdigest]
            intro stored h
            obtain rfl := Except.ok.inj h
            obtain ⟨raw, hread, hloaded⟩ := hload existing rfl
            exact ⟨path, raw, hpath, hread, hloaded, hdigest⟩
          · rw [if_neg hdigest]
            exact fun stored h => by cases h
      | false =>
          refine Prog.meets_ask (fun error => ⟨trivial, fun stored h => by cases h⟩) fun _ => ?_
          refine ⟨trivial, ?_⟩
          refine Prog.meets_ask (fun error => ⟨⟨envelope, rfl, hpath, rfl⟩, fun stored h => by cases h⟩)
            fun _ => ⟨⟨envelope, rfl, hpath, rfl⟩, ?_⟩
          refine Prog.meets_ask (fun error => ⟨trivial, fun stored h => by cases h⟩) fun _ => ?_
          refine ⟨trivial, ?_⟩
          refine Prog.meets_bind (meets_load _) (fun later error _ stored h => by cases h) ?_
          intro later persisted hload
          by_cases hdigest : persisted.recordDigest = envelope.recordDigest
          · rw [if_neg (not_not.mpr hdigest)]
            intro stored h
            obtain rfl := Except.ok.inj h
            obtain ⟨raw, hread, hloaded⟩ := hload persisted rfl
            exact ⟨path, raw, hpath, hread, hloaded, hdigest⟩
          · rw [if_pos hdigest]
            exact fun stored h => by cases h

/-- What `_load_path` returns when its steps see a record in the file. -/
theorem meets_load_sees (raw : ByteArray) {mine : List (Sigma StepReply)} (call : Call) :
    (load room path).run.Meets (fun _ step => WritesOwn call step)
      (fun later result => (∀ step ∈ later, Sees path raw step) →
        result = loadPath room path raw) mine := by
  refine Prog.meets_ask (fun error => ⟨trivial, fun hsees => ?_⟩)
    fun answer => ⟨trivial, fun hsees => ?_⟩
  · have h := hsees _ (List.mem_append_right _ (List.mem_singleton_self _)) rfl
    cases h
  · have h := hsees _ (List.mem_append_right _ (List.mem_singleton_self _)) rfl
    obtain rfl := Except.ok.inj h
    rfl

/-- The result of a `get` whose steps see a record in the file. -/
theorem meets_get (raw : ByteArray) {executionId : PyText}
    (hpath : pathFor executionId = .ok path) :
    (get room executionId).run.Meets (fun _ step => WritesOwn (.get executionId) step)
      (fun later result => (∀ step ∈ later, Sees path raw step) →
        result = (loadPath room path raw).map some) [] := by
  unfold get
  rw [hpath]
  refine Prog.meets_ask (fun error => ⟨trivial, fun hsees => ?_⟩) fun found => ⟨trivial, ?_⟩
  · have h := hsees _ (List.mem_singleton_self _) rfl
    cases h
  · cases found with
    | false =>
        intro hsees
        have h := hsees _ (List.mem_singleton_self _) rfl
        cases h
    | true =>
        refine Prog.meets_bind (meets_load_sees raw _) ?_ ?_
        · intro later error h hsees
          rw [← h hsees]
          rfl
        · intro later stored h hsees
          rw [← h hsees]
          rfl

theorem meets_writesOwn (room : Nat) (call : Call) :
    (call.program room).Meets (fun _ step => WritesOwn call step) (fun _ _ => True) [] := by
  cases call with
  | append envelope =>
      exact Prog.meets_bind meets_append (fun _ _ _ => trivial) fun _ _ _ => trivial
  | get executionId =>
      show (get room executionId).run.Meets _ _ _
      unfold get
      cases pathFor executionId with
      | error fault => trivial
      | ok path =>
          refine Prog.meets_ask (fun _ => ⟨trivial, trivial⟩) fun found => ⟨trivial, ?_⟩
          cases found with
          | false => trivial
          | true =>
              exact Prog.meets_bind (meets_load _) (fun _ _ _ => trivial) fun _ _ _ => trivial

/-- The same, of a whole call. -/
theorem meets_appended (room : Nat) (envelope : GovernedExecutionAuditEnvelope) :
    ((Call.append envelope).program room).Meets (fun _ step => WritesOwn (.append envelope) step)
      (fun later result => ∀ answer, result = .ok answer →
        ∃ stored, answer = some stored ∧ ReadOwn room envelope later stored) [] := by
  refine Prog.meets_bind meets_append (fun later error _ answer h => by cases h) ?_
  intro later stored hread answer h
  obtain rfl := Except.ok.inj h
  exact ⟨stored, rfl, hread stored rfl⟩

end

/-! ## Runs -/

section

variable {ι : Type} [DecidableEq ι]

/-- A run of calls over the files of a root. -/
abbrev StoreRun (ι : Type) : Type :=
  Config ι RecordFiles StoreStep StepReply (Except StoreError (Option GovernedExecutionAuditEnvelope))

/-- The calls run in the order of a schedule, which says also which steps are refused. -/
def runCalls (room : Nat) (files : RecordFiles) (calls : ι → Call)
    (schedule : List (ι × Bool)) : StoreRun ι :=
  (Config.start files fun i => (calls i).program room).run takeStep schedule

/-- The next step, if it replaces a file and is not refused, finds none in its place. -/
def CarefulStep (c : StoreRun ι) (choice : ι × Bool) : Prop :=
  ∀ path encoded next, c.progs choice.1 = .call (.replace path encoded) next →
    choice.2 = false → c.shared path = none

/-- No step of the run replaces a record. -/
def Careful : StoreRun ι → List (ι × Bool) → Prop
  | _, [] => True
  | c, choice :: schedule => CarefulStep c choice ∧ Careful (c.step takeStep choice) schedule

theorem Careful.split {c : StoreRun ι} {before after : List (ι × Bool)}
    (h : Careful c (before ++ after)) :
    Careful c before ∧ Careful (c.run takeStep before) after := by
  induction before generalizing c with
  | nil => exact ⟨trivial, h⟩
  | cons choice before ih => exact ⟨⟨h.1, (ih h.2).1⟩, (ih h.2).2⟩

/-- **Invariant rule** of careful runs. -/
theorem Careful.invariant {P : StoreRun ι → Prop} {c : StoreRun ι} {schedule : List (ι × Bool)}
    (h : Careful c schedule)
    (hstep : ∀ c choice, CarefulStep c choice → P c → P (c.step takeStep choice)) (hc : P c) :
    P (c.run takeStep schedule) := by
  induction schedule generalizing c with
  | nil => exact hc
  | cons choice schedule ih => exact ih h.2 (hstep c choice h.1 hc)

/-- What a step does to a configuration. -/
theorem step_cases (c : StoreRun ι) (choice : ι × Bool) :
    c.step takeStep choice = c ∨ ∃ step next, c.progs choice.1 = .call step next ∧
      (c.step takeStep choice).shared = (takeStep c.shared choice.2 step).1 ∧
      (c.step takeStep choice).history =
        c.history ++ [(choice.1, ⟨step, (takeStep c.shared choice.2 step).2⟩)] := by
  unfold Config.step
  cases hprog : c.progs choice.1 with
  | ret answer => exact .inl rfl
  | call step next => exact .inr ⟨step, next, rfl, rfl, rfl⟩

/-- A careful step leaves every record in its place. -/
theorem CarefulStep.kept {c : StoreRun ι} {choice : ι × Bool} (h : CarefulStep c choice)
    {path : String} {raw : ByteArray} (hfile : c.shared path = some raw) :
    (c.step takeStep choice).shared path = some raw := by
  rcases step_cases c choice with heq | ⟨step, next, hprog, hshared, -⟩
  · rwa [heq]
  · rw [hshared]
    rcases takeStep_shared c.shared choice.2 step with hsame | ⟨name, encoded, rfl, hgranted, hnew⟩
    · rwa [hsame]
    · have hnone := h name encoded next hprog hgranted
      have hne : path ≠ name := by
        rintro rfl
        rw [hfile] at hnone
        cases hnone
      rw [hnew, Function.update_of_ne hne]
      exact hfile

/-- A step that is carried out sees the record that is there. -/
theorem sees_carryOut {files : RecordFiles} {path : String} {raw : ByteArray}
    (hfile : files path = some raw) (step : StoreStep) :
    Sees path raw ⟨step, (takeStep files false step).2⟩ := by
  cases step with
  | pathExists name =>
      rintro rfl
      show Except.ok (files name).isSome = _
      rw [hfile]
      rfl
  | readBytes name =>
      rintro rfl
      unfold takeStep carryOut
      rw [if_neg Bool.false_ne_true]
      dsimp only
      rw [hfile]
  | ensureRoot => trivial
  | replace name encoded => trivial
  | writeTemporary encoded => trivial
  | syncDirectory => trivial

/-- A record that was read is there. -/
theorem file_of_read {files : RecordFiles} {path : String} {raw : ByteArray} {refused : Bool}
    (h : (takeStep files refused (.readBytes path)).2 = .ok raw) : files path = some raw := by
  unfold takeStep carryOut at h
  cases refused with
  | true =>
      rw [if_pos rfl] at h
      cases h
  | false =>
      rw [if_neg Bool.false_ne_true] at h
      dsimp only at h
      cases hfile : files path with
      | none =>
          rw [hfile] at h
          cases h
      | some found =>
          rw [hfile] at h
          obtain rfl := Except.ok.inj h
          rfl

variable {room : Nat} {files : RecordFiles} {calls : ι → Call} {schedule : List (ι × Bool)}

/-- **What was read is still there**, at the end of a careful run. -/
theorem shared_of_read
    (hcareful : Careful (Config.start files fun i => (calls i).program room) schedule)
    {i : ι} {path : String} {raw : ByteArray}
    (h : (i, (⟨.readBytes path, .ok raw⟩ : Sigma StepReply)) ∈
      (runCalls room files calls schedule).history) :
    (runCalls room files calls schedule).shared path = some raw := by
  refine hcareful.invariant (P := fun c => ∀ i path raw,
    (i, (⟨.readBytes path, .ok raw⟩ : Sigma StepReply)) ∈ c.history → c.shared path = some raw)
    ?_ (fun _ _ _ h => absurd h List.not_mem_nil) i path raw h
  intro c choice hstep hc i path raw hmem
  rcases step_cases c choice with heq | ⟨step, next, hprog, hshared, hhistory⟩
  · rw [heq] at hmem ⊢
    exact hc i path raw hmem
  · rw [hhistory, List.mem_append, List.mem_singleton] at hmem
    refine hstep.kept ?_
    rcases hmem with hmem | hmem
    · exact hc i path raw hmem
    · obtain ⟨-, hentry⟩ := Prod.mk.inj hmem
      obtain ⟨rfl, hreply⟩ := Sigma.mk.inj hentry
      exact file_of_read (eq_of_heq hreply).symm

/-- A record was there at the start, or was written by a call. -/
theorem origin_of_file {path : String} {raw : ByteArray}
    (h : (runCalls room files calls schedule).shared path = some raw) :
    files path = some raw ∨ ∃ i envelope, calls i = .append envelope ∧
      pathFor envelope.executionId = .ok path ∧ raw = canonicalBytes envelope := by
  have hwritten : files path = some raw ∨ ∃ i reply,
      (i, (⟨.replace path raw, reply⟩ : Sigma StepReply)) ∈
        (runCalls room files calls schedule).history := by
    refine Config.run_induction takeStep (P := fun c => ∀ path raw, c.shared path = some raw →
      files path = some raw ∨ ∃ i reply,
        (i, (⟨.replace path raw, reply⟩ : Sigma StepReply)) ∈ c.history)
      ?_ schedule (fun path raw h => .inl h) path raw h
    intro c choice hc path raw hfile
    rcases step_cases c choice with heq | ⟨step, next, -, hshared, hhistory⟩
    · rw [heq] at hfile ⊢
      exact hc path raw hfile
    · rw [hhistory]
      have hbefore : c.shared path = some raw → files path = some raw ∨ ∃ i reply,
          (i, (⟨.replace path raw, reply⟩ : Sigma StepReply)) ∈
            c.history ++ [(choice.1, ⟨step, (takeStep c.shared choice.2 step).2⟩)] := by
        intro h
        refine (hc path raw h).imp_right ?_
        rintro ⟨i, reply, hmem⟩
        exact ⟨i, reply, List.mem_append_left _ hmem⟩
      rw [hshared] at hfile
      rcases takeStep_shared c.shared choice.2 step with hsame | ⟨name, encoded, rfl, -, hnew⟩
      · rw [hsame] at hfile
        exact hbefore hfile
      · rw [hnew] at hfile
        by_cases hname : path = name
        · obtain rfl := hname
          rw [Function.update_self] at hfile
          obtain rfl := Option.some.inj hfile
          exact .inr ⟨choice.1, _, List.mem_append_right _ (List.mem_singleton_self _)⟩
        · rw [Function.update_of_ne hname] at hfile
          exact hbefore hfile
  refine hwritten.imp_right ?_
  rintro ⟨i, reply, hmem⟩
  obtain ⟨before, after, hsplit⟩ := List.append_of_mem hmem
  obtain ⟨envelope, hcall, hpath, hraw⟩ := Config.run_meets takeStep files
    (fun i => meets_writesOwn room (calls i)) schedule hsplit
  exact ⟨i, envelope, hcall, hpath, hraw⟩

/-- **The steps after a record is there**: those of a call that are not refused see it. -/
theorem sees_later {c : StoreRun ι} {j : ι} {path : String} {raw : ByteArray}
    (hcareful : Careful c schedule) (hfile : c.shared path = some raw)
    (hgranted : ∀ choice ∈ schedule, choice.1 = j → choice.2 = false) :
    ∃ later, (c.run takeStep schedule).history = c.history ++ later ∧
      ∀ entry ∈ later, entry.1 = j → Sees path raw entry.2 := by
  induction schedule generalizing c with
  | nil => exact ⟨[], (List.append_nil _).symm, fun _ h => absurd h List.not_mem_nil⟩
  | cons choice schedule ih =>
      obtain ⟨hchoice, hrest⟩ := List.forall_mem_cons.mp hgranted
      obtain ⟨later, hlater, hsees⟩ := ih hcareful.2 (hcareful.1.kept hfile) hrest
      rcases step_cases c choice with heq | ⟨step, next, -, -, hhistory⟩
      · rw [heq] at hlater
        refine ⟨later, ?_, hsees⟩
        rw [Config.run, List.foldl_cons, heq]
        exact hlater
      · rw [hhistory, List.append_assoc] at hlater
        refine ⟨_, hlater, ?_⟩
        rw [List.singleton_append]
        refine List.forall_mem_cons.mpr ⟨fun hj => ?_, hsees⟩
        dsimp only at hj ⊢
        rw [hchoice hj]
        exact sees_carryOut hfile step

/-! ## Append-only -/

/-- **The store is append-only in a run**: once an `append` has returned, every `get` for its
    execution that starts later, and whose steps the system carries out, returns the same envelope;
    and of two calls that append for one execution and return, both append the same. -/
structure AppendOnly (room : Nat) (files : RecordFiles) (calls : ι → Call)
    (schedule : List (ι × Bool)) : Prop where
  kept : ∀ before after, schedule = before ++ after → ∀ i envelope answer,
    calls i = .append envelope → (runCalls room files calls before).progs i = .ret (.ok answer) →
    ∀ j, calls j = .get envelope.executionId →
      (∀ entry ∈ (runCalls room files calls before).history, entry.1 ≠ j) →
      (∀ choice ∈ after, choice.1 = j → choice.2 = false) →
      ∀ result, (runCalls room files calls schedule).progs j = .ret result →
        result = .ok (some envelope)
  single : ∀ i j first second answer other, calls i = .append first → calls j = .append second →
    first.executionId = second.executionId →
    (runCalls room files calls schedule).progs i = .ret (.ok answer) →
    (runCalls room files calls schedule).progs j = .ret (.ok other) → first = second

/-- A record that a call appends, or that is in the root from the start. -/
def InPlay (room : Nat) (files : RecordFiles) (calls : ι → Call)
    (envelope : GovernedExecutionAuditEnvelope) : Prop :=
  (∃ i, calls i = .append envelope) ∨
    ∃ path raw, files path = some raw ∧ loadPath room path raw = .ok envelope

/-- The records can be told apart: the interpreter has room for their nesting, no text that is
    appended has a pair of surrogates, and different records have different digests. -/
structure ToldApart (room : Nat) (files : RecordFiles) (calls : ι → Call) : Prop where
  nesting : 5 ≤ room
  kept : ∀ i envelope, calls i = .append envelope → envelope.Kept .stored
  distinct : ∀ first second, InPlay room files calls first → InPlay room files calls second →
    first.recordDigest = second.recordDigest → first = second

/-- **What an `append` that returned leaves**: its own envelope, in its place. -/
theorem stored_of_append (hapart : ToldApart room files calls)
    (hcareful : Careful (Config.start files fun i => (calls i).program room) schedule) {i : ι}
    {envelope : GovernedExecutionAuditEnvelope} {answer : Option GovernedExecutionAuditEnvelope}
    (hcall : calls i = .append envelope)
    (hreturned : (runCalls room files calls schedule).progs i = .ret (.ok answer)) :
    ∃ path raw, pathFor envelope.executionId = .ok path ∧
      (runCalls room files calls schedule).shared path = some raw ∧
      loadPath room path raw = .ok envelope := by
  have hpath := Config.path_run takeStep files (fun i => (calls i).program room) schedule i
  dsimp only at hpath
  rw [hcall] at hpath
  have hmeets := (meets_appended room envelope).path hpath
  have hfinal : ((Config.start files fun i => (calls i).program room).run takeStep schedule).progs i =
      .ret (.ok answer) := hreturned
  rw [hfinal] at hmeets
  obtain ⟨stored, -, path, raw, hname, hread, hloaded, hdigest⟩ := hmeets answer rfl
  rw [List.nil_append] at hread
  have hfile := shared_of_read hcareful (mem_projection.mp hread)
  refine ⟨path, raw, hname, hfile, ?_⟩
  -- the record that was read is one of those that are in play
  have hplay : InPlay room files calls stored := by
    rcases origin_of_file hfile with hinitial | ⟨k, other, hother, hpathOther, rfl⟩
    · exact .inr ⟨path, raw, hinitial, hloaded⟩
    · rw [(loadPath_canonicalBytes hapart.nesting (hapart.kept k other hother) hpathOther).mp hloaded]
      exact .inl ⟨k, hother⟩
  rwa [hapart.distinct stored envelope hplay (.inl ⟨i, hcall⟩) hdigest] at hloaded

theorem runCalls_append (before after : List (ι × Bool)) :
    runCalls room files calls (before ++ after) =
      (runCalls room files calls before).run takeStep after := List.foldl_append

end

/-! ## Two stores -/

section

variable {room : Nat} {files : RecordFiles} {path : String}
  {envelope : GovernedExecutionAuditEnvelope}

/-- The rest of an `append` that found no file. -/
def writing (room : Nat) (envelope : GovernedExecutionAuditEnvelope) (path : String) :
    StoreCall GovernedExecutionAuditEnvelope := do
  take (.writeTemporary (canonicalBytes envelope))
  take (.replace path (canonicalBytes envelope))
  take .syncDirectory
  let persisted ← load room path
  if persisted.recordDigest ≠ envelope.recordDigest then throw (.audit .integrity)
  else return persisted

/-- An `append` that has looked for its file and found none. -/
theorem exec_append (hpath : pathFor envelope.executionId = .ok path) (hnone : files path = none) :
    Prog.exec takeStep files [false, false] (append room envelope).run =
      (files, (writing room envelope path).run) := by
  have hexists : (takeStep files false (.pathExists path)).2 = .ok false := by
    show Except.ok (files path).isSome = _
    rw [hnone]
    rfl
  unfold append
  rw [hpath]
  exact (Prog.exec_ask rfl).trans (Prog.exec_ask hexists)

theorem exec_load {α : Type} {raw : ByteArray} (hfile : files path = some raw) (envs : List Bool)
    (k : GovernedExecutionAuditEnvelope → StoreCall α) :
    Prog.exec takeStep files (false :: envs) (load room path >>= k).run =
      Prog.exec takeStep files envs (settled (loadPath room path raw) >>= k).run := by
  have hread : takeStep files false (.readBytes path) = (files, .ok raw) := by
    unfold takeStep carryOut
    rw [if_neg Bool.false_ne_true]
    dsimp only
    rw [hfile]
  show Prog.exec takeStep (takeStep files false (.readBytes path)).1 envs
    (ExceptT.bindCont (fun raw => settled (loadPath room path raw))
      (takeStep files false (.readBytes path)).2 >>= ExceptT.bindCont k) = _
  rw [hread]
  rfl

/-- The rest of it, whatever the files are by then. -/
theorem exec_writing (hroom : 5 ≤ room) (hkept : envelope.Kept .stored)
    (hpath : pathFor envelope.executionId = .ok path) :
    Prog.exec takeStep files [false, false, false, false] (writing room envelope path).run =
      (Function.update files path (some (canonicalBytes envelope)), .ret (.ok envelope)) := by
  have hfile : Function.update files path (some (canonicalBytes envelope)) path =
      some (canonicalBytes envelope) := Function.update_self ..
  unfold writing
  refine (Prog.exec_ask rfl).trans ((Prog.exec_ask rfl).trans ((Prog.exec_ask rfl).trans ?_))
  refine (exec_load hfile [] _).trans ?_
  rw [(loadPath_canonicalBytes hroom hkept hpath).mpr rfl]
  show (_, (if envelope.recordDigest ≠ envelope.recordDigest then throw (.audit .integrity)
    else return envelope : StoreCall GovernedExecutionAuditEnvelope).run) = _
  rw [if_neg (not_not.mpr rfl)]
  rfl

theorem program_append (room : Nat) (envelope : GovernedExecutionAuditEnvelope) :
    (Call.append envelope).program room =
      ((append room envelope).run >>= fun result => .ret (result.map some)) := by
  show ((append room envelope).run >>= ExceptT.bindCont fun stored => _) = _
  congr 1
  funext result
  cases result with
  | error error => rfl
  | ok stored => rfl

/-- Two stores that append. -/
def twoStores (first second : GovernedExecutionAuditEnvelope) : Bool → Call
  | false => .append first
  | true => .append second

/-- Both look for the file before either writes. -/
def raceSchedule : List (Bool × Bool) :=
  [false, false].map (false, ·) ++ [false, false].map (true, ·) ++
    [false, false, false, false].map (false, ·) ++ [false, false, false, false].map (true, ·)

/-- **Both return**, and the second record replaces the first. -/
theorem race_returns {first second : GovernedExecutionAuditEnvelope} (hroom : 5 ≤ room)
    (hfirst : first.Kept .stored) (hsecond : second.Kept .stored)
    (hpath : pathFor first.executionId = .ok path)
    (hpath' : pathFor second.executionId = .ok path) :
    let final := runCalls room (fun _ => none) (twoStores first second) raceSchedule
    final.progs false = .ret (.ok (some first)) ∧ final.progs true = .ret (.ok (some second)) := by
  intro final
  let start : StoreRun Bool := Config.start (fun _ => none)
    fun i => (twoStores first second i).program room
  -- the four parts of the schedule, each a run of one store alone
  obtain ⟨hshared₁, hprogs₁⟩ := Config.run_alone takeStep start false [false, false]
  set one := start.run takeStep ([false, false].map (false, ·))
  obtain ⟨hshared₂, hprogs₂⟩ := Config.run_alone takeStep one true [false, false]
  set two := one.run takeStep ([false, false].map (true, ·))
  obtain ⟨hshared₃, hprogs₃⟩ := Config.run_alone takeStep two false [false, false, false, false]
  set three := two.run takeStep ([false, false, false, false].map (false, ·))
  obtain ⟨-, hprogs₄⟩ := Config.run_alone takeStep three true [false, false, false, false]
  have hfinal : final = three.run takeStep ([false, false, false, false].map (true, ·)) := rfl
  have hnone : (fun _ => none : RecordFiles) path = none := rfl
  have hstart : start.progs false = (append room first).run >>= fun result =>
      .ret (result.map some) := program_append room first
  have hstart' : start.progs true = (append room second).run >>= fun result =>
      .ret (result.map some) := program_append room second
  rw [hstart, Prog.exec_map, exec_append hpath hnone] at hshared₁ hprogs₁
  have hlook : one.progs true = (append room second).run >>= fun result =>
      .ret (result.map some) := by
    rw [hprogs₁, Function.update_of_ne (by decide)]
    exact hstart'
  rw [hlook, Prog.exec_map, hshared₁, exec_append hpath' hnone] at hshared₂ hprogs₂
  have hwrite : two.progs false = (writing room first path).run >>= fun result =>
      .ret (result.map some) := by
    rw [hprogs₂, Function.update_of_ne (by decide), hprogs₁, Function.update_self]
  rw [hwrite, Prog.exec_map, exec_writing hroom hfirst hpath] at hshared₃ hprogs₃
  have hwrite' : three.progs true = (writing room second path).run >>= fun result =>
      .ret (result.map some) := by
    rw [hprogs₃, Function.update_of_ne (by decide), hprogs₂, Function.update_self]
  rw [hwrite', Prog.exec_map, exec_writing hroom hsecond hpath'] at hprogs₄
  rw [hfinal, hprogs₄]
  refine ⟨?_, Function.update_self ..⟩
  rw [Function.update_of_ne (by decide), hprogs₃, Function.update_self]
  rfl

end

/-- The envelope of the same execution, observed by another run. -/
def otherEnvelope : GovernedExecutionAuditEnvelope where
  toEnvelopeFields := { GovernedExecutionAuditEnvelope.observedEnvelope.toEnvelopeFields with
    runId := ⟨.ofString "other", by decide⟩ }
  structured := by decide
  convertible := by decide

theorem observed_kept : GovernedExecutionAuditEnvelope.observedEnvelope.Kept .stored := by
  refine ⟨mend_ofString _, mend_ofString _, fun record hrecord reference hreference => ?_⟩
  rw [List.mem_singleton.mp hrecord] at hreference
  cases hreference

theorem other_kept : otherEnvelope.Kept .stored := by
  refine ⟨mend_ofString _, mend_ofString _, fun record hrecord reference hreference => ?_⟩
  rw [List.mem_singleton.mp hrecord] at hreference
  cases hreference

theorem observed_path :
    pathFor GovernedExecutionAuditEnvelope.observedEnvelope.executionId =
      .ok (sha256Hex (String.ofList "execution".toList)) := by
  have hscalars : (PyText.ofString "execution").scalars? = some "execution".toList :=
    PyText.scalars?_ofString "execution"
  show pathFor (PyText.ofString "execution") = _
  unfold pathFor
  rw [if_neg (by decide), hscalars]

section

variable {room : Nat} {files : RecordFiles} {path : String} {raw : ByteArray}
  {envelope : GovernedExecutionAuditEnvelope}

/-- An `append` looks for its file first. -/
theorem exec_append_exists {found : Bool} (hpath : pathFor envelope.executionId = .ok path)
    (hfound : (files path).isSome = found) (envs : List Bool) :
    Prog.exec takeStep files (false :: false :: envs) (append room envelope).run =
      Prog.exec takeStep files envs
        (if found then do
          let existing ← load room path
          if existing.recordDigest = envelope.recordDigest then return existing
          else throw .collision
        else writing room envelope path : StoreCall GovernedExecutionAuditEnvelope).run := by
  have hexists : (takeStep files false (.pathExists path)).2 = .ok found :=
    congrArg Except.ok hfound
  unfold append
  rw [hpath]
  refine (Prog.exec_ask rfl).trans ((Prog.exec_ask hexists).trans ?_)
  cases found with
  | true => rfl
  | false => rfl

/-- A record that is there already is returned, and nothing changes. -/
theorem exec_append_again (hroom : 5 ≤ room) (hkept : envelope.Kept .stored)
    (hpath : pathFor envelope.executionId = .ok path)
    (hfile : files path = some (canonicalBytes envelope)) :
    Prog.exec takeStep files (List.replicate 6 false) (append room envelope).run =
      (files, .ret (.ok envelope)) := by
  have hfound : (files path).isSome = true := by
    rw [hfile]
    rfl
  refine (exec_append_exists hpath hfound (List.replicate 4 false)).trans ?_
  rw [if_pos rfl]
  refine (exec_load hfile (List.replicate 3 false) _).trans ?_
  rw [(loadPath_canonicalBytes hroom hkept hpath).mpr rfl]
  show Prog.exec takeStep files _ (if envelope.recordDigest = envelope.recordDigest then
    return envelope else throw .collision : StoreCall GovernedExecutionAuditEnvelope).run = _
  rw [if_pos rfl]
  rfl

/-- A record that is not there is written. -/
theorem exec_append_first (hroom : 5 ≤ room) (hkept : envelope.Kept .stored)
    (hpath : pathFor envelope.executionId = .ok path) (hnone : files path = none) :
    Prog.exec takeStep files (List.replicate 6 false) (append room envelope).run =
      (Function.update files path (some (canonicalBytes envelope)), .ret (.ok envelope)) := by
  have hfound : (files path).isSome = false := by
    rw [hnone]
    rfl
  refine (exec_append_exists hpath hfound (List.replicate 4 false)).trans ?_
  rw [if_neg Bool.false_ne_true]
  exact exec_writing hroom hkept hpath

/-- `get`, of an execution whose record is in its file. -/
theorem exec_get {executionId : PyText} (hpath : pathFor executionId = .ok path)
    (hfile : files path = some raw) (hload : loadPath room path raw = .ok envelope) :
    Prog.exec takeStep files [false, false] (get room executionId).run =
      (files, .ret (.ok (some envelope))) := by
  have hexists : (takeStep files false (.pathExists path)).2 = .ok true := by
    show Except.ok (files path).isSome = _
    rw [hfile]
    rfl
  unfold get
  rw [hpath]
  refine (Prog.exec_ask hexists).trans ((exec_load hfile [] _).trans ?_)
  rw [hload]
  rfl

end

end Eag.GovernedAudit
