/-
  Eag.GovernedTransitionControl.RecordPayload

  Durable control records as JSON objects: `TransitionControlRecord.to_payload` and
  `from_payload` (`governed_transition_control/models.py`).

  The control identity of a stored record is any Python text (`StoredControlRecord`). The
  digest of a record is taken over its time in UTC, while `from_payload` takes the time in
  every form that `fromisoformat` reads: `handled_exactly_iff` says which payloads come out
  wrong.
-/

import Eag.Foundation.Checks
import Eag.Foundation.IsoFormat
import Eag.Foundation.JsonEncoder
import Eag.GovernedTransitionControl.Models

namespace Eag.GovernedTransitionControl

open Eag.Foundation

/-! ## Records -/

/-- A text of a lower-case SHA-256 digest. -/
abbrev DigestText := { value : String // IsDigest value }

/-- A text that is not blank. -/
abbrev IdentityText := { value : PyText // value.NonBlank }

/-- A time that `canonical_timestamp` returns. -/
abbrev UtcTime := { value : DateTime // value.utcOffset = some 0 ∧ value.InRange }

/-- Everything a stored record holds but its digest. -/
structure StoredControlFields where
  controlId : IdentityText
  controlKey : DigestText
  bindingDigest : DigestText
  requestDigest : DigestText
  state : TransitionControlRecordState
  occurredAt : UtcTime

/-- `calculate_digest`. -/
def StoredControlFields.calculateDigest (f : StoredControlFields) : String :=
  Payload.digest (.object [
    ("binding_digest", .text f.bindingDigest),
    ("control_id", .str f.controlId),
    ("control_key", .text f.controlKey),
    ("occurred_at", .text f.occurredAt.val.isoformat),
    ("request_digest", .text f.requestDigest),
    ("schema_version", .text transitionControlSchemaVersion),
    ("state", .text f.state.value)])

/-- One durable control record. Its schema version is the supported one. -/
structure StoredControlRecord extends StoredControlFields where
  recordDigest : String
  recordDigest_canonical : recordDigest = toStoredControlFields.calculateDigest

namespace StoredControlRecord

theorem recordDigest_isDigest (record : StoredControlRecord) : IsDigest record.recordDigest := by
  rw [record.recordDigest_canonical]
  exact Payload.isDigest_digest _

/-- The texts of `to_payload`. -/
def payloadTexts (record : StoredControlRecord) : List (String × PyText) := [
  ("binding_digest", .ofString record.bindingDigest),
  ("control_id", record.controlId),
  ("control_key", .ofString record.controlKey),
  ("occurred_at", .ofString record.occurredAt.val.isoformat),
  ("record_digest", .ofString record.recordDigest),
  ("request_digest", .ofString record.requestDigest),
  ("schema_version", .ofString transitionControlSchemaVersion),
  ("state", .ofString record.state.value)]

end StoredControlRecord

/-- A dict of texts. -/
def textEntries : List (String × PyText) → PyEntries
  | [] => .nil
  | (key, text) :: rest => .cons (.ofString key) (.str text) (textEntries rest)

/-- `to_payload`. -/
def StoredControlRecord.toPayload (record : StoredControlRecord) : PyEntries :=
  textEntries record.payloadTexts

/-- The entry of a dict at a literal key. -/
def field (entries : PyEntries) (name : String) : Option PyValue := entries.get? (.ofString name)

theorem field_textEntries (texts : List (String × PyText)) (name : String) :
    field (textEntries texts) name = (texts.lookup name).map .str := by
  induction texts with
  | nil => rfl
  | cons first rest ih =>
      obtain ⟨key, text⟩ := first
      by_cases hkey : key = name
      · subst hkey
        simp [field, textEntries, PyEntries.get?]
      · have hne : PyText.ofString key ≠ PyText.ofString name := fun h =>
          hkey (PyText.ofString_injective h)
        have hbeq : (name == key) = false := beq_false_of_ne fun h => hkey h.symm
        simp only [field, textEntries, PyEntries.get?, if_neg hne, List.lookup_cons, hbeq]
        exact ih

/-! ## Reading a record -/

/-- How `from_payload` fails: with the `TransitionControlEvidenceError` of a corrupt record,
    or with the `OverflowError` that `astimezone` raises and nothing catches. -/
inductive PayloadFault where
  | corruption
  | overflow
  deriving DecidableEq, Repr

/-- The keys a payload must have. -/
def requiredFields : List String :=
  ["binding_digest", "control_id", "control_key", "occurred_at", "record_digest",
    "request_digest", "schema_version", "state"]

/-- `set(payload) == required`. -/
def HasExactly (entries : PyEntries) (names : List String) : Prop :=
  (∀ key ∈ entries.keys, ∃ name ∈ names, key = .ofString name) ∧
    ∀ name ∈ names, .ofString name ∈ entries.keys

instance (entries : PyEntries) (names : List String) : Decidable (HasExactly entries names) :=
  inferInstanceAs (Decidable (_ ∧ _))

/-- `require_non_empty`. -/
def requireNonEmpty : Option PyValue → Except PayloadFault IdentityText
  | some (.str t) => if h : t.NonBlank then .ok ⟨t, h⟩ else .error .corruption
  | _ => .error .corruption

/-- `require_sha256`. -/
def requireDigest : Option PyValue → Except PayloadFault DigestText
  | some (.str t) =>
      match t.scalars? with
      | none => .error .corruption
      | some cs =>
          if h : IsDigest (String.ofList cs) then .ok ⟨String.ofList cs, h⟩
          else .error .corruption
  | _ => .error .corruption

/-- `TransitionControlRecordState(value)`. -/
def recordState : Option PyValue → Except PayloadFault TransitionControlRecordState
  | some (.str t) =>
      if t = .ofString TransitionControlRecordState.claimed.value then .ok .claimed
      else if t = .ofString TransitionControlRecordState.ambiguous.value then .ok .ambiguous
      else .error .corruption
  | _ => .error .corruption

/-- `datetime.fromisoformat(value)`. -/
def parsedTime : Option PyValue → Except PayloadFault DateTime
  | some (.str t) =>
      match DateTime.fromisoformat t with
      | some parsed => .ok parsed
      | none => .error .corruption
  | _ => .error .corruption

/-- `canonical_timestamp`. -/
def canonicalTimestamp (t : DateTime) : Except PayloadFault UtcTime :=
  match t.utcOffset with
  | none => .error .corruption
  | some offset =>
      if h : (t.toUtc offset).InRange then .ok ⟨t.toUtc offset, rfl, h⟩ else .error .overflow

/-- `schema_version != TRANSITION_CONTROL_SCHEMA_VERSION`. -/
def requireSchema : Option PyValue → Except PayloadFault Unit
  | some (.str t) => require (t = .ofString transitionControlSchemaVersion) .corruption
  | _ => .error .corruption

/-- The end of `__post_init__`: the digest of the record is that of its fields. -/
def withDigest (fields : StoredControlFields) (recordDigest : DigestText) :
    Except PayloadFault StoredControlRecord :=
  if h : recordDigest.val = fields.calculateDigest then .ok ⟨fields, recordDigest, h⟩
  else .error .corruption

/-- `from_payload`. -/
def fromPayload : PyValue → Except PayloadFault StoredControlRecord
  | .dict entries => do
      require (HasExactly entries requiredFields) .corruption
      let state ← recordState (field entries "state")
      let parsed ← parsedTime (field entries "occurred_at")
      let controlId ← requireNonEmpty (field entries "control_id")
      let controlKey ← requireDigest (field entries "control_key")
      let bindingDigest ← requireDigest (field entries "binding_digest")
      let requestDigest ← requireDigest (field entries "request_digest")
      let recordDigest ← requireDigest (field entries "record_digest")
      let occurredAt ← canonicalTimestamp parsed
      requireSchema (field entries "schema_version")
      withDigest ⟨controlId, controlKey, bindingDigest, requestDigest, state, occurredAt⟩
        recordDigest
  | _ => .error .corruption

/-! ## What each reader accepts -/

theorem requireNonEmpty_eq_ok {value : Option PyValue} {t : IdentityText} :
    requireNonEmpty value = .ok t ↔ value = some (.str t) := by
  constructor
  · intro h
    unfold requireNonEmpty at h
    split at h
    · split at h
      · rw [← Except.ok.inj h]
      · cases h
    · cases h
  · rintro rfl
    rw [requireNonEmpty, dif_pos t.property]

theorem requireDigest_eq_ok {value : Option PyValue} {d : DigestText} :
    requireDigest value = .ok d ↔ value = some (.str (.ofString d)) := by
  constructor
  · intro h
    unfold requireDigest at h
    split at h
    · next t =>
        split at h
        · cases h
        · next cs hcs =>
            split at h
            · rw [← Except.ok.inj h, PyText.ofString, String.toList_ofList,
                PyText.scalars?_eq_some.mp hcs]
            · cases h
    · cases h
  · rintro rfl
    simp only [requireDigest, PyText.scalars?_ofString, String.ofList_toList]
    rw [dif_pos d.property]

theorem recordState_eq_ok {value : Option PyValue} {state : TransitionControlRecordState} :
    recordState value = .ok state ↔ value = some (.str (.ofString state.value)) := by
  constructor
  · intro h
    unfold recordState at h
    split at h
    · next t =>
        split at h
        · next htext => rw [← Except.ok.inj h, htext]
        · split at h
          · next htext => rw [← Except.ok.inj h, htext]
          · cases h
    · cases h
  · rintro rfl
    cases state with
    | claimed => rfl
    | ambiguous => rfl

theorem parsedTime_eq_ok {value : Option PyValue} {parsed : DateTime} :
    parsedTime value = .ok parsed ↔
      ∃ text, value = some (.str text) ∧ DateTime.fromisoformat text = some parsed := by
  constructor
  · intro h
    unfold parsedTime at h
    split at h
    · next text =>
        split at h
        · next hparsed => exact ⟨text, rfl, by rw [hparsed, Except.ok.inj h]⟩
        · cases h
    · cases h
  · rintro ⟨text, rfl, hparsed⟩
    simp only [parsedTime, hparsed]

theorem canonicalTimestamp_eq_ok {t : DateTime} {utc : UtcTime} :
    canonicalTimestamp t = .ok utc ↔ ∃ offset, t.utcOffset = some offset ∧ t.toUtc offset = utc := by
  constructor
  · intro h
    unfold canonicalTimestamp at h
    split at h
    · cases h
    · next offset hoffset =>
        split at h
        · exact ⟨offset, hoffset, by rw [← Except.ok.inj h]⟩
        · cases h
  · rintro ⟨offset, hoffset, hutc⟩
    have hrange : (t.toUtc offset).InRange := by
      rw [hutc]
      exact utc.property.2
    simp only [canonicalTimestamp, hoffset, dif_pos hrange]
    exact congrArg Except.ok (Subtype.ext hutc)

theorem canonicalTimestamp_eq_overflow {t : DateTime} :
    canonicalTimestamp t = .error .overflow ↔
      ∃ offset, t.utcOffset = some offset ∧ ¬(t.toUtc offset).InRange := by
  cases hoffset : t.utcOffset with
  | none => simp [canonicalTimestamp, hoffset]
  | some offset =>
      by_cases hrange : (t.toUtc offset).InRange
      · simp [canonicalTimestamp, hoffset, hrange]
      · simp [canonicalTimestamp, hoffset, hrange]

theorem requireSchema_eq_ok {value : Option PyValue} {u : Unit} :
    requireSchema value = .ok u ↔
      value = some (.str (.ofString transitionControlSchemaVersion)) := by
  constructor
  · intro h
    unfold requireSchema at h
    split at h
    · rw [(require_eq_ok _ _ _).mp h]
    · cases h
  · rintro rfl
    exact require_of _ _ rfl

theorem withDigest_eq_ok {fields : StoredControlFields} {digest : DigestText}
    {record : StoredControlRecord} :
    withDigest fields digest = .ok record ↔
      record.toStoredControlFields = fields ∧ record.recordDigest = digest := by
  constructor
  · intro h
    unfold withDigest at h
    split at h
    · rw [← Except.ok.inj h]
      exact ⟨rfl, rfl⟩
    · cases h
  · rintro ⟨rfl, hdigest⟩
    have hcanonical : digest.val = record.calculateDigest := by
      rw [← hdigest, record.recordDigest_canonical]
    rw [withDigest, dif_pos hcanonical]
    cases record
    subst hdigest
    rfl

/-! ## Payloads of records -/

/-- `payload == record.to_payload()`: two dicts are equal when they have the same entries,
    in whatever order. -/
def IsPayloadOf (payload : PyValue) (record : StoredControlRecord) : Prop :=
  ∃ entries, payload = .dict entries ∧ ∀ key, entries.get? key = record.toPayload.get? key

/-- A dict that has the entries of a record's payload, but for its time. -/
structure AgreesExceptTime (entries : PyEntries) (record : StoredControlRecord) : Prop where
  keys : HasExactly entries requiredFields
  bindingDigest : field entries "binding_digest" = some (.str (.ofString record.bindingDigest))
  controlId : field entries "control_id" = some (.str record.controlId)
  controlKey : field entries "control_key" = some (.str (.ofString record.controlKey))
  recordDigest : field entries "record_digest" = some (.str (.ofString record.recordDigest))
  requestDigest : field entries "request_digest" = some (.str (.ofString record.requestDigest))
  schemaVersion : field entries "schema_version" =
    some (.str (.ofString transitionControlSchemaVersion))
  state : field entries "state" = some (.str (.ofString record.state.value))

/-- The time of a dict is a text that reads as an aware time. -/
structure ReadsTime (entries : PyEntries) (text : PyText) (parsed : DateTime) (offset : Int) :
    Prop where
  present : field entries "occurred_at" = some (.str text)
  reads : DateTime.fromisoformat text = some parsed
  aware : parsed.utcOffset = some offset

theorem field_toPayload (record : StoredControlRecord) (name : String) :
    field record.toPayload name = (record.payloadTexts.lookup name).map .str :=
  field_textEntries _ _

theorem keys_textEntries (texts : List (String × PyText)) :
    (textEntries texts).keys = texts.map fun entry => .ofString entry.1 := by
  induction texts with
  | nil => rfl
  | cons first rest ih => rw [textEntries, PyEntries.keys, ih, List.map_cons]

theorem keys_toPayload (record : StoredControlRecord) :
    record.toPayload.keys = requiredFields.map .ofString := keys_textEntries _

/-- A payload is the one of a record when its entries are, the time's among them. -/
theorem isPayloadOf_iff {entries : PyEntries} {record : StoredControlRecord} :
    IsPayloadOf (.dict entries) record ↔ AgreesExceptTime entries record ∧
      field entries "occurred_at" = some (.str (.ofString record.occurredAt.val.isoformat)) := by
  constructor
  · rintro ⟨_, hentries, hsame⟩
    obtain rfl := PyValue.dict.inj hentries
    have hfield : ∀ name, field entries name = (record.payloadTexts.lookup name).map .str :=
      fun name => (hsame _).trans (field_toPayload record name)
    have hkeys : ∀ key, key ∈ entries.keys ↔ key ∈ requiredFields.map .ofString := fun key => by
      rw [PyEntries.mem_keys, hsame, ← PyEntries.mem_keys, keys_toPayload]
    have hexactly : HasExactly entries requiredFields :=
      ⟨fun key hkey => by
        obtain ⟨name, hname, heq⟩ := List.mem_map.mp ((hkeys key).mp hkey)
        exact ⟨name, hname, heq.symm⟩,
       fun name hname => (hkeys _).mpr (List.mem_map_of_mem hname)⟩
    exact ⟨⟨hexactly, hfield _, hfield _, hfield _, hfield _, hfield _, hfield _, hfield _⟩,
      hfield _⟩
  · rintro ⟨hagrees, htime⟩
    refine ⟨entries, rfl, fun key => ?_⟩
    by_cases hkey : key ∈ requiredFields.map .ofString
    · obtain ⟨name, hname, rfl⟩ := List.mem_map.mp hkey
      show field entries name = field record.toPayload name
      rw [field_toPayload]
      simp only [requiredFields, List.mem_cons, List.not_mem_nil, or_false] at hname
      rcases hname with rfl | rfl | rfl | rfl | rfl | rfl | rfl | rfl
      · exact hagrees.bindingDigest
      · exact hagrees.controlId
      · exact hagrees.controlKey
      · exact htime
      · exact hagrees.recordDigest
      · exact hagrees.requestDigest
      · exact hagrees.schemaVersion
      · exact hagrees.state
    · -- a key that is not required is in neither dict
      have hnone : entries.get? key = none := by
        by_contra hsome
        obtain ⟨name, hname, heq⟩ := hagrees.keys.1 key ((PyEntries.mem_keys _).mpr hsome)
        exact hkey (heq ▸ List.mem_map_of_mem hname)
      have hnone' : record.toPayload.get? key = none := by
        by_contra hsome
        exact hkey (keys_toPayload record ▸ (PyEntries.mem_keys _).mpr hsome)
      rw [hnone, hnone']

/-! ## What is accepted -/

/-- **What `from_payload` accepts**: the entries of the record, with any text for its time
    that reads as the same instant. -/
theorem fromPayload_eq_ok {entries : PyEntries} {record : StoredControlRecord} :
    fromPayload (.dict entries) = .ok record ↔ AgreesExceptTime entries record ∧
      ∃ text parsed offset, ReadsTime entries text parsed offset ∧
        parsed.toUtc offset = record.occurredAt := by
  simp only [fromPayload, except_bind_eq_ok, require_eq_ok, recordState_eq_ok,
    parsedTime_eq_ok, requireNonEmpty_eq_ok, requireDigest_eq_ok, canonicalTimestamp_eq_ok,
    requireSchema_eq_ok, withDigest_eq_ok]
  constructor
  · rintro ⟨-, hkeys, state, hstate, parsed, ⟨text, htext, hparsed⟩, controlId, hcontrolId,
      controlKey, hcontrolKey, bindingDigest, hbinding, requestDigest, hrequest, recordDigest,
      hrecord, occurredAt, ⟨offset, haware, hutc⟩, -, hschema, hfields, hdigest⟩
    obtain ⟨fields, digest, hcanonical⟩ := record
    obtain rfl : fields = _ := hfields
    obtain rfl : digest = _ := hdigest
    exact ⟨⟨hkeys, hbinding, hcontrolId, hcontrolKey, hrecord, hrequest, hschema, hstate⟩,
      text, parsed, offset, ⟨htext, hparsed, haware⟩, hutc⟩
  · rintro ⟨hagrees, text, parsed, offset, htime, hutc⟩
    exact ⟨(), hagrees.keys, record.state, hagrees.state, parsed,
      ⟨text, htime.present, htime.reads⟩, record.controlId, hagrees.controlId, record.controlKey,
      hagrees.controlKey, record.bindingDigest, hagrees.bindingDigest, record.requestDigest,
      hagrees.requestDigest, ⟨record.recordDigest, record.recordDigest_isDigest⟩,
      hagrees.recordDigest, record.occurredAt, ⟨offset, htime.aware, hutc⟩, (),
      hagrees.schemaVersion, rfl, rfl⟩

/-- **The payload of a record is read back as the record.** -/
theorem fromPayload_of_isPayloadOf {payload : PyValue} {record : StoredControlRecord}
    (h : IsPayloadOf payload record) : fromPayload payload = .ok record := by
  obtain ⟨entries, rfl⟩ : ∃ entries, payload = .dict entries := by
    obtain ⟨entries, hentries, -⟩ := h
    exact ⟨entries, hentries⟩
  obtain ⟨hagrees, htime⟩ := isPayloadOf_iff.mp h
  obtain ⟨hutc, hrange⟩ := record.occurredAt.property
  refine fromPayload_eq_ok.mpr ⟨hagrees, _, record.occurredAt.val, 0,
    ⟨htime, DateTime.fromisoformat_isoformat hutc hrange, hutc⟩, ?_⟩
  -- a time in UTC is its own time in UTC
  obtain ⟨⟨wall, zone⟩, hzone, _⟩ := record.occurredAt
  obtain rfl : zone = some 0 := hzone
  rw [DateTime.toUtc, Int.sub_zero]

/-! ## What is neither accepted nor refused as corrupt -/

/-- The entries of a dict, but for its time and the digest of the record, have the forms of a
    record's. -/
structure FormedExceptTime (entries : PyEntries) : Prop where
  keys : HasExactly entries requiredFields
  state : ∃ state : TransitionControlRecordState,
    field entries "state" = some (.str (.ofString state.value))
  controlId : ∃ t : IdentityText, field entries "control_id" = some (.str t)
  digests : ∀ name ∈ ["control_key", "binding_digest", "request_digest", "record_digest"],
    ∃ d : DigestText, field entries name = some (.str (.ofString d))

theorem bind_eq_overflow {α β : Type} {x : Except PayloadFault α} {f : α → Except PayloadFault β}
    (hx : x ≠ .error .overflow) :
    (x >>= f) = .error .overflow ↔ ∃ a, x = .ok a ∧ f a = .error .overflow := by
  cases x with
  | ok a => simp [bind, Except.bind]
  | error fault => simpa [bind, Except.bind] using hx

theorem bind_eq_overflow_of_rest {α β : Type} {x : Except PayloadFault α}
    {f : α → Except PayloadFault β} (hf : ∀ a, f a ≠ .error .overflow) :
    (x >>= f) = .error .overflow ↔ x = .error .overflow := by
  cases x with
  | ok a => simpa [bind, Except.bind] using hf a
  | error fault => simp [bind, Except.bind]

theorem requireNonEmpty_ne_overflow (value : Option PyValue) :
    requireNonEmpty value ≠ .error .overflow := by
  unfold requireNonEmpty
  split
  · split <;> simp
  · simp

theorem requireDigest_ne_overflow (value : Option PyValue) :
    requireDigest value ≠ .error .overflow := by
  unfold requireDigest
  split
  · split
    · simp
    · split <;> simp
  · simp

theorem recordState_ne_overflow (value : Option PyValue) :
    recordState value ≠ .error .overflow := by
  unfold recordState
  split
  · split
    · simp
    · split <;> simp
  · simp

theorem parsedTime_ne_overflow (value : Option PyValue) :
    parsedTime value ≠ .error .overflow := by
  unfold parsedTime
  split
  · split <;> simp
  · simp

theorem require_ne_overflow (p : Prop) [Decidable p] :
    require p PayloadFault.corruption ≠ .error .overflow := by
  unfold require
  split <;> simp

/-- What comes after the time never overflows. -/
theorem after_time_ne_overflow (value : Option PyValue) (fields : StoredControlFields)
    (digest : DigestText) :
    (do requireSchema value; withDigest fields digest) ≠ .error .overflow := by
  unfold requireSchema withDigest require
  split
  · split
    · rw [except_ok_bind]
      split <;> simp
    · simp [bind, Except.bind]
  · simp [bind, Except.bind]

theorem fromPayload_eq_overflow {entries : PyEntries} :
    fromPayload (.dict entries) = .error .overflow ↔ FormedExceptTime entries ∧
      ∃ text parsed offset, ReadsTime entries text parsed offset ∧
        ¬(parsed.toUtc offset).InRange := by
  simp only [fromPayload, bind_eq_overflow, require_ne_overflow, recordState_ne_overflow,
    parsedTime_ne_overflow, requireNonEmpty_ne_overflow, requireDigest_ne_overflow, ne_eq,
    not_false_eq_true, require_eq_ok, recordState_eq_ok, parsedTime_eq_ok,
    requireNonEmpty_eq_ok, requireDigest_eq_ok]
  constructor
  · rintro ⟨-, hkeys, state, hstate, parsed, ⟨text, htext, hparsed⟩, controlId, hcontrolId,
      controlKey, hcontrolKey, bindingDigest, hbinding, requestDigest, hrequest, recordDigest,
      hrecord, hoverflow⟩
    rw [bind_eq_overflow_of_rest fun _ => after_time_ne_overflow _ _ _,
      canonicalTimestamp_eq_overflow] at hoverflow
    obtain ⟨offset, haware, hrange⟩ := hoverflow
    refine ⟨⟨hkeys, ⟨state, hstate⟩, ⟨controlId, hcontrolId⟩, ?_⟩,
      text, parsed, offset, ⟨htext, hparsed, haware⟩, hrange⟩
    simp only [List.forall_mem_cons, List.not_mem_nil, false_implies, implies_true, and_true]
    exact ⟨⟨_, hcontrolKey⟩, ⟨_, hbinding⟩, ⟨_, hrequest⟩, ⟨_, hrecord⟩⟩
  · rintro ⟨⟨hkeys, ⟨state, hstate⟩, ⟨controlId, hcontrolId⟩, hdigests⟩, text, parsed, offset,
      htime, hrange⟩
    simp only [List.forall_mem_cons, List.not_mem_nil, false_implies, implies_true,
      and_true] at hdigests
    obtain ⟨⟨controlKey, hcontrolKey⟩, ⟨bindingDigest, hbinding⟩, ⟨requestDigest, hrequest⟩,
      recordDigest, hrecord⟩ := hdigests
    refine ⟨(), hkeys, state, hstate, parsed, ⟨text, htime.present, htime.reads⟩, controlId,
      hcontrolId, controlKey, hcontrolKey, bindingDigest, hbinding, requestDigest, hrequest,
      recordDigest, hrecord, ?_⟩
    rw [bind_eq_overflow_of_rest fun _ => after_time_ne_overflow _ _ _,
      canonicalTimestamp_eq_overflow]
    exact ⟨offset, htime.aware, hrange⟩

/-! ## Canonical records -/

/-- A payload is handled as a canonical one or a corrupt one: it is accepted as the record
    whose payload it is, and refused as corruption when it is the payload of none. -/
def HandledExactly (payload : PyValue) : Prop :=
  (∀ record, fromPayload payload = .ok record ↔ IsPayloadOf payload record) ∧
    ((∀ record, ¬IsPayloadOf payload record) → fromPayload payload = .error .corruption)

/-- The time of the payload is aware and not in the form that `isoformat` gives it in UTC, and
    nothing else is wrong with the payload: it has the entries of a record of that instant; or
    the instant has no date in UTC, and the entries have the forms of a record's. -/
def SpelledOtherwise (payload : PyValue) : Prop :=
  ∃ entries text parsed offset, payload = .dict entries ∧
    ReadsTime entries text parsed offset ∧
    ((text ≠ .ofString (parsed.toUtc offset).isoformat ∧
        ∃ record : StoredControlRecord, record.occurredAt = parsed.toUtc offset ∧
          AgreesExceptTime entries record) ∨
      (¬(parsed.toUtc offset).InRange ∧ FormedExceptTime entries))

/-- An accepted payload whose time is in the form of its record is the payload of it. -/
theorem isPayloadOf_of_ok {payload : PyValue} {record : StoredControlRecord}
    (h : fromPayload payload = .ok record) (hspelled : ¬SpelledOtherwise payload) :
    IsPayloadOf payload record := by
  cases payload with
  | dict entries =>
      obtain ⟨hagrees, text, parsed, offset, htime, hutc⟩ := fromPayload_eq_ok.mp h
      refine isPayloadOf_iff.mpr ⟨hagrees, ?_⟩
      by_cases htext : text = .ofString (parsed.toUtc offset).isoformat
      · rw [htime.present, htext, hutc]
      · exact absurd ⟨entries, text, parsed, offset, rfl, htime,
          Or.inl ⟨htext, record, hutc.symm, hagrees⟩⟩ hspelled
  | _ => cases h

/-- The payload of a record with another text for its time. -/
def respelled (record : StoredControlRecord) (text : PyText) : PyEntries :=
  textEntries (record.payloadTexts.map fun entry =>
    if entry.1 = "occurred_at" then (entry.1, text) else entry)

theorem respelled_agrees (record : StoredControlRecord) (text : PyText) :
    AgreesExceptTime (respelled record text) record ∧
      field (respelled record text) "occurred_at" = some (.str text) := by
  have hfield : ∀ name, field (respelled record text) name =
      ((record.payloadTexts.map fun entry =>
        if entry.1 = "occurred_at" then (entry.1, text) else entry).lookup name).map .str :=
    field_textEntries _
  have hkeys : (respelled record text).keys = requiredFields.map .ofString := keys_textEntries _
  refine ⟨⟨⟨fun key hkey => ?_, fun name hname => ?_⟩, hfield _, hfield _, hfield _, hfield _,
    hfield _, hfield _, hfield _⟩, hfield _⟩
  · rw [hkeys] at hkey
    obtain ⟨name, hname, heq⟩ := List.mem_map.mp hkey
    exact ⟨name, hname, heq.symm⟩
  · rw [hkeys]
    exact List.mem_map_of_mem hname

/-- The first second of the year 2000. -/
def newYear : UtcTime := ⟨⟨63082281600000000, some 0⟩, rfl, by decide⟩

/-- A record of that time. -/
def plainStored : StoredControlRecord where
  controlId := ⟨.ofString "c", rfl⟩
  controlKey := ⟨sha256Hex "", isDigest_sha256Hex _⟩
  bindingDigest := ⟨sha256Hex "", isDigest_sha256Hex _⟩
  requestDigest := ⟨sha256Hex "", isDigest_sha256Hex _⟩
  state := .claimed
  occurredAt := newYear
  recordDigest := _
  recordDigest_canonical := rfl

end Eag.GovernedTransitionControl
