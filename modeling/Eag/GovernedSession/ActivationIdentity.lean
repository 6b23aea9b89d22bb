/-
  Eag.GovernedSession.ActivationIdentity

  **When activation identities tell confirmations apart.** `activation_id_for` hashes two
  free texts joined by a colon. The joined text tells the two apart unless one pair is the
  other with its boundary moved to another colon (`joined_eq_iff`); where no pair of a run is,
  the sessions of one confirmed activation do not depend on those of any other.
-/

import Eag.GovernedActivation.Admission
import Eag.GovernedSession.Gate

namespace Eag.GovernedSession

open Eag.Foundation Eag.GovernedActivation Eag.GovernedRuntime

/-! ## Joined texts -/

/-- A confirmation id and an execution id. -/
abbrev IdPair := String × String

/-- The pair of a confirmation. -/
def pairOf (confirmation : CallerActivationConfirmation) : IdPair :=
  (confirmation.confirmationId, confirmation.executionId)

/-- `f"{confirmation_id}:{execution_id}"`. -/
def joined (pair : IdPair) : String := pair.1 ++ ":" ++ pair.2

/-- The second pair is the first with its boundary moved to a later colon. -/
def ShiftedLater (p q : IdPair) : Prop :=
  ∃ middle, q.1 = p.1 ++ ":" ++ middle ∧ p.2 = middle ++ ":" ++ q.2

/-- Each of the pairs is the other with its boundary moved to another colon. -/
def BoundaryShift (p q : IdPair) : Prop := ShiftedLater p q ∨ ShiftedLater q p

theorem BoundaryShift.symm {p q : IdPair} (h : BoundaryShift p q) : BoundaryShift q p :=
  Or.symm h

theorem ShiftedLater.joined_eq {p q : IdPair} (h : ShiftedLater p q) : joined p = joined q := by
  obtain ⟨middle, hfirst, hsecond⟩ := h
  rw [joined, joined, hfirst, hsecond]
  simp only [String.append_assoc]

theorem ShiftedLater.ne {p q : IdPair} (h : ShiftedLater p q) : p ≠ q := by
  rintro rfl
  obtain ⟨middle, hfirst, -⟩ := h
  have hlength := congrArg String.length hfirst
  simp only [String.length_append] at hlength
  have hcolon : ":".length = 1 := rfl
  omega

theorem BoundaryShift.joined_eq {p q : IdPair} (h : BoundaryShift p q) : joined p = joined q := by
  rcases h with h | h
  · exact h.joined_eq
  · exact h.joined_eq.symm

theorem BoundaryShift.ne {p q : IdPair} (h : BoundaryShift p q) : p ≠ q := by
  rcases h with h | h
  · exact h.ne
  · exact h.ne.symm

/-- What follows a first part up to the colon of a longer one. -/
theorem shiftedLater_of_prefixed {p q : IdPair} {rest : List Char}
    (hfirst : q.1.toList = p.1.toList ++ rest)
    (hsecond : ':' :: p.2.toList = rest ++ ':' :: q.2.toList) : p = q ∨ ShiftedLater p q := by
  cases rest with
  | nil =>
      left
      have h1 : q.1 = p.1 := String.toList_injective (by rw [hfirst, List.append_nil])
      have h2 : p.2 = q.2 := String.toList_injective (List.cons.inj hsecond).2
      exact Prod.ext h1.symm h2
  | cons c rest =>
      right
      obtain ⟨rfl, htail⟩ := List.cons.inj hsecond
      refine ⟨String.ofList rest, String.toList_injective ?_, String.toList_injective ?_⟩
      · rw [hfirst]
        simp
      · rw [htail]
        simp

/-- **Pairs with one joined text** are equal, or shifts of each other. -/
theorem joined_eq_iff (p q : IdPair) : joined p = joined q ↔ p = q ∨ BoundaryShift p q := by
  constructor
  · intro h
    have hchars : p.1.toList ++ ':' :: p.2.toList = q.1.toList ++ ':' :: q.2.toList := by
      have htext := congrArg String.toList h
      simpa [joined] using htext
    rcases List.append_eq_append_iff.mp hchars with ⟨rest, hq, hp⟩ | ⟨rest, hp, hq⟩
    · exact (shiftedLater_of_prefixed hq hp).imp_right Or.inl
    · exact (shiftedLater_of_prefixed hp hq).imp Eq.symm Or.inr
  · rintro (rfl | h)
    · rfl
    · exact h.joined_eq

theorem activationIdFor_eq (confirmation : CallerActivationConfirmation) :
    activationIdFor confirmation.confirmationId confirmation.executionId =
      sha256Hex (joined (pairOf confirmation)) := rfl

/-! ## What a creation binds -/

/-- A binding is of the presented receipt. -/
theorem receipt_of_bindingRejection {inputs : SessionInputs} {binding : SessionBinding}
    (h : bindingRejection inputs = .ok binding) :
    inputs.activationReceipt = some binding.receipt := by
  unfold bindingRejection at h
  simp only at h
  split at h
  · rename_i receipt hreceipt
    simp only [except_bind_eq_ok, require_eq_ok] at h
    obtain ⟨-, -, h⟩ := h
    split at h
    · simp only [except_bind_eq_ok, require_eq_ok] at h
      obtain ⟨-, -, h⟩ := h
      -- confirmation, provider policy and the two observers
      repeat (split at h; swap; · cases h)
      simp only [except_bind_eq_ok, require_eq_ok] at h
      obtain ⟨_, -, _, -, _, -, _, -, _, -, _, -, h⟩ := h
      -- the three roots
      repeat (split at h; swap; · cases h)
      simp only [except_bind_eq_ok, require_eq_ok] at h
      obtain ⟨_, -, h⟩ := h
      rw [hreceipt, ← Except.ok.inj h]
    · cases h
  · cases h

/-- What a creation goes on with is its binding. -/
theorem binding_of_precheck {call : CreateSessionCall} {binding : SessionBinding}
    (h : call.precheck = .ok binding) : bindingRejection call.inputs = .ok binding := by
  simp only [CreateSessionCall.precheck, except_bind_eq_ok] at h
  obtain ⟨b, hbinding, h⟩ := h
  cases hisolation : ledgerIsolationRejection call.controlRoot
      call.inputs.activationRequest.isolation with
  | some reason =>
      rw [hisolation] at h
      cases h
  | none =>
      rw [hisolation] at h
      cases hreadiness : call.readinessRejection with
      | some reason =>
          rw [hreadiness] at h
          cases h
      | none =>
          rw [hreadiness] at h
          cases happroval : call.approvalRejection with
          | some reason =>
              rw [happroval] at h
              cases h
          | none =>
              rw [happroval] at h
              rw [hbinding, Except.ok.inj h]

/-! ## Creations under confirmed activations -/

/-- A `create_session` call with the receipt of an approved, confirmed activation. -/
structure ConfirmedCreation where
  env : AdmissionEnv
  request : GovernedActivationRequest
  confirmation : CallerActivationConfirmation
  receipt : GovernedActivationReceipt
  call : CreateSessionCall
  confirmed : request.confirmation = some confirmation
  admitted : admitActivation env request = .ok receipt
  approved : receipt.decision.disposition = .approvedToStart
  presented : call.inputs.activationReceipt = some receipt

namespace ConfirmedCreation

/-- The pair the activation is confirmed under. -/
def pair (creation : ConfirmedCreation) : IdPair := pairOf creation.confirmation

theorem activationId_eq (creation : ConfirmedCreation) :
    creation.receipt.decision.activationId = sha256Hex (joined creation.pair) := by
  obtain ⟨confirmation, hconfirmation, hid⟩ :=
    admitActivation_activationId creation.admitted creation.approved
  have hsame : confirmation = creation.confirmation :=
    Option.some.inj (hconfirmation.symm.trans creation.confirmed)
  rw [hid, hsame, activationIdFor_eq]
  rfl

/-- What binds is the presented receipt. -/
theorem receipt_eq (creation : ConfirmedCreation) {binding : SessionBinding}
    (h : creation.call.precheck = .ok binding) : binding.receipt = creation.receipt := by
  have hreceipt := receipt_of_bindingRejection (binding_of_precheck h)
  rw [creation.presented] at hreceipt
  exact (Option.some.inj hreceipt).symm

/-- The session the creation issues when it binds this. -/
def session (creation : ConfirmedCreation) (binding : SessionBinding) :
    ControlledRuntimeSession :=
  creation.call.session binding

/-- The records the creation claims. -/
def IsRecord (creation : ConfirmedCreation) (record : DurableReplayLedgerRecord) : Prop :=
  ∃ binding, creation.call.precheck = .ok binding ∧
    (record = activationRecordFor creation.receipt ∨
      record = issuedRecordFor (creation.session binding))

/-- Every operation of a creation is a claim of one of its records. -/
theorem uses (creation : ConfirmedCreation) :
    (createSession creation.call).Uses fun op =>
      ∃ record, op = .claim record ∧ creation.IsRecord record := by
  refine ⟨[], ?_⟩
  unfold createSession
  cases hprecheck : creation.call.precheck with
  | error reason => trivial
  | ok binding =>
      have hreceipt := creation.receipt_eq hprecheck
      intro reply
      refine ⟨⟨_, rfl, binding, hprecheck, Or.inl (by rw [hreceipt])⟩, ?_⟩
      match reply with
      | .error failure => trivial
      | .ok (.alreadyClaimed _) => trivial
      | .ok (.conflict _) => trivial
      | .ok .claimed =>
          intro reply
          refine ⟨⟨_, rfl, binding, hprecheck, Or.inr rfl⟩, ?_⟩
          match reply with
          | .error failure => trivial
          | .ok .claimed => trivial
          | .ok (.alreadyClaimed _) => trivial
          | .ok (.conflict _) => trivial

end ConfirmedCreation

/-! ## Hashed texts -/

/-- The object `_receipt_digest` hashes. -/
def receiptJson (receipt : GovernedActivationReceipt) : Json :=
  .object [
    ("activation_id", .str receipt.decision.activationId),
    ("disposition", .str receipt.decision.disposition.value),
    ("execution_id", .str receipt.decision.executionId),
    ("policy_digest", .str receipt.policyDigest),
    ("reason", .optional (receipt.decision.reason.map (·.value)))]

theorem receiptDigest_eq (receipt : GovernedActivationReceipt) :
    receiptDigest receipt = jsonDigest (receiptJson receipt) := rfl

theorem canonical_receiptJson (receipt : GovernedActivationReceipt) :
    (receiptJson receipt).Canonical := by
  simp [receiptJson, Json.canonical_object]

theorem canonical_sessionIdJson (binding : SessionBinding)
    (runtimeRequest : GovernedExecutionRequest) (isolation : ExecutionIsolation) :
    (sessionIdJson binding runtimeRequest isolation).Canonical := by
  simp [sessionIdJson, Json.canonical_object]

theorem activationId_of_receiptJson {r s : GovernedActivationReceipt}
    (h : receiptJson r = receiptJson s) : r.decision.activationId = s.decision.activationId := by
  simp only [receiptJson, Json.object_inj, List.cons.injEq, Prod.mk.injEq, Json.str.injEq] at h
  exact h.1.2

/-- The text a record's path is the digest of. -/
def pathText (record : DurableReplayLedgerRecord) : String :=
  record.entryKind.value ++ ":" ++ record.identityKey

/-- The object of the session id of a creation. -/
def ConfirmedCreation.sessionIdJson (creation : ConfirmedCreation) (binding : SessionBinding) :
    Json :=
  GovernedSession.sessionIdJson binding creation.call.inputs.runtimeRequest
    creation.call.inputs.activationRequest.isolation

theorem receiptDigest_of_sessionIdJson {creation other : ConfirmedCreation}
    {b c : SessionBinding} (h : creation.sessionIdJson b = other.sessionIdJson c) :
    receiptDigest b.receipt = receiptDigest c.receipt := by
  simp [ConfirmedCreation.sessionIdJson, GovernedSession.sessionIdJson] at h
  exact h.1

/-- SHA-256 tells the texts of each kind apart that the creations hash. -/
structure HashedApart {ι : Type} (creations : ι → ConfirmedCreation) : Prop where
  joined : CollisionFreeOn {text | ∃ i, text = joined (creations i).pair}
  receipts : CollisionFreeOn {text | ∃ i, text = (receiptJson (creations i).receipt).dumps}
  records : ∀ kind, CollisionFreeOn {text | ∃ i record, (creations i).IsRecord record ∧
    record.entryKind = kind ∧ text = pathText record}
  sessions : CollisionFreeOn {text | ∃ i binding, (creations i).call.precheck = .ok binding ∧
    text = ((creations i).sessionIdJson binding).dumps}

section Texts

variable {ι : Type} {creations : ι → ConfirmedCreation}

/-- **Without shifts** equal activation ids are those of one pair. -/
theorem pair_eq_of_activationId (hsha : HashedApart creations) {i j : ι}
    (hshift : ¬BoundaryShift (creations i).pair (creations j).pair)
    (h : (creations i).receipt.decision.activationId =
      (creations j).receipt.decision.activationId) :
    (creations i).pair = (creations j).pair := by
  rw [(creations i).activationId_eq, (creations j).activationId_eq] at h
  have hjoined := hsha.joined ⟨i, rfl⟩ ⟨j, rfl⟩ h
  exact ((joined_eq_iff _ _).mp hjoined).resolve_right hshift

theorem pathText_eq_of_path {r s : DurableReplayLedgerRecord} (hkind : r.entryKind = s.entryKind)
    (h : r.path = s.path) : sha256Hex (pathText r) = sha256Hex (pathText s) := by
  have hchars := congrArg String.toList h
  simp only [recordPath, String.toList_append, hkind] at hchars
  refine String.toList_injective ?_
  simp only [pathText, hkind]
  exact List.append_cancel_left (List.append_cancel_right hchars)

theorem identityKey_of_pathText {r s : DurableReplayLedgerRecord}
    (hkind : r.entryKind = s.entryKind) (h : pathText r = pathText s) :
    r.identityKey = s.identityKey := by
  have hchars := congrArg String.toList h
  simp only [pathText, String.toList_append, hkind] at hchars
  exact String.toList_injective (List.append_cancel_left hchars)

/-- Records of creations for different pairs have different paths. -/
theorem path_ne (hsha : HashedApart creations) {i j : ι}
    (hshift : ¬BoundaryShift (creations i).pair (creations j).pair)
    (hne : (creations i).pair ≠ (creations j).pair) {r s : DurableReplayLedgerRecord}
    (hr : (creations i).IsRecord r) (hs : (creations j).IsRecord s) : r.path ≠ s.path := by
  intro hpath
  have hkind : r.entryKind = s.entryKind := by
    by_contra hkind
    exact recordPath_ne hkind _ _ hpath
  have htext : pathText r = pathText s :=
    hsha.records s.entryKind ⟨i, r, hr, hkind, rfl⟩ ⟨j, s, hs, rfl, rfl⟩
      (pathText_eq_of_path hkind hpath)
  have hkey := identityKey_of_pathText hkind htext
  refine hne (pair_eq_of_activationId hsha hshift ?_)
  obtain ⟨b, hb, rfl | rfl⟩ := hr
  · obtain ⟨c, hc, rfl | rfl⟩ := hs
    · exact hkey
    · cases hkind
  · obtain ⟨c, hc, rfl | rfl⟩ := hs
    · cases hkind
    · -- one session id, so one receipt digest, so one receipt
      have hjson : (creations i).sessionIdJson b = (creations j).sessionIdJson c :=
        jsonDigest_inj hsha.sessions (canonical_sessionIdJson _ _ _)
          (canonical_sessionIdJson _ _ _) ⟨i, b, hb, rfl⟩ ⟨j, c, hc, rfl⟩ hkey
      have hdigest := receiptDigest_of_sessionIdJson hjson
      rw [(creations i).receipt_eq hb, (creations j).receipt_eq hc, receiptDigest_eq,
        receiptDigest_eq] at hdigest
      have hreceipt : receiptJson (creations i).receipt = receiptJson (creations j).receipt :=
        jsonDigest_inj hsha.receipts (canonical_receiptJson _) (canonical_receiptJson _)
          ⟨i, rfl⟩ ⟨j, rfl⟩ hdigest
      exact activationId_of_receiptJson hreceipt

end Texts

/-! ## Runs of creations -/

section Runs

variable {ι : Type} [DecidableEq ι] (creations : ι → ConfirmedCreation)

/-- Creations over one ledger, in any interleaving. -/
def runCreations (ledger : ReplayLedger) (schedule : List (ι × SessionEnv)) :
    Config ι ReplayLedger SessionOp SessionOp.Reply ControlledSessionAdmission :=
  (Config.start ledger fun i => createSession (creations i).call).run performOp schedule

/-- The steps of the creations for one pair. -/
def stepsFor (pair : IdPair) (schedule : List (ι × SessionEnv)) : List (ι × SessionEnv) :=
  schedule.filter fun choice => decide ((creations choice.1).pair = pair)

variable {creations}

omit [DecidableEq ι] in
/-- The creations for one pair see the paths of their own records. -/
theorem viewOf_pair (hsha : HashedApart creations) (pair : IdPair)
    (hshift : ∀ i, ¬BoundaryShift (creations i).pair pair) :
    ViewOf performOp (fun i => decide ((creations i).pair = pair))
      (fun i op => ∃ record, op = .claim record ∧ (creations i).IsRecord record)
      (fun s t => ∀ i record, (creations i).pair = pair → (creations i).IsRecord record →
        s record.path = t record.path) := by
  constructor
  · rintro i _ env s t hi ⟨record, rfl, hrecord⟩ hview
    have hown := hview i record (of_decide_eq_true hi) hrecord
    obtain ⟨hreply, hpath⟩ := WriteOnce.claim_congr
      (belongs record.entryKind record.identityKey) env.fault record hown
    refine ⟨fun j other hj hother => ?_, ?_⟩
    · by_cases hsame : other.path = record.path
      · rw [hsame]
        exact hpath
      · show (WriteOnce.claim _ _ _ _ _).1 _ = (WriteOnce.claim _ _ _ _ _).1 _
        rw [WriteOnce.claim_of_ne _ _ _ _ hsame, WriteOnce.claim_of_ne _ _ _ _ hsame]
        exact hview j other hj hother
    · show Except.map _ (WriteOnce.claim _ _ _ _ _).2 = Except.map _ (WriteOnce.claim _ _ _ _ _).2
      rw [hreply]
  · rintro i _ env s t hi ⟨record, rfl, hrecord⟩ hview j other hj hother
    have hne : (creations j).pair ≠ (creations i).pair := by
      rw [hj]
      exact fun h => of_decide_eq_false hi h.symm
    have hpath : other.path ≠ record.path := by
      refine path_ne hsha (fun h => hshift i ?_) hne hother hrecord
      rw [hj] at h
      exact h.symm
    show (WriteOnce.claim _ _ _ _ _).1 _ = _
    rw [WriteOnce.claim_of_ne _ _ _ _ hpath]
    exact hview j other hj hother

/-- **Noninterference.** Where no pair of the run is a shift of this one, a creation for the
    pair comes to the same as without the creations for other pairs. -/
theorem creation_unaffected (hsha : HashedApart creations)
    (ledger : ReplayLedger) (schedule : List (ι × SessionEnv)) (j : ι)
    (hshift : ∀ i, ¬BoundaryShift (creations i).pair (creations j).pair) :
    (runCreations creations ledger schedule).progs j =
      (runCreations creations ledger (stepsFor creations (creations j).pair schedule)).progs j :=
  Config.run_visible (viewOf_pair hsha (creations j).pair hshift) schedule
    (c := Config.start ledger fun i => createSession (creations i).call)
    (d := Config.start ledger fun i => createSession (creations i).call)
    (fun _ _ _ _ => rfl) (fun _ _ => rfl) (fun i => (creations i).uses) (decide_eq_true rfl)

end Runs

/-! ## Refusals between shifted pairs -/

/-- The two refusals of a claim that finds a record. -/
def RefusedAsReplayed (prog : SessionProg ControlledSessionAdmission) : Prop :=
  prog = .ret (.rejected .activationReceiptReplayed) ∨
    prog = .ret (.rejected .replayLedgerConflict)

/-- A claim that finds a record which belongs to its key reports it. -/
theorem claimRecord_of_standing {ledger : ReplayLedger}
    {record standing : DurableReplayLedgerRecord}
    (hstanding : ledger record.path = some (.whole standing))
    (hbelongs : belongs record.entryKind record.identityKey standing = true) :
    claimRecord none ledger record = (ledger, .ok (claimReport record (some standing))) := by
  have hread : WriteOnce.read (belongs record.entryKind record.identityKey) none ledger
      record.path = .ok (some standing) :=
    WriteOnce.read_of_whole hstanding hbelongs ⟨fun h => (nomatch h), fun h => (nomatch h)⟩
  simp only [claimRecord, WriteOnce.claim, hread, Except.map]

/-- A creation whose activation is claimed is refused. -/
theorem refused_of_claimed {creation : ConfirmedCreation} {binding : SessionBinding}
    (hprecheck : creation.call.precheck = .ok binding) {ledger : ReplayLedger}
    {standing : DurableReplayLedgerRecord}
    (hstanding : ledger (activationRecordFor creation.receipt).path = some (.whole standing))
    (hkind : standing.entryKind = .activationClaimed)
    (hkey : standing.identityKey = creation.receipt.decision.activationId) :
    RefusedAsReplayed (Prog.exec performOp ledger [quiet] (createSession creation.call)).2 := by
  have hbelongs : belongs (activationRecordFor creation.receipt).entryKind
      (activationRecordFor creation.receipt).identityKey standing = true := by
    simp only [belongs, activationRecordFor, hkind, hkey, decide_true, Bool.and_self]
  have hclaim := claimRecord_of_standing hstanding hbelongs
  rw [← creation.receipt_eq hprecheck] at hclaim
  simp only [createSession, hprecheck, ledgerClaim_bind, Prog.exec, performOp, quiet, hclaim]
  by_cases hsame : standing = activationRecordFor binding.receipt
  · left
    simp only [claimReport, if_pos hsame]
  · right
    simp only [claimReport, if_neg hsame]

theorem extends_exec {α : Type} (envs : List SessionEnv) (ledger : ReplayLedger)
    (prog : SessionProg α) : ledger.Extends (Prog.exec performOp ledger envs prog).1 := by
  induction envs generalizing ledger prog with
  | nil => exact WriteOnce.Store.Extends.refl ledger
  | cons env envs ih =>
      cases prog with
      | ret a => exact WriteOnce.Store.Extends.refl ledger
      | call op next => exact (extends_performOp ledger env op).trans (ih _ _)

/-- A creation that issued its session has left the record of its activation. -/
theorem activation_stands {creation : ConfirmedCreation} {ledger later : ReplayLedger}
    {envs : List SessionEnv} {session : ControlledRuntimeSession}
    (h : Prog.exec performOp ledger envs (createSession creation.call) =
      (later, .ret (.created session))) :
    later (activationRecordFor creation.receipt).path =
      some (.whole (activationRecordFor creation.receipt)) := by
  cases hprecheck : creation.call.precheck with
  | error reason =>
      simp only [createSession, hprecheck] at h
      cases envs <;> cases h
  | ok binding =>
      have hreceipt := creation.receipt_eq hprecheck
      simp only [createSession, hprecheck, ledgerClaim_bind, hreceipt] at h
      cases envs with
      | nil => cases h
      | cons env envs =>
          simp only [Prog.exec, performOp] at h
          cases hreply : (claimRecord env.fault ledger
              (activationRecordFor creation.receipt)).2 with
          | error failure =>
              rw [hreply] at h
              cases envs <;> cases h
          | ok claim =>
              cases claim with
              | claimed =>
                  obtain ⟨-, hstands⟩ := claimRecord_claimed hreply
                  rw [show later = _ from (congrArg Prod.fst h).symm]
                  exact extends_exec envs _ _ _ _ hstands
              | alreadyClaimed existing =>
                  rw [hreply] at h
                  cases envs <;> cases h
              | conflict existing =>
                  rw [hreply] at h
                  cases envs <;> cases h

/-- **Shifted pairs refuse each other.** -/
theorem refused_of_shift {created creation : ConfirmedCreation} {binding : SessionBinding}
    (hshift : BoundaryShift created.pair creation.pair)
    (hprecheck : creation.call.precheck = .ok binding) {ledger later : ReplayLedger}
    {envs : List SessionEnv} {session : ControlledRuntimeSession}
    (h : Prog.exec performOp ledger envs (createSession created.call) =
      (later, .ret (.created session))) :
    RefusedAsReplayed (Prog.exec performOp later [quiet] (createSession creation.call)).2 := by
  have hid : created.receipt.decision.activationId = creation.receipt.decision.activationId := by
    rw [created.activationId_eq, creation.activationId_eq, hshift.joined_eq]
  have hpath : (activationRecordFor created.receipt).path =
      (activationRecordFor creation.receipt).path := by
    show recordPath _ _ = recordPath _ _
    exact congrArg (recordPath .activationClaimed) hid
  have hstanding := activation_stands h
  rw [hpath] at hstanding
  exact refused_of_claimed hprecheck hstanding rfl hid

/-! ## Separation -/

/-- **Activation identities separate confirmations** exactly where no pair is another with its
    boundary moved. Then the creations for one confirmed activation come to the same whatever
    is created for others; and a creation is refused as replayed or conflicting after one for
    a shifted pair. -/
theorem activation_identities_separate_iff (a b : CallerActivationConfirmation)
    (hsha : CollisionFreeOn {joined (pairOf a), joined (pairOf b)}) :
    ((activationIdFor a.confirmationId a.executionId =
        activationIdFor b.confirmationId b.executionId → pairOf a = pairOf b) ↔
      ¬BoundaryShift (pairOf a) (pairOf b)) ∧
    (∀ (ι : Type) (_ : DecidableEq ι) (creations : ι → ConfirmedCreation),
      HashedApart creations → ∀ ledger schedule j,
      (∀ i, ¬BoundaryShift (creations i).pair (creations j).pair) →
      (runCreations creations ledger schedule).progs j =
        (runCreations creations ledger (stepsFor creations (creations j).pair schedule)).progs
          j) ∧
    ∀ (created creation : ConfirmedCreation) binding ledger later envs session,
      BoundaryShift created.pair creation.pair → creation.call.precheck = .ok binding →
      Prog.exec performOp ledger envs (createSession created.call) =
        (later, .ret (.created session)) →
      RefusedAsReplayed (Prog.exec performOp later [quiet] (createSession creation.call)).2 := by
  refine ⟨⟨fun hseparate hshift => ?_, fun hshift hid => ?_⟩, ?_, ?_⟩
  · refine hshift.ne (hseparate ?_)
    rw [activationIdFor_eq, activationIdFor_eq, hshift.joined_eq]
  · have hjoined := hsha (Or.inl rfl) (Or.inr rfl) hid
    exact ((joined_eq_iff _ _).mp hjoined).resolve_right hshift
  · intro ι _ creations hsha ledger schedule j hshift
    exact creation_unaffected hsha ledger schedule j hshift
  · intro created creation binding ledger later envs session hshift hprecheck h
    exact refused_of_shift hshift hprecheck h

/-! ## Two executions under one identity -/

/-- An environment in which every path stands and every observer records. -/
def openEnv : AdmissionEnv := ⟨fun _ => true, fun _ => true, fun _ => true⟩

/-- A request for one execution. -/
def requestFor (executionId : String) (h : NonBlank executionId) : GovernedExecutionRequest :=
  { plainRequest [] with executionId := executionId, executionId_nonBlank := h }

/-- Its activation, confirmed under an id. -/
def activationFor (confirmation : CallerActivationConfirmation) : GovernedActivationRequest :=
  { (boundInputs (requestFor confirmation.executionId
      confirmation.executionId_nonBlank)).activationRequest with
    confirmation := some confirmation }

theorem activationFor_executionId (confirmation : CallerActivationConfirmation) :
    executionIdOf (activationFor confirmation) = confirmation.executionId := by
  have hnonempty : confirmation.executionId ≠ "" := by
    intro hempty
    have hblank := confirmation.executionId_nonBlank
    rw [hempty] at hblank
    cases hblank
  exact if_neg hnonempty

/-- The activation is let through. -/
theorem rejectionReason_activationFor (confirmation : CallerActivationConfirmation)
    (haffirmed : confirmation.affirmed = true) :
    rejectionReason openEnv (activationFor confirmation) = .ok () := by
  simp only [rejectionReason, activationFor, boundInputs, requestFor, except_bind_eq_ok,
    require_eq_ok]
  exact ⟨(), require_of _ _ confirmation.executionId_nonBlank, (), ⟨haffirmed, trivial⟩, (), rfl,
    (), rfl, (), by decide, (), by decide, (), by decide, (), rfl, rfl⟩

/-- The receipt of its admission. -/
def receiptFor (confirmation : CallerActivationConfirmation) : GovernedActivationReceipt where
  decision := decisionFor openEnv (activationFor confirmation) (by
    rw [activationFor_executionId]
    exact confirmation.executionId_nonBlank)
  policyDigest := policyDigest (activationFor confirmation).providerPolicy
  policyDigest_isDigest := isDigest_policyDigest _

theorem receiptFor_approved (confirmation : CallerActivationConfirmation)
    (haffirmed : confirmation.affirmed = true) :
    (receiptFor confirmation).decision.disposition = .approvedToStart := by
  show (decisionFor _ _ _).disposition = _
  unfold decisionFor
  rw [rejectionReason_activationFor confirmation haffirmed]

theorem receiptFor_executionId (confirmation : CallerActivationConfirmation) :
    (receiptFor confirmation).decision.executionId = confirmation.executionId := by
  show (decisionFor _ _ _).executionId = _
  rw [← activationFor_executionId confirmation]
  unfold decisionFor
  split <;> rfl

/-- The creation of its session. -/
def creationFor (confirmation : CallerActivationConfirmation)
    (haffirmed : confirmation.affirmed = true) : ConfirmedCreation where
  env := openEnv
  request := activationFor confirmation
  confirmation := confirmation
  receipt := receiptFor confirmation
  call := {
    controlRoot := ⟨["control"], controlNames_proper⟩
    inputs := {
      boundInputs (requestFor confirmation.executionId confirmation.executionId_nonBlank) with
      activationRequest := activationFor confirmation
      activationReceipt := some (receiptFor confirmation) }
    readinessRejection := none
    approvalRejection := none }
  confirmed := rfl
  admitted := dif_pos _
  approved := receiptFor_approved confirmation haffirmed
  presented := rfl

/-- What it binds. -/
def bindingFor (confirmation : CallerActivationConfirmation) : SessionBinding :=
  { plainBinding (requestFor confirmation.executionId confirmation.executionId_nonBlank) with
    receipt := receiptFor confirmation }

theorem precheck_creationFor (confirmation : CallerActivationConfirmation)
    (haffirmed : confirmation.affirmed = true) :
    (creationFor confirmation haffirmed).call.precheck = .ok (bindingFor confirmation) := by
  have hbinding : bindingRejection (creationFor confirmation haffirmed).call.inputs =
      .ok (bindingFor confirmation) := by
    simp only [bindingRejection, creationFor, boundInputs, activationFor, requestFor,
      except_bind_eq_ok, require_eq_ok]
    exact ⟨(), receiptFor_approved confirmation haffirmed, (), trivial, (), trivial, (), trivial,
      (), require_of _ _ (receiptFor_executionId confirmation), (), trivial, (), rfl, (),
      require_of _ _ rfl, (), ⟨trivial, rfl⟩, rfl⟩
  have hisolated : ledgerIsolationRejection (creationFor confirmation haffirmed).call.controlRoot
      (creationFor confirmation haffirmed).call.inputs.activationRequest.isolation = none := rfl
  simp only [CreateSessionCall.precheck, hbinding, hisolated, except_ok_bind]
  rfl

/-- The confirmation `a:b` of the execution `c`. -/
def confirmationAB : CallerActivationConfirmation := ⟨"a:b", "c", true, by decide, by decide⟩

/-- The confirmation `a` of the execution `b:c`. -/
def confirmationA : CallerActivationConfirmation := ⟨"a", "b:c", true, by decide, by decide⟩

theorem shift_confirmationA : BoundaryShift (pairOf confirmationAB) (pairOf confirmationA) :=
  Or.inr ⟨"b", rfl, rfl⟩

/-- The session of `a:b` and `c` is created over a fresh ledger. -/
theorem created_confirmationAB :
    ∃ later session, Prog.exec performOp (fun _ => none) [quiet, quiet]
      (createSession (creationFor confirmationAB rfl).call) = (later, .ret (.created session)) :=
  ⟨_, _, exec_createSession (precheck_creationFor confirmationAB rfl) _ rfl rfl⟩

/-- Two different confirmed activations have one identity, and the second is refused once the
    first has its session. -/
theorem activation_identities_collide :
    ¬(∀ a b : CallerActivationConfirmation,
      activationIdFor a.confirmationId a.executionId =
        activationIdFor b.confirmationId b.executionId → pairOf a = pairOf b) ∧
    ∃ (created creation : ConfirmedCreation) (later : ReplayLedger)
      (session : ControlledRuntimeSession),
      created.pair = ("a:b", "c") ∧ creation.pair = ("a", "b:c") ∧
      Prog.exec performOp (fun _ => none) [quiet, quiet] (createSession created.call) =
        (later, .ret (.created session)) ∧
      RefusedAsReplayed (Prog.exec performOp later [quiet] (createSession creation.call)).2 := by
  constructor
  · intro hseparate
    refine shift_confirmationA.ne (hseparate confirmationAB confirmationA ?_)
    rw [activationIdFor_eq, activationIdFor_eq, shift_confirmationA.joined_eq]
  · obtain ⟨later, session, hcreated⟩ := created_confirmationAB
    refine ⟨creationFor confirmationAB rfl, creationFor confirmationA rfl, later, session, rfl,
      rfl, hcreated, ?_⟩
    have hshift : BoundaryShift (creationFor confirmationAB rfl).pair
        (creationFor confirmationA rfl).pair := shift_confirmationA
    exact refused_of_shift hshift (precheck_creationFor confirmationA rfl) hcreated

/-- Two submissions of one confirmed activation. -/
def resubmitted (_ : Bool) : ConfirmedCreation := creationFor confirmationA rfl

theorem not_boundaryShift_self (p : IdPair) : ¬BoundaryShift p p := fun h => h.ne rfl

/-- One activation hashes one text of each kind. -/
theorem hashedApart_resubmitted : HashedApart resubmitted := by
  have hbinding : ∀ i binding, (resubmitted i).call.precheck = .ok binding →
      binding = bindingFor confirmationA := by
    intro i binding h
    exact Except.ok.inj (h.symm.trans (precheck_creationFor confirmationA rfl))
  constructor
  · rintro _ ⟨i, rfl⟩ _ ⟨j, rfl⟩ -
    rfl
  · rintro _ ⟨i, rfl⟩ _ ⟨j, rfl⟩ -
    rfl
  · rintro kind _ ⟨i, r, ⟨b, hb, hr⟩, hkind, rfl⟩ _ ⟨j, s, ⟨c, hc, hs⟩, rfl, rfl⟩ -
    obtain rfl := hbinding i b hb
    obtain rfl := hbinding j c hc
    rcases hr with rfl | rfl
    · rcases hs with rfl | rfl
      · rfl
      · cases hkind
    · rcases hs with rfl | rfl
      · cases hkind
      · rfl
  · rintro _ ⟨i, b, hb, rfl⟩ _ ⟨j, c, hc, rfl⟩ -
    rw [hbinding i b hb, hbinding j c hc]
    rfl

theorem activation_identities_separate_confirmationA :
    ¬(activationIdFor "a:b" "c" = activationIdFor "a" "b:c" →
      pairOf confirmationAB = pairOf confirmationA) ∧
    (runCreations resubmitted (fun _ => none) [(true, quiet), (false, quiet)]).progs true =
      (runCreations resubmitted (fun _ => none)
        (stepsFor resubmitted ("a", "b:c") [(true, quiet), (false, quiet)])).progs true ∧
    RefusedAsReplayed (Prog.exec performOp
      (Prog.exec performOp (fun _ => none) [quiet, quiet]
        (createSession (creationFor confirmationAB rfl).call)).1 [quiet]
      (createSession (creationFor confirmationA rfl).call)).2 := by
  have hsha : CollisionFreeOn
      {joined (pairOf confirmationAB), joined (pairOf confirmationA)} := by
    rw [shift_confirmationA.joined_eq]
    rintro x (rfl | rfl) y (rfl | rfl) - <;> rfl
  obtain ⟨hidentity, hisolated, hrefused⟩ :=
    activation_identities_separate_iff confirmationAB confirmationA hsha
  refine ⟨?_, ?_, ?_⟩
  · intro hseparate
    exact hidentity.mp hseparate shift_confirmationA
  · exact hisolated Bool inferInstance resubmitted hashedApart_resubmitted _ _ true fun _ =>
      not_boundaryShift_self _
  · obtain ⟨later, session, hcreated⟩ := created_confirmationAB
    rw [hcreated]
    exact hrefused (creationFor confirmationAB rfl)
      (creationFor confirmationA rfl) (bindingFor confirmationA) _ later _ session
      shift_confirmationA (precheck_creationFor confirmationA rfl) hcreated

end Eag.GovernedSession
