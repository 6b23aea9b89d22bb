/-
  Eag.GovernedPresentation.SharedStore

  **At most one construction per custody attestation.** Submissions run in any interleaving of
  their operations over one custody store. The order of the operations of one submission is
  fixed by its code, the store fixes that an id is claimed once (`claimed_once`); together
  they give `submissions_construct_once`.
-/

import Eag.GovernedPresentation.OneConstruction
import Eag.GovernedWorkspace.Store

namespace Eag.GovernedPresentation

open Eag.Foundation Eag.GovernedWorkspace

variable {owners : Owners} {ι : Type} [DecidableEq ι]

/-! ## One store under all gates -/

/-- What answers an operation from outside: the file system under a claim, and the other
    operations. -/
structure Env (owners : Owners) where
  storeFault : StoreFault
  reply : (op : Operation owners) → Reply op

/-- An operation over the shared store; only a claim touches it. -/
def performShared
    (readBack : WorkspaceCustodyAttestation → Option WorkspaceCustodyAttestation)
    (store : CustodyStore) (env : Env owners) : (op : Operation owners) → CustodyStore × Reply op
  | .custody (.claim attestation) => claimRecord readBack env.storeFault store attestation
  | op => (store, env.reply op)

variable {readBack : WorkspaceCustodyAttestation → Option WorkspaceCustodyAttestation}

theorem extends_performShared (store : CustodyStore) (env : Env owners) (op : Operation owners) :
    WriteOnce.Store.Extends store (performShared readBack store env op).1 := by
  cases op with
  | custody inner =>
      cases inner with
      | claim attestation => exact extends_claimRecord readBack env.storeFault store attestation
      | _ => exact WriteOnce.Store.Extends.refl store
  | _ => exact WriteOnce.Store.Extends.refl store

/-- An answer `CLAIMED` is that of a claim of the store. -/
theorem performShared_claimed {store : CustodyStore} {env : Env owners} {op : Operation owners}
    {attestation : WorkspaceCustodyAttestation}
    (h : (⟨op, (performShared readBack store env op).2⟩ : Event owners) =
      claimedEvent attestation) :
    ∃ key, recordKey attestation.attestationId = some key ∧ store key = none ∧
      (performShared readBack store env op).1 key ≠ none := by
  obtain rfl : op = .custody (.claim attestation) := congrArg Sigma.fst h
  exact claimRecord_claimed (eq_of_heq (Sigma.mk.inj h).2)

/-! ## An id is claimed once -/

/-- What the store says of a history: a claimed id has its path taken, and no entry before a
    claim claimed the same id. -/
def ClaimedOnce (store : CustodyStore) (history : List (ι × Event owners)) : Prop :=
  (∀ i attestation, (i, claimedEvent attestation) ∈ history →
    ∃ key, recordKey attestation.attestationId = some key ∧ store key ≠ none) ∧
  AtEach (fun before e => ∀ attestation, e.2 = claimedEvent attestation →
    ∀ i other, (i, claimedEvent other) ∈ before →
      other.attestationId ≠ attestation.attestationId) history

omit [DecidableEq ι] in
/-- **Step.** -/
theorem ClaimedOnce.step {store : CustodyStore} {history : List (ι × Event owners)}
    (h : ClaimedOnce store history) (i : ι) (env : Env owners) (op : Operation owners) :
    ClaimedOnce (performShared readBack store env op).1
      (history ++ [(i, ⟨op, (performShared readBack store env op).2⟩)]) := by
  obtain ⟨htaken, hfirst⟩ := h
  refine ⟨fun j attestation hmem => ?_, hfirst.snoc fun attestation hclaim j other hmem hid => ?_⟩
  · rcases List.mem_append.mp hmem with hmem | hmem
    · obtain ⟨key, hkey, hslot⟩ := htaken j attestation hmem
      obtain ⟨slot, hslot⟩ := Option.ne_none_iff_exists'.mp hslot
      refine ⟨key, hkey, ?_⟩
      rw [extends_performShared store env op key slot hslot]
      exact Option.some_ne_none _
    · obtain ⟨key, hkey, -, hput⟩ := performShared_claimed
        (congrArg Prod.snd (List.mem_singleton.mp hmem)).symm
      exact ⟨key, hkey, hput⟩
  · obtain ⟨key, hkey, hfree, -⟩ := performShared_claimed hclaim
    obtain ⟨key', hkey', hslot⟩ := htaken j other hmem
    -- equal ids have one path
    rw [hid, hkey] at hkey'
    exact hslot (Option.some.inj hkey' ▸ hfree)

/-- **Run.** -/
theorem claimed_once {α : Type} (store : CustodyStore) (progs : ι → Steps owners α)
    (schedule : List (ι × Env owners)) :
    let final := (Config.start store progs).run (performShared readBack) schedule
    ClaimedOnce final.shared final.history :=
  Config.run_shared (performShared readBack) (P := ClaimedOnce)
    ⟨fun _ _ h => (nomatch h), atEach_nil _⟩ progs (fun _ _ i env op h => h.step i env op) schedule

/-- Two claims of one id are one entry. -/
theorem ClaimedOnce.unique {store : CustodyStore} {history : List (ι × Event owners)}
    (h : ClaimedOnce store history) {i j : ι} {a b : WorkspaceCustodyAttestation}
    (ha : (i, claimedEvent a) ∈ history) (hb : (j, claimedEvent b) ∈ history)
    (hid : a.attestationId = b.attestationId) : i = j := by
  by_contra hne
  have hdiff : (i, (claimedEvent a : Event owners)) ≠ (j, claimedEvent b) :=
    fun heq => hne (congrArg Prod.fst heq)
  rcases exists_before ha hb hdiff with ⟨before, after, rfl, hmem⟩ | ⟨before, after, rfl, hmem⟩
  · exact h.2 before _ after rfl a rfl j b hmem hid.symm
  · exact h.2 before _ after rfl b rfl i a hmem hid

/-! ## Runs of submissions -/

section Runs

variable (readBack) (store : CustodyStore)
  (submissions : ι → FixedProfilePresentationSubmission) (steps : ι → Nat)
  (schedule : List (ι × Env owners))

/-- The end of a run of submissions. -/
def runSubmissions :
    Config ι CustodyStore (Operation owners) Reply
      (Except SubmissionError (FixedProfileTerminalView owners)) :=
  (Config.start store fun i => submitFixedProfileConstruction (submissions i) (steps i)).run
    (performShared readBack) schedule

/-- The construct calls of the submissions with this attestation id. -/
def constructsFor (attestationId : Identifier) (e : ι × Event owners) : Bool :=
  isConstruct e.2 && decide ((submissions e.1).custodyRequest.attestationId = attestationId)

variable {readBack store submissions steps schedule}

/-- What a construct call found done by its own submission. -/
theorem constructed_justified {before after : List (ι × Event owners)} {i : ι}
    {e : Event owners}
    (h : (runSubmissions readBack store submissions steps schedule).history =
      before ++ (i, e) :: after) : Justified (submissions i) (projection i before) e :=
  Config.run_meets (performShared readBack) store
    (fun i => submission_meets (submissions i) (steps i)) schedule h

/-- A construct call has claimed the id of its submission. -/
theorem claimed_of_construct {before after : List (ι × Event owners)} {i : ι}
    {e : Event owners}
    (h : (runSubmissions readBack store submissions steps schedule).history =
      before ++ (i, e) :: after) (he : isConstruct e = true) :
    (∃ attestation : WorkspaceCustodyAttestation,
      attestation.attestationId = (submissions i).custodyRequest.attestationId ∧
      (i, claimedEvent attestation) ∈ before) ∧
    ∀ x ∈ projection i before, isConstruct x = false := by
  have hjustified := constructed_justified h
  obtain ⟨op, reply⟩ := e
  cases op with
  | construct authorization handle =>
      obtain ⟨⟨terms, _, _, _, _, hhandoff, -⟩, hnone⟩ := hjustified
      exact ⟨⟨terms.attestation, hhandoff.attestationId, mem_projection.mp hhandoff.claimed⟩, hnone⟩
  | _ => cases he

/-- No construct call has an earlier one of its id. -/
theorem construct_first (attestationId : Identifier) :
    AtEach (fun before e => constructsFor submissions attestationId e = true →
      ∀ x ∈ before, constructsFor submissions attestationId x = false)
      (@runSubmissions owners ι _ readBack store submissions steps schedule).history := by
  rintro before ⟨i, e⟩ after hhistory hconstructs ⟨j, x⟩ hx
  obtain ⟨he, hid⟩ := Bool.and_eq_true_iff.mp hconstructs
  obtain ⟨⟨a, haid, ha⟩, hnone⟩ := claimed_of_construct hhistory he
  by_contra hearlier
  obtain ⟨hconstruct, hjd⟩ := Bool.and_eq_true_iff.mp (Bool.eq_true_of_not_eq_false hearlier)
  obtain ⟨before', between, rfl⟩ := List.append_of_mem hx
  have hhistory' := hhistory
  rw [List.append_assoc, List.cons_append] at hhistory'
  obtain ⟨⟨b, hbid, hb⟩, -⟩ := claimed_of_construct hhistory' hconstruct
  -- both have claimed the id, so both are calls of one submission
  have hids : a.attestationId = b.attestationId := by
    rw [haid, hbid, of_decide_eq_true hid, of_decide_eq_true hjd]
  have hsame : i = j := by
    have honce : ClaimedOnce _
        (runSubmissions readBack store submissions steps schedule).history :=
      claimed_once store _ schedule
    refine honce.unique (a := a) (b := b) ?_ ?_ hids
    · rw [hhistory]
      exact List.mem_append_left _ ha
    · rw [hhistory']
      exact List.mem_append_left _ hb
  subst hsame
  have hfalse := hnone x (mem_projection.mpr hx)
  rw [hconstruct] at hfalse
  cases hfalse

variable (readBack store submissions steps schedule)

/-- What a run of submissions ends with: for each attestation id at most one call constructs;
    it constructs after its own submission had the intent, the claim, the work order and the
    authorization accepted, with the descriptor of its own handoff; a receipt view is returned
    only from such a call; and a handle that was handed over is closed when the submission is
    over. -/
structure ConstructsOnce (final : Config ι CustodyStore (Operation owners) Reply
    (Except SubmissionError (FixedProfileTerminalView owners))) : Prop where
  once : ∀ attestationId, final.history.countP (constructsFor submissions attestationId) ≤ 1
  accepted : ∀ before after i authorization handle reply,
    final.history = before ++ (i, ⟨.construct authorization handle, reply⟩) :: after →
    Accepted (submissions i) (projection i before) authorization handle
  received : ∀ i intent intentAssessment workOrder assessment authorization receipt,
    final.progs i = .ret (.ok (.receiptAvailable intent intentAssessment workOrder assessment
      authorization receipt)) →
    ∃ handle closed,
      (i, ⟨.construct authorization handle, (.ok receipt, closed)⟩) ∈ final.history
  closed : ∀ i result handle, final.progs i = .ret result →
    HandedOver (submissions i) (steps i) (projection i final.history) handle →
    Closed handle.descriptor (projection i final.history)

/-- **At most one construction per custody attestation**, in every run of submissions over one
    store. -/
theorem submissions_construct_once :
    ConstructsOnce submissions steps
      (@runSubmissions owners ι _ readBack store submissions steps schedule) := by
  have hconcluded : ∀ i result,
      (runSubmissions readBack store submissions steps schedule).progs i = .ret result →
      Concluded (projection i (runSubmissions readBack store submissions steps
        schedule).history) result ∧
      HandleEntered (submissions i) (steps i) (projection i (runSubmissions readBack store
        submissions steps schedule).history) := by
    intro i result hresult
    have hpath : (submitFixedProfileConstruction (submissions i) (steps i)).Path
        (projection i (runSubmissions readBack store submissions steps schedule).history)
        ((runSubmissions readBack store submissions steps schedule).progs i) :=
      Config.path_run (performShared readBack) store
        (fun i => submitFixedProfileConstruction (submissions i) (steps i)) schedule i
    have hreached := ((submission_meets (submissions i) (steps i)).and
      (handle_entered (submissions i) (steps i))).path hpath
    rw [List.nil_append, hresult] at hreached
    exact hreached
  refine ⟨fun attestationId => countP_le_one (construct_first attestationId), ?_, ?_, ?_⟩
  · intro before after i authorization handle reply hhistory
    exact (constructed_justified hhistory).1
  · intro i a b c d authorization receipt hresult
    obtain ⟨⟨hreceipt, -⟩, -⟩ := hconcluded i _ hresult
    obtain ⟨handle, closed, hmem⟩ := hreceipt a b c d authorization receipt rfl
    exact ⟨handle, closed, mem_projection.mp hmem⟩
  · intro i result handle hresult hhanded
    obtain ⟨⟨-, hclosed⟩, hentered⟩ := hconcluded i _ hresult
    exact hclosed handle.descriptor (hentered handle hhanded)

end Runs

end Eag.GovernedPresentation
