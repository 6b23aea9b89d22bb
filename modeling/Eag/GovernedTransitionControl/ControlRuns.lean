/-
  Eag.GovernedTransitionControl.ControlRuns

  Runs of assessments over one shared ledger, in any interleaving and with any
  file system faults. The ledger may hold anything before the run.

  An assessment claims the key of its request once, after its evidence passed
  (`assess_of_passes`). The ledger fixes what a claim is answered after a claim of
  the same key (`ControlHistory`). The main theorem puts the two together.
-/

import Eag.GovernedTransitionControl.Assessor

namespace Eag.GovernedTransitionControl

open Eag.Foundation Eag.GovernedTransitionAuthorization

variable {ι : Type}

/-! ## Histories -/

/-- A claim with its answer. -/
def claimEntry (request : ExternalTransitionControlRequest)
    (answer : Except WriteOnce.Failure TransitionControlClaim) : Sigma ControlOp.Reply :=
  ⟨.claim request, answer⟩

theorem claimEntry_inj {r s : ExternalTransitionControlRequest}
    {a b : Except WriteOnce.Failure TransitionControlClaim}
    (h : claimEntry r a = claimEntry s b) : r = s ∧ a = b := by
  cases h; exact ⟨rfl, rfl⟩

/-- What is reported to a request about a key that `first` has claimed. -/
def repeated (first second : ExternalTransitionControlRequest) :
    TransitionControlClaimDisposition :=
  if first.bindingDigest = second.bindingDigest then .duplicate else .conflict

/-- What an entry says about the entries before it. -/
structure Ordered (before : List (ι × Sigma ControlOp.Reply))
    (e : ι × Sigma ControlOp.Reply) : Prop where
  /-- A successful claim is the first answered one of its key. -/
  first : ∀ request claim, e.2 = claimEntry request (.ok claim) → claim.disposition = .claimed →
    ∀ j other c, (j, claimEntry other (.ok c)) ∈ before → other.controlKey ≠ request.controlKey
  /-- A later one is told so. -/
  again : ∀ request claim, e.2 = claimEntry request (.ok claim) →
    ∀ j other c, (j, claimEntry other (.ok c)) ∈ before → c.disposition = .claimed →
      other.controlKey = request.controlKey → claim.disposition = repeated other request

/-- The ledger and the history of the claims that led to it. -/
structure ControlHistory (ledger : ControlLedger) (h : List (ι × Sigma ControlOp.Reply)) :
    Prop where
  answered : ∀ i request claim, (i, claimEntry request (.ok claim)) ∈ h →
    ledger (controlPath request.controlKey) ≠ none
  claimed : ∀ i request claim, (i, claimEntry request (.ok claim)) ∈ h →
    claim.disposition = .claimed →
    ledger (controlPath request.controlKey) = some (.whole (recordFor request))
  ordered : AtEach Ordered h

theorem controlHistory_nil (ledger : ControlLedger) :
    ControlHistory ledger ([] : List (ι × Sigma ControlOp.Reply)) where
  answered := by simp
  claimed := by simp
  ordered := atEach_nil _

theorem extends_claimControl (fault : Option WriteOnce.Fault) (ledger : ControlLedger)
    (request : ExternalTransitionControlRequest) :
    ledger.Extends (claimControl fault ledger request).1 :=
  WriteOnce.extends_claim
    (fun r : TransitionControlRecord => r.controlKey = request.controlKey) fault ledger
    (controlPath request.controlKey) (recordFor request)

/-- An answered claim leaves its path taken; a successful one found it free and
    left its own record there. -/
theorem claimControl_ok {fault : Option WriteOnce.Fault} {ledger : ControlLedger}
    {request : ExternalTransitionControlRequest} {claim : TransitionControlClaim}
    (h : (claimControl fault ledger request).2 = .ok claim) :
    (claimControl fault ledger request).1 (controlPath request.controlKey) ≠ none ∧
    (claim.disposition = .claimed →
      ledger (controlPath request.controlKey) = none ∧
      (claimControl fault ledger request).1 (controlPath request.controlKey) =
        some (.whole (recordFor request))) ∧
    (∀ existing, ledger (controlPath request.controlKey) = some (.whole existing) →
      claim = controlReport request (some existing)) := by
  rcases claimControl_cases fault ledger request with
    ⟨hs, ⟨failure, hr⟩ | ⟨existing, hstands, hr⟩⟩ | ⟨hfree, hs, hr | hr⟩ | ⟨-, -, hr⟩ <;>
    rw [hr] at h <;> cases h
  · refine ⟨by rw [hs, hstands]; simp, fun hc => ?_, fun other ho => ?_⟩
    · exact absurd (controlReport_eq_claimed.mp hc) (by simp)
    · rw [hstands] at ho
      cases ho
      rfl
  · refine ⟨by rw [hs]; simp, fun _ => ⟨hfree, by rw [hs]; simp⟩, fun existing he => ?_⟩
    rw [hfree] at he
    cases he

/-- **One claim keeps the ledger and the history in step.** -/
theorem ControlHistory.snoc {ledger : ControlLedger} {h : List (ι × Sigma ControlOp.Reply)}
    (hl : ControlHistory ledger h) (i : ι) (fault : Option WriteOnce.Fault) (op : ControlOp) :
    ControlHistory (performControl ledger fault op).1
      (h ++ [(i, ⟨op, (performControl ledger fault op).2⟩)]) := by
  obtain ⟨request⟩ := op
  have hext := extends_claimControl fault ledger request
  have hlast : ∀ {j other claim},
      (j, claimEntry other (.ok claim)) ∈
        [(i, claimEntry request (claimControl fault ledger request).2)] →
      other = request ∧ (claimControl fault ledger request).2 = .ok claim := by
    intro j other claim hm
    obtain ⟨ho, ha⟩ := claimEntry_inj (Prod.mk.inj (List.mem_singleton.mp hm)).2
    exact ⟨ho, ha.symm⟩
  constructor
  · -- answered
    intro j other claim hm
    rcases List.mem_append.mp hm with hm | hm
    · obtain ⟨slot, hslot⟩ := Option.ne_none_iff_exists'.mp (hl.answered j other claim hm)
      rw [show performControl ledger fault (.claim request) = claimControl fault ledger request
        from rfl, hext _ slot hslot]
      exact Option.some_ne_none _
    · obtain ⟨rfl, ha⟩ := hlast hm
      exact (claimControl_ok ha).1
  · -- claimed
    intro j other claim hm hc
    rcases List.mem_append.mp hm with hm | hm
    · exact hext _ _ (hl.claimed j other claim hm hc)
    · obtain ⟨rfl, ha⟩ := hlast hm
      exact ((claimControl_ok ha).2.1 hc).2
  · -- ordered
    refine hl.ordered.snoc ⟨?_, ?_⟩
    · intro r claim he hc j other c hm hkey
      obtain ⟨rfl, ha⟩ := claimEntry_inj he
      have hfree := ((claimControl_ok ha).2.1 hc).1
      exact hl.answered j other c hm (by rw [hkey]; exact hfree)
    · intro r claim he j other c hm hc hkey
      obtain ⟨rfl, ha⟩ := claimEntry_inj he
      have hstands := hl.claimed j other c hm hc
      rw [hkey] at hstands
      rw [(claimControl_ok ha).2.2 _ hstands]
      exact controlReport_recordFor request other

/-! ## Runs -/

section Run

variable [DecidableEq ι] (calls : ι → AssessCall) (ledger : ControlLedger)
  (schedule : List (ι × Option WriteOnce.Fault))

/-- The configuration after a run of the calls. -/
def controlRun :
    Config ι ControlLedger ControlOp ControlOp.Reply (Except String TransitionControlDecision) :=
  (Config.start ledger fun i => assess (calls i)).run performControl schedule

/-- Call `i` returned this decision. -/
def Returned (i : ι) (d : TransitionControlDecision) : Prop :=
  (controlRun calls ledger schedule).progs i = .ret (.ok d)

/-- Call `i` returned `CLAIMED`. -/
def Claimed (i : ι) : Prop :=
  ∃ d, Returned calls ledger schedule i d ∧ d.disposition = .claimed

/-- Calls `i` and `j` are about one control key. -/
def SameKey (i j : ι) : Prop := (calls i).request.controlKey = (calls j).request.controlKey

/-- The disposition of a decision about a key that `first` has claimed. -/
def repeatedDecision (first second : ExternalTransitionControlRequest) :
    TransitionControlDisposition :=
  if first.bindingDigest = second.bindingDigest then .duplicate else .conflict

theorem claimOutcome_repeated (first second : ExternalTransitionControlRequest) :
    (claimOutcome (repeated first second)).1 = repeatedDecision first second := by
  unfold repeated repeatedDecision
  split <;> rfl

theorem controlHistory_run :
    ControlHistory (controlRun calls ledger schedule).shared
      (controlRun calls ledger schedule).history :=
  Config.run_shared performControl (P := ControlHistory) (controlHistory_nil ledger) _
    (fun _ _ i fault op hl => hl.snoc i fault op) schedule

theorem path_controlRun (i : ι) :
    (assess (calls i)).Path (projection i (controlRun calls ledger schedule).history)
      ((controlRun calls ledger schedule).progs i) :=
  Config.path_run performControl ledger (fun i => assess (calls i)) schedule i

/-- A call whose evidence passes has made no operation, or its one claim was
    answered and it has returned what the answer says. -/
theorem passing_cases {i : ι} (h : (calls i).Passes) :
    (controlRun calls ledger schedule).progs i = assess (calls i) ∨
    ∃ answer, (i, claimEntry (calls i).request answer) ∈
        (controlRun calls ledger schedule).history ∧
      (controlRun calls ledger schedule).progs i = .ret ((calls i).settle answer) := by
  have p := path_controlRun calls ledger schedule i
  rw [assess_of_passes h] at p
  rcases Prog.path_call p with ⟨-, hq⟩ | ⟨answer, rest, hh, hrest⟩
  · exact Or.inl (hq.trans (assess_of_passes h).symm)
  · obtain ⟨rfl, hq⟩ := Prog.path_ret hrest
    exact Or.inr ⟨answer, mem_projection.mp (by rw [hh]; simp [claimEntry]), hq⟩

/-- A call whose evidence does not pass has returned from the start. -/
theorem failing_progs {i : ι} (h : ¬ (calls i).Passes) :
    (controlRun calls ledger schedule).progs i = assess (calls i) := by
  obtain ⟨r, hr, -⟩ := assess_of_not_passes h
  have p := path_controlRun calls ledger schedule i
  rw [hr] at p
  exact (Prog.path_ret p).2.trans hr.symm

variable {calls ledger schedule}

/-- The claim of a call that returned a decision after its evidence passed. -/
theorem Returned.answer {i : ι} {d : TransitionControlDecision}
    (h : Returned calls ledger schedule i d) (hpasses : (calls i).Passes) :
    ∃ answer, (i, claimEntry (calls i).request answer) ∈
        (controlRun calls ledger schedule).history ∧ (calls i).settle answer = .ok d := by
  unfold Returned at h
  rcases passing_cases calls ledger schedule hpasses with hq | ⟨answer, hm, hq⟩
  · rw [hq, assess_of_passes hpasses] at h
    cases h
  · rw [hq] at h
    injection h with hsettle
    exact ⟨answer, hm, hsettle⟩

/-- A call that returned `CLAIMED` passed its evidence, and its claim succeeded. -/
theorem Claimed.claim {i : ι} (h : Claimed calls ledger schedule i) :
    (calls i).Passes ∧ ∃ claim, claim.disposition = .claimed ∧
      (i, claimEntry (calls i).request (.ok claim)) ∈
        (controlRun calls ledger schedule).history := by
  obtain ⟨d, hd, hclaimed⟩ := h
  by_cases hpasses : (calls i).Passes
  · obtain ⟨answer, hm, hsettle⟩ := hd.answer hpasses
    rw [disposition_of_settle hsettle, settledDisposition_eq_claimed] at hclaimed
    obtain ⟨claim, rfl, hclaim⟩ := hclaimed
    exact ⟨hpasses, claim, hclaim, hm⟩
  · obtain ⟨r, hr, hnot⟩ := assess_of_not_passes hpasses
    unfold Returned at hd
    rw [failing_progs calls ledger schedule hpasses, hr] at hd
    cases hd
    rcases hnot d rfl with h | h <;> rw [hclaimed] at h <;> cases h

/-- **An answered claim of a claimed key is told so**, whichever of the two came
    first. -/
theorem repeated_of_claimed {i j : ι} (hij : j ≠ i) (hi : Claimed calls ledger schedule i)
    {claim : TransitionControlClaim}
    (hj : (j, claimEntry (calls j).request (.ok claim)) ∈
      (controlRun calls ledger schedule).history) (hkey : SameKey calls i j) :
    claim.disposition = repeated (calls i).request (calls j).request := by
  obtain ⟨-, c, hc, hm⟩ := hi.claim
  have hordered := (controlHistory_run calls ledger schedule).ordered
  obtain ⟨before, after, hh⟩ := List.append_of_mem hm
  rw [hh] at hj hordered
  rcases List.mem_append.mp hj with hb | ha
  · exact absurd hkey.symm ((hordered _ _ _ rfl).first _ c rfl hc j _ claim hb)
  · rcases List.mem_cons.mp ha with heq | ha
    · exact absurd (Prod.mk.inj heq).1 hij
    · obtain ⟨mid, rest, rfl⟩ := List.append_of_mem ha
      exact (hordered (before ++ (i, claimEntry (calls i).request (.ok c)) :: mid)
        (j, claimEntry (calls j).request (.ok claim)) rest (by simp)).again _ claim rfl i _ c
          (by simp) hc hkey

/-- Two calls that returned `CLAIMED` for one key are one call. -/
theorem claimed_unique {i j : ι} (hi : Claimed calls ledger schedule i)
    (hj : Claimed calls ledger schedule j) (hkey : SameKey calls i j) : i = j := by
  by_contra hne
  obtain ⟨-, claim, hclaim, hm⟩ := hj.claim
  have hrepeated := repeated_of_claimed (Ne.symm hne) hi hm hkey
  rw [hclaim] at hrepeated
  unfold repeated at hrepeated
  split at hrepeated <;> cases hrepeated

/-- A call about a claimed key whose evidence passes and whose ledger operation
    completes is told that the key is claimed. -/
theorem disposition_of_claimed {i j : ι} {d : TransitionControlDecision} (hij : j ≠ i)
    (hi : Claimed calls ledger schedule i) (hkey : SameKey calls i j)
    (hpasses : (calls j).Passes) (hd : Returned calls ledger schedule j d)
    (hcompleted : d.disposition ≠ .notControllable) :
    d.disposition = repeatedDecision (calls i).request (calls j).request := by
  obtain ⟨answer, hm, hsettle⟩ := hd.answer hpasses
  rw [disposition_of_settle hsettle] at hcompleted ⊢
  cases answer with
  | error failure => exact absurd rfl hcompleted
  | ok claim =>
      show (claimOutcome claim.disposition).1 = _
      rw [repeated_of_claimed hij hi hm hkey, claimOutcome_repeated]

/-! ## One more operation -/

variable (calls ledger schedule)

theorem controlRun_snoc (i : ι) (fault : Option WriteOnce.Fault) :
    controlRun calls ledger (schedule ++ [(i, fault)]) =
      (controlRun calls ledger schedule).step performControl (i, fault) := by
  simp [controlRun, Config.run]

/-- A call whose evidence passes makes its claim and returns what the answer says. -/
theorem settled_snoc {i : ι} {fault : Option WriteOnce.Fault} (hpasses : (calls i).Passes)
    (hstart : (controlRun calls ledger schedule).progs i = assess (calls i)) :
    (controlRun calls ledger (schedule ++ [(i, fault)])).shared =
        (claimControl fault (controlRun calls ledger schedule).shared (calls i).request).1 ∧
    (controlRun calls ledger (schedule ++ [(i, fault)])).progs i =
      .ret ((calls i).settle
        (claimControl fault (controlRun calls ledger schedule).shared (calls i).request).2) := by
  rw [assess_of_passes hpasses] at hstart
  rw [controlRun_snoc]
  simp only [Config.step, hstart, Function.update_self]
  exact ⟨rfl, rfl⟩

theorem returned_snoc {i : ι} {fault : Option WriteOnce.Fault} {d : TransitionControlDecision}
    (hpasses : (calls i).Passes)
    (hstart : (controlRun calls ledger schedule).progs i = assess (calls i))
    (hd : (calls i).settle (claimControl fault (controlRun calls ledger schedule).shared
      (calls i).request).2 = .ok d) :
    Returned calls ledger (schedule ++ [(i, fault)]) i d := by
  unfold Returned
  rw [(settled_snoc calls ledger schedule hpasses hstart).2, hd]

/-- **What one more operation does**: nothing, or the claim of a call whose
    evidence passes. -/
theorem step_cases (i : ι) (fault : Option WriteOnce.Fault) :
    controlRun calls ledger (schedule ++ [(i, fault)]) = controlRun calls ledger schedule ∨
    ((calls i).Passes ∧
      (controlRun calls ledger (schedule ++ [(i, fault)])).shared =
        (claimControl fault (controlRun calls ledger schedule).shared (calls i).request).1 ∧
      (controlRun calls ledger (schedule ++ [(i, fault)])).progs i =
        .ret ((calls i).settle
          (claimControl fault (controlRun calls ledger schedule).shared (calls i).request).2)) := by
  have hret : ∀ r, (controlRun calls ledger schedule).progs i = .ret r →
      controlRun calls ledger (schedule ++ [(i, fault)]) = controlRun calls ledger schedule := by
    intro r hr
    rw [controlRun_snoc]
    simp [Config.step, hr]
  by_cases hpasses : (calls i).Passes
  · rcases passing_cases calls ledger schedule hpasses with hq | ⟨answer, -, hq⟩
    · exact Or.inr ⟨hpasses, settled_snoc calls ledger schedule hpasses hq⟩
    · exact Or.inl (hret _ hq)
  · obtain ⟨r, hr, -⟩ := assess_of_not_passes hpasses
    exact Or.inl (hret r ((failing_progs calls ledger schedule hpasses).trans hr))

/-- A call about a claimed key that makes its claim now is told that the key is
    claimed, unless the file system refuses the lookup. -/
theorem step_of_claimed {i j : ι} {fault : Option WriteOnce.Fault}
    (hi : Claimed calls ledger schedule i) (hkey : SameKey calls i j)
    (hpasses : (calls j).Passes) (hid : NonBlank (calls j).decisionId)
    (hstart : (controlRun calls ledger schedule).progs j = assess (calls j))
    (hfault : fault ≠ some .unlocked ∧ fault ≠ some .unread) :
    ∃ d, Returned calls ledger (schedule ++ [(j, fault)]) j d ∧
      d.disposition = repeatedDecision (calls i).request (calls j).request := by
  obtain ⟨-, c, hc, hm⟩ := hi.claim
  have hstands := (controlHistory_run calls ledger schedule).claimed i _ c hm hc
  rw [show (calls i).request.controlKey = (calls j).request.controlKey from hkey] at hstands
  have hanswer := claimControl_of_whole hstands hkey hfault
  obtain ⟨d, hd⟩ := settle_eq_ok hid (.ok (controlReport (calls j).request
    (some (recordFor (calls i).request))))
  refine ⟨d, returned_snoc calls ledger schedule hpasses hstart (by rw [hanswer]; exact hd), ?_⟩
  rw [disposition_of_settle hd]
  show (claimOutcome (controlReport (calls j).request
    (some (recordFor (calls i).request))).disposition).1 = _
  rw [controlReport_recordFor]
  exact claimOutcome_repeated _ _

/-- An undisturbed call about a free key claims it. -/
theorem claimed_of_free {i : ι} (hpasses : (calls i).Passes) (hid : NonBlank (calls i).decisionId)
    (hstart : (controlRun calls ledger schedule).progs i = assess (calls i))
    (hfree : (controlRun calls ledger schedule).shared
      (controlPath (calls i).request.controlKey) = none) :
    Claimed calls ledger (schedule ++ [(i, none)]) i := by
  obtain ⟨d, hd⟩ := settle_eq_ok hid (.ok (controlReport (calls i).request none))
  refine ⟨d, returned_snoc calls ledger schedule hpasses hstart
    (by rw [claimControl_of_free hfree]; exact hd), ?_⟩
  rw [disposition_of_settle hd]
  rfl

/-- How one more operation changes the ledger: only for a call whose evidence
    passes, only at its own free path, and then the call returns `CLAIMED`, or the
    write of its record failed. -/
structure LedgerStep (i : ι) (fault : Option WriteOnce.Fault) : Prop where
  passes : (calls i).Passes
  free : (controlRun calls ledger schedule).shared
    (controlPath (calls i).request.controlKey) = none
  frame : ∀ path, path ≠ controlPath (calls i).request.controlKey →
    (controlRun calls ledger (schedule ++ [(i, fault)])).shared path =
      (controlRun calls ledger schedule).shared path
  outcome : ∀ d, Returned calls ledger (schedule ++ [(i, fault)]) i d →
    (d.disposition = .claimed ∧
      (controlRun calls ledger (schedule ++ [(i, fault)])).shared
        (controlPath (calls i).request.controlKey) =
          some (.whole (recordFor (calls i).request))) ∨
    (d.disposition = .notControllable ∧ fault ≠ none)

theorem ledgerStep_of_change (i : ι) (fault : Option WriteOnce.Fault)
    (hchange : (controlRun calls ledger (schedule ++ [(i, fault)])).shared ≠
      (controlRun calls ledger schedule).shared) :
    LedgerStep calls ledger schedule i fault := by
  rcases step_cases calls ledger schedule i fault with hsame | ⟨hpasses, hshared, hprogs⟩
  · rw [hsame] at hchange
    exact absurd rfl hchange
  have hdisposition : ∀ d, Returned calls ledger (schedule ++ [(i, fault)]) i d →
      d.disposition = settledDisposition (claimControl fault
        (controlRun calls ledger schedule).shared (calls i).request).2 := by
    intro d hd
    unfold Returned at hd
    rw [hprogs] at hd
    injection hd with hsettle
    exact disposition_of_settle hsettle
  have hundisturbed := claimControl_undisturbed (controlRun calls ledger schedule).shared
    (calls i).request
  rcases claimControl_cases fault (controlRun calls ledger schedule).shared (calls i).request
    with ⟨hs, -⟩ | ⟨hfree, hs, hr⟩ | ⟨hfree, hs, hr⟩
  · exact absurd (hshared.trans hs) hchange
  · refine ⟨hpasses, hfree, fun path hp => ?_, fun d hd => ?_⟩
    · rw [hshared, hs, WriteOnce.Store.put_of_ne _ hp]
    · rcases hr with hr | hr
      · refine Or.inl ⟨?_, by rw [hshared, hs, WriteOnce.Store.put_self]⟩
        rw [hdisposition d hd, hr]
        rfl
      · refine Or.inr ⟨by rw [hdisposition d hd, hr]; rfl, ?_⟩
        rintro rfl
        exact hundisturbed hr
  · refine ⟨hpasses, hfree, fun path hp => ?_, fun d hd => Or.inr ⟨?_, ?_⟩⟩
    · rw [hshared, hs, WriteOnce.Store.put_of_ne _ hp]
    · rw [hdisposition d hd, hr]
      rfl
    · rintro rfl
      exact hundisturbed hr

/-- **At most one control claim for each authorized transition.** In any
    interleaving of any assessments over one ledger, with any file system faults: at
    most one returns `CLAIMED` for a control key; every other one about that key
    whose evidence passes reports `DUPLICATE` for an equal binding and `CONFLICT` for
    a different one, unless its ledger operation fails, and one that makes its claim
    later does return that when the lookup is not refused; and the ledger changes
    only as `LedgerStep` says. -/
theorem control_claimed_once :
    (∀ i j, Claimed calls ledger schedule i → Claimed calls ledger schedule j →
      SameKey calls i j → i = j) ∧
    (∀ i j d, j ≠ i → Claimed calls ledger schedule i → SameKey calls i j →
      (calls j).Passes → Returned calls ledger schedule j d →
      d.disposition ≠ .notControllable →
      d.disposition = repeatedDecision (calls i).request (calls j).request) ∧
    (∀ i j fault, Claimed calls ledger schedule i → SameKey calls i j →
      (calls j).Passes → NonBlank (calls j).decisionId →
      (controlRun calls ledger schedule).progs j = assess (calls j) →
      fault ≠ some .unlocked ∧ fault ≠ some .unread →
      ∃ d, Returned calls ledger (schedule ++ [(j, fault)]) j d ∧
        d.disposition = repeatedDecision (calls i).request (calls j).request) ∧
    ∀ i fault, (controlRun calls ledger (schedule ++ [(i, fault)])).shared ≠
        (controlRun calls ledger schedule).shared → LedgerStep calls ledger schedule i fault :=
  ⟨fun _ _ => claimed_unique, fun _ _ _ => disposition_of_claimed,
    fun _ _ _ => step_of_claimed calls ledger schedule,
    fun i fault => ledgerStep_of_change calls ledger schedule i fault⟩

/-- Every returned call about a claimed key reports that it is claimed. -/
def AlreadyReported : Prop :=
  ∀ i j d, j ≠ i → Claimed calls ledger schedule i → SameKey calls i j →
    Returned calls ledger schedule j d →
    d.disposition = repeatedDecision (calls i).request (calls j).request

/-- Every operation whose call does not return `CLAIMED` leaves the ledger as it was. -/
def LedgerKept : Prop :=
  ∀ i fault d, Returned calls ledger (schedule ++ [(i, fault)]) i d → d.disposition ≠ .claimed →
    (controlRun calls ledger (schedule ++ [(i, fault)])).shared =
      (controlRun calls ledger schedule).shared

end Run

/-! ## A refused call and a torn write -/

theorem plainDigests_isDigest :
    ∀ value ∈ [sha256Hex "artifact", sha256Hex "eligibility", sha256Hex "promotion",
      sha256Hex "policy"], IsDigest value := by
  simp [isDigest_sha256Hex]

theorem noRun_nonBlank :
    ∀ value ∈ (none : Option String).toList ++ (none : Option String).toList, NonBlank value := by
  decide

/-- A human authorization of one transition. -/
def plainAuthorization : ExternalTransitionAuthorizationReceipt where
  authorizationId := "authorization"
  approverIdentity := "operator"
  decision := .authorized
  occurredAt := ⟨0, some 0⟩
  expiresAt := ⟨1, some 0⟩
  transitionIntentId := "intent"
  artifactId := "artifact"
  artifactFingerprint := sha256Hex "artifact"
  destinationIdentity := "destination"
  eligibilityAssessmentId := "eligibility"
  eligibilityAssessmentDigest := sha256Hex "eligibility"
  promotionPolicyDigest := sha256Hex "promotion"
  authorizationPolicyDigest := sha256Hex "policy"
  executionId := none
  runId := none
  schemaVersion := "g2.4.16"
  bindingDigest := _
  identities_nonBlank := by decide
  digests_isDigest := plainDigests_isDigest
  optional_nonBlank := noRun_nonBlank
  times_utc := by decide
  expires_later := by decide
  schemaVersion_supported := rfl
  bindingDigest_canonical := rfl

theorem noFindings_ordered :
    Finding.Ordered TransitionAuthorizationFindingCode.value [] := .nil

theorem noTexts_ordered : OrderedUnique [] := ⟨by simp, .nil⟩

/-- Its assessment. -/
def plainAssessment : TransitionAuthorizationAssessment where
  assessmentId := "assessment"
  authorizationId := some "authorization"
  artifactId := "artifact"
  artifactFingerprint := sha256Hex "artifact"
  destinationIdentity := "destination"
  disposition := .authorized
  findings := []
  evidenceRefs := []
  recommendations := []
  timestamp := ⟨0, some 0⟩
  schemaVersion := "g2.4.16"
  assessmentDigest := _
  identities_nonBlank := by decide
  artifactFingerprint_isDigest := isDigest_sha256Hex _
  findings_ordered := noFindings_ordered
  evidenceRefs_ordered := noTexts_ordered
  recommendations_ordered := noTexts_ordered
  timestamp_utc := DateTime.epoch_utc
  schemaVersion_supported := rfl
  assessmentDigest_canonical := rfl

theorem controlProfile_nonBlank :
    NonBlank TransitionProfile.externalArtifactTransitionControlV1.value := by decide

/-- A request with exactly that evidence. -/
def plainControlRequest : ExternalTransitionControlRequest where
  controlRequestId := "request"
  authorizationId := "authorization"
  authorizationBindingDigest := plainAuthorization.bindingDigest
  authorizationAssessmentId := "assessment"
  authorizationAssessmentDigest := plainAssessment.assessmentDigest
  transitionIntentId := "intent"
  artifactId := "artifact"
  artifactFingerprint := sha256Hex "artifact"
  destinationIdentity := "destination"
  promotionPolicyDigest := sha256Hex "promotion"
  authorizationPolicyDigest := sha256Hex "policy"
  idempotencyKey := "key-1"
  transitionProfile := .externalArtifactTransitionControlV1
  occurredAt := ⟨0, some 0⟩
  executionId := none
  runId := none
  schemaVersion := "g2.4.17.transition-control.v1"
  identities_nonBlank := by decide
  digests_isDigest := by
    simp only [List.forall_mem_cons, List.not_mem_nil, false_implies, implies_true, and_true]
    exact ⟨isDigest_jsonDigest _, isDigest_jsonDigest _, isDigest_sha256Hex _,
      isDigest_sha256Hex _, isDigest_sha256Hex _⟩
  optional_nonBlank := by decide
  transitionProfile_nonBlank := controlProfile_nonBlank
  occurredAt_utc := DateTime.epoch_utc
  schemaVersion_supported := rfl

/-- A call with the request, with or without the authorization itself. -/
def plainCall (authorization : Option ExternalTransitionAuthorizationReceipt) : AssessCall where
  decisionId := "decision"
  request := plainControlRequest
  authorization := authorization
  authorizationAssessment := some plainAssessment
  timestamp := ⟨0, some 0⟩

theorem plainCall_passes : (plainCall (some plainAuthorization)).Passes := by
  have h1 : validateProfile plainControlRequest = [] := by
    simp [validateProfile, plainControlRequest]
  have h2 : validateIdempotency plainControlRequest = [] := findingWhen_eq_nil.mpr (by decide)
  have h3 : (validateAuthorizationAssessment plainControlRequest (some plainAssessment)).1 =
      [] := by
    simp [validateAuthorizationAssessment, plainControlRequest, plainAssessment]
  have h4 : (validateAuthorizationReceipt plainControlRequest (DateTime.toUtc ⟨0, some 0⟩ 0)
      (some plainAuthorization)).1 = [] := by
    simp [validateAuthorizationReceipt, plainControlRequest, plainAuthorization, DateTime.toUtc,
      DateTime.instant]
  refine ⟨0, rfl, ?_⟩
  simp only [AssessCall.findings, plainCall, h1, h2, h3, h4, List.append_nil]

/-- Without the authorization the same request is refused. -/
theorem plainCall_refused :
    ∃ d, assess (plainCall none) = .ret (.ok d) ∧ d.disposition = .notControllable := by
  have hfindings : ∀ t, (plainCall none).findings t ≠ [] := by
    simp [AssessCall.findings, plainCall, validateAuthorizationReceipt]
  have hprofile : validateProfile (plainCall none).request = [] := by
    simp [validateProfile, plainCall, plainControlRequest]
  have hissued : ∀ t, ∃ d, (plainCall none).decision none .notControllable
      ((plainCall none).findings t) ((plainCall none).references t) 0 = .ok d := fun t =>
    decision_eq_ok (by decide) (by simp) (references_nonBlank _ _)
  obtain ⟨d, hd⟩ := hissued (DateTime.toUtc ⟨0, some 0⟩ 0)
  refine ⟨d, ?_, disposition_of_decision hd⟩
  have htime : (plainCall none).timestamp = ⟨0, some 0⟩ := rfl
  simp only [assess, htime, hprofile, hfindings, hd, ne_eq, not_true_eq_false, if_false,
    not_false_eq_true, if_true]

theorem plainCall_not_passes : ¬ (plainCall none).Passes := by
  rintro ⟨offset, -, h⟩
  simp [AssessCall.findings, plainCall, validateAuthorizationReceipt] at h

/-- One call with the evidence, and one that repeats its request without. -/
def repeatedCalls (i : Bool) : AssessCall :=
  plainCall (if i then some plainAuthorization else none)

/-- One call with the evidence. -/
def soleCall (_ : Unit) : AssessCall := plainCall (some plainAuthorization)

/-- A call that repeats a claimed request without its evidence is refused as not
    controllable, and a claim whose write stops half way leaves a file behind. -/
theorem not_alreadyReported_not_ledgerKept :
    (¬ AlreadyReported repeatedCalls (fun _ => none) [(true, none)]) ∧
    ¬ LedgerKept soleCall (fun _ => none) [] := by
  constructor
  · intro h
    have hclaimed : Claimed repeatedCalls (fun _ => none) [(true, none)] true :=
      claimed_of_free repeatedCalls (fun _ => none) [] plainCall_passes (by decide) rfl rfl
    obtain ⟨d, hd, hrefused⟩ := plainCall_refused
    have hreturned : Returned repeatedCalls (fun _ => none) [(true, none)] false d :=
      (failing_progs repeatedCalls (fun _ => none) [(true, none)]
        (show ¬ (repeatedCalls false).Passes from plainCall_not_passes)).trans hd
    have hreport := h true false d (by decide) hclaimed rfl hreturned
    rw [hrefused] at hreport
    unfold repeatedDecision at hreport
    split at hreport <;> cases hreport
  · intro h
    have hsettle : ∃ d, (plainCall (some plainAuthorization)).settle (.error .unavailable) =
        .ok d := settle_eq_ok (by decide) _
    obtain ⟨d, hd⟩ := hsettle
    have hreturned : Returned soleCall (fun _ => none) ([] ++ [((), some .torn)]) () d :=
      returned_snoc soleCall _ [] plainCall_passes rfl hd
    have hkept := h () (some .torn) d hreturned (by rw [disposition_of_settle hd]; decide)
    have hshared : (controlRun soleCall (fun _ => none) ([] ++ [((), some .torn)])).shared =
        (claimControl (some .torn) (fun _ => none) plainControlRequest).1 :=
      (settled_snoc soleCall _ [] plainCall_passes rfl).1
    have hslot : (claimControl (some .torn) (fun _ => none) plainControlRequest).1
        (controlPath plainControlRequest.controlKey) = some .torn := by
      simp [claimControl, WriteOnce.claim, WriteOnce.read, WriteOnce.write]
    rw [← hshared, hkept] at hslot
    cases hslot

end Eag.GovernedTransitionControl
