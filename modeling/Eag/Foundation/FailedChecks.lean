/-
  Eag.Foundation.FailedChecks

  Assessors that collect what fails: a fixed sequence of checks, a finding for each one that
  fails, and a result of the sorted findings that refuses a finding it is given twice.

  `Check.Distinct` says that no two failing checks report the same. Sorted findings are
  strictly ordered exactly when the failing checks are distinct (`ordered_iff_distinct`),
  and then they list every failing check once (`lists_sortedBy`).
-/

import Eag.Foundation.Checks
import Eag.Foundation.Evidence
import Eag.Foundation.PyText

namespace Eag.Foundation

/-! ## Sorting by a key -/

section SortedBy

variable {α β : Type} [LinearOrder β] (key : α → β)

/-- `sorted(xs, key=key)`. -/
def sortedBy (xs : List α) : List α := xs.insertionSort fun a b => key a ≤ key b

@[simp] theorem mem_sortedBy {xs : List α} {a : α} : a ∈ sortedBy key xs ↔ a ∈ xs :=
  List.mem_insertionSort _

@[simp] theorem sortedBy_nil : sortedBy key [] = [] := rfl

theorem nodup_sortedBy {xs : List α} : (sortedBy key xs).Nodup ↔ xs.Nodup :=
  (List.perm_insertionSort _ xs).nodup_iff

/-- What is sorted by a key that tells its elements apart is strictly ordered unless an
    element occurs twice. -/
theorem sortedBy_strict_iff (hkey : Function.Injective key) (xs : List α) :
    (sortedBy key xs).Pairwise (fun a b => key a < key b) ↔ xs.Nodup := by
  have hle : (sortedBy key xs).Pairwise fun a b => key a ≤ key b :=
    haveI : Std.Total fun a b : α => key a ≤ key b := ⟨fun a b => le_total (key a) (key b)⟩
    haveI : IsTrans α fun a b => key a ≤ key b := ⟨fun _ _ _ h h' => le_trans h h'⟩
    List.pairwise_insertionSort _ _
  rw [← nodup_sortedBy key]
  constructor
  · intro hlt
    exact hlt.imp fun h heq => absurd (congrArg key heq) (ne_of_lt h)
  · intro hne
    exact hle.imp₂ (fun _ _ h h' => lt_of_le_of_ne h (hkey.ne h')) hne

end SortedBy

/-! ## The order of texts -/

namespace PyText

theorem codeValue_injective : Function.Injective codeValue := by
  intro a b h
  -- A scalar value is never in the range of the surrogates.
  have hscalar : ∀ c : Char, c.toNat < 0xd800 ∨ 0xdfff < c.toNat := fun c => by
    have hvalid := c.valid
    simp only [UInt32.isValidChar, Nat.isValidChar] at hvalid
    show c.val.toNat < 0xd800 ∨ 0xdfff < c.val.toNat
    omega
  cases a with
  | scalar c =>
      cases b with
      | scalar d => rw [Char.toNat_inj.mp h]
      | surrogate offset =>
          have hc := hscalar c
          have hoffset := offset.isLt
          have hvalue : c.toNat = 0xd800 + offset := h
          omega
  | surrogate offset =>
      cases b with
      | scalar d =>
          have hd := hscalar d
          have hoffset := offset.isLt
          have hvalue : 0xd800 + offset = d.toNat := h
          omega
      | surrogate other =>
          have hvalue : 0xd800 + offset.val = 0xd800 + other.val := h
          have hval : offset.val = other.val := by omega
          rw [Fin.ext hval]

/-- What texts are compared by. -/
def order (t : PyText) : List Nat := t.map codeValue

theorem order_injective : Function.Injective order :=
  List.map_injective_iff.mpr codeValue_injective

@[simp] theorem ofString_inj {a b : String} : ofString a = ofString b ↔ a = b :=
  ⟨ofString_injective, congrArg ofString⟩

end PyText

/-! ## Checks -/

/-- One check of evidence, and what is reported where it fails. -/
structure Check (Code : Type) where
  failed : Bool
  code : Code
  reference : PyText

/-- A reported failure, about a reference that the finding class admits. -/
structure EvidenceFinding (Code : Type) (Admits : PyText → Prop) where
  code : Code
  evidenceReference : { reference : PyText // Admits reference }
  deriving DecidableEq

section Checks

variable {Code ε : Type} {Admits : PyText → Prop}

/-- What a check reports. -/
def Check.reason (check : Check Code) : Code × PyText := (check.code, check.reference)

/-- What a finding says. -/
def EvidenceFinding.reason (finding : EvidenceFinding Code Admits) : Code × PyText :=
  (finding.code, finding.evidenceReference)

theorem EvidenceFinding.reason_injective :
    Function.Injective (@EvidenceFinding.reason Code Admits) := by
  intro f g h
  obtain ⟨hcode, hreference⟩ := Prod.mk.inj h
  cases f
  cases g
  cases hcode
  cases Subtype.ext hreference
  rfl

/-- `to_payload`'s sort key: the text of the code, then the reference. -/
def EvidenceFinding.key (value : Code → String) (finding : EvidenceFinding Code Admits) :
    Lex (String × List Nat) :=
  toLex (value finding.code, finding.evidenceReference.val.order)

theorem EvidenceFinding.key_injective {value : Code → String}
    (hvalue : Function.Injective value) :
    Function.Injective (@EvidenceFinding.key Code Admits value) := by
  intro f g h
  obtain ⟨hcode, hreference⟩ := Prod.mk.inj (toLex.injective h)
  exact reason_injective (Prod.ext (hvalue hcode) (PyText.order_injective hreference))

/-- No two checks that fail report the same. -/
def Check.Distinct (checks : List (Check Code)) : Prop :=
  checks.Pairwise fun c d => c.failed = true → d.failed = true → c.reason ≠ d.reason

/-- The checks that report a code. -/
def Check.about [DecidableEq Code] (code : Code) (checks : List (Check Code)) :
    List (Check Code) :=
  checks.filter fun check => check.code = code

/-- No two checks that fail are about the same reference. -/
def Check.Apart (checks : List (Check Code)) : Prop :=
  checks.Pairwise fun c d => c.failed = true → d.failed = true → c.reference ≠ d.reference

/-- Failures are told apart code by code. -/
theorem Check.distinct_iff_apart [DecidableEq Code] {checks : List (Check Code)} :
    Distinct checks ↔ ∀ code, Apart (about code checks) := by
  constructor
  · intro h code
    rw [Apart, about, List.pairwise_filter]
    refine h.imp fun hreason hc hd hfailed hfailed' hreference => ?_
    have hcode := (of_decide_eq_true hc).trans (of_decide_eq_true hd).symm
    exact hreason hfailed hfailed' (Prod.ext hcode hreference)
  · intro h
    have hclass : ∀ code, checks.Pairwise fun c d => c.code = code → d.code = code →
        c.failed = true → d.failed = true → c.reference ≠ d.reference := by
      intro code
      have hcode := h code
      rw [Apart, about, List.pairwise_filter] at hcode
      exact hcode.imp fun hcd hc hd => hcd (decide_eq_true hc) (decide_eq_true hd)
    rw [Distinct, List.pairwise_iff_getElem]
    intro i j hi hj hij hfailed hfailed' hreason
    obtain ⟨hcode, hreference⟩ := Prod.mk.inj hreason
    exact List.pairwise_iff_getElem.mp (hclass _) i j hi hj hij hcode rfl hfailed hfailed'
      hreference

theorem Check.apart_nil : Apart ([] : List (Check Code)) := List.Pairwise.nil

theorem Check.apart_singleton (check : Check Code) : Apart [check] :=
  List.pairwise_singleton _ _

theorem Check.apart_pair {c d : Check Code} :
    Apart [c, d] ↔ (c.failed = true → d.failed = true → c.reference ≠ d.reference) :=
  List.pairwise_pair

/-- One more check is told apart from the ones before it. -/
theorem Check.apart_concat {checks : List (Check Code)} {check : Check Code} :
    Apart (checks ++ [check]) ↔ Apart checks ∧ (check.failed = true →
      ∀ c ∈ checks, c.failed = true → c.reference ≠ check.reference) := by
  rw [Apart, List.pairwise_append, and_iff_right (List.pairwise_singleton _ _)]
  refine and_congr_right' ⟨fun h hfailed c hc hc' => ?_, fun h c hc d hd hc' hd' => ?_⟩
  · exact h c hc check List.mem_cons_self hc' hfailed
  · rw [List.mem_singleton.mp hd] at hd' ⊢
    exact h hd' c hc hc'

/-- Checks that compare texts with one that is expected fail apart when no unexpected text is
    there twice. -/
theorem Check.apart_expected (code : Code) (expected : PyText) (texts : List PyText) :
    Apart (texts.map fun text => ⟨decide (text ≠ expected), code, text⟩) ↔
      (texts.filter fun text => text ≠ expected).Nodup := by
  rw [Apart, List.pairwise_map, List.Nodup, List.pairwise_filter]

/-- No check fails. -/
def Check.AllHold (checks : List (Check Code)) : Prop :=
  ∀ check ∈ checks, check.failed = false

/-- The findings say what failed, each failure once. -/
structure Lists (checks : List (Check Code)) (findings : List (EvidenceFinding Code Admits)) :
    Prop where
  once : findings.Nodup
  reasons : ∀ reason, reason ∈ findings.map EvidenceFinding.reason ↔
    ∃ check ∈ checks, check.failed = true ∧ check.reason = reason

/-- A result says of the checks what it should: it is favourable exactly when no check fails,
    and its findings list the failures. -/
structure AssessedExactly (checks : List (Check Code)) (favourable : Prop)
    (findings : List (EvidenceFinding Code Admits)) : Prop where
  favourable_iff : favourable ↔ Check.AllHold checks
  lists : Lists checks findings

/-! ## Reports -/

section Report

variable [DecidablePred Admits] (refused : PyText → ε)

/-- The findings of the checks that fail; an error where a finding class refuses the
    reference. -/
def report : List (Check Code) → Except ε (List (EvidenceFinding Code Admits))
  | [] => .ok []
  | check :: rest =>
      if check.failed then
        if h : Admits check.reference then
          (report rest).map (⟨check.code, check.reference, h⟩ :: ·)
        else .error (refused check.reference)
      else report rest

/-- A report succeeds with the findings that say what failed, in the order of the checks. -/
theorem report_eq_ok {checks : List (Check Code)}
    {findings : List (EvidenceFinding Code Admits)} :
    report refused checks = .ok findings ↔
      findings.map EvidenceFinding.reason = (checks.filter (·.failed)).map Check.reason := by
  induction checks generalizing findings with
  | nil =>
      rw [report, Except.ok.injEq, List.filter_nil, List.map_nil, List.map_eq_nil_iff]
      exact eq_comm
  | cons check rest ih =>
      rw [report]
      split
      · next hfailed =>
          rw [List.filter_cons_of_pos hfailed, List.map_cons]
          split
          · next hadmits =>
              constructor
              · intro h
                cases hrest : (report refused rest :
                    Except ε (List (EvidenceFinding Code Admits))) with
                | error e => rw [hrest] at h; cases h
                | ok others =>
                    rw [hrest] at h
                    cases h
                    rw [List.map_cons, ih.mp hrest]
                    rfl
              · intro h
                obtain ⟨finding, others, rfl, hreason, hothers⟩ := List.map_eq_cons_iff.mp h
                have hfinding : finding = ⟨check.code, check.reference, hadmits⟩ :=
                  EvidenceFinding.reason_injective hreason
                rw [ih.mpr hothers, hfinding]
                rfl
          · next hrefused =>
              refine ⟨nofun, fun h => ?_⟩
              obtain ⟨finding, others, rfl, hreason, -⟩ := List.map_eq_cons_iff.mp h
              have hreference : finding.evidenceReference.val = check.reference :=
                congrArg Prod.snd hreason
              exact absurd (hreference ▸ finding.evidenceReference.property) hrefused
      · next hholds => rw [List.filter_cons_of_neg hholds, ih]

/-- Checks whose references are admitted where they fail are reported. -/
theorem report_isOk {checks : List (Check Code)}
    (h : ∀ check ∈ checks, check.failed = true → Admits check.reference) :
    ∃ findings : List (EvidenceFinding Code Admits), report refused checks = .ok findings := by
  induction checks with
  | nil => exact ⟨[], rfl⟩
  | cons check rest ih =>
      obtain ⟨findings, hfindings⟩ := ih fun c hc => h c (List.mem_cons_of_mem _ hc)
      rw [report]
      split
      · next hfailed =>
          rw [dif_pos (h check List.mem_cons_self hfailed), hfindings]
          exact ⟨_, rfl⟩
      · exact ⟨findings, hfindings⟩

end Report

section Reported

variable {checks : List (Check Code)} {findings : List (EvidenceFinding Code Admits)}
  (hreport : findings.map EvidenceFinding.reason = (checks.filter (·.failed)).map Check.reason)
include hreport

/-- Nothing is reported exactly when no check fails. -/
theorem reported_nil_iff : findings = [] ↔ Check.AllHold checks := by
  rw [← List.map_eq_nil_iff (f := EvidenceFinding.reason), hreport, List.map_eq_nil_iff,
    List.filter_eq_nil_iff]
  simp [Check.AllHold]

/-- A reported failure occurs once exactly when the failing checks are distinct. -/
theorem reported_nodup_iff : findings.Nodup ↔ Check.Distinct checks := by
  rw [← List.nodup_map_iff EvidenceFinding.reason_injective, hreport, List.Nodup,
    List.pairwise_map, List.pairwise_filter]
  rfl

variable {value : Code → String} (hvalue : Function.Injective value)
include hvalue

/-- **Sorted findings are strictly ordered** exactly when the failing checks are distinct. -/
theorem ordered_iff_distinct :
    (sortedBy (EvidenceFinding.key value) findings).Pairwise
        (fun f g => f.key value < g.key value) ↔ Check.Distinct checks := by
  rw [sortedBy_strict_iff _ (EvidenceFinding.key_injective hvalue), reported_nodup_iff hreport]

omit hvalue in
/-- **Distinct failures are listed once each.** -/
theorem lists_sortedBy (hdistinct : Check.Distinct checks) :
    Lists checks (sortedBy (EvidenceFinding.key value) findings) where
  once := (nodup_sortedBy _).mpr ((reported_nodup_iff hreport).mpr hdistinct)
  reasons reason := by
    have hmem : reason ∈ findings.map EvidenceFinding.reason ↔
        reason ∈ (checks.filter (·.failed)).map Check.reason := by rw [hreport]
    simp only [List.mem_map, mem_sortedBy, List.mem_filter, and_assoc] at hmem ⊢
    exact hmem

end Reported

/-! ## Assessors -/

/-- What an assessor does with its findings: it hands them sorted to a result, which is made
    exactly when the assessor is ready and the findings are strictly ordered, which is
    favourable when there is no finding, and which keeps the findings. -/
structure Finishes {Result : Type} (value : Code → String)
    (finish : List (EvidenceFinding Code Admits) → Except ε Result)
    (favourable : Result → Prop) (listed : Result → List (EvidenceFinding Code Admits))
    (Ready : Prop) : Prop where
  isOk_iff : ∀ findings, (∃ result, finish findings = .ok result) ↔
    Ready ∧ (sortedBy (EvidenceFinding.key value) findings).Pairwise
      (fun f g => f.key value < g.key value)
  favourable_iff : ∀ findings result, finish findings = .ok result →
    (favourable result ↔ findings = [])
  listed_eq : ∀ findings result, finish findings = .ok result →
    listed result = sortedBy (EvidenceFinding.key value) findings

/-- **An assessor that is ready returns what it should** exactly when no two failing checks
    report the same. -/
theorem Finishes.assessedExactly_iff [DecidablePred Admits] {Result : Type}
    {value : Code → String} {finish : List (EvidenceFinding Code Admits) → Except ε Result}
    {favourable : Result → Prop} {listed : Result → List (EvidenceFinding Code Admits)}
    {Ready : Prop} (h : Finishes value finish favourable listed Ready)
    (hvalue : Function.Injective value) (refused : PyText → ε) {checks : List (Check Code)}
    (hadmits : ∀ check ∈ checks, check.failed = true → Admits check.reference) :
    (∃ result, (report refused checks >>= finish) = .ok result ∧
        AssessedExactly checks (favourable result) (listed result)) ↔
      Ready ∧ Check.Distinct checks := by
  have hreports : ∃ findings : List (EvidenceFinding Code Admits),
      report refused checks = .ok findings := report_isOk refused hadmits
  obtain ⟨findings, hreport⟩ := hreports
  have hreported := (report_eq_ok refused).mp hreport
  rw [hreport, except_ok_bind]
  constructor
  · rintro ⟨result, hresult, -⟩
    obtain ⟨hready, hsorted⟩ := (h.isOk_iff findings).mp ⟨result, hresult⟩
    exact ⟨hready, (ordered_iff_distinct hreported hvalue).mp hsorted⟩
  · rintro ⟨hready, hdistinct⟩
    have hsorted := (ordered_iff_distinct hreported hvalue).mpr hdistinct
    obtain ⟨result, hresult⟩ := (h.isOk_iff findings).mpr ⟨hready, hsorted⟩
    refine ⟨result, hresult, (h.favourable_iff findings result hresult).trans
      (reported_nil_iff hreported), ?_⟩
    rw [h.listed_eq findings result hresult]
    exact lists_sortedBy hreported hdistinct

end Checks

end Eag.Foundation
