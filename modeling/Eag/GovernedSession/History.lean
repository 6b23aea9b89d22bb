/-
  Eag.GovernedSession.History

  What the history of ledger operations in a run says, whoever issued them: a
  path is claimed successfully at most once, and a record that a read returns was
  written by an earlier claim.
-/

import Eag.GovernedSession.Ledger

namespace Eag.GovernedSession

open Eag.Foundation

variable {ι : Type}

/-- An operation with its answer. -/
abbrev LedgerEntry := Sigma SessionOp.Reply

/-- The claim of a record, with its answer. -/
def claimEntry (record : DurableReplayLedgerRecord)
    (reply : Except WriteOnce.Failure ReplayLedgerClaim) : LedgerEntry := ⟨.claim record, reply⟩

theorem claimEntry_inj {record other : DurableReplayLedgerRecord}
    {reply reply' : Except WriteOnce.Failure ReplayLedgerClaim}
    (h : claimEntry record reply = claimEntry other reply') : record = other ∧ reply = reply' := by
  cases h; exact ⟨rfl, rfl⟩

/-- The read of a path, with its answer. -/
def readEntry (kind : ReplayLedgerEntryKind) (identityKey : String)
    (reply : Except WriteOnce.Failure (Option DurableReplayLedgerRecord)) : LedgerEntry :=
  ⟨.read kind identityKey, reply⟩

/-- `record` was written by a claim in `h`: one that succeeded, or one whose final
    flush was reported as failed after the record was complete. -/
def Written (h : List (ι × LedgerEntry)) (record : DurableReplayLedgerRecord) : Prop :=
  ∃ i reply, (i, claimEntry record reply) ∈ h ∧
    (reply = .ok .claimed ∨ reply = .error .unavailable)

theorem Written.append {h : List (ι × LedgerEntry)} {record : DurableReplayLedgerRecord}
    (hw : Written h record) (k : List (ι × LedgerEntry)) : Written (h ++ k) record := by
  obtain ⟨i, reply, hm, hr⟩ := hw
  exact ⟨i, reply, List.mem_append_left k hm, hr⟩

/-- What an entry says about the entries before it. -/
structure Ordered (before : List (ι × LedgerEntry)) (e : ι × LedgerEntry) : Prop where
  /-- A successful claim is the first one of its path. -/
  first : ∀ record, e.2 = claimEntry record (.ok .claimed) →
    ∀ j other, (j, claimEntry other (.ok .claimed)) ∈ before → other.path ≠ record.path
  /-- A record that is read was written before. -/
  readBack : ∀ kind identityKey record,
    e.2 = readEntry kind identityKey (.ok (some record)) → Written before record

/-- The ledger and the history of the operations that led to it. -/
structure LedgerHistory (ledger : ReplayLedger) (h : List (ι × LedgerEntry)) : Prop where
  standing : ∀ i record, (i, claimEntry record (.ok .claimed)) ∈ h →
    ledger record.path ≠ none
  written : ∀ path record, ledger path = some (.whole record) → Written h record
  ordered : AtEach Ordered h

theorem ledgerHistory_empty : LedgerHistory (fun _ => none) ([] : List (ι × LedgerEntry)) where
  standing := by simp
  written := by simp
  ordered := atEach_nil _

/-- **One operation keeps the ledger and the history in step.** -/
theorem LedgerHistory.snoc {ledger : ReplayLedger} {h : List (ι × LedgerEntry)}
    (hl : LedgerHistory ledger h) (i : ι) (env : SessionEnv) (op : SessionOp) :
    LedgerHistory (performOp ledger env op).1 (h ++ [(i, ⟨op, (performOp ledger env op).2⟩)]) := by
  have hext := extends_performOp ledger env op
  have hkeep : ∀ path, ledger path ≠ none → (performOp ledger env op).1 path ≠ none := by
    intro path hne
    obtain ⟨slot, hslot⟩ := Option.ne_none_iff_exists'.mp hne
    rw [hext path slot hslot]
    exact Option.some_ne_none _
  constructor
  · -- standing
    intro j record hm
    rcases List.mem_append.mp hm with hm | hm
    · exact hkeep _ (hl.standing j record hm)
    · simp only [List.mem_singleton, Prod.mk.injEq, claimEntry] at hm
      obtain ⟨-, he⟩ := hm
      cases op with
      | claim r =>
          simp only [Sigma.mk.injEq, SessionOp.claim.injEq] at he
          obtain ⟨rfl, hreply⟩ := he
          rw [performOp, (claimRecord_claimed (eq_of_heq hreply).symm).2]
          exact Option.some_ne_none _
      | read kind identityKey => cases he
      | execute request => cases he
  · -- written
    intro path record hslot
    cases op with
    | claim r =>
        rcases claimRecord_slot hslot with hold | ⟨rfl, -, hreply⟩
        · exact (hl.written path record hold).append _
        · exact ⟨i, _, List.mem_append_right _ (List.mem_singleton.mpr rfl), hreply⟩
    | read kind identityKey => exact (hl.written path record hslot).append _
    | execute request => exact (hl.written path record hslot).append _
  · -- ordered
    refine hl.ordered.snoc ⟨?_, ?_⟩
    · intro record he j other hm hpath
      cases op with
      | claim r =>
          simp only [claimEntry, Sigma.mk.injEq, SessionOp.claim.injEq] at he
          obtain ⟨rfl, hreply⟩ := he
          have hfree := (claimRecord_claimed (eq_of_heq hreply)).1
          exact hl.standing j other hm (hpath ▸ hfree)
      | read kind identityKey => cases he
      | execute request => cases he
    · intro kind identityKey record he
      cases op with
      | claim r => cases he
      | read kind' key' =>
          simp only [readEntry, Sigma.mk.injEq, SessionOp.read.injEq] at he
          obtain ⟨⟨rfl, rfl⟩, hreply⟩ := he
          exact hl.written _ record (WriteOnce.read_eq_ok_some (eq_of_heq hreply)).1
      | execute request => cases he

/-- **Every run's ledger and history agree.** -/
theorem ledgerHistory_run [DecidableEq ι] {α : Type} (progs : ι → SessionProg α)
    (schedule : List (ι × SessionEnv)) :
    let final := (Config.start (fun _ => none) progs).run performOp schedule
    LedgerHistory final.shared final.history :=
  Config.run_shared performOp (P := LedgerHistory) ledgerHistory_empty progs
    (fun _ _ i env op hl => hl.snoc i env op) schedule

/-- Two successful claims of one path are the same call's. -/
theorem LedgerHistory.claimed_unique {ledger : ReplayLedger} {h : List (ι × LedgerEntry)}
    (hl : LedgerHistory ledger h) {i j : ι} {record other : DurableReplayLedgerRecord}
    (hi : (i, claimEntry record (.ok .claimed)) ∈ h)
    (hj : (j, claimEntry other (.ok .claimed)) ∈ h) (hpath : other.path = record.path) :
    i = j := by
  obtain ⟨before, after, rfl⟩ := List.append_of_mem hi
  rcases List.mem_append.mp hj with hb | ha
  · exact absurd hpath ((hl.ordered _ _ _ rfl).first record rfl j other hb)
  · rcases List.mem_cons.mp ha with heq | ha
    · exact (Prod.mk.inj heq).1.symm
    · obtain ⟨mid, rest, rfl⟩ := List.append_of_mem ha
      have hlater := (hl.ordered (before ++ (i, claimEntry record (.ok .claimed)) :: mid)
        (j, claimEntry other (.ok .claimed)) rest (by simp)).first other rfl i record (by simp)
      exact absurd hpath.symm hlater

end Eag.GovernedSession
