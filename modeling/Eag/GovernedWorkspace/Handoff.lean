/-
  Eag.GovernedWorkspace.Handoff

  What a successful handoff has called, whatever was answered: its handle has the descriptor
  that the opening of the workspace root returned, and its attestation was claimed, under
  the id of the request.
-/

import Eag.GovernedWorkspace.Gate

namespace Eag.GovernedWorkspace

open Eag.Foundation

variable {request : WorkspaceCustodyRequest} {mine : List Event}

/-- The call that opened a root, with the descriptor it returned. -/
def openedRoot (request : WorkspaceCustodyRequest) (root : Root) (descriptor : Descriptor) :
    Event :=
  ⟨.openRoot root (request.root root), .ok descriptor⟩

/-- Every entry of an opened dictionary is a descriptor that its root was opened on. -/
theorem openRoots_calls (roots : List Root) (descriptors : Descriptors)
    (hopened : ∀ entry ∈ descriptors, openedRoot request entry.1 entry.2 ∈ mine) :
    (openRoots request roots descriptors).Meets (fun _ _ => True)
      (fun later r => ∀ all : Descriptors, r = .ok (some all) → ∀ entry ∈ all,
        openedRoot request entry.1 entry.2 ∈ later) mine := by
  induction roots generalizing descriptors mine with
  | nil =>
      intro all hall
      obtain rfl := Option.some.inj (Except.ok.inj hall)
      exact hopened
  | cons root rest ih =>
      intro (reply : Except Raised Descriptor)
      refine ⟨trivial, ?_⟩
      cases reply with
      | ok descriptor =>
          refine ih (descriptors ++ [(root, descriptor)]) fun entry hentry => ?_
          rcases List.mem_append.mp hentry with hentry | hentry
          · exact List.mem_append_left _ (hopened entry hentry)
          · rw [List.mem_singleton.mp hentry]
            exact List.mem_append_right _ (List.mem_singleton.mpr rfl)
      | error error =>
          have hother : ∀ error : Raised, error ≠ .osError →
              (Prog.ret (.error error) : Calls (Except Raised (Option Descriptors))).Meets
                (fun _ _ => True) (fun later r => ∀ all : Descriptors, r = .ok (some all) →
                  ∀ entry ∈ all, openedRoot request entry.1 entry.2 ∈ later)
                (mine ++ [⟨.openRoot root (request.root root), .error error⟩]) :=
            fun _ _ all hall => nomatch hall
          cases error with
          | osError =>
              refine Prog.Meets.bind (p := closeAll (descriptors.map (·.2)))
                (Prog.meets_prefix _) ?_
              intro _ _ _ all hall
              cases hall
          | _ => exact hother _ (fun h => nomatch h)

/-- What a constructor returns is what its checks let pass. -/
theorem built_result {α : Type} (record : Record) (outcome : Except Raised α) :
    (built record outcome).run.Meets (fun _ _ => True)
      (fun _ r => ∀ a, r = .ok a → outcome = .ok a) mine := by
  cases outcome with
  | ok a =>
      intro reply
      refine ⟨trivial, ?_⟩
      cases reply with
      | ok _ => exact fun b hb => hb
      | error error => exact fun b hb => nomatch hb
  | error error =>
      intro reply
      refine ⟨trivial, ?_⟩
      cases reply with
      | ok _ => exact fun b hb => nomatch hb
      | error error => exact fun b hb => nomatch hb

theorem issueFromObservations_attestationId
    {workspace source audit control : WorkspaceCustodyFilesystemObjectIdentity}
    {occurredAt : DateTime} {attestation : WorkspaceCustodyAttestation}
    (h : WorkspaceCustodyAttestation.issueFromObservations request workspace source audit control
      occurredAt = .ok attestation) : attestation.attestationId = request.attestationId := by
  simp only [WorkspaceCustodyAttestation.issueFromObservations, except_bind_eq_ok] at h
  obtain ⟨occurred, -, w, -, s, -, a, -, c, -, hattestation⟩ := h
  rw [← Except.ok.inj hattestation]

/-- The issued evidence has the id of the request. -/
theorem issue_attestationId (occurredAt : DateTime) (descriptors : Descriptors) :
    (WorkspaceCustodyGate.issue request occurredAt descriptors).run.Meets (fun _ _ => True)
      (fun _ r => ∀ attestation, r = .ok attestation →
        attestation.attestationId = request.attestationId) mine := by
  refine Prog.meets_bind (x := ExceptT.mk (identitiesOf descriptors)) (Prog.meets_prefix _)
    (fun _ _ _ _ h => nomatch h) ?_
  intro later identities _
  split
  · refine Prog.meets_bind (built_result .attestation _) (fun _ _ _ _ h => nomatch h) ?_
    intro later2 attestation hattestation
    refine (built_result .admission (.ok attestation)).imp ?_
    intro _ r hr a ha
    rw [← Except.ok.inj (hr a ha)]
    exact issueFromObservations_attestationId (hattestation attestation rfl)
  · exact fun attestation h => nomatch h

/-- An admitted request was opened, and its evidence has its id. -/
theorem admitDescriptors_calls (gate : WorkspaceCustodyGate) (steps : Nat)
    (occurredAt : DateTime) :
    (gate.admitDescriptors steps request occurredAt).run.Meets (fun _ _ => True)
      (fun later r => ∀ attestation descriptors,
        r = .ok (.attested attestation, descriptors) →
        attestation.attestationId = request.attestationId ∧
        ∀ entry ∈ descriptors, openedRoot request entry.1 entry.2 ∈ later) mine := by
  refine Prog.meets_bind (Prog.meets_prefix _) (fun _ _ _ _ _ h => nomatch h) ?_
  intro later1 capable _
  cases capable with
  | false => exact fun _ _ h => nomatch h
  | true =>
      refine Prog.meets_bind (Prog.meets_prefix _) (fun _ _ _ _ _ h => nomatch h) ?_
      intro later2 controls _
      cases controls with
      | false => exact fun _ _ h => nomatch h
      | true =>
          refine Prog.meets_bind (x := ExceptT.mk (openDeclaredRoots request))
            (openRoots_calls Root.all [] fun _ h => nomatch h)
            (fun _ _ _ _ _ h => nomatch h) ?_
          intro later3 opened hopened
          cases opened with
          | none => exact fun _ _ h => nomatch h
          | some descriptors =>
              have hroots := hopened descriptors rfl
              refine Prog.meets_bind
                (x := ExceptT.mk (descriptorRejection steps request descriptors))
                (Prog.meets_prefix _) (fun _ _ _ _ _ h => nomatch h) ?_
              intro later4 rejection hlater4
              cases rejection with
              | some reason =>
                  refine Prog.Meets.bind (p := closeAll (descriptors.map (·.2)))
                    (Prog.meets_prefix _) ?_
                  intro _ _ _ attestation all h
                  cases h
              | none =>
                  refine Prog.meets_bind
                    ((issue_attestationId occurredAt descriptors).and (Prog.meets_prefix _))
                    (fun _ _ _ _ _ h => nomatch h) ?_
                  rintro later5 attestation ⟨hid, hlater5⟩ issued all hall
                  obtain ⟨hissued, rfl⟩ := Prod.ext_iff.mp (Except.ok.inj hall)
                  obtain rfl := WorkspaceCustodyAdmission.attested.inj hissued
                  exact ⟨hid attestation rfl, fun entry hentry =>
                    (hlater4.trans hlater5).subset (hroots entry hentry)⟩

/-- What a successful handoff has called. -/
def Handed (request : WorkspaceCustodyRequest) (calls : List Event)
    (result : Except Raised WorkspaceCustodyRootHandoff) : Prop :=
  ∀ attestation binding handle, result = .ok (.acquired attestation binding handle) →
    attestation.attestationId = request.attestationId ∧
    ⟨.claim attestation, .ok .claimed⟩ ∈ calls ∧
    openedRoot request .workspace handle.descriptor ∈ calls

/-- A claim that is not refused was answered `CLAIMED`. -/
theorem claim_calls (attestation : WorkspaceCustodyAttestation) :
    (claim attestation).Meets (fun _ _ => True)
      (fun later r => r = .ok none → ⟨.claim attestation, .ok .claimed⟩ ∈ later) mine := by
  intro reply
  refine ⟨trivial, ?_⟩
  cases reply with
  | ok disposition =>
      cases disposition with
      | claimed => exact fun _ => List.mem_append_right _ (List.mem_singleton.mpr rfl)
      | duplicate => exact fun h => nomatch h
      | conflict => exact fun h => nomatch h
  | error error =>
      cases error with
      | _ => exact fun h => nomatch h

theorem mem_of_lookup {descriptors : Descriptors} {root : Root} {descriptor : Descriptor}
    (h : descriptors.lookup root = some descriptor) : (root, descriptor) ∈ descriptors := by
  obtain ⟨before, after, rfl, -⟩ := List.lookup_eq_some_iff.mp h
  exact List.mem_append_right _ List.mem_cons_self

/-- An issued handle has the descriptor it is issued for. -/
theorem issueHandle_descriptor (occurredAt : DateTime)
    (attestation : WorkspaceCustodyAttestation) (workspace : Descriptor) :
    (issueHandle request occurredAt attestation workspace).run.Meets (fun _ _ => True)
      (fun _ r => ∀ binding handle, r = .ok (binding, handle) → handle.descriptor = workspace)
      mine := by
  refine Prog.meets_bind (x := ExceptT.mk (fromDescriptor .binding workspace))
    (Prog.meets_prefix _) (fun _ _ _ _ _ h => nomatch h) ?_
  intro later1 identity _
  refine Prog.meets_bind (Prog.meets_prefix _) (fun _ _ _ _ _ h => nomatch h) ?_
  intro later2 binding _
  refine Prog.meets_bind (built_result .handle _) (fun _ _ _ _ _ h => nomatch h) ?_
  intro later3 handle hhandle binding' handle' hr
  obtain ⟨-, rfl⟩ := Prod.ext_iff.mp (Except.ok.inj hr)
  rw [← Except.ok.inj (hhandle handle rfl)]

/-- **A successful handoff.** -/
theorem handoff_calls (gate : WorkspaceCustodyGate) (steps : Nat) :
    (gate.attestAndAcquireRootHandoff steps request).run.Meets (fun _ _ => True)
      (Handed request) mine := by
  refine Prog.meets_bind (Prog.meets_prefix _) (fun _ _ _ _ _ _ h => nomatch h) ?_
  intro later1 capable _
  cases capable with
  | false => exact fun _ _ _ h => nomatch h
  | true =>
      refine Prog.meets_bind (Prog.meets_prefix _) (fun _ _ _ _ _ _ h => nomatch h) ?_
      intro later2 occurredAt _
      refine Prog.meets_bind (admitDescriptors_calls gate steps occurredAt.val)
        (fun _ _ _ _ _ _ h => nomatch h) ?_
      rintro later3 ⟨admission, descriptors⟩ hadmitted
      refine Prog.Meets.bind (R := fun later r => Handed request later r.1) ?_ ?_
      · cases admission with
        | rejected reason => exact fun _ _ _ h => nomatch h
        | attested attestation =>
            obtain ⟨hid, hroots⟩ := hadmitted attestation descriptors rfl
            unfold acquire
            cases hlookup : descriptors.lookup Root.workspace with
            | none => exact fun _ _ _ h => nomatch h
            | some workspace =>
              have hworkspace : openedRoot request .workspace workspace ∈ later3 :=
                hroots (.workspace, workspace) (mem_of_lookup hlookup)
              refine Prog.Meets.bind ((claim_calls attestation).and (Prog.meets_prefix _)) ?_
              rintro later4 claimed ⟨hclaimed, hlater4⟩
              cases claimed with
              | error error => exact fun _ _ _ h => nomatch h
              | ok refused =>
                  cases refused with
                  | some reason => exact fun _ _ _ h => nomatch h
                  | none =>
                      have hclaim := hclaimed rfl
                      refine Prog.Meets.bind
                        ((issueHandle_descriptor occurredAt.val attestation workspace).and
                          (Prog.meets_prefix _)) ?_
                      rintro later5 issued ⟨hissued, hlater5⟩
                      cases issued with
                      | error error => exact fun _ _ _ h => nomatch h
                      | ok issued =>
                          obtain ⟨binding, handle⟩ := issued
                          have hhandle := hissued binding handle rfl
                          refine Prog.Meets.bind
                            ((built_result .handoff
                              (.ok (WorkspaceCustodyRootHandoff.acquired attestation binding
                                handle))).and (Prog.meets_prefix _)) ?_
                          rintro later6 handoff ⟨hhandoff, hlater6⟩ a b h heq
                          obtain ⟨rfl, rfl, rfl⟩ := WorkspaceCustodyRootHandoff.acquired.inj
                            (Except.ok.inj (hhandoff _ heq))
                          rw [hhandle]
                          exact ⟨hid, (hlater5.trans hlater6).subset hclaim,
                            (hlater4.trans (hlater5.trans hlater6)).subset hworkspace⟩
      · intro later4 r hr
        refine Prog.Meets.bind (Prog.meets_prefix _) ?_
        intro later5 _ hlater5 attestation binding handle hresult
        obtain ⟨hid, hclaim, hopen⟩ := hr attestation binding handle hresult
        exact ⟨hid, hlater5.subset hclaim, hlater5.subset hopen⟩

end Eag.GovernedWorkspace
