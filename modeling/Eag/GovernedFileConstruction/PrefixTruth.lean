/-
  Eag.GovernedFileConstruction.PrefixTruth

  What `construct` promises of every run: a receipt whose action receipts are a prefix of
  the plan, files that hold the planned bytes, a disposition that agrees with both, and
  nothing changed that existed or stands outside the workspace (`PrefixTruthful`).

  It keeps the promise exactly when no `close` fails and no name with a NUL is handed to
  the system: a failing `close` raises out of a `finally`, and a NUL makes the system call
  raise `ValueError`, which `except OSError` does not catch.
-/

import Eag.GovernedFileConstruction.FileCreation

namespace Eag.GovernedFileConstruction

open Eag.Foundation
open Prog (Ensures)

/-! ## The promise -/

/-- What a receipt says is what happened. -/
structure Truthful (root : Path) (authorization : ConstructionAuthorizationRequest)
    (before after : Nodes) (receipt : ConstructionBatchReceipt) : Prop where
  /-- The receipted files are a prefix of the plan, each holds the planned bytes. -/
  receipted : ∃ count, receipt.actionReceipts =
      (authorization.plan.actions.take count).map (·.receipt authorization.timestamp) ∧
    ∀ action ∈ authorization.plan.actions.take count,
      after (root ++ action.parts) = some (.file (utf8Bytes action.content))
  refused : receipt.disposition = .constructionRefused → after = before
  created : receipt.disposition = .constructionFilesCreated →
    receipt.actionReceipts.length = authorization.plan.actions.length
  /-- Nothing that existed is modified, nothing is created outside the root or through a
      link. -/
  confined : Grows root before after

/-- A receipt is returned, and it is truthful. -/
def PrefixTruthful (root : Path) (authorization : ConstructionAuthorizationRequest)
    (before after : Nodes) (result : Except ConstructError ConstructionBatchReceipt) : Prop :=
  ∃ receipt, result = .ok receipt ∧ Truthful root authorization before after receipt

/-! ## The batch -/

/-- The receipts of the first files of a plan. -/
def leadReceipts (authorization : ConstructionAuthorizationRequest)
    (actions : List ConstructionFileAction) : List ConstructionActionReceipt :=
  actions.map (·.receipt authorization.timestamp)

/-- Any lead of the plan passes the check of the sequences. -/
theorem leadReceipts_contiguous (authorization : ConstructionAuthorizationRequest)
    {lead rest : List ConstructionFileAction} (h : authorization.plan.actions = lead ++ rest) :
    (leadReceipts authorization lead).map (·.sequence) =
      List.range' 1 (leadReceipts authorization lead).length := by
  have hcontiguous := authorization.plan.contiguous
  rw [h, List.map_append, List.length_append, ← List.range'_append_1] at hcontiguous
  obtain ⟨hlead, -⟩ := List.append_inj hcontiguous (by rw [List.length_map, List.length_range'])
  rw [leadReceipts, List.map_map, List.length_map]
  exact hlead

/-- **The receipt of a batch is always built.** -/
theorem batchReceipt_ok (authorization : ConstructionAuthorizationRequest)
    {disposition : ConstructionBatchDisposition} {lead rest : List ConstructionFileAction}
    {firstFailure : Option ConstructionFindingCode}
    (hlead : authorization.plan.actions = lead ++ rest)
    (hcreated : disposition = .constructionFilesCreated → firstFailure = none)
    (hrefused : disposition = .constructionRefused →
      leadReceipts authorization lead = [] ∧ firstFailure ≠ none)
    (hpart : disposition = .partialConstructionStopped → firstFailure ≠ none) :
    ∃ receipt, batchReceipt authorization disposition (leadReceipts authorization lead)
        firstFailure = .ok receipt ∧ receipt.disposition = disposition ∧
      receipt.actionReceipts = leadReceipts authorization lead := by
  have hcontiguous := leadReceipts_contiguous authorization hlead
  refine ⟨⟨disposition, authorization.binding, leadReceipts authorization lead,
    authorization.timestamp, firstFailure, hcontiguous, hcreated, hrefused, hpart⟩,
    ?_, rfl, rfl⟩
  rw [batchReceipt, ConstructionBatchReceipt.build_ok authorization.binding_check hcontiguous
    authorization.timestamp_utc hcreated hrefused hpart]
  rfl

/-- How a run of the batch ends. -/
def Settled (root : Path) (authorization : ConstructionAuthorizationRequest) (before : Nodes)
    (k : Kernel) (calls : List Event)
    (result : Except ConstructError ConstructionBatchReceipt) : Prop :=
  Grows root before k.node ∧ (Clean calls ↔ ∃ receipt, result = .ok receipt) ∧
    ∀ receipt, result = .ok receipt → Truthful root authorization before k.node receipt

/-- **The loop over the plan**, after a lead of it. -/
theorem constructActions_spec (authorization : ConstructionAuthorizationRequest) (root : Path)
    {before : Nodes} {lead rest : List ConstructionFileAction}
    (hplan : authorization.plan.actions = lead ++ rest) {k : Kernel} {mine : List Event}
    (hmine : Clean mine) (hgrows : Grows root before k.node)
    (hsame : lead = [] → k.node = before)
    (hfiles : ∀ action ∈ lead,
      k.node (root ++ action.parts) = some (.file (utf8Bytes action.content))) :
    Ensures Kernel.perform (Settled root authorization before) k mine
      (constructActions authorization root rest (leadReceipts authorization lead)) := by
  induction rest generalizing lead k mine with
  | nil =>
      obtain ⟨receipt, hreceipt, hdisposition, hreceipts⟩ :=
        @batchReceipt_ok authorization .constructionFilesCreated lead [] none hplan
          (fun _ => rfl) (fun h => nomatch h) (fun h => nomatch h)
      refine ⟨hgrows, iff_of_true hmine ⟨receipt, hreceipt⟩, fun receipt' h => ?_⟩
      obtain rfl : receipt = receipt' := Except.ok.inj (hreceipt.symm.trans h)
      have hall : authorization.plan.actions = lead := by rw [hplan, List.append_nil]
      have htake : authorization.plan.actions.take lead.length = lead := by
        rw [hall, List.take_length]
      refine ⟨⟨lead.length, ?_, ?_⟩, ?_, fun _ => ?_, hgrows⟩
      · rw [htake]
        exact hreceipts
      · rw [htake]
        exact hfiles
      · rw [hdisposition]
        exact fun h => nomatch h
      · rw [hreceipts, leadReceipts, List.length_map, hall]
  | cons action rest ih =>
      have hnames : ∀ part ∈ action.parts, IsEntryName part :=
        fun part hpart => action.relativePath_normalized.isEntryName hpart
      refine (createOneFile_spec root (PyText.split_ne_nil _ _) hnames
        (utf8Bytes action.content) action.contentDigest hmine).bind ?_
      rintro k1 later ending ⟨hgrows1, hclean, hcreated, hwithout⟩
      have hgrown : Grows root before k1.node := hgrows.trans hgrows1
      have hkept : ∀ action ∈ lead,
          k1.node (root ++ action.parts) = some (.file (utf8Bytes action.content)) :=
        fun action haction => hgrows1.kept _ _ (hfiles action haction)
      cases ending with
      | error error =>
          refine ⟨hgrown, ?_, fun _ h => nomatch h⟩
          rw [hclean]
          exact iff_of_false (fun ⟨_, h⟩ => nomatch h) fun ⟨_, h⟩ => nomatch h
      | ok returned =>
          have hlater : Clean later := hclean.mpr ⟨_, rfl⟩
          cases returned with
          | some attempt =>
              -- stopped: refused only when nothing was receipted and nothing changed
              have htake : authorization.plan.actions.take lead.length = lead := by
                rw [hplan, List.take_left]
              show Settled _ _ _ k1 later _
              cases hpartly : decide (leadReceipts authorization lead ≠ []) ||
                  attempt.effectStarted with
              | true =>
                  obtain ⟨receipt, hreceipt, hdisposition, hreceipts⟩ :=
                    @batchReceipt_ok authorization .partialConstructionStopped lead
                      (action :: rest) (some attempt.finding) hplan
                      (fun h => nomatch h) (fun h => nomatch h) (fun _ h => nomatch h)
                  refine ⟨hgrown, iff_of_true hlater ⟨receipt, hreceipt⟩, fun receipt' h => ?_⟩
                  obtain rfl : receipt = receipt' := Except.ok.inj (hreceipt.symm.trans h)
                  refine ⟨⟨lead.length, by rw [htake]; exact hreceipts, by rw [htake]; exact hkept⟩,
                    ?_, ?_, hgrown⟩
                  · rw [hdisposition]
                    exact fun h => nomatch h
                  · rw [hdisposition]
                    exact fun h => nomatch h
              | false =>
                  obtain ⟨hempty, heffect⟩ := Bool.or_eq_false_iff.mp hpartly
                  have hempty' : leadReceipts authorization lead = [] :=
                    not_not.mp (of_decide_eq_false hempty)
                  have hlead : lead = [] := List.map_eq_nil_iff.mp hempty'
                  obtain ⟨receipt, hreceipt, hdisposition, hreceipts⟩ :=
                    @batchReceipt_ok authorization .constructionRefused lead
                      (action :: rest) (some attempt.finding) hplan
                      (fun h => nomatch h) (fun _ => ⟨hempty', fun h => nomatch h⟩)
                      (fun h => nomatch h)
                  refine ⟨hgrown, iff_of_true hlater ⟨receipt, hreceipt⟩, fun receipt' h => ?_⟩
                  obtain rfl : receipt = receipt' := Except.ok.inj (hreceipt.symm.trans h)
                  refine ⟨⟨lead.length, by rw [htake]; exact hreceipts, by rw [htake]; exact hkept⟩,
                    fun _ => ?_, ?_, hgrown⟩
                  · rw [(hwithout attempt rfl heffect).2]
                    exact hsame hlead
                  · rw [hdisposition]
                    exact fun h => nomatch h
          | none =>
              -- receipted: one more file of the lead
              have hnext : authorization.plan.actions = (lead ++ [action]) ++ rest := by
                rw [hplan, List.append_assoc, List.singleton_append]
              have hreceipts : leadReceipts authorization lead ++
                  [action.receipt authorization.timestamp] =
                    leadReceipts authorization (lead ++ [action]) := by
                rw [leadReceipts, leadReceipts, List.map_append]
                rfl
              dsimp only
              rw [action.receipt_build authorization.timestamp_utc]
              show Ensures _ _ k1 later (constructActions authorization root rest
                (leadReceipts authorization lead ++ [action.receipt authorization.timestamp]))
              rw [hreceipts]
              refine ih hnext hlater hgrown (fun h => absurd h (by simp)) ?_
              intro other hother
              rcases List.mem_append.mp hother with hother | hother
              · exact hkept other hother
              · obtain rfl := List.mem_singleton.mp hother
                exact hcreated rfl

/-! ## The whole call -/

theorem decision_build_ok (authorization : ConstructionAuthorizationRequest)
    {disposition : ConstructionAuthorizationDisposition}
    {findings : List (Finding ConstructionFindingCode)}
    (hordered : Finding.Ordered ConstructionFindingCode.value findings)
    (hattested : disposition = .attested → findings = [])
    (hrefused : disposition = .refused → findings ≠ []) :
    ∃ decision, ConstructionAuthorizationDecision.build disposition findings
      authorization.binding = .ok decision := by
  simp only [ConstructionAuthorizationDecision.build, ensure_of hordered,
    authorization.binding_check, ensure_of hattested, ensure_of hrefused, except_ok_bind]
  exact ⟨_, rfl⟩

theorem refusal_ok (authorization : ConstructionAuthorizationRequest)
    (code : ConstructionFindingCode) {evidenceReference : String}
    (href : NonBlank evidenceReference) :
    ∃ decision, refusal authorization code evidenceReference = .ok decision := by
  simp only [refusal, requireIdentifier, ensure_of href, except_ok_bind]
  exact decision_build_ok authorization (List.pairwise_singleton _ _) (fun h => by cases h)
    (fun _ => List.cons_ne_nil _ _)

theorem ite_ok {ε α : Type} {c : Prop} [Decidable c] {x y : Except ε α}
    (hx : ∃ a, x = .ok a) (hy : ∃ a, y = .ok a) : ∃ a, (if c then x else y) = .ok a := by
  split
  · exact hx
  · exact hy

/-- **The authorization is always decided.** -/
theorem authorize_ok (calculate : UpstreamDigests)
    (authorization : ConstructionAuthorizationRequest) (handle : WorkspaceCustodyRootHandle) :
    ∃ decision, authorize calculate authorization handle = .ok decision := by
  unfold authorize
  dsimp only
  have refused : ∀ (c : Char) (cs : List Char) code, isSpace c = false →
      ∃ decision, refusal authorization code (String.ofList (c :: cs)) = .ok decision :=
    fun c cs code h => refusal_ok authorization code (nonBlank_of_head c cs h)
  -- the checks in order
  refine ite_ok (refused 'e' _ _ (by decide)) ?_
  refine ite_ok (refused 'a' _ _ (by decide)) ?_
  refine ite_ok (refused 'a' _ _ (by decide)) ?_
  refine ite_ok (refused 'a' _ _ (by decide)) ?_
  refine ite_ok (refused 'a' _ _ (by decide)) ?_
  refine ite_ok (refused 'a' _ _ (by decide)) ?_
  refine ite_ok (refused 'p' _ _ (by decide)) ?_
  refine ite_ok (refused 'w' _ _ (by decide)) ?_
  refine ite_ok (refused 'r' _ _ (by decide)) ?_
  refine ite_ok (refused 'a' _ _ (by decide)) ?_
  refine ite_ok (refused 'h' _ _ (by decide)) ?_
  exact decision_build_ok authorization List.Pairwise.nil (fun _ => rfl) (fun h => nomatch h)

/-- A refusal before the first file changes nothing. -/
theorem refusedBatch_spec (authorization : ConstructionAuthorizationRequest) (root : Path)
    (finding : ConstructionFindingCode) {k : Kernel} {mine : List Event} (hmine : Clean mine) :
    Settled root authorization k.node k mine (refusedBatch authorization finding) := by
  obtain ⟨receipt, hreceipt, hdisposition, hreceipts⟩ :=
    @batchReceipt_ok authorization .constructionRefused [] _ (some finding) rfl
      (fun h => nomatch h) (fun _ => ⟨rfl, fun h => nomatch h⟩) (fun h => nomatch h)
  refine ⟨Grows.refl _ _, iff_of_true hmine ⟨receipt, hreceipt⟩, fun receipt' h => ?_⟩
  obtain rfl : receipt = receipt' := Except.ok.inj (hreceipt.symm.trans h)
  refine ⟨⟨0, hreceipts, fun _ h => absurd h List.not_mem_nil⟩, fun _ => rfl, ?_, Grows.refl _ _⟩
  rw [hdisposition]
  exact fun h => nomatch h

namespace BoundedWorkspaceFileConstructor

variable (constructor : BoundedWorkspaceFileConstructor) (calculate : UpstreamDigests)
  (authorization : ConstructionAuthorizationRequest) (handle : WorkspaceCustodyRootHandle)

theorem consume_descriptor {binding : WorkspaceCustodyRootBinding} {root : Path}
    (h : handle.consume binding = .ok root) : root = handle.descriptor := by
  simp only [WorkspaceCustodyRootHandle.consume, except_bind_eq_ok, require_eq_ok,
    except_pure_eq_ok] at h
  obtain ⟨_, -, _, -, _, -, _, -, _, -, h⟩ := h
  exact h.symm

theorem constructBody_spec {k : Kernel} {mine : List Event} (hmine : Clean mine) :
    Ensures Kernel.perform (Settled handle.descriptor authorization k.node) k mine
      (constructor.constructBody calculate authorization handle) := by
  obtain ⟨decision, hdecision⟩ := authorize_ok calculate authorization handle
  unfold constructBody
  rw [hdecision]
  dsimp only
  have hrefused := fun code => refusedBatch_spec authorization handle.descriptor code hmine (k := k)
  split
  · exact hrefused _
  · rename_i hdisposition hfindings
    exact absurd hfindings (decision.refused_found hdisposition)
  · split
    · exact hrefused _
    · split
      · exact hrefused _
      · rename_i root hroot
        obtain rfl := consume_descriptor handle hroot
        exact constructActions_spec authorization handle.descriptor (List.nil_append _).symm hmine
          (Grows.refl _ _) (fun _ => rfl) fun _ h => absurd h List.not_mem_nil

/-- **Every run.** It keeps what existed, and it ends with a truthful receipt exactly when
    its calls were harmless. -/
theorem construct_spec {k : Kernel} {mine : List Event} (hmine : Clean mine) :
    Ensures Kernel.perform (Settled handle.descriptor authorization k.node) k mine
      (constructor.construct calculate authorization handle) := by
  refine (constructBody_spec constructor calculate authorization handle hmine).bind ?_
  rintro k1 later result ⟨hgrows, hclean, htruthful⟩
  unfold WorkspaceCustodyRootHandle.close
  split
  · exact ⟨hgrows, hclean, htruthful⟩
  · intro env
    obtain ⟨hnode, -⟩ := @perform_plain (.closeRoot handle.descriptor) rfl
      (fun _ _ h => nomatch h) k1 env
    have hharmless := fun reply => @harmless_of_isPlain (.closeRoot handle.descriptor) rfl reply
    refine ⟨by rw [hnode]; exact hgrows, ?_, fun receipt h => ?_⟩
    · rw [← hclean, clean_snoc]
      exact and_iff_left (hharmless _)
    · rw [hnode]
      exact htruthful receipt h

/-- **Construction is prefix-truthful exactly when no `close` fails and no name has a NUL.** -/
theorem prefixTruthful_iff (before : Kernel) (envs : Nat → Injection) :
    let run := (constructor.construct calculate authorization handle).play Kernel.perform
      before envs
    PrefixTruthful handle.descriptor authorization before.node run.shared.node run.value ↔
      ∀ e ∈ run.trace, Harmless e := by
  intro run
  obtain ⟨-, hclean, htruthful⟩ := (construct_spec constructor calculate authorization handle
    (fun _ h => absurd h List.not_mem_nil : Clean [])).play envs
  constructor
  · rintro ⟨receipt, hreceipt, -⟩
    exact hclean.mpr ⟨receipt, hreceipt⟩
  · intro hharmless
    obtain ⟨receipt, hreceipt⟩ := hclean.mp hharmless
    exact ⟨receipt, hreceipt, htruthful receipt hreceipt⟩

/-! ## A plan with a NUL in a path -/

/-- A file whose path the constructors accept. -/
def nulAction : ConstructionFileAction where
  sequence := 1
  relativePath := "a\x00b"
  content := ""
  sequence_pos := Nat.one_pos
  relativePath_normalized := ⟨by decide, by decide, by decide, by decide⟩

def nulPlan : ConstructionActionPlan where
  actions := [nulAction]
  actions_ne_nil := List.cons_ne_nil _ _
  contiguous := rfl
  paths_unique := List.nodup_singleton _
  depth_le := by
    intro action haction
    rw [List.mem_singleton.mp haction]
    decide

/-- The digest of all upstream evidence here. -/
def upstreamDigest : String := sha256Hex ""

/-- The custody attestation of a workspace. -/
def workspaceAttestation : WorkspaceCustodyAttestation where
  attestationId := "attestation"
  custodyRequestId := "request"
  custodyRequestDigest := upstreamDigest
  executionId := "execution"
  runId := "run"
  workspaceId := "workspace"
  workspaceRootIdentity := upstreamDigest
  sourceRepositoryIdentity := upstreamDigest
  auditRootIdentity := upstreamDigest
  controlRootIdentity := upstreamDigest
  workspaceObjectIdentity := ⟨"1", "2"⟩
  sourceRepositoryObjectIdentity := ⟨"1", "3"⟩
  auditRootObjectIdentity := ⟨"1", "4"⟩
  controlRootObjectIdentity := ⟨"1", "5"⟩
  custodyPolicyDigest := upstreamDigest
  isolationBindingDigest := upstreamDigest
  occurredAt := ⟨0, some 0⟩
  bindingDigest := upstreamDigest
  bindingDigest_isDigest := isDigest_sha256Hex _

/-- Evidence that attests a plan. -/
def attestedRequest (plan : ConstructionActionPlan) : ConstructionAuthorizationRequest where
  authorizationId := "authorization"
  authorizationId_nonBlank := nonBlank_of_head 'a' _ (by decide)
  assessmentRequest :=
    { assessmentRequestId := "assessment-request"
      workspaceCustodyAttestation := workspaceAttestation
      workOrder :=
        { workOrderId := "work-order"
          executionId := "execution"
          runId := "run"
          workspaceId := "workspace"
          workspaceRootIdentity := upstreamDigest
          workspaceCustodyAttestationId := "attestation"
          workspaceCustodyBindingDigest := upstreamDigest
          actionPlanDigest := plan.planDigest
          maxFileActions := plan.fileCount
          maxTotalBytes := plan.totalBytes
          maxCommandActions := 0
          expiresAt := ⟨1, some 0⟩
          expiresAt_utc := rfl
          workOrderDigest := upstreamDigest
          workOrderDigest_isDigest := isDigest_sha256Hex _ }
      requestDigest := upstreamDigest }
  assessment :=
    { assessmentId := "assessment"
      assessedRequestId := "assessment-request"
      assessedRequestDigest := upstreamDigest
      workspaceId := "workspace"
      workOrderId := some "work-order"
      disposition := .constructionWorkOrderAttested
      assessmentDigest := upstreamDigest
      assessmentDigest_isDigest := isDigest_sha256Hex _
      schemaVersion := "g2.4.21.construction-work-order-assessment.v2" }
  custodyRequest :=
    ⟨"request", "execution", "run", "workspace", upstreamDigest, upstreamDigest⟩
  custodyAttestation := workspaceAttestation
  custodyRootBinding :=
    ⟨"binding", "request", upstreamDigest, "attestation", upstreamDigest, ⟨"1", "2"⟩,
      upstreamDigest, isDigest_sha256Hex _⟩
  plan := plan
  timestamp := ⟨0, some 0⟩
  timestamp_utc := rfl

/-- A live handle of the directory at the root of the file system. -/
def liveHandle : WorkspaceCustodyRootHandle := ⟨[], upstreamDigest, false, true, false, true⟩

/-- The digests of the evidence above. -/
def upstreamDigests : UpstreamDigests :=
  ⟨fun _ => upstreamDigest, fun _ => upstreamDigest, fun _ => upstreamDigest,
    fun _ => upstreamDigest, fun _ => upstreamDigest⟩

theorem upstreamDigest_ne_empty : upstreamDigest ≠ "" := by
  intro h
  have hlength := (isDigest_sha256Hex "").1
  rw [show sha256Hex "" = "" from h] at hlength
  cases hlength

theorem authorize_attestedRequest (plan : ConstructionActionPlan) :
    ∃ decision, authorize upstreamDigests (attestedRequest plan) liveHandle = .ok decision ∧
      decision.disposition = .attested := by
  have hself : immutableEvidenceIsSelfValidating upstreamDigests (attestedRequest plan) = true := by
    simp [immutableEvidenceIsSelfValidating, attestedRequest, upstreamDigests,
      workspaceAttestation, ConstructionAuthorizationRequest.authorizationDigest,
      ConstructionActionPlan.planDigest]
  have hbuild : ConstructionAuthorizationDecision.build .attested []
      (attestedRequest plan).binding =
        .ok ⟨.attested, [], (attestedRequest plan).binding, List.Pairwise.nil, fun _ => rfl,
          fun h => nomatch h⟩ := by
    simp only [ConstructionAuthorizationDecision.build, (attestedRequest plan).binding_check,
      except_ok_bind, ensure_of List.Pairwise.nil]
    rfl
  refine ⟨_, Eq.trans ?_ hbuild, rfl⟩
  unfold authorize
  simp only [hself]
  simp [attestedRequest, workspaceAttestation, liveHandle, upstreamDigest_ne_empty,
    DateTime.instant]

theorem consume_liveHandle (plan : ConstructionActionPlan) :
    liveHandle.consume (attestedRequest plan).custodyRootBinding = .ok [] := by
  have hbinding : (attestedRequest plan).custodyRootBinding.bindingDigest =
      liveHandle.bindingDigest := rfl
  simp only [WorkspaceCustodyRootHandle.consume, require_of _ _ hbinding]
  rfl

/-- **A NUL in a planned path lets `ValueError` escape.** -/
theorem not_prefixTruthful_nul :
    let run := (BoundedWorkspaceFileConstructor.init ⟨true, true, true, true, true, true⟩
      none).construct upstreamDigests (attestedRequest nulPlan) liveHandle |>.play Kernel.perform
        ⟨fun path => if path = [] then some .directory else none, fun _ => 0⟩
        fun _ => ⟨none, 1, 1⟩
    ¬PrefixTruthful liveHandle.descriptor (attestedRequest nulPlan)
      (fun path => if path = [] then some .directory else none) run.shared.node run.value := by
  obtain ⟨decision, hdecision, hattested⟩ := authorize_attestedRequest nulPlan
  rintro run ⟨receipt, hreceipt, -⟩
  have hvalue : run.value = .error (.raised .embeddedNull) := by
    simp only [run, construct, constructBody, hdecision, hattested, consume_liveHandle]
    rfl
  rw [hvalue] at hreceipt
  cases hreceipt

end BoundedWorkspaceFileConstructor

end Eag.GovernedFileConstruction
