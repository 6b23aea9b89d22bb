/-
  Eag.GovernedExecution.VerificationTruth

  What a passed verification says about the tree: through which links it may have gone, and
  which bytes an exact content may have had.

  `passed_iff` says once when a verification passes.
-/

import Eag.GovernedExecution.Verification

namespace Eag.GovernedExecution

open Eag.Foundation Eag.Mutation

namespace DeterministicVerifier

variable {verifier : DeterministicVerifier} {call : VerifyCall}

/-! ## Passing -/

/-- The verification returns and passes. -/
def Passes (verifier : DeterministicVerifier) (call : VerifyCall) : Prop :=
  ∃ result, verifier.verify call = .ok result ∧ result.status = .passed

/-- The walk to the target meets no link that exists, and the target resolves to a path inside
    the root. -/
def Reaches (verifier : DeterministicVerifier) (targetPath : String) : Prop :=
  verifier.meetsLink verifier.workspaceRoot (posixParts targetPath) = false ∧
    ∃ resolved, verifier.tree.resolve false verifier.depth (verifier.targetOf targetPath) =
      .ok resolved ∧ verifier.workspaceRoot <+: resolved

theorem confinedTarget_eq_ok {targetPath : String} (hconfined : Confined targetPath)
    (target : List String) :
    verifier.confinedTarget targetPath = .ok (.ok target) ↔
      verifier.Reaches targetPath ∧ target = verifier.targetOf targetPath := by
  unfold confinedTarget Reaches
  rw [if_neg (not_not.mpr hconfined)]
  by_cases hlink : verifier.meetsLink verifier.workspaceRoot (posixParts targetPath) = true
  · rw [if_pos hlink, hlink]
    simp
  · rw [if_neg hlink, eq_false_of_ne_true hlink]
    cases verifier.tree.resolve false verifier.depth (verifier.targetOf targetPath) with
    | error error => simp
    | ok resolved =>
        by_cases hinside : verifier.workspaceRoot <+: resolved
        · simp [hinside, eq_comm]
        · simp [hinside]

/-- **When a verification passes.** -/
theorem passed_iff :
    verifier.Passes call ↔
      MutationSucceeded call.request.receipt ∧
      verifier.Reaches call.request.specification.targetPath ∧
      ∃ evidence, verifier.observe call.fails
          (verifier.targetOf call.request.specification.targetPath) call.request.specification =
            .ok evidence ∧
        verifier.evaluate call.fails
          (verifier.targetOf call.request.specification.targetPath) call.request.specification
          evidence = true := by
  have hconfined := call.request.specification.targetPath_confined
  unfold Passes verify
  dsimp only
  by_cases hsucceeded : MutationSucceeded call.request.receipt
  · rw [if_neg (not_not.mpr hsucceeded), and_iff_right hsucceeded]
    rcases htarget : verifier.confinedTarget call.request.specification.targetPath with
      error | code | target
    · have hnot : ¬verifier.Reaches call.request.specification.targetPath := fun hreaches => by
        have hok := (confinedTarget_eq_ok hconfined _).mpr ⟨hreaches, rfl⟩
        rw [htarget] at hok
        cases hok
      refine iff_of_false ?_ fun h => hnot h.1
      rintro ⟨result, hresult, -⟩
      cases hresult
    · have hnot : ¬verifier.Reaches call.request.specification.targetPath := fun hreaches => by
        have hok := (confinedTarget_eq_ok hconfined _).mpr ⟨hreaches, rfl⟩
        rw [htarget] at hok
        cases hok
      refine iff_of_false ?_ fun h => hnot h.1
      rintro ⟨result, hresult, hstatus⟩
      cases hresult
      cases hstatus
    · obtain ⟨hreaches, rfl⟩ := (confinedTarget_eq_ok hconfined target).mp htarget
      rw [and_iff_right hreaches, except_ok_bind]
      dsimp only
      rcases verifier.observe call.fails
        (verifier.targetOf call.request.specification.targetPath) call.request.specification with
        code | evidence
      · refine iff_of_false ?_ ?_
        · rintro ⟨result, hresult, hstatus⟩
          cases hresult
          cases hstatus
        · rintro ⟨evidence, hevidence, -⟩
          cases hevidence
      · dsimp only
        by_cases hevaluate : verifier.evaluate call.fails
            (verifier.targetOf call.request.specification.targetPath) call.request.specification
            evidence = true
        · rw [if_pos hevaluate]
          exact iff_of_true ⟨_, rfl, rfl⟩ ⟨evidence, rfl, hevaluate⟩
        · rw [if_neg hevaluate]
          refine iff_of_false ?_ ?_
          · rintro ⟨result, hresult, hstatus⟩
            cases hresult
            cases hstatus
          · rintro ⟨other, hother, hpassed⟩
            cases hother
            exact hevaluate hpassed
  · rw [if_pos hsucceeded]
    refine iff_of_false ?_ fun h => hsucceeded h.1
    rintro ⟨result, hresult, hstatus⟩
    cases hresult
    cases hstatus

/-! ## Links -/

/-- Some component of a target path below the root is a symbolic link. -/
def GoesThroughLink (verifier : DeterministicVerifier) (targetPath : String) : Prop :=
  ∃ before, before ≠ [] ∧ before <+: posixParts targetPath ∧
    verifier.tree.isSymlink (verifier.workspaceRoot ++ before) = true

/-- Every link among the components of a target path leads to nothing that exists. -/
def OnlyDanglingLinks (verifier : DeterministicVerifier) (targetPath : String) : Prop :=
  ∀ before, before ≠ [] → before <+: posixParts targetPath →
    verifier.tree.isSymlink (verifier.workspaceRoot ++ before) = true →
    verifier.tree.pathExists (verifier.workspaceRoot ++ before) = false

theorem meetsLink_iff (current parts : List String) :
    verifier.meetsLink current parts = true ↔
      ∃ before, before ≠ [] ∧ before <+: parts ∧
        verifier.tree.pathExists (current ++ before) = true ∧
        verifier.tree.isSymlink (current ++ before) = true := by
  induction parts generalizing current with
  | nil =>
      refine iff_of_false Bool.false_ne_true ?_
      rintro ⟨before, hne, hbefore, -⟩
      exact hne (List.prefix_nil.mp hbefore)
  | cons part parts ih =>
      rw [meetsLink]
      split
      · next hlink =>
          exact iff_of_true rfl ⟨[part], List.cons_ne_nil _ _, ⟨parts, rfl⟩, hlink.1, hlink.2⟩
      · next hlink =>
          rw [ih]
          constructor
          · rintro ⟨before, hne, hbefore, hexists, hsymlink⟩
            rw [List.append_assoc, List.singleton_append] at hexists hsymlink
            exact ⟨part :: before, List.cons_ne_nil _ _, List.cons_prefix_cons.mpr
              ⟨rfl, hbefore⟩, hexists, hsymlink⟩
          · rintro ⟨before, hne, hbefore, hexists, hsymlink⟩
            obtain ⟨first, before, rfl⟩ := List.exists_cons_of_ne_nil hne
            obtain ⟨rfl, hrest⟩ := List.cons_prefix_cons.mp hbefore
            have hlonger : before ≠ [] := by
              rintro rfl
              exact hlink ⟨hexists, hsymlink⟩
            refine ⟨before, hlonger, hrest, ?_, ?_⟩
            · rwa [List.append_assoc, List.singleton_append]
            · rwa [List.append_assoc, List.singleton_append]

theorem not_meetsLink_iff (targetPath : String) :
    verifier.meetsLink verifier.workspaceRoot (posixParts targetPath) = false ↔
      verifier.OnlyDanglingLinks targetPath := by
  rw [← Bool.not_eq_true, meetsLink_iff]
  constructor
  · intro h before hne hbefore hlink
    by_contra hexists
    exact h ⟨before, hne, hbefore, by simpa using hexists, hlink⟩
  · rintro h ⟨before, hne, hbefore, hexists, hlink⟩
    rw [h before hne hbefore hlink] at hexists
    cases hexists

/-- Below a link that leads to nothing there is no target. -/
theorem not_pathExists_of_dangling {targetPath : String}
    (hlink : verifier.GoesThroughLink targetPath)
    (hdangling : verifier.OnlyDanglingLinks targetPath) :
    verifier.tree.pathExists (verifier.targetOf targetPath) = false := by
  obtain ⟨before, hne, ⟨rest, hrest⟩, hsymlink⟩ := hlink
  have hmissing := hdangling before hne ⟨rest, hrest⟩ hsymlink
  rw [targetOf, ← hrest, ← List.append_assoc]
  exact FileTree.not_pathExists_append hmissing

theorem observe_missing {target : List String} {fails : VerifyRead → Bool}
    {specification : VerificationSpecification}
    (h : verifier.tree.pathExists target = false) :
    verifier.observe fails target specification = .ok (evidence specification false none) := by
  unfold observe
  dsimp only
  rw [h]
  split
  · rfl
  · rfl

theorem evaluate_missing (fails : VerifyRead → Bool) (target : List String)
    (specification : VerificationSpecification) :
    verifier.evaluate fails target specification (evidence specification false none) = true ↔
      specification.check = .fileAbsent := by
  unfold evaluate
  cases specification.check with
  | exactContent => exact iff_of_false Bool.false_ne_true fun h => nomatch h
  | fileExists => exact iff_of_false Bool.false_ne_true fun h => nomatch h
  | fileAbsent => exact iff_of_true rfl rfl
  | expectedFingerprint => exact iff_of_false Bool.false_ne_true fun h => nomatch h

/-- **Exactly when no link is trusted**: unless the absence of a file is verified through links
    that lead to nothing, and the path of the target does not lead out of the root. -/
theorem link_not_trusted_iff (verifier : DeterministicVerifier) (call : VerifyCall) :
    (verifier.GoesThroughLink call.request.specification.targetPath → ¬verifier.Passes call) ↔
      ¬(MutationSucceeded call.request.receipt ∧
        call.request.specification.check = .fileAbsent ∧
        verifier.GoesThroughLink call.request.specification.targetPath ∧
        verifier.OnlyDanglingLinks call.request.specification.targetPath ∧
        ∃ resolved, verifier.tree.resolve false verifier.depth
            (verifier.targetOf call.request.specification.targetPath) = .ok resolved ∧
          verifier.workspaceRoot <+: resolved) := by
  rw [passed_iff, Reaches, not_meetsLink_iff]
  constructor
  · rintro h ⟨hsucceeded, hcheck, hlink, hdangling, hresolved⟩
    have hmissing := not_pathExists_of_dangling hlink hdangling
    exact h hlink ⟨hsucceeded, ⟨hdangling, hresolved⟩, _, observe_missing hmissing,
      (evaluate_missing _ _ _).mpr hcheck⟩
  · rintro h hlink ⟨hsucceeded, ⟨hdangling, hresolved⟩, found, hobserve, hevaluate⟩
    have hmissing := not_pathExists_of_dangling hlink hdangling
    rw [observe_missing hmissing] at hobserve
    cases hobserve
    exact h ⟨hsucceeded, (evaluate_missing _ _ _).mp hevaluate, hlink, hdangling, hresolved⟩

/-! ## A dangling link -/

/-- A workspace with a link that leads to nothing. -/
def danglingTree : FileTree ByteArray :=
  .ofEntries [(["w"], .directory), (["w", "gone"], .symlink "nowhere")] (by decide)

/-- The receipt of a completed mutation. -/
def completedReceipt (targetPath : String) : MutationReceipt where
  mutationId := "m"
  proposalId := "p"
  runId := "r"
  authorizationId := some "a"
  targetPath := targetPath
  operation := .createFile
  result := .completed
  preFingerprint := none
  postFingerprint := none
  bytesBefore := 0
  bytesAfter := 0
  bytesChanged := 0
  authorizationState := some .consumed
  policyVersion := "1.0"
  failureCode := none
  failureReason := none
  verificationPassed := true
  rollbackPerformed := false
  contractVersion := mutationContractVersion
  verified_of_completed := fun _ => rfl

/-- A call for a specification of a target, after a completed mutation of it. -/
def callFor (specification : VerificationSpecification) : VerifyCall where
  request := {
    requestId := "q"
    runId := "r"
    receipt := completedReceipt specification.targetPath
    specification := specification
    requestId_nonBlank := by decide
    receipt_nonBlank := ⟨show NonBlank "m" by decide, show NonBlank "r" by decide,
      specification.targetPath_confined.1⟩
    runId_eq := rfl
    targetPath_eq := rfl }
  verificationId := "v"
  verificationId_nonBlank := by decide
  fails := fun _ => false

/-- The absence of the link's name is verified. -/
def absenceCall : VerifyCall := callFor {
  specificationId := "s"
  targetPath := "gone"
  check := .fileAbsent
  expectedContent := none
  expectedFingerprint := none
  maxBytes := 1
  version := verificationContractVersion
  specificationId_nonBlank := by decide
  targetPath_confined := by decide
  maxBytes_pos := Nat.one_pos
  version_supported := rfl
  of_exactContent := by simp
  of_expectedFingerprint := by simp
  of_existence := by simp }

def danglingVerifier : DeterministicVerifier where
  tree := danglingTree
  workspaceRoot := ["w"]
  depth := 8

/-- **A dangling link passes for an absent file.** -/
theorem dangling_link_passes :
    danglingVerifier.GoesThroughLink "gone" ∧ danglingVerifier.Passes absenceCall := by
  have hparts : posixParts "gone" = ["gone"] := by decide
  have hlink : danglingVerifier.GoesThroughLink "gone" :=
    ⟨["gone"], List.cons_ne_nil _ _, by rw [hparts], by decide⟩
  have hmissing : danglingVerifier.tree.pathExists (danglingVerifier.targetOf "gone") = false := by
    decide
  have hresolved : danglingVerifier.tree.resolve false danglingVerifier.depth
      (danglingVerifier.targetOf "gone") = .ok ["w", "nowhere"] := by decide +kernel
  exact ⟨hlink, passed_iff.mpr ⟨⟨rfl, rfl⟩, ⟨by decide, _, hresolved, by decide⟩, _,
    observe_missing hmissing, (evaluate_missing _ _ _).mpr rfl⟩⟩

end DeterministicVerifier

/-! ## Line ends -/

theorem not_mem_universalNewlines (text : List Char) : '\r' ∉ universalNewlines text := by
  fun_induction universalNewlines text with
  | case1 => exact List.not_mem_nil
  | case2 rest ih => simp [ih]
  | case3 c rest hpair ih =>
      rw [List.mem_cons, not_or]
      refine ⟨?_, ih⟩
      split
      · decide
      · next hc => exact fun h => hc h.symm

theorem universalNewlines_of_not_mem {text : List Char} (h : '\r' ∉ text) :
    universalNewlines text = text := by
  fun_induction universalNewlines text with
  | case1 => rfl
  | case2 rest ih => simp at h
  | case3 c rest hpair ih =>
      rw [List.mem_cons, not_or] at h
      rw [if_neg fun hc => h.1 hc.symm, ih h.2]

/-- A text is the same with its line ends translated exactly when it has no carriage return. -/
theorem universalNewlines_eq_self_iff (text : String) :
    String.ofList (universalNewlines text.toList) = text ↔ '\r' ∉ text.toList := by
  constructor
  · intro h
    have hlist := congrArg String.toList h
    rw [String.toList_ofList] at hlist
    rw [← hlist]
    exact not_mem_universalNewlines _
  · intro h
    rw [universalNewlines_of_not_mem h, String.ofList_toList]

theorem fromUTF8?_eq_some {bytes : ByteArray} {text : String} :
    String.fromUTF8? bytes = some text ↔ bytes = text.toUTF8 := by
  unfold String.fromUTF8?
  rw [String.toUTF8_eq_toByteArray]
  constructor
  · intro h
    split at h
    · cases h
      rfl
    · cases h
  · rintro rfl
    rw [dif_pos text.isValidUTF8]
    rfl

namespace DeterministicVerifier

variable {verifier : DeterministicVerifier} {call : VerifyCall}

/-! ## Exact content -/

/-- What stands at a target path is reached. -/
theorem reaches_of_stands {targetPath : String}
    (h : verifier.tree.Stands (verifier.targetOf targetPath)) : verifier.Reaches targetPath := by
  refine ⟨?_, _, FileTree.resolve_of_stands false verifier.depth h, ⟨_, rfl⟩⟩
  rw [not_meetsLink_iff]
  rintro before - ⟨rest, hrest⟩ hlink
  rw [targetOf, ← hrest, ← List.append_assoc] at h
  rw [FileTree.isSymlink_of_stands h.of_append] at hlink
  cases hlink

/-- What is reached below a root that is a directory, and exists, stands. -/
theorem stands_of_reaches {targetPath : String}
    (hroot : verifier.tree.isDirectory verifier.workspaceRoot = true)
    (hconfined : Confined targetPath) (hreaches : verifier.Reaches targetPath)
    (hexists : verifier.tree.pathExists (verifier.targetOf targetPath) = true) :
    verifier.tree.Stands (verifier.targetOf targetPath) := by
  have hdangling := (not_meetsLink_iff targetPath).mp hreaches.1
  refine FileTree.stands_of_pathExists (FileTree.stands_of_isDirectory hroot) hconfined.2.2 ?_
    hexists
  intro before hne hbefore
  by_contra hlink
  rw [Bool.not_eq_false] at hlink
  rw [not_pathExists_of_dangling ⟨before, hne, hbefore, hlink⟩ hdangling] at hexists
  cases hexists

/-- No read of the call fails. -/
def ReadsAll (call : VerifyCall) : Prop := ∀ access, call.fails access = false

/-- The bytes are those of a text of bounded size, which is the expected one once its line
    ends are translated. -/
def Resembles (maxBytes : Nat) (expected : String) (bytes : ByteArray) : Prop :=
  ∃ text : String, bytes = text.toUTF8 ∧ text.utf8ByteSize ≤ maxBytes ∧
    String.ofList (universalNewlines text.toList) = expected

theorem evaluate_exactContent_iff {target : List String} {expected : String} {bytes : ByteArray}
    (hcheck : call.request.specification.check = .exactContent)
    (hexpected : call.request.specification.expectedContent = some expected)
    (hdata : verifier.tree.fileData target = some bytes) :
    verifier.evaluate call.fails target call.request.specification
        (evidence call.request.specification true (some bytes)) = true ↔
      call.fails .reread = false ∧ ∃ text : String, bytes = text.toUTF8 ∧
        String.ofList (universalNewlines text.toList) = expected := by
  unfold evaluate
  rw [hcheck, hexpected, hdata, Option.bind_some, decodeText]
  dsimp only
  rw [show (evidence call.request.specification true (some bytes)).observedExists = true from rfl,
    Bool.true_and, Bool.and_eq_true, Bool.not_eq_true']
  refine and_congr Iff.rfl ?_
  cases hdecode : String.fromUTF8? bytes with
  | none =>
      refine iff_of_false Bool.false_ne_true ?_
      rintro ⟨text, hbytes, -⟩
      rw [fromUTF8?_eq_some.mpr hbytes] at hdecode
      cases hdecode
  | some text =>
      rw [Option.map_some]
      dsimp only
      rw [beq_iff_eq, Option.some.injEq]
      constructor
      · intro h
        exact ⟨text, fromUTF8?_eq_some.mp hdecode, h⟩
      · rintro ⟨other, hbytes, h⟩
        rw [fromUTF8?_eq_some.mpr hbytes] at hdecode
        cases hdecode
        exact h

/-- How the target of an exact content is judged. -/
theorem observed_exactContent_iff {target : List String} {expected : String}
    (hcheck : call.request.specification.check = .exactContent)
    (hexpected : call.request.specification.expectedContent = some expected)
    (hstands : verifier.tree.Stands target) :
    (∃ evidence, verifier.observe call.fails target call.request.specification = .ok evidence ∧
      verifier.evaluate call.fails target call.request.specification evidence = true) ↔
      ReadsAll call ∧ ∃ bytes, verifier.tree.node target = some (.file bytes) ∧
        Resembles call.request.specification.maxBytes expected bytes := by
  have hexists := FileTree.pathExists_of_stands hstands
  have hnode := FileTree.fileData_of_stands hstands
  unfold observe
  dsimp only
  rw [if_neg (by rw [hcheck]; rintro ⟨⟩), hexists, if_neg (Ne.symm Bool.false_ne_true)]
  cases hdata : verifier.tree.fileData target with
  | none =>
      refine iff_of_false (by rintro ⟨_, h, _⟩; cases h) ?_
      rintro ⟨-, bytes, hbytes, -⟩
      rw [(hnode bytes).mpr hbytes] at hdata
      cases hdata
  | some bytes =>
      have hjudged := evaluate_exactContent_iff hcheck hexpected hdata
      have hfile := (hnode bytes).mp hdata
      have hresembles : (∃ other, verifier.tree.node target = some (.file other) ∧
          Resembles call.request.specification.maxBytes expected other) ↔
            Resembles call.request.specification.maxBytes expected bytes := by
        rw [hfile]
        simp
      rw [hresembles]
      dsimp only
      by_cases hstat : call.fails .stat = true
      · rw [if_pos hstat]
        refine iff_of_false (by rintro ⟨_, h, _⟩; cases h) fun h => ?_
        rw [h.1 .stat] at hstat
        cases hstat
      rw [if_neg hstat]
      by_cases hsize : call.request.specification.maxBytes < bytes.size
      · rw [if_pos hsize]
        refine iff_of_false (by rintro ⟨_, h, _⟩; cases h) ?_
        rintro ⟨-, text, rfl, hle, -⟩
        rw [String.toUTF8_eq_toByteArray, String.size_toByteArray] at hsize
        omega
      rw [if_neg hsize]
      by_cases hread : call.fails .read = true
      · rw [if_pos hread]
        refine iff_of_false (by rintro ⟨_, h, _⟩; cases h) fun h => ?_
        rw [h.1 .read] at hread
        cases hread
      rw [if_neg hread]
      constructor
      · rintro ⟨found, hfound, hevaluate⟩
        cases hfound
        obtain ⟨hreread, text, rfl, htext⟩ := hjudged.mp hevaluate
        refine ⟨fun access => ?_, text, rfl, ?_, htext⟩
        · cases access with
          | stat => exact eq_false_of_ne_true hstat
          | read => exact eq_false_of_ne_true hread
          | reread => exact hreread
        · rw [String.toUTF8_eq_toByteArray, String.size_toByteArray] at hsize
          omega
      · rintro ⟨hreads, text, hbytes, -, htext⟩
        exact ⟨_, rfl, hjudged.mpr ⟨hreads .reread, text, hbytes, htext⟩⟩

/-- **When the verification of an exact content passes.** -/
theorem passes_exactContent_iff {expected : String}
    (hroot : verifier.tree.isDirectory verifier.workspaceRoot = true)
    (hsucceeded : MutationSucceeded call.request.receipt)
    (hcheck : call.request.specification.check = .exactContent)
    (hexpected : call.request.specification.expectedContent = some expected) :
    verifier.Passes call ↔ ReadsAll call ∧ ∃ bytes,
      verifier.tree.node (verifier.targetOf call.request.specification.targetPath) =
        some (.file bytes) ∧
      Resembles call.request.specification.maxBytes expected bytes := by
  have hconfined := call.request.specification.targetPath_confined
  rw [passed_iff, and_iff_right hsucceeded]
  constructor
  · rintro ⟨hreaches, found, hobserve, hevaluate⟩
    have hexists : verifier.tree.pathExists
        (verifier.targetOf call.request.specification.targetPath) = true := by
      by_contra hmissing
      rw [Bool.not_eq_true] at hmissing
      rw [observe_missing hmissing] at hobserve
      cases hobserve
      have habsent := (evaluate_missing _ _ _).mp hevaluate
      rw [hcheck] at habsent
      cases habsent
    exact (observed_exactContent_iff hcheck hexpected
      (stands_of_reaches hroot hconfined hreaches hexists)).mp ⟨found, hobserve, hevaluate⟩
  · rintro ⟨hreads, bytes, hbytes, hresembles⟩
    have hstands : verifier.tree.Stands
        (verifier.targetOf call.request.specification.targetPath) :=
      ⟨_, hbytes, fun _ h => nomatch h⟩
    exact ⟨reaches_of_stands hstands, (observed_exactContent_iff hcheck hexpected hstands).mpr
      ⟨hreads, bytes, hbytes, hresembles⟩⟩

theorem toUTF8_inj {text other : String} : text.toUTF8 = other.toUTF8 ↔ text = other := by
  rw [String.toUTF8_eq_toByteArray, String.toUTF8_eq_toByteArray, String.toByteArray_inj]

/-- The file holds a text that the comparison takes for the expected one, or not, because of a
    carriage return, or the expected text itself in a file that cannot be read. -/
def Mistaken (call : VerifyCall) (expected text : String) : Prop :=
  (ReadsAll call ∧ '\r' ∈ text.toList ∧
      text.utf8ByteSize ≤ call.request.specification.maxBytes ∧
      (text = expected ∨ String.ofList (universalNewlines text.toList) = expected)) ∨
    (¬ReadsAll call ∧ text = expected)

/-- **Exactly when the verification of an exact content is byte exact**: unless the file holds
    a text with a carriage return that is the expected one, or becomes it when its line ends
    are translated. -/
theorem exact_content_iff (verifier : DeterministicVerifier) (call : VerifyCall)
    (expected : String) (hroot : verifier.tree.isDirectory verifier.workspaceRoot = true)
    (hsucceeded : MutationSucceeded call.request.receipt)
    (hcheck : call.request.specification.check = .exactContent)
    (hexpected : call.request.specification.expectedContent = some expected) :
    (verifier.Passes call ↔
      verifier.tree.node (verifier.targetOf call.request.specification.targetPath) =
        some (.file expected.toUTF8)) ↔
      ¬∃ text : String,
        verifier.tree.node (verifier.targetOf call.request.specification.targetPath) =
          some (.file text.toUTF8) ∧ Mistaken call expected text := by
  rw [passes_exactContent_iff hroot hsucceeded hcheck hexpected]
  generalize verifier.tree.node (verifier.targetOf call.request.specification.targetPath) = found
  by_cases htext : ∃ text : String, found = some (.file text.toUTF8)
  · obtain ⟨text, rfl⟩ := htext
    have hpasses : (∃ bytes, some (Node.file text.toUTF8) = some (.file bytes) ∧
        Resembles call.request.specification.maxBytes expected bytes) ↔
        text.utf8ByteSize ≤ call.request.specification.maxBytes ∧
          String.ofList (universalNewlines text.toList) = expected := by
      simp only [Option.some.injEq, Node.file.injEq, exists_eq_left', Resembles, toUTF8_inj]
    have hholds : some (Node.file text.toUTF8) = some (Node.file expected.toUTF8) ↔
        text = expected := by
      rw [Option.some.injEq, Node.file.injEq, toUTF8_inj]
    have hmistaken : (∃ other : String, some (Node.file text.toUTF8) =
        some (.file other.toUTF8) ∧ Mistaken call expected other) ↔
        Mistaken call expected text := by
      simp only [Option.some.injEq, Node.file.injEq, toUTF8_inj, exists_eq_left']
    rw [hpasses, hholds, hmistaken, Mistaken]
    obtain ⟨-, content, hcontent, hsize⟩ := call.request.specification.of_exactContent hcheck
    have hself := universalNewlines_eq_self_iff text
    rw [hexpected, Option.some.injEq] at hcontent
    by_cases hsame : text = expected
    · -- the expected text itself: it passes unless translating it changes it
      subst hsame hcontent
      rw [hself]
      by_cases hreads : ReadsAll call
      · by_cases hreturn : '\r' ∈ text.toList
        · simp [hreads, hreturn, hsize]
        · simp [hreads, hreturn, hsize]
      · simp [hreads]
    · have hreturn : String.ofList (universalNewlines text.toList) = expected →
          '\r' ∈ text.toList := by
        intro htranslated
        by_contra hnot
        rw [hself.mpr hnot] at htranslated
        exact hsame htranslated
      generalize String.ofList (universalNewlines text.toList) = translated at hreturn ⊢
      by_cases hreads : ReadsAll call
      · by_cases htranslated : translated = expected
        · simp [hreads, hsame, htranslated, hreturn htranslated]
        · simp [hsame, htranslated]
      · simp [hreads, hsame]
  · refine iff_of_true (iff_of_false ?_ fun h => htext ⟨expected, h⟩) ?_
    · rintro ⟨-, bytes, hbytes, text, rfl, -⟩
      exact htext ⟨text, hbytes⟩
    · rintro ⟨text, hbytes, -⟩
      exact htext ⟨text, hbytes⟩

/-! ## A carriage return -/

/-- A workspace with a file whose line ends with a carriage return and a line feed. -/
def returnVerifier : DeterministicVerifier where
  tree := .ofEntries [(["w"], .directory), (["w", "f"], .file "a\r\n".toUTF8)] (by decide)
  workspaceRoot := ["w"]
  depth := 8

/-- The content with a line feed alone is verified. -/
def lineFeedCall : VerifyCall := callFor {
  specificationId := "s"
  targetPath := "f"
  check := .exactContent
  expectedContent := some "a\n"
  expectedFingerprint := none
  maxBytes := 16
  version := verificationContractVersion
  specificationId_nonBlank := by decide
  targetPath_confined := by decide
  maxBytes_pos := by decide
  version_supported := rfl
  of_exactContent := fun _ => ⟨rfl, _, rfl, by decide⟩
  of_expectedFingerprint := by simp
  of_existence := by simp }

/-- The theorem at this call. -/
theorem exact_content_lineFeed :
    (returnVerifier.Passes lineFeedCall ↔
      returnVerifier.tree.node ["w", "f"] = some (.file "a\n".toUTF8)) ↔
      ¬∃ text : String, returnVerifier.tree.node ["w", "f"] = some (.file text.toUTF8) ∧
        Mistaken lineFeedCall "a\n" text := by
  have htarget : returnVerifier.targetOf lineFeedCall.request.specification.targetPath =
      ["w", "f"] := by decide
  have h := exact_content_iff returnVerifier lineFeedCall "a\n" rfl ⟨rfl, rfl⟩ rfl rfl
  rw [htarget] at h
  exact h

/-- **Other bytes pass for the expected content.** -/
theorem other_bytes_pass :
    returnVerifier.Passes lineFeedCall ∧
      returnVerifier.tree.node ["w", "f"] = some (.file "a\r\n".toUTF8) ∧
      returnVerifier.tree.node ["w", "f"] ≠ some (.file "a\n".toUTF8) := by
  have htarget : returnVerifier.targetOf lineFeedCall.request.specification.targetPath =
      ["w", "f"] := by decide
  refine ⟨?_, rfl, ?_⟩
  · rw [@passes_exactContent_iff _ lineFeedCall "a\n" rfl ⟨rfl, rfl⟩ rfl rfl, htarget]
    exact ⟨fun _ => rfl, _, rfl, "a\r\n", rfl, by decide, by decide⟩
  · intro h
    have hbytes : "a\r\n".toUTF8 = "a\n".toUTF8 := Node.file.inj (Option.some.inj h)
    exact absurd (toUTF8_inj.mp hbytes) (by decide)

end DeterministicVerifier

end Eag.GovernedExecution
