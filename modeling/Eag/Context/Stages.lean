/-
  Eag.Context.Stages

  What each stage of a selection that returns has done: the references are those of what was
  taken, the excerpts those of the windows that could be shown (`gatherExcerpts_spec`), and the
  total budget keeps what fits (`retain_spec`).
-/

import Eag.Context.Selection
import Mathlib.Algebra.Order.BigOperators.Group.List

namespace Eag.Context

open Eag.Foundation

variable {Detail : Type} [DecidableEq Detail]

/-! ## The parts of a selection -/

section Parts

variable {lower : PyText → PyText} {readSanitized : PyText → SanitizedContent} {goal : PyText}
  {snapshot : RepositoryContextSnapshot Detail} {budget : ContextBudget}

/-- The stages of a selection that returns. -/
structure Stages (lower : PyText → PyText) (readSanitized : PyText → SanitizedContent)
    (goal : PyText) (snapshot : RepositoryContextSnapshot Detail) (budget : ContextBudget)
    (result : SelectedRepositoryContext) where
  candidates : CandidateSets Detail
  refs : References
  gathered : Gathered
  candidates_eq : candidateSets lower goal snapshot budget = .ok candidates
  refs_eq : takeReferences lower (artifactsOf snapshot) candidates budget = .ok refs
  gathered_eq : gatherExcerpts readSanitized budget (artifactsOf snapshot) refs.symbols refs.files
    = .ok gathered
  provenance_eq : provenanceRecords snapshot refs.files refs.symbols refs.dependencies
    gathered.provenance = .ok result.provenance
  files_eq : result.files = refs.files
  symbols_eq : result.symbols = refs.symbols
  dependencies_eq : result.dependencies = refs.dependencies
  constrained_eq : result.excerpts = (applyTotalBudget (repositorySummary snapshot budget)
    (sourceFindings refs.files refs.symbols refs.dependencies) gathered.excerpts
    budget.maxTotalCharacters).excerpts
  truncation_eq : result.truncation = truncationReport budget refs gathered
    (applyTotalBudget (repositorySummary snapshot budget)
      (sourceFindings refs.files refs.symbols refs.dependencies) gathered.excerpts
      budget.maxTotalCharacters)

/-- A selection that returns went through its stages. -/
theorem select_stages {result : SelectedRepositoryContext}
    (h : select lower readSanitized goal snapshot budget = .ok result) :
    Nonempty (Stages lower readSanitized goal snapshot budget result) := by
  simp only [select, except_bind_eq_ok, except_pure_eq_ok] at h
  obtain ⟨candidates, hcandidates, refs, hrefs, gathered, hgathered, provenance, hprovenance,
    rfl⟩ := h
  exact ⟨⟨candidates, refs, gathered, hcandidates, hrefs, hgathered, hprovenance, rfl, rfl, rfl,
    rfl, rfl⟩⟩

omit [DecidableEq Detail] in
/-- The references are made of what is taken, one by one. -/
theorem takeReferences_eq_ok {artifacts : Dict PyText SourceArtifactRecord}
    {candidates : CandidateSets Detail} {refs : References}
    (h : takeReferences lower artifacts candidates budget = .ok refs) :
    List.Forall₂ (fun item ref => fileReference lower artifacts item = .ok ref)
        (takeRanked id candidates.files budget.maxFiles).1 refs.files ∧
      List.Forall₂ (fun item ref => symbolReference item = .ok ref)
        (takeRanked (fun symbol => symbol.identity.qualifiedName) candidates.symbols
          budget.maxSymbols).1 refs.symbols ∧
      List.Forall₂ (fun item ref => DependencyReference.make item.1 item.2 = .ok ref)
        (takeRanked dependencyKey candidates.dependencies budget.maxDependencies).1
        refs.dependencies ∧
      refs.omittedFiles = (takeRanked id candidates.files budget.maxFiles).2 ∧
      refs.omittedSymbols = (takeRanked (fun symbol => symbol.identity.qualifiedName)
        candidates.symbols budget.maxSymbols).2 ∧
      refs.omittedDependencies =
        (takeRanked dependencyKey candidates.dependencies budget.maxDependencies).2 := by
  simp only [takeReferences, except_bind_eq_ok, except_pure_eq_ok, mapM_eq_ok_forall₂] at h
  obtain ⟨files, hfiles, symbols, hsymbols, dependencies, hdependencies, rfl⟩ := h
  exact ⟨hfiles, hsymbols, hdependencies, rfl, rfl, rfl⟩

end Parts

/-! ## The references -/

theorem fileReference_path {lower : PyText → PyText}
    {artifacts : Dict PyText SourceArtifactRecord} {item : PyText × Candidate}
    {ref : FileReference} (h : fileReference lower artifacts item = .ok ref) :
    ref.repositoryPath = item.1.posixText := by
  unfold fileReference at h
  split at h
  · cases h
  · simp only [FileReference.make, except_bind_eq_ok, except_pure_eq_ok] at h
    obtain ⟨_, -, path, hpath, _, -, rfl⟩ := h
    exact relativePath_eq_ok hpath

omit [DecidableEq Detail] in
theorem symbolReference_path {item : IndexedSymbol Detail × Candidate} {ref : SymbolReference}
    (h : symbolReference item = .ok ref) : ref.repositoryPath = item.1.path := by
  simp only [symbolReference, SymbolReference.make, except_bind_eq_ok, except_pure_eq_ok] at h
  obtain ⟨_, -, _, -, path, hpath, rfl⟩ := h
  rw [relativePath_eq_ok hpath]
  exact PyText.posixText_posixText _

/-! ## Counts -/

theorem total_empty : total Dict.empty = 0 := rfl

/-- One count more. -/
theorem total_bump (counts : Dict PyText Nat) (reason : PyText) (count : Nat) :
    total (bump counts reason count) = total counts + count := by
  have hitems : ∀ (items : List (PyText × Nat)), (items.map Prod.fst).Nodup →
      ((Dict.setItems items reason
        (((items.find? fun item => item.1 = reason).map Prod.snd).getD 0 + count)).map
          Prod.snd).sum = (items.map Prod.snd).sum + count := by
    intro items
    induction items with
    | nil => simp [Dict.setItems]
    | cons item rest ih =>
        intro hnodup
        obtain ⟨-, hrest⟩ := List.nodup_cons.mp hnodup
        by_cases hkey : item.1 = reason
        · have hfind : (item :: rest).find? (fun item => item.1 = reason) = some item :=
            List.find?_cons_of_pos (by simpa using hkey)
          rw [hfind, Dict.setItems, if_pos hkey]
          simp only [List.map_cons, List.sum_cons, Option.map_some, Option.getD_some]
          omega
        · have hfind : (item :: rest).find? (fun item => item.1 = reason) =
              rest.find? fun item => item.1 = reason :=
            List.find?_cons_of_neg (by simpa using hkey)
          rw [hfind, Dict.setItems, if_neg hkey, List.map_cons, List.map_cons, List.sum_cons,
            List.sum_cons, ih hrest]
          omega
  exact hitems counts.items counts.keys_nodup

/-! ## What fits -/

section Retain

variable {α : Type} {size : α → Nat} {limit used : Nat}

/-- What one list takes of a budget. -/
structure RetainSpec (size : α → Nat) (limit used : Nat) (xs : List α) (state : Retained α) :
    Prop where
  sublist : state.kept.Sublist xs
  used_eq : state.used = used + (state.kept.map size).sum
  within : state.used ≤ limit
  accounted : state.kept.length + state.omitted = xs.length
  omits_iff : state.omitted = 0 ↔ used + (xs.map size).sum ≤ limit

/-- **What fits** stays in its order and within the limit, and everything stays exactly when all
    of it fits. -/
theorem retain_spec (hused : used ≤ limit) (xs : List α) :
    RetainSpec size limit used xs (retain size limit used xs) := by
  induction xs using List.reverseRecOn with
  | nil => exact ⟨.slnil, rfl, hused, rfl, iff_of_true rfl hused⟩
  | append_singleton xs x ih =>
      have hstep : retain size limit used (xs ++ [x]) =
          (retain size limit used xs).try size limit x := by
        rw [retain, List.foldl_append]
        rfl
      rw [hstep]
      generalize retain size limit used xs = state at ih
      have hkept : (state.kept.map size).sum ≤ (xs.map size).sum :=
        (ih.sublist.map size).sum_le_sum fun _ _ => Nat.zero_le _
      have hsum : ((xs ++ [x]).map size).sum = (xs.map size).sum + size x := by simp
      have hlength : (xs ++ [x]).length = xs.length + 1 := by simp
      have haccounted := ih.accounted
      have hused_eq := ih.used_eq
      have homits := ih.omits_iff
      unfold Retained.try
      split
      · next hover =>
          refine ⟨ih.sublist.trans (List.sublist_append_left xs [x]), ih.used_eq, ih.within,
            ?_, ?_⟩
          · rw [hlength]
            show state.kept.length + (state.omitted + 1) = _
            omega
          · rw [hsum]
            show state.omitted + 1 = 0 ↔ _
            omega
      · next hfits =>
          have hkeptSum : ((state.kept ++ [x]).map size).sum =
              (state.kept.map size).sum + size x := by simp
          refine ⟨ih.sublist.append (.refl [x]), ?_, Nat.le_of_not_lt hfits, ?_, ?_⟩
          · rw [hkeptSum]
            show state.used + size x = _
            omega
          · rw [hlength, List.length_append, List.length_singleton]
            show state.kept.length + 1 + state.omitted = _
            omega
          · rw [hsum]
            show state.omitted = 0 ↔ _
            -- Nothing was left out so far exactly when everything was kept so far.
            have hall : state.omitted = 0 → (state.kept.map size).sum = (xs.map size).sum := by
              intro hzero
              have heq : state.kept = xs := ih.sublist.eq_of_length (by omega)
              rw [heq]
            constructor
            · intro hzero
              have hkeptAll := hall hzero
              omega
            · intro hle
              exact homits.mpr (by omega)

/-- What is kept is among what was given. -/
theorem retain_subset (xs : List α) : (retain size limit used xs).kept ⊆ xs := by
  induction xs using List.reverseRecOn with
  | nil => exact fun _ h => h
  | append_singleton xs x ih =>
      rw [retain, List.foldl_append]
      show (Retained.try size limit (retain size limit used xs) x).kept ⊆ _
      unfold Retained.try
      split
      · exact fun y hy => List.mem_append_left _ (ih hy)
      · exact List.append_subset.mpr ⟨fun y hy => List.mem_append_left _ (ih hy),
          List.subset_append_right _ _⟩

end Retain

/-! ## Excerpts -/

/-- A record is the provenance of an excerpt. -/
structure Describes (record : ContextProvenanceRecord) (excerpt : SourceExcerpt) : Prop where
  kind : record.kind = .fileExcerpt
  id : record.provenanceId = excerpt.provenanceId
  location : record.locationPath = some excerpt.repositoryPath
  lines : record.lines = some (excerpt.lineStart, excerpt.lineEnd)
  fingerprint : record.sourceFingerprint = excerpt.fingerprint

theorem sourceExcerpt_make {excerpt made : SourceExcerpt} (h : excerpt.make = .ok made) :
    made = { excerpt with
      repositoryPath := excerpt.repositoryPath.posixText
      fingerprint := excerpt.fingerprint.strip
      provenanceId := excerpt.provenanceId.strip } := by
  simp only [SourceExcerpt.make, except_bind_eq_ok, except_pure_eq_ok] at h
  obtain ⟨path, hpath, _, -, fingerprint, hfingerprint, provenanceId, hprovenance, rfl⟩ := h
  rw [relativePath_eq_ok hpath, nonEmpty_eq_ok hfingerprint, nonEmpty_eq_ok hprovenance]

theorem provenanceRecord_make {record made : ContextProvenanceRecord}
    (h : record.make = .ok made) :
    made = { record with
      provenanceId := record.provenanceId.strip
      subject := record.subject.strip
      sourceFingerprint := record.sourceFingerprint.strip
      sensitivityAction := record.sensitivityAction.strip
      locationPath := record.locationPath.map PyText.posixText } := by
  simp only [ContextProvenanceRecord.make, except_bind_eq_ok, except_pure_eq_ok] at h
  obtain ⟨id, hid, subject, hsubject, fingerprint, hfingerprint, action, haction, location,
    hlocation, _, -, rfl⟩ := h
  have hmade : location = record.locationPath.map PyText.posixText := by
    cases hpath : record.locationPath with
    | none =>
        rw [hpath] at hlocation
        exact (Except.ok.inj hlocation).symm
    | some path =>
        rw [hpath] at hlocation
        cases htext : relativePath path "location_path" with
        | error e =>
            rw [ContextProvenanceRecord.checkLocation, htext] at hlocation
            cases hlocation
        | ok text =>
            rw [ContextProvenanceRecord.checkLocation, htext] at hlocation
            rw [← Except.ok.inj hlocation, relativePath_eq_ok htext]
            rfl
  rw [nonEmpty_eq_ok hid, nonEmpty_eq_ok hsubject, nonEmpty_eq_ok hfingerprint,
    nonEmpty_eq_ok haction, hmade]

/-- Adding an excerpt adds it and the record that describes it; a truncated excerpt is counted
    as an omission, too. -/
theorem Gathered.add_spec {gathered gathered' : Gathered} {maxCharacters : Nat}
    {file : FileReference} {window : Window} {action : PyText}
    (h : gathered.add maxCharacters file window action = .ok gathered') :
    ∃ excerpt record,
      gathered'.excerpts = gathered.excerpts ++ [excerpt] ∧
      gathered'.provenance = gathered.provenance ++ [record] ∧
      total gathered'.omissions = total gathered.omissions +
        (if maxCharacters < window.content.length then 1 else 0) ∧
      excerpt.repositoryPath = file.repositoryPath.posixText ∧
      excerpt.content = window.content.take maxCharacters ∧
      Describes record excerpt := by
  simp only [Gathered.add, except_bind_eq_ok, except_pure_eq_ok] at h
  obtain ⟨excerpt, hexcerpt, record, hrecord, rfl⟩ := h
  have hexcerpt' := sourceExcerpt_make hexcerpt
  have hrecord' := provenanceRecord_make hrecord
  refine ⟨excerpt, record, rfl, rfl, ?_, ?_, ?_, ?_⟩
  · show total (if _ then _ else _) = _
    split
    · exact total_bump _ _ _
    · rfl
  · rw [hexcerpt']
  · rw [hexcerpt']
  · rw [hexcerpt', hrecord']
    exact ⟨rfl, rfl, rfl, rfl, rfl⟩

section Gather

variable (readSanitized : PyText → SanitizedContent) (budget : ContextBudget)
  (artifacts : Dict PyText SourceArtifactRecord) (symbols : List SymbolReference)

/-- What of a file can be shown: nothing where the policy withholds the content. -/
def windowOf (file : FileReference) : Option Window :=
  (artifacts.get? file.repositoryPath).bind fun artifact =>
    (readSanitized artifact.absolutePath).content.map fun content =>
      windowAt budget.maxExcerptLines (anchorOf symbols file) content

/-- The files that are shown, each with its window: those that can be, as long as the number of
    excerpts allows. -/
def shownWindows (files : List FileReference) : List (FileReference × Window) :=
  (files.filterMap fun file =>
    (windowOf readSanitized budget artifacts symbols file).map (Prod.mk file)).take
      budget.maxExcerpts

/-- A window that an excerpt cannot hold whole. -/
def TooLong (window : Window) : Prop := budget.maxExcerptCharacters < window.content.length

instance : DecidablePred (TooLong budget) := fun _ => inferInstanceAs (Decidable (_ < _))

/-- The excerpt of a file shows its window. -/
structure Shows (shown : FileReference × Window) (excerpt : SourceExcerpt) : Prop where
  path : excerpt.repositoryPath = shown.1.repositoryPath.posixText
  content : excerpt.content = shown.2.content.take budget.maxExcerptCharacters

/-- What the loop has gathered from files. -/
structure GatheredSpec (files : List FileReference) (gathered : Gathered) : Prop where
  shown : List.Forall₂ (Shows budget)
    (shownWindows readSanitized budget artifacts symbols files) gathered.excerpts
  described : List.Forall₂ Describes gathered.provenance gathered.excerpts
  accounted : total gathered.omissions + gathered.excerpts.length = files.length +
    ((shownWindows readSanitized budget artifacts symbols files).filter fun shown =>
      TooLong budget shown.2).length

variable {readSanitized budget artifacts symbols}

theorem shownWindows_concat (files : List FileReference) (file : FileReference) :
    shownWindows readSanitized budget artifacts symbols (files ++ [file]) =
      (shownWindows readSanitized budget artifacts symbols files ++
        ((windowOf readSanitized budget artifacts symbols file).map
          (Prod.mk file)).toList).take budget.maxExcerpts := by
  have hlast : [file].filterMap (fun file =>
      (windowOf readSanitized budget artifacts symbols file).map (Prod.mk file)) =
        ((windowOf readSanitized budget artifacts symbols file).map (Prod.mk file)).toList := by
    rw [List.filterMap_cons]
    cases windowOf readSanitized budget artifacts symbols file <;> rfl
  rw [shownWindows, shownWindows, List.filterMap_append, hlast, List.take_append,
    List.take_append, List.take_take, Nat.min_self, List.length_take]
  congr 2
  omega

/-- A file that is not shown changes nothing of what is. -/
theorem shownWindows_skip {files : List FileReference} {file : FileReference}
    (h : budget.maxExcerpts ≤
        (shownWindows readSanitized budget artifacts symbols files).length ∨
      windowOf readSanitized budget artifacts symbols file = none) :
    shownWindows readSanitized budget artifacts symbols (files ++ [file]) =
      shownWindows readSanitized budget artifacts symbols files := by
  have hle : (shownWindows readSanitized budget artifacts symbols files).length ≤
      budget.maxExcerpts := List.length_take_le _ _
  rw [shownWindows_concat]
  rcases h with hfull | hnone
  · rw [List.take_append_of_le_length hfull, List.take_of_length_le hle]
  · rw [hnone, Option.map_none, Option.toList_none, List.append_nil, List.take_of_length_le hle]

/-- A file that is shown is shown last. -/
theorem shownWindows_show {files : List FileReference} {file : FileReference} {window : Window}
    (hroom : (shownWindows readSanitized budget artifacts symbols files).length <
      budget.maxExcerpts)
    (hwindow : windowOf readSanitized budget artifacts symbols file = some window) :
    shownWindows readSanitized budget artifacts symbols (files ++ [file]) =
      shownWindows readSanitized budget artifacts symbols files ++ [(file, window)] := by
  rw [shownWindows_concat, hwindow]
  refine List.take_of_length_le ?_
  rw [Option.map_some, Option.toList_some, List.length_append]
  exact hroom

/-- One file is left out, or its window is added. -/
theorem gatherExcerpt_cases {gathered gathered' : Gathered} {file : FileReference}
    (h : gatherExcerpt readSanitized budget artifacts symbols gathered file = .ok gathered') :
    ((budget.maxExcerpts ≤ gathered.excerpts.length ∨
        windowOf readSanitized budget artifacts symbols file = none) ∧
      ∃ reason, gathered' = gathered.leaveOut reason) ∨
    (gathered.excerpts.length < budget.maxExcerpts ∧ ∃ window action,
      windowOf readSanitized budget artifacts symbols file = some window ∧
        gathered.add budget.maxExcerptCharacters file window action = .ok gathered') := by
  unfold gatherExcerpt at h
  split at h
  · next hfull => exact .inl ⟨.inl hfull, _, (Except.ok.inj h).symm⟩
  · next hroom =>
      split at h
      · cases h
      · next artifact hartifact =>
          dsimp only at h
          split at h
          · next hwithheld =>
              refine .inl ⟨.inr ?_, _, (Except.ok.inj h).symm⟩
              rw [windowOf, hartifact, Option.bind_some, hwithheld, Option.map_none]
          · next content hcontent =>
              refine .inr ⟨Nat.lt_of_not_le hroom, _, _, ?_, h⟩
              rw [windowOf, hartifact, Option.bind_some, hcontent, Option.map_some]

/-- **What the loop gathers** from files: excerpts of the windows that can be shown, each with
    its record, and an omission for each other file and for each excerpt that was cut. -/
theorem gatherExcerpts_spec {files : List FileReference} {gathered : Gathered}
    (h : gatherExcerpts readSanitized budget artifacts symbols files = .ok gathered) :
    GatheredSpec readSanitized budget artifacts symbols files gathered := by
  induction files using List.reverseRecOn generalizing gathered with
  | nil =>
      cases h
      exact ⟨by simp [shownWindows, Gathered.empty], .nil, by
        simp [shownWindows, Gathered.empty, total_empty]⟩
  | append_singleton files file ih =>
      rw [gatherExcerpts, List.foldlM_append, except_bind_eq_ok] at h
      obtain ⟨before, hbefore, hstep⟩ := h
      rw [List.foldlM_cons, except_bind_eq_ok] at hstep
      obtain ⟨after, hstep, hdone⟩ := hstep
      cases hdone
      have hspec := ih hbefore
      have hlength := hspec.shown.length_eq
      have haccounted := hspec.accounted
      have hfiles : (files ++ [file]).length = files.length + 1 := by simp
      rcases gatherExcerpt_cases hstep with ⟨hskip, reason, rfl⟩ | ⟨hroom, window, action,
        hwindow, hadd⟩
      · have hsame := shownWindows_skip (hlength ▸ hskip)
        refine ⟨hsame ▸ hspec.shown, hspec.described, ?_⟩
        rw [hsame, hfiles]
        show total (bump before.omissions reason 1) + before.excerpts.length = _
        rw [total_bump]
        omega
      · obtain ⟨excerpt, record, hexcerpts, hprovenance, homissions, hpath, htext, hdescribes⟩ :=
          Gathered.add_spec hadd
        have hmore := shownWindows_show (hlength ▸ hroom) hwindow
        refine ⟨?_, ?_, ?_⟩
        · rw [hmore, hexcerpts]
          exact List.rel_append hspec.shown (.cons ⟨hpath, htext⟩ .nil)
        · rw [hprovenance, hexcerpts]
          exact List.rel_append hspec.described (.cons hdescribes .nil)
        · have hcut : ([(file, window)].filter fun shown => TooLong budget shown.2).length =
              if budget.maxExcerptCharacters < window.content.length then 1 else 0 := by
            by_cases hlong : budget.maxExcerptCharacters < window.content.length <;>
              simp [TooLong, hlong]
          rw [hmore, hexcerpts, homissions, hfiles, List.filter_append, List.length_append,
            List.length_append, hcut, List.length_singleton]
          omega

end Gather

end Eag.Context
