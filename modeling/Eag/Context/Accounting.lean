/-
  Eag.Context.Accounting

  The accounts of a selection. The count limits and the character limit always hold, and files,
  symbols and dependencies are always accounted for. Excerpts need not be: one that was cut is
  counted as included and as omitted, and the total budget drops an excerpt but keeps its
  provenance record. `accounted_iff` says exactly when the accounts are right.
-/

import Eag.Context.Exclusion

namespace Eag.Context

open Eag.Foundation

section Accounting

variable {Detail : Type} [DecidableEq Detail] {lower : PyText → PyText}
  {readSanitized : PyText → SanitizedContent} {goal : PyText}
  {snapshot : RepositoryContextSnapshot Detail} {budget : ContextBudget}
  {candidates : CandidateSets Detail} {refs : References} {result : SelectedRepositoryContext}

/-! ## The accounts -/

/-- The provenance records of excerpts correspond one to one to the excerpts. -/
def ExcerptsTraced (result : SelectedRepositoryContext) : Prop :=
  ∃ records, (result.provenance.filter fun record => record.kind = .fileExcerpt).Perm records ∧
    List.Forall₂ Describes records result.excerpts

/-- The limits hold, and every candidate is selected or counted as omitted. -/
structure WithinBudget (budget : ContextBudget) (candidates : CandidateSets Detail)
    (result : SelectedRepositoryContext) : Prop where
  files_within : result.files.length ≤ budget.maxFiles
  symbols_within : result.symbols.length ≤ budget.maxSymbols
  dependencies_within : result.dependencies.length ≤ budget.maxDependencies
  excerpts_within : result.excerpts.length ≤ budget.maxExcerpts
  characters_within :
    (result.excerpts.map fun excerpt => excerpt.content.length).sum ≤ budget.maxTotalCharacters
  files_counted : result.files.length + result.truncation.omittedCounts.files =
    candidates.files.items.length
  symbols_counted : result.symbols.length + result.truncation.omittedCounts.symbols =
    candidates.symbols.items.length
  dependencies_counted :
    result.dependencies.length + result.truncation.omittedCounts.dependencies =
      candidates.dependencies.items.length

/-- The excerpts are accounted for, too; one may be given for every file that is selected. -/
structure Accounted (budget : ContextBudget) (candidates : CandidateSets Detail)
    (result : SelectedRepositoryContext) : Prop extends
    WithinBudget budget candidates result where
  excerpts_counted : result.excerpts.length + result.truncation.omittedCounts.excerpts =
    result.files.length
  traced : ExcerptsTraced result

/-! ## What the accounts depend on -/

variable (readSanitized snapshot budget refs) in
/-- The windows of the files taken. -/
def windowsOf : List (FileReference × Window) :=
  shownWindows readSanitized budget (artifactsOf snapshot) refs.symbols refs.files

variable (snapshot budget refs) in
/-- The characters that the summary and the findings take of the total budget. -/
def charactersBefore : Nat :=
  let summary := repositorySummary snapshot budget
  (retain List.length budget.maxTotalCharacters
    (summary.take (min summary.length (budget.maxTotalCharacters / 4))).length
    (sourceFindings refs.files refs.symbols refs.dependencies)).used

variable (readSanitized snapshot budget refs) in
/-- No window is cut, and all of them fit. -/
structure FitsWhole : Prop where
  uncut : ∀ shown ∈ windowsOf readSanitized snapshot budget refs, ¬TooLong budget shown.2
  fits : charactersBefore snapshot budget refs +
    ((windowsOf readSanitized snapshot budget refs).map fun shown => shown.2.content.length).sum ≤
      budget.maxTotalCharacters

/-! ## The excerpts under the total budget -/

omit [DecidableEq Detail] in
theorem charactersBefore_le : charactersBefore snapshot budget refs ≤ budget.maxTotalCharacters := by
  refine (retain_spec ?_ _).within
  have hquarter : budget.maxTotalCharacters / 4 ≤ budget.maxTotalCharacters := Nat.div_le_self _ _
  rw [List.length_take]
  omega

/-- The count of omitted excerpts is that of the loop and that of the total budget. -/
theorem total_excerptReasons (omissions : Dict PyText Nat) (reason : PyText) (count : Nat) :
    total (if count ≠ 0 then bump omissions reason count else omissions) =
      total omissions + count := by
  split
  · exact total_bump omissions reason count
  · next hzero => rw [Classical.not_not.mp hzero, Nat.add_zero]

/-- What the total budget keeps of the excerpts that were gathered. -/
theorem excerpts_spec (stages : Stages lower readSanitized goal snapshot budget result) :
    ∃ state : Retained SourceExcerpt,
      RetainSpec (fun excerpt : SourceExcerpt => excerpt.content.length)
        budget.maxTotalCharacters (charactersBefore snapshot budget stages.refs)
        stages.gathered.excerpts state ∧
      result.excerpts = state.kept ∧
      result.truncation.omittedCounts.excerpts =
        total stages.gathered.omissions + state.omitted := by
  refine ⟨_, retain_spec charactersBefore_le stages.gathered.excerpts, stages.constrained_eq, ?_⟩
  rw [stages.truncation_eq]
  exact total_excerptReasons _ _ _

/-- An excerpt that was cut is counted twice. -/
theorem excerpts_total (stages : Stages lower readSanitized goal snapshot budget result) :
    result.excerpts.length + result.truncation.omittedCounts.excerpts =
      result.files.length +
        ((windowsOf readSanitized snapshot budget stages.refs).filter fun shown =>
          TooLong budget shown.2).length := by
  obtain ⟨state, hstate, hkept, homitted⟩ := excerpts_spec stages
  have hgathered := (gatherExcerpts_spec stages.gathered_eq).accounted
  have hbudget := hstate.accounted
  rw [hkept, homitted, stages.files_eq]
  unfold windowsOf
  omega

/-- The content of uncut excerpts is that of their windows. -/
theorem sum_content {shown : List (FileReference × Window)} {excerpts : List SourceExcerpt}
    (hshows : List.Forall₂ (Shows budget) shown excerpts)
    (huncut : ∀ pair ∈ shown, ¬TooLong budget pair.2) :
    (excerpts.map fun excerpt => excerpt.content.length).sum =
      (shown.map fun pair => pair.2.content.length).sum := by
  induction hshows with
  | nil => rfl
  | @cons pair excerpt _ _ hfirst _ ih =>
      obtain ⟨hpair, hrest⟩ := List.forall_mem_cons.mp huncut
      have hwhole : excerpt.content.length = pair.2.content.length := by
        rw [hfirst.content, List.length_take]
        exact Nat.min_eq_right (Nat.le_of_not_lt hpair)
      rw [List.map_cons, List.map_cons, List.sum_cons, List.sum_cons, hwhole, ih hrest]

/-- Uncut excerpts are all kept exactly when all of them fit. -/
theorem all_kept_iff (stages : Stages lower readSanitized goal snapshot budget result)
    (huncut : ∀ shown ∈ windowsOf readSanitized snapshot budget stages.refs,
      ¬TooLong budget shown.2) :
    result.excerpts.length = stages.gathered.excerpts.length ↔
      charactersBefore snapshot budget stages.refs +
        ((windowsOf readSanitized snapshot budget stages.refs).map fun shown =>
          shown.2.content.length).sum ≤ budget.maxTotalCharacters := by
  obtain ⟨state, hstate, hkept, -⟩ := excerpts_spec stages
  have hsum := sum_content (gatherExcerpts_spec stages.gathered_eq).shown huncut
  have hcounted := hstate.accounted
  have hfits := hstate.omits_iff
  rw [hsum] at hfits
  rw [hkept]
  refine Iff.trans ?_ hfits
  omega

/-! ## The provenance of excerpts -/

theorem kind_of_make {record made : ContextProvenanceRecord} (h : record.make = .ok made) :
    made.kind = record.kind := by
  rw [provenanceRecord_make h]

omit [DecidableEq Detail] in
/-- The records of a selection that are about excerpts are those that the loop gathered. -/
theorem excerptRecords_perm {excerptProvenance provenance : List ContextProvenanceRecord}
    (hkinds : ∀ record ∈ excerptProvenance, record.kind = .fileExcerpt)
    (h : provenanceRecords snapshot refs.files refs.symbols refs.dependencies excerptProvenance =
      .ok provenance) :
    (provenance.filter fun record => record.kind = .fileExcerpt).Perm excerptProvenance := by
  simp only [provenanceRecords, except_bind_eq_ok, except_pure_eq_ok, mapM_eq_ok_forall₂] at h
  obtain ⟨records, hrecords, rfl⟩ := h
  -- The other records have other kinds.
  have hothers : records.filter (fun record => record.kind = .fileExcerpt) = [] := by
    refine List.filter_eq_nil_iff.mpr fun made hmade => ?_
    obtain ⟨record, hrecord, hmake⟩ := exists_mem_of_forall₂_right hrecords hmade
    rw [decide_eq_true_eq, kind_of_make hmake]
    simp only [List.mem_append, List.mem_map, List.mem_filterMap, repositoryRecords,
      List.mem_cons, List.not_mem_nil, or_false] at hrecord
    rcases hrecord with (((rfl | rfl) | ⟨file, -, rfl⟩) | ⟨symbol, -, hsymbol⟩) |
      ⟨dependency, -, rfl⟩
    · exact fun h => by cases h
    · exact fun h => by cases h
    · exact fun h => by cases h
    · obtain ⟨file, -, rfl⟩ := Option.map_eq_some_iff.mp hsymbol
      exact fun h => by cases h
    · exact fun h => by cases h
  have hown : excerptProvenance.filter (fun record => record.kind = .fileExcerpt) =
      excerptProvenance :=
    List.filter_eq_self.mpr fun record hrecord => decide_eq_true (hkinds record hrecord)
  have hperm := (sortedBy_perm (fun record : ContextProvenanceRecord => record.provenanceId.order)
    (records ++ excerptProvenance)).filter fun record => record.kind = .fileExcerpt
  rwa [List.filter_append, hothers, List.nil_append, hown] at hperm

/-- The records correspond to the excerpts exactly when no excerpt was dropped after they were
    made. -/
theorem traced_iff (stages : Stages lower readSanitized goal snapshot budget result)
    (hkept : result.excerpts.Sublist stages.gathered.excerpts) :
    ExcerptsTraced result ↔ result.excerpts.length = stages.gathered.excerpts.length := by
  have hdescribed := (gatherExcerpts_spec stages.gathered_eq).described
  have hkinds : ∀ record ∈ stages.gathered.provenance, record.kind = .fileExcerpt := by
    intro record hrecord
    obtain ⟨excerpt, -, hdescribes⟩ := exists_mem_of_forall₂ hdescribed hrecord
    exact hdescribes.kind
  have hperm := excerptRecords_perm hkinds stages.provenance_eq
  constructor
  · rintro ⟨records, hrecords, hall⟩
    have hcount : records.length = stages.gathered.provenance.length :=
      (hrecords.symm.trans hperm).length_eq
    rw [← hall.length_eq, hcount, hdescribed.length_eq]
  · intro hlength
    refine ⟨stages.gathered.provenance, hperm, ?_⟩
    rw [hkept.eq_of_length hlength]
    exact hdescribed

/-! ## The accounts are right -/

/-- **The limits always hold**, and so do the accounts of files, symbols and dependencies. -/
theorem within_budget (stages : Stages lower readSanitized goal snapshot budget result) :
    WithinBudget budget stages.candidates result := by
  obtain ⟨hfiles, hsymbols, hdependencies, hfilesLeft, hsymbolsLeft, hdependenciesLeft⟩ :=
    takeReferences_eq_ok stages.refs_eq
  obtain ⟨state, hstate, hkept, -⟩ := excerpts_spec stages
  have hexcerpts : result.excerpts.length ≤ stages.gathered.excerpts.length := by
    rw [hkept]
    exact hstate.sublist.length_le
  have hgathered : stages.gathered.excerpts.length ≤ budget.maxExcerpts := by
    rw [← (gatherExcerpts_spec stages.gathered_eq).shown.length_eq]
    exact List.length_take_le _ _
  have hcharacters := hstate.within
  rw [hstate.used_eq, ← hkept] at hcharacters
  have hfileCounts := takeRanked_accounted id stages.candidates.files budget.maxFiles
  have hsymbolCounts := takeRanked_accounted
    (fun symbol : IndexedSymbol Detail => symbol.identity.qualifiedName)
    stages.candidates.symbols budget.maxSymbols
  have hdependencyCounts := takeRanked_accounted dependencyKey stages.candidates.dependencies
    budget.maxDependencies
  rw [hfiles.length_eq, ← hfilesLeft, ← stages.files_eq] at hfileCounts
  rw [hsymbols.length_eq, ← hsymbolsLeft, ← stages.symbols_eq] at hsymbolCounts
  rw [hdependencies.length_eq, ← hdependenciesLeft, ← stages.dependencies_eq]
    at hdependencyCounts
  exact {
    files_within := hfileCounts.1
    symbols_within := hsymbolCounts.1
    dependencies_within := hdependencyCounts.1
    excerpts_within := hexcerpts.trans hgathered
    characters_within := (Nat.le_add_left _ _).trans hcharacters
    files_counted := by
      rw [stages.truncation_eq]
      exact hfileCounts.2
    symbols_counted := by
      rw [stages.truncation_eq]
      exact hsymbolCounts.2
    dependencies_counted := by
      rw [stages.truncation_eq]
      exact hdependencyCounts.2 }

/-- The excerpts are counted right exactly when no window is cut. -/
theorem excerpts_counted_iff (stages : Stages lower readSanitized goal snapshot budget result) :
    result.excerpts.length + result.truncation.omittedCounts.excerpts = result.files.length ↔
      ∀ shown ∈ windowsOf readSanitized snapshot budget stages.refs,
        ¬TooLong budget shown.2 := by
  rw [excerpts_total stages, Nat.add_eq_left, List.length_eq_zero_iff, List.filter_eq_nil_iff]
  simp only [decide_eq_true_eq]

/-- **The accounts of a selection** are right exactly when no window is cut and all windows fit
    into what the summary and the findings leave of the total budget. -/
theorem accounted_iff (hcandidates : candidateSets lower goal snapshot budget = .ok candidates)
    (hrefs : takeReferences lower (artifactsOf snapshot) candidates budget = .ok refs)
    (h : select lower readSanitized goal snapshot budget = .ok result) :
    Accounted budget candidates result ↔ FitsWhole readSanitized snapshot budget refs := by
  obtain ⟨stages⟩ := select_stages h
  have hsame : stages.candidates = candidates :=
    Except.ok.inj (stages.candidates_eq.symm.trans hcandidates)
  have hrefsEq : stages.refs = refs := by
    have heq := stages.refs_eq
    rw [hsame] at heq
    exact Except.ok.inj (heq.symm.trans hrefs)
  subst hsame hrefsEq
  obtain ⟨state, hstate, hkept, -⟩ := excerpts_spec stages
  have htraced := traced_iff stages (hkept ▸ hstate.sublist)
  constructor
  · intro haccounted
    have huncut := (excerpts_counted_iff stages).mp haccounted.excerpts_counted
    exact ⟨huncut, (all_kept_iff stages huncut).mp (htraced.mp haccounted.traced)⟩
  · intro hfits
    have hall := (all_kept_iff stages hfits.uncut).mpr hfits.fits
    exact ⟨within_budget stages, (excerpts_counted_iff stages).mpr hfits.uncut,
      htraced.mpr hall⟩

end Accounting

/-! ## A selection that miscounts -/

/-- A budget of five characters for an excerpt. -/
def shortExcerpts : ContextBudget := { maxExcerptCharacters := 5 }

/-- What the selection goes through and how it counts its excerpts. -/
theorem select_shortExcerpts : ∃ candidates refs result,
    candidateSets id (.ofString "fix app.start") excludedImport shortExcerpts =
      .ok candidates ∧
    takeReferences id (artifactsOf excludedImport) candidates shortExcerpts = .ok refs ∧
    select id showEverything (.ofString "fix app.start") excludedImport shortExcerpts =
      .ok result ∧
    result.excerpts.length = 1 ∧ result.truncation.omittedCounts.excerpts = 1 ∧
      result.files.length = 1 := by
  have hcounts : (select id showEverything (.ofString "fix app.start") excludedImport
      shortExcerpts).map (fun result => (result.excerpts.length,
        result.truncation.omittedCounts.excerpts, result.files.length)) = .ok (1, 1, 1) := by
    decide +kernel
  cases hselected : select id showEverything (.ofString "fix app.start") excludedImport
      shortExcerpts with
  | error e =>
      rw [hselected] at hcounts
      cases hcounts
  | ok result =>
      rw [hselected] at hcounts
      obtain ⟨stages⟩ := select_stages hselected
      obtain ⟨hexcerpts, hrest⟩ := Prod.mk.inj (Except.ok.inj hcounts)
      obtain ⟨homitted, hfiles⟩ := Prod.mk.inj hrest
      exact ⟨stages.candidates, stages.refs, result, stages.candidates_eq, stages.refs_eq, rfl,
        hexcerpts, homitted, hfiles⟩

theorem accounted_iff_shortExcerpts : ∃ candidates refs result,
    candidateSets id (.ofString "fix app.start") excludedImport shortExcerpts =
      .ok candidates ∧
    select id showEverything (.ofString "fix app.start") excludedImport shortExcerpts =
      .ok result ∧
    (Accounted shortExcerpts candidates result ↔
      FitsWhole showEverything excludedImport shortExcerpts refs) := by
  obtain ⟨candidates, refs, result, hcandidates, hrefs, hselected, -⟩ := select_shortExcerpts
  exact ⟨candidates, refs, result, hcandidates, hselected, accounted_iff hcandidates hrefs hselected⟩

/-- The one excerpt of the one file is cut, and counted as included and as omitted. -/
theorem cut_excerpt_counted_twice :
    ¬∀ candidates result,
      candidateSets id (.ofString "fix app.start") excludedImport shortExcerpts =
        .ok candidates →
      select id showEverything (.ofString "fix app.start") excludedImport shortExcerpts =
        .ok result →
      Accounted shortExcerpts candidates result := by
  intro haccounted
  obtain ⟨candidates, refs, result, hcandidates, -, hselected, hexcerpts, homitted, hfiles⟩ :=
    select_shortExcerpts
  have hcounted := (haccounted candidates result hcandidates hselected).excerpts_counted
  omega

end Eag.Context
