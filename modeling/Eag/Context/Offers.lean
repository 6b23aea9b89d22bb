/-
  Eag.Context.Offers

  What the routes of a selection offer, said from the inputs: the symbols that the goal names,
  those in a module that a dependency joins to a target, and those whose node is near a selected
  node. The candidates are the best of these offers (`symbols_eq_offers`).
-/

import Eag.Context.Selection

namespace Eag.Context

open Eag.Foundation
open Eag.Source (Dependency)
open Eag.Graph (EngineeringGraph GraphEdge)

/-! ## Loops that offer -/

section Loops

variable {κ ν α : Type} [DecidableEq κ] {score : ν → Int}

theorem offers_append (d : Dict κ ν) (first second : List (κ × ν)) :
    d.offers score (first ++ second) = (d.offers score first).offers score second :=
  List.foldl_append

/-- A loop that offers something for some elements. -/
theorem foldl_offer_filter (p : α → Prop) [DecidablePred p] (k : α → κ) (v : α → ν)
    (xs : List α) (d : Dict κ ν) :
    xs.foldl (fun d x => if p x then d.offer score (k x) (v x) else d) d =
      d.offers score ((xs.filter fun x => p x).map fun x => (k x, v x)) := by
  induction xs generalizing d with
  | nil => rfl
  | cons x xs ih =>
      rw [List.foldl_cons, ih, List.filter_cons]
      split
      · next h => rw [if_pos (decide_eq_true h), List.map_cons]; rfl
      · next h => rw [if_neg (by simpa using h)]

/-- A loop over loops that offer. -/
theorem foldl_offers_flatMap (p : α → Prop) [DecidablePred p] (pairs : α → List (κ × ν))
    (xs : List α) (d : Dict κ ν) :
    xs.foldl (fun d x => if p x then d.offers score (pairs x) else d) d =
      d.offers score ((xs.filter fun x => p x).flatMap pairs) := by
  induction xs generalizing d with
  | nil => rfl
  | cons x xs ih =>
      rw [List.foldl_cons, ih, List.filter_cons]
      split
      · next h => rw [if_pos (decide_eq_true h), List.flatMap_cons, offers_append]
      · next h => rw [if_neg (by simpa using h)]

theorem set_self {d : Dict κ ν} {k : κ} {v : ν} (h : d.get? k = some v) : d.set k v = d := by
  have hitems : (d.set k v).items = d.items := by
    have hmem := Dict.get?_eq_some.mp h
    have hkeys : (d.set k v).keys = d.keys := by
      rw [Dict.keys_set, if_pos (Dict.mem_keys.mpr ⟨v, hmem⟩)]
    rw [Dict.items_eq, Dict.items_eq d, hkeys]
    refine List.filterMap_congr fun other _ => ?_
    rw [Dict.get?_set]
    split
    · next heq => rw [heq, h]
    · rfl
  cases d
  exact (Dict.mk.injEq ..).mpr hitems

/-- Assigning what is filed already, or to a new key, is offering it. -/
theorem set_eq_offer {d : Dict κ ν} {k : κ} {v : ν} (h : ∀ w, d.get? k = some w → w = v) :
    d.set k v = d.offer score k v := by
  unfold Dict.offer
  split
  · rfl
  · next filed hfiled =>
      have hv := h filed hfiled
      subst hv
      rw [if_neg (lt_irrefl _), set_self hfiled]

/-- A loop that assigns to each key a value of its own. -/
theorem foldl_set_eq_offers (value : κ → Option ν) (xs : List κ) {d : Dict κ ν}
    (hd : ∀ k w, d.get? k = some w → value k = some w) :
    xs.foldl (fun d x => (value x).elim d (d.set x)) d =
      d.offers score (xs.filterMap fun x => (value x).map (Prod.mk x)) := by
  induction xs generalizing d with
  | nil => rfl
  | cons x xs ih =>
      rw [List.foldl_cons, List.filterMap_cons]
      cases hvalue : value x with
      | none => exact ih hd
      | some v =>
          have hset : d.set x v = d.offer score x v := by
            refine set_eq_offer fun w hw => ?_
            have hw' := hd x w hw
            rw [hvalue] at hw'
            exact (Option.some.inj hw').symm
          show xs.foldl _ (d.set x v) = (d.offer score x v).offers score _
          rw [← hset]
          refine ih fun k w hw => ?_
          rw [Dict.get?_set] at hw
          split at hw
          · next heq => rw [heq, hvalue, hw]
          · exact hd k w hw

end Loops

/-! ## The offers -/

section Offers

variable {Detail : Type} [DecidableEq Detail] (lower : PyText → PyText) (goal : PyText)
  (snapshot : RepositoryContextSnapshot Detail)

/-- The paths of the files that passed the exclusion check. -/
def admittedPaths : List PyText := (artifactsOf snapshot).keys

/-- The file of a symbol passed the exclusion check. -/
def Admitted (symbol : IndexedSymbol Detail) : Prop := symbol.path ∈ admittedPaths snapshot

instance : DecidablePred (Admitted snapshot) := fun _ => inferInstanceAs (Decidable (_ ∈ _))

/-- The tokens of the goal. -/
def tokensOf : List PyText := goalTokens lower (lower goal)

/-- The goal mentions a file. -/
def MentionsFile (path : PyText) : Prop :=
  ∃ candidate, fileCandidate lower (lower goal) (tokensOf lower goal) path = .ok (some candidate)

instance : DecidablePred (MentionsFile lower goal) := fun path =>
  match h : fileCandidate lower (lower goal) (tokensOf lower goal) path with
  | .ok (some candidate) => .isTrue ⟨candidate, h⟩
  | .ok none => .isFalse fun ⟨_, h'⟩ => nomatch h.symm.trans h'
  | .error _ => .isFalse fun ⟨_, h'⟩ => nomatch h.symm.trans h'

/-- The files that passed the check and that the goal mentions. -/
def mentionedFiles : List PyText :=
  (admittedPaths snapshot).filter fun path => MentionsFile lower goal path

/-- The candidate that a symbol is by its name. -/
def namedCandidate (symbol : IndexedSymbol Detail) : Option Candidate :=
  if Admitted snapshot symbol then
    symbolCandidate lower (lower goal) (tokensOf lower goal) symbol else none

/-- The symbols that the goal names. -/
def namedOffers : List (IndexedSymbol Detail × Candidate) :=
  snapshot.index.symbols.filterMap fun symbol =>
    (namedCandidate lower goal snapshot symbol).map (Prod.mk symbol)

/-- The modules that a dependency has to touch. -/
def targetedModules : List PyText :=
  targetModules (mentionedFiles lower goal snapshot)
    ((namedOffers lower goal snapshot).map Prod.fst)

/-- The symbols in a module of a dependency that touches a target. -/
def directOffers : List (IndexedSymbol Detail × Candidate) :=
  (snapshot.index.dependencies.filter fun dependency =>
      Touches (targetedModules lower goal snapshot) dependency).flatMap fun dependency =>
    (snapshot.index.symbols.filter fun symbol =>
        symbol.identity.module_ = dependency.source ∨
          symbol.identity.module_ = dependency.target).map fun symbol =>
      (symbol, ⟨600, .directStructure⟩)

/-- The symbols that are named or directly related. -/
def targetedSymbols : List (IndexedSymbol Detail) :=
  (namedOffers lower goal snapshot ++ directOffers lower goal snapshot).map Prod.fst

/-- The symbols whose node is near a selected node. -/
def neighbourOffers (maxDepth : Nat) : List (IndexedSymbol Detail × Candidate) :=
  match snapshot.graph with
  | none => []
  | some graph =>
      let related := relatedNames graph (targetedSymbols lower goal snapshot) maxDepth
      (snapshot.index.symbols.filter fun symbol =>
        symbol.identity.qualifiedName ∈ related).map fun symbol =>
          (symbol, ⟨450, .impactExpansion⟩)

/-- Everything that is offered. -/
def symbolOffers (maxDepth : Nat) : List (IndexedSymbol Detail × Candidate) :=
  namedOffers lower goal snapshot ++ directOffers lower goal snapshot ++
    neighbourOffers lower goal snapshot maxDepth

/-! ## The candidates are the best offers -/

omit [DecidableEq Detail] in
theorem targetModules_congr {files files' : List PyText}
    {symbols symbols' : List (IndexedSymbol Detail)} (hfiles : files = files')
    (hsymbols : ∀ symbol, symbol ∈ symbols ↔ symbol ∈ symbols') (name : PyText) :
    name ∈ targetModules files symbols ↔ name ∈ targetModules files' symbols' := by
  simp only [targetModules, List.mem_append, List.mem_map, hfiles, hsymbols]

theorem touches_congr {modules modules' : List PyText}
    (h : ∀ name, name ∈ modules ↔ name ∈ modules') (dependency : Dependency) :
    Touches modules dependency ↔ Touches modules' dependency := by
  rw [Touches, Touches, h, h]

omit [DecidableEq Detail] in
theorem selectedNodeIds_congr (graph : EngineeringGraph)
    {symbols symbols' : List (IndexedSymbol Detail)}
    (h : ∀ symbol, symbol ∈ symbols ↔ symbol ∈ symbols') :
    selectedNodeIds graph symbols = selectedNodeIds graph symbols' := by
  simp only [selectedNodeIds, List.mem_append, List.mem_map, h]

omit [DecidableEq Detail] in
theorem relatedNames_congr (graph : EngineeringGraph)
    {symbols symbols' : List (IndexedSymbol Detail)}
    (h : ∀ symbol, symbol ∈ symbols ↔ symbol ∈ symbols') (maxDepth : Nat) :
    relatedNames graph symbols maxDepth = relatedNames graph symbols' maxDepth := by
  rw [relatedNames, relatedNames, selectedNodeIds_congr graph h]

/-- The keys that are filed are those for which something was offered. -/
theorem mem_keys_offers {κ ν : Type} [DecidableEq κ] (score : ν → Int) (pairs : List (κ × ν))
    (k : κ) : k ∈ (Dict.empty.offers score pairs).keys ↔ k ∈ pairs.map Prod.fst := by
  rw [Dict.keys_offers, List.mem_eraseDups]

/-- The file candidates are those files, in the order of the artifacts. -/
theorem keys_fileCandidates {paths : List PyText} (hnodup : paths.Nodup)
    {files : Dict PyText Candidate}
    (h : fileCandidates lower (lower goal) (tokensOf lower goal) paths = .ok files) :
    files.keys = paths.filter fun path => MentionsFile lower goal path := by
  -- A path that comes now has no candidate yet.
  have hloop : ∀ (paths : List PyText) (d : Dict PyText Candidate), paths.Nodup →
      (∀ path ∈ paths, path ∉ d.keys) →
      paths.foldlM (fun candidates path =>
        (fileCandidate lower (lower goal) (tokensOf lower goal) path).map fun found =>
          found.elim candidates fun candidate => candidates.set path candidate) d = .ok files →
      files.keys = d.keys ++ paths.filter fun path => MentionsFile lower goal path := by
    intro paths
    induction paths with
    | nil =>
        intro d _ _ h
        rw [← Except.ok.inj h, List.filter_nil, List.append_nil]
    | cons path rest ih =>
        intro d hnodup hnew h
        obtain ⟨hpath, hrest⟩ := List.nodup_cons.mp hnodup
        obtain ⟨hfirst, hothers⟩ := List.forall_mem_cons.mp hnew
        rw [List.foldlM_cons, except_bind_eq_ok] at h
        obtain ⟨d', hd', h⟩ := h
        cases hfound : fileCandidate lower (lower goal) (tokensOf lower goal) path with
        | error e =>
            rw [hfound] at hd'
            cases hd'
        | ok found =>
            rw [hfound] at hd'
            cases found with
            | none =>
                cases hd'
                have hnot : ¬MentionsFile lower goal path := by
                  rintro ⟨candidate, h'⟩
                  exact nomatch hfound.symm.trans h'
                rw [ih d hrest hothers h, List.filter_cons, if_neg (by simpa using hnot)]
            | some candidate =>
                cases hd'
                have hkeys : (d.set path candidate).keys = d.keys ++ [path] := by
                  rw [Dict.keys_set, if_neg hfirst]
                have hmentions : MentionsFile lower goal path := ⟨candidate, hfound⟩
                have hlater : ∀ other ∈ rest, other ∉ (d.set path candidate).keys := by
                  intro other hother hmem
                  rcases Dict.mem_keys_set.mp hmem with hmem | rfl
                  · exact hothers other hother hmem
                  · exact hpath hother
                rw [ih _ hrest hlater h, hkeys, List.filter_cons,
                  if_pos (decide_eq_true hmentions), List.append_assoc, List.singleton_append]
  exact hloop paths Dict.empty hnodup (fun _ _ h => nomatch h) h

theorem symbolCandidates_eq :
    symbolCandidates lower (lower goal) (tokensOf lower goal) snapshot.index.symbols
        (admittedPaths snapshot) =
      Dict.empty.offers Candidate.score (namedOffers lower goal snapshot) := by
  have hstep : ∀ (d : Dict (IndexedSymbol Detail) Candidate) (symbol : IndexedSymbol Detail),
      (if symbol.path ∈ admittedPaths snapshot then
        (symbolCandidate lower (lower goal) (tokensOf lower goal) symbol).elim d (d.set symbol)
        else d) = (namedCandidate lower goal snapshot symbol).elim d (d.set symbol) := by
    intro d symbol
    by_cases hadmitted : Admitted snapshot symbol
    · rw [namedCandidate, if_pos hadmitted]
      exact if_pos hadmitted
    · rw [namedCandidate, if_neg hadmitted]
      exact if_neg hadmitted
  unfold symbolCandidates namedOffers
  simp only [hstep]
  exact foldl_set_eq_offers _ _ fun _ _ h => nomatch h

theorem addDirectStructure_eq {files : Dict PyText Candidate}
    (hfiles : files.keys = mentionedFiles lower goal snapshot) :
    addDirectStructure snapshot.index files
        (Dict.empty.offers Candidate.score (namedOffers lower goal snapshot)) =
      Dict.empty.offers Candidate.score
        (namedOffers lower goal snapshot ++ directOffers lower goal snapshot) := by
  have htouches : ∀ dependency,
      Touches (targetModules files.keys
        (Dict.empty.offers Candidate.score (namedOffers lower goal snapshot)).keys) dependency ↔
      Touches (targetedModules lower goal snapshot) dependency :=
    touches_congr (targetModules_congr hfiles fun symbol => mem_keys_offers _ _ symbol)
  unfold addDirectStructure
  simp only [htouches, foldl_offer_filter]
  rw [foldl_offers_flatMap, offers_append]
  rfl

omit [DecidableEq Detail] in
/-- No step leads to no neighbour. -/
theorem relatedNames_zero (graph : EngineeringGraph) (symbols : List (IndexedSymbol Detail)) :
    relatedNames graph symbols 0 = [] := by
  rw [relatedNames, List.map_eq_nil_iff, List.filter_eq_nil_iff]
  intro node _ h
  obtain ⟨hvisited, hnot⟩ := of_decide_eq_true h
  exact hnot hvisited

theorem addGraphNeighborhood_eq (maxDepth : Nat) :
    addGraphNeighborhood snapshot.index snapshot.graph
        (Dict.empty.offers Candidate.score
          (namedOffers lower goal snapshot ++ directOffers lower goal snapshot)) maxDepth =
      Dict.empty.offers Candidate.score (symbolOffers lower goal snapshot maxDepth) := by
  unfold addGraphNeighborhood symbolOffers neighbourOffers
  cases snapshot.graph with
  | none => simp only [List.append_nil]
  | some graph =>
      have hrelated := relatedNames_congr graph
        (fun symbol => mem_keys_offers Candidate.score
          (namedOffers lower goal snapshot ++ directOffers lower goal snapshot) symbol) maxDepth
      simp only [hrelated, foldl_offer_filter]
      split
      · next hzero =>
          subst hzero
          rw [relatedNames_zero]
          simp
      · rw [offers_append _ (namedOffers lower goal snapshot ++ directOffers lower goal snapshot)]
        rfl

variable {lower goal snapshot}

/-- **The symbol candidates** are the best offers. -/
theorem symbols_eq_offers {budget : ContextBudget} {candidates : CandidateSets Detail}
    (h : candidateSets lower goal snapshot budget = .ok candidates) :
    candidates.symbols = Dict.empty.offers Candidate.score
      (symbolOffers lower goal snapshot budget.maxGraphDepth) := by
  simp only [candidateSets, except_bind_eq_ok, except_pure_eq_ok] at h
  obtain ⟨-, -, files, hfiles, rfl⟩ := h
  have hkeys : files.keys = mentionedFiles lower goal snapshot :=
    keys_fileCandidates lower goal (artifactsOf snapshot).keys_nodup hfiles
  show addGraphNeighborhood _ _ (addDirectStructure _ files (symbolCandidates lower (lower goal)
    (tokensOf lower goal) snapshot.index.symbols (admittedPaths snapshot))) _ = _
  rw [symbolCandidates_eq, addDirectStructure_eq lower goal snapshot hkeys,
    addGraphNeighborhood_eq]

/-- A loop that offers to some keys files no others. -/
theorem keys_foldl_offer {κ ν α : Type} [DecidableEq κ] {score : ν → Int} {keys : List κ}
    {k : α → κ} {v : α → ν} {p : α → Prop} [DecidablePred p] (hp : ∀ x, p x → k x ∈ keys)
    {xs : List α} {d : Dict κ ν} (hd : ∀ key ∈ d.keys, key ∈ keys) :
    ∀ key ∈ (xs.foldl (fun d x => if p x then d.offer score (k x) (v x) else d) d).keys,
      key ∈ keys := by
  induction xs generalizing d with
  | nil => exact hd
  | cons x xs ih =>
      rw [List.foldl_cons]
      refine ih fun key hkey => ?_
      split at hkey
      · next hx =>
          rw [Dict.keys_offer] at hkey
          split at hkey
          · exact hd key hkey
          · rcases List.mem_append.mp hkey with hkey | hkey
            · exact hd key hkey
            · rw [List.mem_singleton.mp hkey]
              exact hp x hx
      · exact hd key hkey

omit [DecidableEq Detail] in
/-- The files of symbols are among the artifacts. -/
theorem keys_addSymbolFiles {files : Dict PyText Candidate}
    {symbols : Dict (IndexedSymbol Detail) Candidate} {paths : List PyText}
    (hfiles : ∀ path ∈ files.keys, path ∈ paths) :
    ∀ path ∈ (addSymbolFiles files symbols paths).keys, path ∈ paths := by
  unfold addSymbolFiles
  exact keys_foldl_offer (fun _ h => h) hfiles

/-- **The file candidates** passed the exclusion check. -/
theorem files_admitted {budget : ContextBudget} {candidates : CandidateSets Detail}
    (h : candidateSets lower goal snapshot budget = .ok candidates) :
    ∀ path ∈ candidates.files.keys, path ∈ admittedPaths snapshot := by
  simp only [candidateSets, except_bind_eq_ok, except_pure_eq_ok] at h
  obtain ⟨-, -, files, hfiles, rfl⟩ := h
  have hkeys : files.keys = mentionedFiles lower goal snapshot :=
    keys_fileCandidates lower goal (artifactsOf snapshot).keys_nodup hfiles
  have hmentioned : ∀ path ∈ files.keys, path ∈ admittedPaths snapshot := by
    intro path hpath
    rw [hkeys] at hpath
    exact List.mem_of_mem_filter hpath
  exact keys_addSymbolFiles hmentioned

end Offers

end Eag.Context
