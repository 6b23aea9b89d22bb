/-
  Eag.Plugins.WorkspaceSearch

  The search of the workspace tool (`plugins/builtin/workspace/tool.py`, `ignore.py`) over a
  tree of files with symbolic links.

  Only the start path is resolved and checked. `os.walk` goes into no link to a directory, but
  a link to a file is read like any other entry, and the limit is looked at after a match was
  added. `search_faithful_iff` says when the search still returns what it is to return.

  Bytes that are no UTF-8, and files that cannot be read, are passed over.
-/

import Eag.Foundation.DirectoryWalk
import Eag.Foundation.Loop
import Eag.Foundation.PurePaths

namespace Eag.Plugins

open Eag.Foundation
open Eag.Foundation.FileTree (Locates ResolveError)
open Eag.Foundation.PyText (ofString)

/-! ## Ignored directories -/

/-- `DEFAULT_IGNORED_DIRECTORIES`. -/
def defaultIgnoredDirectories : List String :=
  [".git", ".hg", ".svn", ".mypy_cache", ".pytest_cache", ".ruff_cache", ".tox", ".venv",
    "__pycache__", "build", "dist", "htmlcov", "node_modules", "target", "vendor"]

/-- `should_ignore_directory`. -/
def shouldIgnoreDirectory (name : String) : Bool := decide (name ∈ defaultIgnoredDirectories)

/-! ## The search -/

/-- `SearchMatch`. -/
structure SearchMatch where
  path : PyText
  lineNumber : Nat
  line : PyText
  deriving DecidableEq, Repr

/-- What `_resolve_safe_path` raises: `WorkspaceBoundaryError`, or an error of `resolve`. -/
inductive SafePathError where
  | boundary (text : String)
  | raised (error : ResolveError)
  deriving DecidableEq, Repr

/-- `WorkspaceTool`: its workspace, the tree it reads, and how deep calls may nest. -/
structure WorkspaceTool where
  tree : ListedTree (Option ByteArray)
  workspace : List String
  depth : Nat

namespace WorkspaceTool

variable (tool : WorkspaceTool)

/-- `self._workspace / path`. -/
def joined (path : String) : List String :=
  let names := (pathNames path).filter fun name => name ≠ "" ∧ name ≠ "."
  if isAbsolutePath path then names else tool.workspace ++ names

/-- `_resolve_safe_path`. -/
def resolveSafePath (path : String) : Except SafePathError (List String) :=
  match tool.tree.resolve false tool.depth (tool.joined path) with
  | .error error => .error (.raised error)
  | .ok candidate =>
      if tool.workspace <+: candidate then .ok candidate
      else .error (.boundary ("Path escapes workspace: '" ++ path ++ "'"))

/-- `file_path.read_text(encoding="utf-8")`; `none` where it raises. -/
def readText (file : List String) : Option PyText :=
  match tool.tree.fileData file with
  | some (some bytes) =>
      (String.fromUTF8? bytes).map fun text => PyText.universalNewlines (ofString text)
  | _ => none

/-- `file_path.relative_to(self._workspace).as_posix()`, of a file below the workspace. -/
def relativePath (file : List String) : PyText :=
  PyText.join (.scalar '/') ((file.drop tool.workspace.length).map ofString)

/-- `sorted(files)`. -/
def sortedNames (names : List String) : List String :=
  names.mergeSort fun a b => decide (a ≤ b)

section

variable (query : PyText) (maxResults : Int)

/-- One line of a file. `.error` is the return from within the loops. -/
def searchLine (file : List String) (found : List SearchMatch) (entry : PyText × Nat) :
    Except (List SearchMatch) (List SearchMatch) :=
  if ¬query <:+: entry.1 then .ok found
  else
    let found := found ++ [⟨tool.relativePath file, entry.2, PyText.strip entry.1⟩]
    if maxResults ≤ found.length then .error found else .ok found

/-- One file. -/
def searchFile (found : List SearchMatch) (file : List String) :
    Except (List SearchMatch) (List SearchMatch) :=
  match tool.readText file with
  | none => .ok found
  | some content =>
      ((PyText.splitlines content).zipIdx 1).foldlM (tool.searchLine query maxResults file) found

/-- `search`. -/
def search (path : String) : Except SafePathError (List SearchMatch) := do
  let root ← tool.resolveSafePath path
  let walk := tool.tree.osWalk (fun name => !shouldIgnoreDirectory name)
    (tool.tree.height + 1) root
  .ok (collection (walk.foldlM (fun found entry =>
    (sortedNames entry.2).foldlM (fun found filename =>
      tool.searchFile query maxResults found (entry.1 ++ [filename])) found) []))

end

/-! ## What is searched -/

section

variable (query : PyText)

/-- The match is a line of the file that contains the query. -/
def LineOf (file : List String) (m : SearchMatch) : Prop :=
  ∃ content, tool.readText file = some content ∧
    ∃ index line, (PyText.splitlines content)[index]? = some line ∧ query <:+: line ∧
      m = ⟨tool.relativePath file, index + 1, PyText.strip line⟩

/-- The file is the start path, or lies below it in directories that are not ignored. A directory
    that a link leads to is not below the one with the link. -/
def Searched (root file : List String) : Prop :=
  file = root ∨
    ∃ real names name, tool.tree.Locates root real ∧
      (∀ other ∈ names, shouldIgnoreDirectory other = false) ∧
      tool.tree.node (real ++ names) = some .directory ∧
      (tool.tree.node (real ++ names ++ [name])).isSome = true ∧
      file = root ++ names ++ [name]

/-- With its links resolved, the file lies inside the workspace and outside ignored
    directories. -/
def Inside (file : List String) : Prop :=
  ∃ base names name, tool.tree.Locates tool.workspace base ∧
    tool.tree.Locates file (base ++ names ++ [name]) ∧
    ∀ other ∈ names, shouldIgnoreDirectory other = false

/-- **What a search is to return**: lines that contain the query, of files inside the workspace and
    outside ignored directories, each once, no more than the limit allows; and all of them,
    if the limit allows more than were returned. -/
structure Faithful (maxResults : Int) (root : List String) (found : List SearchMatch) :
    Prop where
  confined : ∀ m ∈ found, ∃ file, tool.Searched root file ∧ tool.Inside file ∧
    tool.LineOf query file m
  distinct : (found.map fun m => (m.path, m.lineNumber)).Nodup
  bounded : found.length ≤ maxResults.toNat
  complete : found.length < maxResults.toNat → ∀ file, tool.Searched root file →
    tool.Inside file → ∀ m, tool.LineOf query file m → m ∈ found

/-- The files that are read, in the order of the walk. -/
def readFiles (root : List String) : List (List String) :=
  tool.tree.walkedFiles (fun name => !shouldIgnoreDirectory name) sortedNames root

/-- The matches of a file. -/
def matchesIn (file : List String) : List SearchMatch :=
  match tool.readText file with
  | none => []
  | some content =>
      (((PyText.splitlines content).zipIdx 1).filter fun entry => query <:+: entry.1).map
        fun entry => ⟨tool.relativePath file, entry.2, PyText.strip entry.1⟩

end

variable {tool} {query : PyText} {maxResults : Int} {root file : List String}
  {found : List SearchMatch}

/-! ## The loops -/

/-- The matches at which the search stops: a limit below one is no lower. -/
def stopsAt (maxResults : Int) : Nat := max 1 maxResults.toNat

theorem sortedNames_perm (names : List String) : (sortedNames names).Perm names :=
  List.mergeSort_perm names _

theorem flatMap_ite {α β : Type} (p : α → Prop) [DecidablePred p] (f : α → β) (xs : List α) :
    xs.flatMap (fun x => if p x then [f x] else []) = (xs.filter fun x => p x).map f := by
  induction xs with
  | nil => rfl
  | cons x xs ih =>
      rw [List.flatMap_cons, ih]
      by_cases hx : p x
      · rw [if_pos hx, List.filter_cons_of_pos (by simpa using hx), List.map_cons,
          List.singleton_append]
      · rw [if_neg hx, List.filter_cons_of_neg (by simpa using hx), List.nil_append]

theorem searchLine_eq (hfound : found.length < stopsAt maxResults) (entry : PyText × Nat) :
    tool.searchLine query maxResults file found entry =
      collected (stopsAt maxResults) (found ++
        if query <:+: entry.1 then [⟨tool.relativePath file, entry.2, PyText.strip entry.1⟩]
        else []) := by
  unfold searchLine collected
  by_cases hline : query <:+: entry.1
  · rw [if_neg (not_not.mpr hline), if_pos hline]
    dsimp only
    rw [List.length_append, List.length_singleton]
    unfold stopsAt at hfound ⊢
    by_cases hstop : maxResults ≤ ((found.length + 1 : Nat) : Int)
    · rw [if_pos hstop, if_neg (by omega), List.take_of_length_le]
      rw [List.length_append, List.length_singleton]
      omega
    · rw [if_neg hstop, if_pos (by omega)]
  · rw [if_pos hline, if_neg hline, List.append_nil, if_pos hfound]

theorem searchFile_eq (hfound : found.length < stopsAt maxResults) :
    tool.searchFile query maxResults found file =
      collected (stopsAt maxResults) (found ++ tool.matchesIn query file) := by
  unfold searchFile matchesIn
  cases tool.readText file with
  | none =>
      rw [List.append_nil, collected, if_pos hfound]
  | some content =>
      dsimp only
      rw [foldlM_collected (fun _ entry h => searchLine_eq h entry) hfound, flatMap_ite]

/-- **The search returns the first matches** of the files that are read. -/
theorem search_eq (tool : WorkspaceTool) (query : PyText) (maxResults : Int) (path : String) :
    tool.search query maxResults path = (tool.resolveSafePath path).map fun root =>
      ((tool.readFiles root).flatMap (tool.matchesIn query)).take (stopsAt maxResults) := by
  have hempty : ([] : List SearchMatch).length < stopsAt maxResults :=
    Nat.lt_of_lt_of_le Nat.one_pos (Nat.le_max_left ..)
  unfold search readFiles ListedTree.walkedFiles
  cases tool.resolveSafePath path with
  | error error => rfl
  | ok root =>
      -- the matches of a directory are those of its files
      have hdirectory : ∀ found (entry : List String × List String),
          found.length < stopsAt maxResults →
          (sortedNames entry.2).foldlM (fun found filename =>
              tool.searchFile query maxResults found (entry.1 ++ [filename])) found =
            collected (stopsAt maxResults) (found ++ (sortedNames entry.2).flatMap
              fun name => tool.matchesIn query (entry.1 ++ [name])) :=
        fun found entry h => foldlM_collected
          (fun _ name h => @searchFile_eq tool query maxResults (entry.1 ++ [name]) _ h) h
      rw [except_ok_bind, Except.map]
      dsimp only
      rw [foldlM_collected hdirectory hempty, collection_collected, List.nil_append,
        List.flatMap_assoc]
      simp only [List.flatMap_map]

/-! ## The files that are read -/

theorem mem_matchesIn {m : SearchMatch} :
    m ∈ tool.matchesIn query file ↔ tool.LineOf query file m := by
  unfold matchesIn LineOf
  cases tool.readText file with
  | none =>
      refine iff_of_false List.not_mem_nil ?_
      rintro ⟨content, h, -⟩
      cases h
  | some content =>
      dsimp only
      rw [List.mem_map]
      constructor
      · rintro ⟨entry, hentry, rfl⟩
        obtain ⟨hmem, hline⟩ := List.mem_filter.mp hentry
        obtain ⟨hle, hline'⟩ := List.mem_zipIdx_iff_le_and_getElem?_sub.mp hmem
        refine ⟨content, rfl, entry.2 - 1, entry.1, hline', of_decide_eq_true hline, ?_⟩
        rw [Nat.sub_add_cancel hle]
      · rintro ⟨other, hother, index, line, hindex, hline, rfl⟩
        obtain rfl := Option.some.inj hother
        refine ⟨(line, index + 1), List.mem_filter.mpr ⟨?_, decide_eq_true hline⟩, rfl⟩
        exact List.mem_zipIdx_iff_le_and_getElem?_sub.mpr ⟨Nat.le_add_left 1 index, hindex⟩

/-- A file with a line is no directory. -/
theorem isDir_of_lineOf {m : SearchMatch} (h : tool.LineOf query file m) :
    tool.tree.isDir file = false := by
  obtain ⟨content, hcontent, -⟩ := h
  unfold readText FileTree.fileData at hcontent
  unfold FileTree.isDir
  cases hstat : tool.tree.stat file with
  | error error => rfl
  | ok found =>
      rw [hstat] at hcontent
      cases found with
      | none => rfl
      | some node =>
          cases node with
          | directory => cases hcontent
          | file data => rfl
          | symlink target => rfl
          | special => rfl

/-- Nothing is read where the start lies at no directory. -/
theorem readFiles_eq_nil (h : ∀ real, tool.tree.Locates root real →
    tool.tree.node real ≠ some .directory) : tool.readFiles root = [] := by
  unfold readFiles ListedTree.walkedFiles ListedTree.osWalk
  cases hlisting : tool.tree.listing root with
  | none => rfl
  | some names =>
      obtain ⟨real, hreal, hdirectory, -⟩ := ListedTree.listing_eq_some.mp hlisting
      exact absurd hdirectory (h real hreal)

theorem node_of_below {real names : List String}
    (h : tool.tree.node (real ++ names) = some .directory) :
    tool.tree.node real = some .directory := by
  cases names with
  | nil => rwa [List.append_nil] at h
  | cons name rest =>
      exact tool.tree.isDirectory_iff.mp (FileTree.isDirectory_of_isSome (by rw [h]; rfl))

/-- **The files with matches that are read** are those that are searched, but for the start
    path itself. -/
theorem mem_readFiles {m : SearchMatch} (h : tool.LineOf query file m) :
    file ∈ tool.readFiles root ↔ tool.Searched root file ∧ file ≠ root := by
  have hdir := isDir_of_lineOf h
  constructor
  · intro hfile
    have hlies : ∃ real, tool.tree.Locates root real ∧
        tool.tree.node real = some .directory := by
      by_contra hnot
      rw [readFiles_eq_nil fun real hreal hnode => hnot ⟨real, hreal, hnode⟩] at hfile
      cases hfile
    obtain ⟨real, hreal, hnode⟩ := hlies
    obtain ⟨names, name, hnames, hstands, hentry, -, rfl⟩ :=
      (ListedTree.mem_walkedFiles sortedNames_perm hreal hnode).mp hfile
    refine ⟨.inr ⟨real, names, name, hreal, fun other hother => ?_, hstands, hentry, rfl⟩, ?_⟩
    · simpa using hnames other hother
    · intro heq
      rw [List.append_assoc] at heq
      exact List.append_ne_nil_of_right_ne_nil names (List.cons_ne_nil name [])
        (List.append_right_eq_self.mp heq)
  · rintro ⟨heq | ⟨real, names, name, hreal, hnames, hstands, hentry, rfl⟩, hne⟩
    · exact absurd heq hne
    · refine (ListedTree.mem_walkedFiles sortedNames_perm hreal (node_of_below hstands)).mpr ?_
      exact ⟨names, name, fun other hother => by rw [hnames other hother]; rfl, hstands, hentry,
        hdir, rfl⟩

/-- A start path with lines of its own is no directory, so nothing is read below it. -/
theorem readFiles_of_lineOf {m : SearchMatch} (h : tool.LineOf query root m) :
    tool.readFiles root = [] := by
  refine readFiles_eq_nil fun real hreal hdirectory => ?_
  have hdir := isDir_of_lineOf h
  unfold FileTree.isDir FileTree.stat at hdir
  rw [hreal, Except.map, hdirectory] at hdir
  cases hdir

/-! ## Each match has its own file and line -/

theorem isName_of_mem {real names : List String}
    (h : (tool.tree.node (real ++ names)).isSome = true) : ∀ name ∈ names, IsName name := by
  intro name hname
  obtain ⟨before, after, rfl⟩ := List.append_of_mem hname
  rw [← List.append_assoc] at h
  exact FileTree.isName_of_isSome h

theorem not_mem_ofString {name : String} (h : IsName name) :
    CodePoint.scalar '/' ∉ ofString name := by
  intro hmem
  obtain ⟨c, hc, heq⟩ := List.mem_map.mp hmem
  exact h.2.1 (CodePoint.scalar.inj heq ▸ hc)

/-- Joined names are told apart after a common beginning. -/
theorem join_cancel {start rest other : List String} (hrest : rest ≠ []) (hother : other ≠ [])
    (hnames : ∀ name ∈ rest, IsName name) (hothers : ∀ name ∈ other, IsName name)
    (h : PyText.join (.scalar '/') ((start ++ rest).map ofString) =
      PyText.join (.scalar '/') ((start ++ other).map ofString)) : rest = other := by
  have hcancel : PyText.join (.scalar '/') (rest.map ofString) =
      PyText.join (.scalar '/') (other.map ofString) := by
    rw [List.map_append, List.map_append] at h
    by_cases hstart : start = []
    · rwa [hstart] at h
    · have hne : start.map ofString ≠ [] := fun hnil => hstart (List.map_eq_nil_iff.mp hnil)
      rw [PyText.join_append _ hne fun hnil => hrest (List.map_eq_nil_iff.mp hnil),
        PyText.join_append _ hne fun hnil => hother (List.map_eq_nil_iff.mp hnil)] at h
      exact (List.cons.inj (List.append_cancel_left h)).2
  have hsplit : ∀ names : List String, names ≠ [] → (∀ name ∈ names, IsName name) →
      PyText.split (.scalar '/') (PyText.join (.scalar '/') (names.map ofString)) =
        names.map ofString := by
    intro names hne hnames
    refine PyText.split_join (fun hnil => hne (List.map_eq_nil_iff.mp hnil)) ?_
    intro piece hpiece
    obtain ⟨name, hname, rfl⟩ := List.mem_map.mp hpiece
    exact not_mem_ofString (hnames name hname)
  refine List.map_injective_iff.mpr (fun a b hab => PyText.ofString_injective hab) ?_
  rw [← hsplit rest hrest hnames, hcancel, hsplit other hother hothers]

/-- Files that are read have different paths below the workspace. -/
theorem relativePath_inj (hroot : tool.workspace <+: root) {other : List String}
    (hfile : file ∈ tool.readFiles root) (hother : other ∈ tool.readFiles root)
    (h : tool.relativePath file = tool.relativePath other) : file = other := by
  have hlies : ∃ real, tool.tree.Locates root real ∧ tool.tree.node real = some .directory := by
    by_contra hnot
    rw [readFiles_eq_nil fun real hreal hnode => hnot ⟨real, hreal, hnode⟩] at hfile
    cases hfile
  obtain ⟨real, hreal, hnode⟩ := hlies
  obtain ⟨start, rfl⟩ := hroot
  have hbelow : ∀ {path}, path ∈ tool.readFiles (tool.workspace ++ start) → ∃ names,
      names ≠ [] ∧ (∀ name ∈ names, IsName name) ∧ path = tool.workspace ++ start ++ names ∧
        tool.relativePath path = PyText.join (.scalar '/') ((start ++ names).map ofString) := by
    intro path hpath
    obtain ⟨names, name, -, -, hentry, -, rfl⟩ :=
      (ListedTree.mem_walkedFiles sortedNames_perm hreal hnode).mp hpath
    rw [List.append_assoc] at hentry ⊢
    refine ⟨names ++ [name], List.append_ne_nil_of_right_ne_nil _ (List.cons_ne_nil _ _),
      isName_of_mem hentry, rfl, ?_⟩
    rw [relativePath, List.append_assoc, List.drop_left]
  obtain ⟨names, hne, hnames, rfl, hpath⟩ := hbelow hfile
  obtain ⟨others, hneOther, hothers, rfl, hpathOther⟩ := hbelow hother
  rw [hpath, hpathOther] at h
  rw [join_cancel hne hneOther hnames hothers h]

theorem relativePath_of_lineOf {m : SearchMatch} (h : tool.LineOf query file m) :
    m.path = tool.relativePath file := by
  obtain ⟨content, -, index, line, -, -, rfl⟩ := h
  rfl

/-- The lines of one file are numbered apart. -/
theorem nodup_matchesIn (tool : WorkspaceTool) (query : PyText) (file : List String) :
    ((tool.matchesIn query file).map fun m => (m.path, m.lineNumber)).Nodup := by
  unfold matchesIn
  cases tool.readText file with
  | none => exact List.nodup_nil
  | some content =>
      dsimp only
      rw [List.map_map]
      have hnumbers : (((PyText.splitlines content).zipIdx 1).filter fun entry =>
          query <:+: entry.1).Pairwise fun a b => a.2 ≠ b.2 := by
        refine List.Pairwise.filter _ ?_
        rw [← List.pairwise_map (f := Prod.snd) (R := fun a b => a ≠ b), List.zipIdx_map_snd]
        exact List.nodup_range'
      exact List.pairwise_map.mpr (hnumbers.imp fun hne heq => hne (Prod.mk.inj heq).2)

theorem nodup_matches (hroot : tool.workspace <+: root) :
    (((tool.readFiles root).flatMap (tool.matchesIn query)).map
      fun m => (m.path, m.lineNumber)).Nodup := by
  rw [List.map_flatMap]
  refine List.nodup_flatMap.mpr ⟨fun file _ => nodup_matchesIn tool query file, ?_⟩
  refine List.Pairwise.imp_of_mem ?_ (ListedTree.nodup_walkedFiles sortedNames_perm root)
  intro file other hfile hother hne key hkey hkeyOther
  obtain ⟨m, hm, rfl⟩ := List.mem_map.mp hkey
  obtain ⟨m', hm', heq⟩ := List.mem_map.mp hkeyOther
  refine hne (relativePath_inj hroot hfile hother ?_)
  rw [← relativePath_of_lineOf (mem_matchesIn.mp hm),
    ← relativePath_of_lineOf (mem_matchesIn.mp hm')]
  exact (Prod.mk.inj heq).1.symm

/-! ## When the search is faithful -/

/-- Among the first of all matches there is one only if fewer were found before its file. -/
theorem exists_of_mem_take {α β : Type} {find : α → List β} {limit : Nat} {xs : List α} {y : β}
    (h : y ∈ (xs.flatMap find).take limit) :
    ∃ before x after, xs = before ++ x :: after ∧ y ∈ find x ∧
      (before.flatMap find).length < limit := by
  induction xs generalizing limit with
  | nil =>
      rw [List.flatMap_nil, List.take_nil] at h
      cases h
  | cons x xs ih =>
      rw [List.flatMap_cons, List.take_append, List.mem_append] at h
      rcases h with h | h
      · refine ⟨[], x, xs, rfl, List.mem_of_mem_take h, ?_⟩
        rw [List.flatMap_nil, List.length_nil]
        rcases Nat.eq_zero_or_pos limit with rfl | hpos
        · cases h
        · exact hpos
      · obtain ⟨before, z, after, rfl, hz, hlength⟩ := ih h
        refine ⟨x :: before, z, after, rfl, hz, ?_⟩
        rw [List.flatMap_cons, List.length_append]
        omega

/-- The first match in a file is among the first of all if fewer were found before the file. -/
theorem head_mem_take {α β : Type} {find : α → List β} {limit : Nat} {before after : List α}
    {x : α} {y : β} {more : List β} (hx : find x = y :: more)
    (h : (before.flatMap find).length < limit) :
    y ∈ ((before ++ x :: after).flatMap find).take limit := by
  rw [List.flatMap_append, List.flatMap_cons, hx, List.take_append, List.mem_append]
  refine .inr ?_
  obtain ⟨room, hroom⟩ := Nat.exists_eq_add_of_lt h
  rw [hroom, Nat.add_assoc, Nat.add_sub_cancel_left, List.cons_append, List.take_succ_cons]
  exact List.mem_cons_self

/-- The condition: the limit is at least one or there is nothing to find; each file with a
    match, before which the limit is not reached, lies inside the workspace and outside ignored
    directories; and the start path is no such file itself. -/
structure Sound (tool : WorkspaceTool) (query : PyText) (maxResults : Int)
    (root : List String) : Prop where
  limited : 0 < maxResults ∨ ∀ file ∈ tool.readFiles root, tool.matchesIn query file = []
  inside : ∀ before file after, tool.readFiles root = before ++ file :: after →
    tool.matchesIn query file ≠ [] →
    ((before.flatMap (tool.matchesIn query)).length : Int) < maxResults → tool.Inside file
  directory : 0 < maxResults → tool.Inside root → tool.matchesIn query root = []

/-- The first matches are what a search is to return exactly when the condition holds. -/
theorem faithful_take_iff (hroot : tool.workspace <+: root) :
    tool.Faithful query maxResults root
        (((tool.readFiles root).flatMap (tool.matchesIn query)).take (stopsAt maxResults)) ↔
      tool.Sound query maxResults root := by
  constructor
  · intro h
    refine ⟨?_, ?_, ?_⟩
    · by_contra hnot
      obtain ⟨hlimit, hsome⟩ := not_or.mp hnot
      have hbounded := h.bounded
      rw [List.length_take] at hbounded
      unfold stopsAt at hbounded
      have hempty : (tool.readFiles root).flatMap (tool.matchesIn query) = [] :=
        List.length_eq_zero_iff.mp (by omega)
      exact hsome (List.flatMap_eq_nil_iff.mp hempty)
    · intro before file after hfiles hne hlimit
      obtain ⟨m, more, hm⟩ := List.exists_cons_of_ne_nil hne
      have hmem : m ∈ ((tool.readFiles root).flatMap (tool.matchesIn query)).take
          (stopsAt maxResults) := by
        rw [hfiles]
        exact head_mem_take hm (by unfold stopsAt; omega)
      obtain ⟨other, hsearched, hinside, hline⟩ := h.confined m hmem
      have hfile : file ∈ tool.readFiles root := by
        rw [hfiles]
        exact List.mem_append_right _ List.mem_cons_self
      have hother : other ∈ tool.readFiles root := by
        refine (mem_readFiles hline).mpr ⟨hsearched, ?_⟩
        rintro rfl
        rw [readFiles_of_lineOf hline] at hfile
        cases hfile
      have hsame : file = other := by
        refine relativePath_inj hroot hfile hother ?_
        rw [← relativePath_of_lineOf (mem_matchesIn.mp (by rw [hm]; exact List.mem_cons_self)),
          ← relativePath_of_lineOf hline]
      rwa [hsame]
    · intro hlimit hinside
      by_contra hne
      obtain ⟨m, more, hm⟩ := List.exists_cons_of_ne_nil hne
      have hline : tool.LineOf query root m := mem_matchesIn.mp (by rw [hm]; exact List.mem_cons_self)
      have hcomplete := h.complete
      rw [readFiles_of_lineOf hline, List.flatMap_nil, List.take_nil] at hcomplete
      have hmem := hcomplete (by rw [List.length_nil]; omega) root (.inl rfl) hinside m hline
      cases hmem
  · intro h
    refine ⟨?_, ?_, ?_, ?_⟩
    · intro m hm
      obtain ⟨before, file, after, hfiles, hmem, hlength⟩ := exists_of_mem_take hm
      have hfile : file ∈ tool.readFiles root := by
        rw [hfiles]
        exact List.mem_append_right _ List.mem_cons_self
      have hne : tool.matchesIn query file ≠ [] := List.ne_nil_of_mem hmem
      have hline := mem_matchesIn.mp hmem
      have hlimit : 0 < maxResults := h.limited.resolve_right fun hnone => hne (hnone file hfile)
      refine ⟨file, ((mem_readFiles hline).mp hfile).1, ?_, hline⟩
      exact h.inside before file after hfiles hne (by unfold stopsAt at hlength; omega)
    · exact (nodup_matches hroot).sublist ((List.take_sublist _ _).map _)
    · rcases h.limited with hlimit | hnone
      · rw [List.length_take]
        unfold stopsAt
        omega
      · rw [List.flatMap_eq_nil_iff.mpr hnone, List.take_nil, List.length_nil]
        exact Nat.zero_le _
    · intro hlength file hsearched hinside m hline
      have hlimit : 0 < maxResults := by omega
      have hall : ((tool.readFiles root).flatMap (tool.matchesIn query)).length ≤
          stopsAt maxResults := by
        rw [List.length_take] at hlength
        unfold stopsAt at hlength ⊢
        omega
      rw [List.take_of_length_le hall]
      by_cases hfile : file = root
      · obtain rfl := hfile
        have hnone := h.directory hlimit hinside
        have hmem := mem_matchesIn.mpr hline
        rw [hnone] at hmem
        cases hmem
      · exact List.mem_flatMap.mpr ⟨file, (mem_readFiles hline).mpr ⟨hsearched, hfile⟩,
          mem_matchesIn.mpr hline⟩

theorem below_of_resolveSafePath {path : String} (h : tool.resolveSafePath path = .ok root) :
    tool.workspace <+: root := by
  unfold resolveSafePath at h
  split at h
  · cases h
  · split at h
    · next hbelow =>
        obtain rfl := Except.ok.inj h
        exact hbelow
    · cases h

/-- **When a search is faithful**: whenever the start path is accepted the search returns, and
    what it returns is what it is to return exactly when the condition holds of the start. -/
theorem search_faithful_iff (tool : WorkspaceTool) (query : PyText) (maxResults : Int)
    (path : String) :
    (∀ root, tool.resolveSafePath path = .ok root → ∃ found,
        tool.search query maxResults path = .ok found ∧
          tool.Faithful query maxResults root found) ↔
      ∀ root, tool.resolveSafePath path = .ok root → tool.Sound query maxResults root := by
  refine forall_congr' fun root => imp_congr_right fun hroot => ?_
  rw [← faithful_take_iff (below_of_resolveSafePath hroot), search_eq, hroot, Except.map]
  constructor
  · rintro ⟨found, hfound, h⟩
    obtain rfl := Except.ok.inj hfound
    exact h
  · exact fun h => ⟨_, rfl, h⟩

/-- A workspace with a link to a file outside of it. -/
def linkedOut : WorkspaceTool where
  tree := .ofEntries [(["s"], .file (some "k".toUTF8)), (["w"], .directory),
    (["w", "f"], .symlink "/s")] (by decide) (by decide)
  workspace := ["w"]
  depth := 1

/-- The line of the file outside is returned. -/
theorem linkedOut_search :
    ¬∀ root, linkedOut.resolveSafePath "." = .ok root → ∃ found,
      linkedOut.search (ofString "k") 100 "." = .ok found ∧
        linkedOut.Faithful (ofString "k") 100 root found := by
  intro h
  have hroot : linkedOut.resolveSafePath "." = .ok ["w"] := by decide +kernel
  have hfiles : linkedOut.readFiles ["w"] = [["w", "f"]] := by decide +kernel
  have hmatches : linkedOut.matchesIn (ofString "k") ["w", "f"] ≠ [] := by decide +kernel
  have hlies : linkedOut.tree.walk true FileTree.maxLinks [] ["w", "f"] = .ok ["s"] := by
    decide +kernel
  have hbase : linkedOut.tree.walk true FileTree.maxLinks [] ["w"] = .ok ["w"] := by
    decide +kernel
  obtain ⟨found, hfound, hfaithful⟩ := h ["w"] hroot
  rw [search_eq, hroot, Except.map] at hfound
  obtain rfl := Except.ok.inj hfound
  have hsound := (faithful_take_iff (below_of_resolveSafePath hroot)).mp hfaithful
  obtain ⟨base, names, name, hworkspace, hfile, -⟩ :=
    hsound.inside [] ["w", "f"] [] hfiles hmatches (by decide)
  obtain rfl := Except.ok.inj (hworkspace.symm.trans hbase)
  have hpath := Except.ok.inj (hfile.symm.trans hlies)
  exact absurd (List.cons.inj hpath).1 (by decide)

end WorkspaceTool

end Eag.Plugins
