/-
  Eag.Vcs.GitStatus

  Reading `git status --porcelain`: `GitProvider.status` (`vcs/providers/git.py`), of what git
  prints for the entries.

  A line has two columns, a space, and the path; a rename or a copy has its source and an arrow
  before it.  A path that is not plain is printed between quotes with escapes, which is how git
  prints it while `core.quotePath` is on.
-/

import Mathlib.Data.List.Forall2
import Eag.Foundation.PurePaths

namespace Eag.Vcs

open Eag.Foundation
open Eag.Foundation.PyText (ofString split join splitlines universalNewlines rstripNewlines
  OneLine isLineEnd isSpace normpath weight Undotted)

/-! ## Paths -/

/-- `"/"`. -/
def slash : CodePoint := .scalar '/'

/-- `"\\"`. -/
def backslash : CodePoint := .scalar '\\'

/-- `value.replace("\\", "/")`. -/
def replaceBackslashes (t : PyText) : PyText := t.map fun c => if c = backslash then slash else c

/-! ## The provider -/

/-- `FileStatus`. -/
inductive FileStatus where
  | modified
  | added
  | deleted
  | renamed
  | untracked
  | ignored
  | unchanged
  deriving DecidableEq, Repr

/-- `FileChange`. -/
structure FileChange where
  path : PyText
  status : FileStatus
  oldPath : Option PyText := none
  deriving DecidableEq, Repr

namespace GitProvider

/-- `status_map.get(status_code, FileStatus.MODIFIED)`. -/
def statusOf (statusCode : PyText) : FileStatus :=
  if statusCode = ofString "M" then .modified
  else if statusCode = ofString "A" then .added
  else if statusCode = ofString "D" then .deleted
  else if statusCode = ofString "R" then .renamed
  else if statusCode = ofString "??" then .untracked
  else .modified

/-- The change of a line. -/
def readChange (line : PyText) : FileChange where
  path := replaceBackslashes (normpath (PyText.strip (line.drop 3)))
  status := statusOf (PyText.strip (line.take 2))

/-- `status`, of what git printed. -/
def status (stdout : PyText) : List FileChange :=
  ((splitlines (rstripNewlines (universalNewlines stdout))).filter
    fun line => PyText.strip line ≠ []).map readChange

end GitProvider

/-! ## What git prints -/

/-- What a column says of an entry. -/
inductive Column where
  | unmodified
  | modified
  | typeChanged
  | added
  | deleted
  | renamed
  | copied
  | unmerged
  | untracked
  deriving DecidableEq, Repr

/-- The letter of a column. -/
def Column.letter : Column → CodePoint
  | .unmodified => .scalar ' '
  | .modified => .scalar 'M'
  | .typeChanged => .scalar 'T'
  | .added => .scalar 'A'
  | .deleted => .scalar 'D'
  | .renamed => .scalar 'R'
  | .copied => .scalar 'C'
  | .unmerged => .scalar 'U'
  | .untracked => .scalar '?'

/-- A column of an entry that comes from another path. -/
def Column.Moved (column : Column) : Prop := column = .renamed ∨ column = .copied

instance : DecidablePred Column.Moved := fun _ => inferInstanceAs (Decidable (_ ∨ _))

/-- A path of a repository: names between slashes. -/
structure RepositoryPath where
  names : List PyText
  names_ne_nil : names ≠ []
  names_proper : ∀ name ∈ names,
    name ≠ [] ∧ name ≠ [.scalar '.'] ∧ name ≠ PyText.parentPart ∧ slash ∉ name

/-- The text of a path. -/
def RepositoryPath.text (path : RepositoryPath) : PyText := join slash path.names

/-- An entry of the status. An untracked directory is one entry. -/
structure StatusEntry where
  index : Column
  worktree : Column
  path : RepositoryPath
  source : Option RepositoryPath
  directory : Bool
  changed : ¬ (index = .unmodified ∧ worktree = .unmodified)
  untracked_iff : index = .untracked ↔ worktree = .untracked
  unmerged_index : index = .unmerged → worktree ∈ [Column.unmerged, .added, .deleted]
  unmerged_worktree : worktree = .unmerged → index ∈ [Column.unmerged, .added, .deleted]
  source_iff : source.isSome = true ↔ index.Moved ∨ worktree.Moved
  directory_untracked : directory = true → index = .untracked

/-- A character that a path is quoted for. -/
def needsQuote (c : CodePoint) : Bool :=
  !(0x21 ≤ PyText.codeValue c && PyText.codeValue c ≤ 0x7e) || c = .scalar '"' || c = backslash

/-- Three octal digits of a byte, after a backslash. -/
def octal (byte : Nat) : PyText :=
  [backslash, .scalar (Nat.digitChar (byte / 64)), .scalar (Nat.digitChar (byte / 8 % 8)),
    .scalar (Nat.digitChar (byte % 8))]

/-- The bytes of a character of a file name; a byte that is no text is a surrogate. -/
def fileBytes : CodePoint → List Nat
  | .scalar c => (String.utf8EncodeChar c).map UInt8.toNat
  | .surrogate offset => [offset % 256]

/-- A character between quotes. -/
def escape (c : CodePoint) : PyText :=
  if needsQuote c = false ∨ c = .scalar ' ' then [c]
  else if c = .scalar '"' ∨ c = backslash then [backslash, c]
  else
    match PyText.codeValue c with
    | 7 => [backslash, .scalar 'a']
    | 8 => [backslash, .scalar 'b']
    | 9 => [backslash, .scalar 't']
    | 10 => [backslash, .scalar 'n']
    | 11 => [backslash, .scalar 'v']
    | 12 => [backslash, .scalar 'f']
    | 13 => [backslash, .scalar 'r']
    | _ => (fileBytes c).flatMap octal

/-- The quoted form of a text, when it needs one. -/
def quote (t : PyText) : PyText :=
  if t.any needsQuote then .scalar '"' :: t.flatMap escape ++ [.scalar '"'] else t

namespace StatusEntry

variable (entry : StatusEntry)

/-- The text of the path, which ends in a slash for a directory. -/
def pathText : PyText := entry.path.text ++ if entry.directory then [slash] else []

/-- The path as it is printed. -/
def printedPath : PyText :=
  match entry.source with
  | none => quote entry.pathText
  | some source => quote source.text ++ ofString " -> " ++ quote entry.pathText

/-- A line of the status. -/
def line : PyText :=
  entry.index.letter :: entry.worktree.letter :: .scalar ' ' :: entry.printedPath

end StatusEntry

/-- What `git status --porcelain` prints. -/
def printStatus : List StatusEntry → PyText
  | [] => []
  | entry :: rest => entry.line ++ .scalar '\n' :: printStatus rest

/-! ## Characters that are printed -/

/-- A character that git prints in a path: a space or a visible ASCII character. -/
def Printed (c : CodePoint) : Prop := 0x20 ≤ PyText.codeValue c ∧ PyText.codeValue c ≤ 0x7e

instance : DecidablePred Printed := fun _ => inferInstanceAs (Decidable (_ ∧ _))

theorem Printed.isLineEnd {c : CodePoint} (h : Printed c) : PyText.isLineEnd c = false := by
  cases c with
  | surrogate offset => rfl
  | scalar c =>
      have hlow : 0x20 ≤ c.toNat := h.1
      have hhigh : c.toNat ≤ 0x7e := h.2
      simp only [PyText.isLineEnd, Bool.or_eq_false_iff, Bool.and_eq_false_iff,
        decide_eq_false_iff_not, beq_eq_false_iff_ne]
      omega

theorem Printed.isNewline {c : CodePoint} (h : Printed c) : PyText.isNewline c = false := by
  have hend := h.isLineEnd
  cases hnewline : PyText.isNewline c with
  | false => rfl
  | true =>
      rcases (Bool.or_eq_true _ _).mp hnewline with heq | heq
      · rw [of_decide_eq_true heq] at hend
        exact absurd hend (by decide)
      · rw [of_decide_eq_true heq] at hend
        exact absurd hend (by decide)

theorem Printed.isSpace {c : CodePoint} (h : Printed c) (hne : PyText.codeValue c ≠ 0x20) :
    PyText.isSpace c = false := by
  cases c with
  | surrogate offset => rfl
  | scalar c =>
      have hlow : 0x20 ≤ c.toNat := h.1
      have hhigh : c.toNat ≤ 0x7e := h.2
      have hspace : c.toNat ≠ 0x20 := hne
      simp only [PyText.isSpace, Foundation.isSpace, Bool.or_eq_false_iff, Bool.and_eq_false_iff,
        decide_eq_false_iff_not, beq_eq_false_iff_ne]
      omega

/-- A character a path is not quoted for is visible. -/
theorem visible_of_needsQuote {c : CodePoint} (h : needsQuote c = false) :
    0x21 ≤ PyText.codeValue c ∧ PyText.codeValue c ≤ 0x7e ∧ c ≠ backslash := by
  simp only [needsQuote, Bool.or_eq_false_iff, Bool.not_eq_false', Bool.and_eq_true,
    decide_eq_true_eq, decide_eq_false_iff_not] at h
  exact ⟨h.1.1.1, h.1.1.2, h.2⟩

theorem digitChar_printed (n : Nat) :
    Printed (.scalar (Nat.digitChar n)) ∧
      PyText.isNameCharacter (.scalar (Nat.digitChar n)) = true := by
  have hlow : ∀ m < 17, Printed (.scalar (Nat.digitChar m)) ∧
      PyText.isNameCharacter (.scalar (Nat.digitChar m)) = true := by
    decide
  by_cases h : n < 16
  · exact hlow n (by omega)
  · -- Above the digits it is a star.
    have hstar : Nat.digitChar n = Nat.digitChar 16 := by
      simp only [Nat.digitChar]
      repeat rw [if_neg (by omega)]
    rw [hstar]
    exact hlow 16 (by omega)

theorem ne_slash {c : CodePoint} (h : PyText.isNameCharacter c = true) : c ≠ slash := by
  rintro rfl
  exact absurd h (by decide)

theorem mem_octal {byte : Nat} {c : CodePoint} (h : c ∈ octal byte) : Printed c ∧ c ≠ slash := by
  have hdigit : ∀ n, Printed (.scalar (Nat.digitChar n)) ∧ .scalar (Nat.digitChar n) ≠ slash :=
    fun n => ⟨(digitChar_printed n).1, ne_slash (digitChar_printed n).2⟩
  simp only [octal, List.mem_cons, List.not_mem_nil, or_false] at h
  rcases h with rfl | rfl | rfl | rfl
  · decide
  · exact hdigit _
  · exact hdigit _
  · exact hdigit _

theorem fileBytes_ne_nil (c : CodePoint) : fileBytes c ≠ [] := by
  cases c with
  | surrogate offset => exact List.cons_ne_nil _ _
  | scalar c =>
      have hlength : 0 < (String.utf8EncodeChar c).length := by
        rw [String.length_utf8EncodeChar]
        exact c.utf8Size_pos
      rw [fileBytes, Ne, List.map_eq_nil_iff]
      exact List.ne_nil_of_length_pos hlength

/-- **What an escape is like.** A character stands for itself, or for a backslash and printed
    characters, which are no slashes and weigh as much as it does. -/
theorem escape_cases (c : CodePoint) :
    escape c = [c] ∧ Printed c ∨
      ∃ tail, escape c = backslash :: tail ∧ (∀ d ∈ tail, Printed d ∧ d ≠ slash) ∧
        weight [c] ≤ weight tail := by
  have hone : weight [c] ≤ 1 := List.countP_le_length
  unfold escape
  split
  · next h =>
      refine .inl ⟨rfl, ?_⟩
      rcases h with h | rfl
      · obtain ⟨hlow, hhigh, -⟩ := visible_of_needsQuote h
        exact ⟨Nat.le_of_lt hlow, hhigh⟩
      · decide
  · split
    · next h =>
        refine .inr ⟨[c], rfl, fun d hd => ?_, Nat.le_refl _⟩
        rw [List.mem_singleton.mp hd]
        rcases h with rfl | rfl <;> decide
    · have hnamed : ∀ d : CodePoint, Printed d → PyText.isNameCharacter d = true →
          ∃ tail, [backslash, d] = backslash :: tail ∧ (∀ e ∈ tail, Printed e ∧ e ≠ slash) ∧
            weight [c] ≤ weight tail := by
        intro d hprinted hname
        have hweight : weight [d] = 1 := by simp [weight, hname]
        refine ⟨[d], rfl, fun e he => ?_, by omega⟩
        rw [List.mem_singleton.mp he]
        exact ⟨hprinted, ne_slash hname⟩
      split
      · exact .inr (hnamed _ (by decide) (by decide))
      · exact .inr (hnamed _ (by decide) (by decide))
      · exact .inr (hnamed _ (by decide) (by decide))
      · exact .inr (hnamed _ (by decide) (by decide))
      · exact .inr (hnamed _ (by decide) (by decide))
      · exact .inr (hnamed _ (by decide) (by decide))
      · exact .inr (hnamed _ (by decide) (by decide))
      · obtain ⟨byte, bytes, hbytes⟩ := List.exists_cons_of_ne_nil (fileBytes_ne_nil c)
        rw [hbytes, List.flatMap_cons]
        refine .inr ⟨(octal byte).tail ++ bytes.flatMap octal, rfl, fun d hd => ?_, ?_⟩
        · rcases List.mem_append.mp hd with hd | hd
          · exact mem_octal (List.mem_of_mem_tail hd)
          · obtain ⟨b, -, hd⟩ := List.mem_flatMap.mp hd
            exact mem_octal hd
        · have hdigit : weight [.scalar (Nat.digitChar (byte / 64))] = 1 := by
            simp [weight, (digitChar_printed _).2]
          have htail : weight ((octal byte).tail ++ bytes.flatMap octal) =
              weight [.scalar (Nat.digitChar (byte / 64))] + _ :=
            PyText.weight_cons _ _
          omega

/-! ## Quoted paths -/

theorem printed_of_mem_escape {c d : CodePoint} (h : d ∈ escape c) : Printed d := by
  rcases escape_cases c with ⟨heq, hc⟩ | ⟨tail, heq, htail, -⟩
  · rw [heq] at h
    rwa [List.mem_singleton.mp h]
  · rw [heq] at h
    rcases List.mem_cons.mp h with rfl | h
    · decide
    · exact (htail d h).1

theorem weight_flatMap_escape (t : PyText) : weight t ≤ weight (t.flatMap escape) := by
  induction t with
  | nil => exact Nat.le_refl _
  | cons c rest ih =>
      have hc : weight [c] ≤ weight (escape c) := by
        rcases escape_cases c with ⟨heq, -⟩ | ⟨tail, heq, -, hweight⟩
        · rw [heq]
        · rw [heq, PyText.weight_cons backslash tail]
          omega
      rw [List.flatMap_cons, PyText.weight_cons, PyText.weight_append]
      omega

/-- A text whose escapes have no backslash is left as it is. -/
theorem flatMap_escape_eq {t : PyText} (h : backslash ∉ t.flatMap escape) :
    t.flatMap escape = t := by
  induction t with
  | nil => rfl
  | cons c rest ih =>
      rw [List.flatMap_cons, List.mem_append, not_or] at h
      rcases escape_cases c with ⟨heq, -⟩ | ⟨tail, heq, -, -⟩
      · rw [List.flatMap_cons, heq, ih h.2]
        rfl
      · rw [heq] at h
        exact absurd List.mem_cons_self h.1

theorem slash_not_mem_escape {c : CodePoint} (hc : c ≠ slash) : slash ∉ escape c := by
  intro h
  rcases escape_cases c with ⟨heq, -⟩ | ⟨tail, heq, htail, -⟩
  · rw [heq] at h
    exact hc (List.mem_singleton.mp h).symm
  · rw [heq] at h
    rcases List.mem_cons.mp h with h | h
    · exact absurd h (by decide)
    · exact (htail _ h).2 rfl

theorem flatMap_escape_join (parts : List PyText) :
    (join slash parts).flatMap escape = join slash (parts.map fun part => part.flatMap escape) := by
  induction parts with
  | nil => rfl
  | cons part rest ih =>
      cases rest with
      | nil => rfl
      | cons next rest =>
          have hslash : escape slash = [slash] := by decide
          rw [join, List.flatMap_append, List.flatMap_cons, hslash, ih]
          rfl

theorem undotted_flatMap_escape {t : PyText} (h : Undotted t) : Undotted (t.flatMap escape) := by
  have hparts : ∀ part ∈ (split slash t).map fun part => part.flatMap escape, slash ∉ part := by
    intro part hpart hmem
    obtain ⟨whole, hwhole, rfl⟩ := List.mem_map.mp hpart
    obtain ⟨c, hc, hmem⟩ := List.mem_flatMap.mp hmem
    refine slash_not_mem_escape (fun heq => ?_) hmem
    exact PyText.not_mem_of_mem_split hwhole (heq ▸ hc)
  have hsplit : split slash (t.flatMap escape) =
      (split slash t).map fun part => part.flatMap escape := by
    conv_lhs => rw [← PyText.join_split slash t, flatMap_escape_join]
    refine PyText.split_join ?_ hparts
    rw [Ne, List.map_eq_nil_iff]
    exact PyText.split_ne_nil slash t
  intro hmem
  have hmem' : PyText.parentPart ∈ (split slash t).map fun part => part.flatMap escape :=
    hsplit ▸ hmem
  obtain ⟨part, hpart, heq⟩ := List.mem_map.mp hmem'
  have hself : part.flatMap escape = part := flatMap_escape_eq (by rw [heq]; decide)
  have hpart' : part = PyText.parentPart := hself.symm.trans heq
  exact h (hpart' ▸ hpart)

theorem quote_of_plain {t : PyText} (h : t.any needsQuote = false) : quote t = t :=
  if_neg (by rw [h]; exact Bool.false_ne_true)

theorem quote_of_any {t : PyText} (h : t.any needsQuote = true) :
    quote t = .scalar '"' :: t.flatMap escape ++ [.scalar '"'] := if_pos h

theorem printed_of_mem_quote {t : PyText} {c : CodePoint} (h : c ∈ quote t) : Printed c := by
  cases hany : t.any needsQuote with
  | false =>
      rw [quote_of_plain hany] at h
      obtain ⟨hlow, hhigh, -⟩ := visible_of_needsQuote (by simpa using List.any_eq_false.mp hany c h)
      exact ⟨Nat.le_of_lt hlow, hhigh⟩
  | true =>
      rw [quote_of_any hany] at h
      rcases List.mem_append.mp h with h | h
      · rcases List.mem_cons.mp h with rfl | h
        · decide
        · obtain ⟨d, -, h⟩ := List.mem_flatMap.mp h
          exact printed_of_mem_escape h
      · rw [List.mem_singleton.mp h]
        decide

/-- Quoting puts two marks around a text, which git does not do without a need. -/
theorem weight_quote {t : PyText} (h : t.any needsQuote = true) :
    weight t + 2 ≤ weight (quote t) := by
  have hmark : weight [.scalar '"'] = 1 := by decide
  have hescaped := weight_flatMap_escape t
  rw [quote_of_any h, PyText.weight_append, PyText.weight_cons, hmark]
  omega

theorem weight_le_quote (t : PyText) : weight t ≤ weight (quote t) := by
  cases hany : t.any needsQuote with
  | false => rw [quote_of_plain hany]
  | true => exact Nat.le_of_add_right_le (weight_quote hany)

theorem undotted_nil : Undotted [] := by
  show PyText.parentPart ∉ [[]]
  decide

theorem undotted_quote {t : PyText} (h : Undotted t) : Undotted (quote t) := by
  cases hany : t.any needsQuote with
  | false => rwa [quote_of_plain hany]
  | true =>
      have hmark : slash ∉ [CodePoint.scalar '"'] ∧
          ∃ c ∈ [CodePoint.scalar '"'], c ≠ .scalar '.' := by
        decide
      have hright : Undotted (t.flatMap escape ++ ([.scalar '"'] ++ [])) :=
        (undotted_flatMap_escape h).between undotted_nil hmark.1 hmark.2
      have hboth := undotted_nil.between hright hmark.1 hmark.2
      rw [quote_of_any hany]
      exact hboth

/-- A text that is printed neither starts nor ends with a space. -/
theorem ends_quote (t : PyText) :
    (∀ c, (quote t).head? = some c → isSpace c = false) ∧
      ∀ c, (quote t).getLast? = some c → isSpace c = false := by
  cases hany : t.any needsQuote with
  | false =>
      have hvisible : ∀ c ∈ t, isSpace c = false := by
        intro c hc
        obtain ⟨hlow, hhigh, -⟩ :=
          visible_of_needsQuote (by simpa using List.any_eq_false.mp hany c hc)
        exact Printed.isSpace ⟨Nat.le_of_lt hlow, hhigh⟩ (by omega)
      rw [quote_of_plain hany]
      exact ⟨fun c hc => hvisible c (List.mem_of_head? hc),
        fun c hc => hvisible c (List.mem_of_getLast? hc)⟩
  | true =>
      have hmark : isSpace (.scalar '"') = false := by decide
      rw [quote_of_any hany]
      constructor
      · intro c hc
        rwa [← Option.some.inj hc]
      · intro c hc
        rw [List.getLast?_append] at hc
        rwa [← Option.some.inj hc]

theorem quote_ne_nil {t : PyText} (hne : t ≠ []) : quote t ≠ [] := by
  cases hany : t.any needsQuote with
  | false => rwa [quote_of_plain hany]
  | true =>
      rw [quote_of_any hany]
      exact List.cons_ne_nil _ _

/-! ## The path of a line -/

namespace RepositoryPath

variable (path : RepositoryPath)

/-- A path does not start with a slash. -/
theorem text_cons : ∃ c rest, path.text = c :: rest ∧ c ≠ slash := by
  obtain ⟨name, others, hnames⟩ := List.exists_cons_of_ne_nil path.names_ne_nil
  have hname := path.names_proper name (hnames ▸ List.mem_cons_self)
  obtain ⟨c, rest, hcons⟩ := List.exists_cons_of_ne_nil hname.1
  have hc : c ≠ slash := fun h => hname.2.2.2 (by rw [hcons, h]; exact List.mem_cons_self)
  unfold text
  rw [hnames, hcons]
  cases others with
  | nil => exact ⟨c, rest, rfl, hc⟩
  | cons next others => exact ⟨c, _, rfl, hc⟩

theorem text_ne_nil : path.text ≠ [] := by
  obtain ⟨c, rest, htext, -⟩ := path.text_cons
  rw [htext]
  exact List.cons_ne_nil c rest

/-- The parts of a path that ends in these. -/
theorem split_text (ending : List PyText) (h : ∀ part ∈ ending, slash ∉ part) :
    split slash (join slash (path.names ++ ending)) = path.names ++ ending := by
  refine PyText.split_join ?_ fun part hpart => ?_
  · exact fun hnil => path.names_ne_nil (List.append_eq_nil_iff.mp hnil).1
  · rcases List.mem_append.mp hpart with hpart | hpart
    · exact (path.names_proper part hpart).2.2.2
    · exact h part hpart

end RepositoryPath

namespace StatusEntry

variable (entry : StatusEntry)

/-- What stands after the last name of a directory. -/
def ending : List PyText := if entry.directory then [[]] else []

theorem mem_ending {part : PyText} (h : part ∈ entry.ending) : part = [] := by
  unfold ending at h
  split at h
  · exact List.mem_singleton.mp h
  · cases h

theorem pathText_eq : entry.pathText = join slash (entry.path.names ++ entry.ending) := by
  unfold pathText ending
  cases entry.directory with
  | false =>
      rw [if_neg Bool.false_ne_true, if_neg Bool.false_ne_true, List.append_nil, List.append_nil]
      rfl
  | true =>
      have hjoin := PyText.join_append slash entry.path.names_ne_nil (List.cons_ne_nil [] [])
      rw [if_pos rfl, if_pos rfl, hjoin]
      rfl

theorem split_pathText : split slash entry.pathText = entry.path.names ++ entry.ending := by
  rw [pathText_eq]
  refine entry.path.split_text _ fun part hpart => ?_
  rw [entry.mem_ending hpart]
  exact List.not_mem_nil

theorem undotted_pathText : Undotted entry.pathText := by
  intro h
  have hmem : PyText.parentPart ∈ entry.path.names ++ entry.ending := entry.split_pathText ▸ h
  rcases List.mem_append.mp hmem with hname | hempty
  · exact (entry.path.names_proper _ hname).2.2.1 rfl
  · exact absurd (entry.mem_ending hempty) (by decide)

theorem weight_pathText : weight entry.pathText = weight entry.path.text := by
  unfold pathText
  rw [PyText.weight_append]
  split <;> rfl

theorem pathText_ne_nil : entry.pathText ≠ [] := fun h =>
  entry.path.text_ne_nil (List.append_eq_nil_iff.mp h).1

end StatusEntry

theorem RepositoryPath.undotted_text (path : RepositoryPath) : Undotted path.text := by
  intro h
  have hsplit := path.split_text [] nofun
  rw [List.append_nil] at hsplit
  have hmem : PyText.parentPart ∈ path.names := hsplit ▸ h
  exact (path.names_proper _ hmem).2.2.1 rfl

namespace StatusEntry

variable (entry : StatusEntry)

/-- **What git prints for a path**: it has no part `..`, its ends are no spaces, its characters are
    printed, and it weighs more than the path does when the path is quoted or was moved. -/
structure PrintsPath (printed : PyText) : Prop where
  undotted : Undotted printed
  ne_nil : printed ≠ []
  head : ∀ c, printed.head? = some c → isSpace c = false
  last : ∀ c, printed.getLast? = some c → isSpace c = false
  printed : ∀ c ∈ printed, Printed c

theorem printsPath_quote {t : PyText} (hne : t ≠ []) (h : Undotted t) : PrintsPath (quote t) where
  undotted := undotted_quote h
  ne_nil := quote_ne_nil hne
  head := (ends_quote t).1
  last := (ends_quote t).2
  printed _ hc := printed_of_mem_quote hc

theorem printsPath_printedPath : PrintsPath entry.printedPath := by
  have hpath := printsPath_quote entry.pathText_ne_nil entry.undotted_pathText
  unfold printedPath
  cases entry.source with
  | none => exact hpath
  | some source =>
      have hsource := printsPath_quote source.text_ne_nil source.undotted_text
      have harrow : (∀ c ∈ ofString " -> ", Printed c) ∧ slash ∉ ofString " -> " ∧
          ∃ c ∈ ofString " -> ", c ≠ .scalar '.' := by
        decide
      show PrintsPath (quote source.text ++ ofString " -> " ++ quote entry.pathText)
      rw [List.append_assoc]
      refine ⟨hsource.undotted.between hpath.undotted harrow.2.1 harrow.2.2, ?_, ?_, ?_, ?_⟩
      · exact fun h => hsource.ne_nil (List.append_eq_nil_iff.mp h).1
      · intro c hc
        rw [List.head?_append_of_ne_nil _ hsource.ne_nil] at hc
        exact hsource.head c hc
      · intro c hc
        rw [← List.append_assoc, List.getLast?_append_of_ne_nil _ hpath.ne_nil] at hc
        exact hpath.last c hc
      · intro c hc
        rcases List.mem_append.mp hc with hc | hc
        · exact hsource.printed c hc
        · rcases List.mem_append.mp hc with hc | hc
          · exact harrow.1 c hc
          · exact hpath.printed c hc

/-- A path that is quoted or was moved is printed with more than itself. -/
theorem weight_printedPath
    (h : ¬ (entry.source = none ∧ entry.pathText.any needsQuote = false)) :
    weight entry.path.text < weight entry.printedPath := by
  have hquote := weight_le_quote entry.pathText
  rw [← entry.weight_pathText]
  unfold printedPath
  cases hsource : entry.source with
  | none =>
      have hany : entry.pathText.any needsQuote = true := by
        cases hany : entry.pathText.any needsQuote with
        | false => exact absurd ⟨hsource, hany⟩ h
        | true => rfl
      have hmarks := weight_quote hany
      show weight entry.pathText < weight (quote entry.pathText)
      omega
  | some source =>
      have harrow : weight (ofString " -> ") = 4 := by decide
      show _ < weight (quote source.text ++ ofString " -> " ++ quote entry.pathText)
      rw [PyText.weight_append, PyText.weight_append, harrow]
      omega

end StatusEntry

theorem weight_replaceBackslashes (t : PyText) : weight (replaceBackslashes t) = weight t := by
  unfold weight replaceBackslashes
  rw [List.countP_map]
  refine List.countP_congr fun c _ => ?_
  show PyText.isNameCharacter (if c = backslash then slash else c) = true ↔ _
  split
  · next h =>
      rw [h]
      decide
  · rfl

theorem replaceBackslashes_of_not_mem {t : PyText} (h : backslash ∉ t) :
    replaceBackslashes t = t := by
  have hsame : t.map (fun c => if c = backslash then slash else c) = t.map id :=
    List.map_congr_left fun c hc => if_neg fun heq : c = backslash => h (heq ▸ hc)
  rw [replaceBackslashes, hsame, List.map_id]

namespace StatusEntry

variable (entry : StatusEntry)

theorem posixNames_pathText : PyText.posixNames entry.pathText = entry.path.names := by
  have hnames : ∀ name ∈ entry.path.names, decide (name ≠ [] ∧ name ≠ [.scalar '.']) = true :=
    fun name hname =>
      have hproper := entry.path.names_proper name hname
      decide_eq_true ⟨hproper.1, hproper.2.1⟩
  have hending : ∀ part ∈ entry.ending, ¬ decide (part ≠ [] ∧ part ≠ [.scalar '.']) = true := by
    intro part hpart
    rw [entry.mem_ending hpart]
    decide
  show (split slash entry.pathText).filter _ = _
  rw [split_pathText, List.filter_append, List.filter_eq_self.mpr hnames,
    List.filter_eq_nil_iff.mpr hending, List.append_nil]

/-- The path of an entry is normalized already, but for the slash of a directory. -/
theorem normpath_pathText : normpath entry.pathText = entry.path.text := by
  have hroot : PyText.posixRoot entry.pathText = [] := by
    obtain ⟨c, rest, htext, hc⟩ := entry.path.text_cons
    unfold pathText
    rw [htext, List.cons_append]
    exact PyText.posixRoot_append hc _ (.inl rfl)
  rw [PyText.normpath_of_undotted entry.undotted_pathText, hroot, posixNames_pathText]
  exact if_neg entry.path.text_ne_nil

theorem strip_printedPath : PyText.strip entry.printedPath = entry.printedPath :=
  PyText.strip_of_ends entry.printsPath_printedPath.head entry.printsPath_printedPath.last

/-- **The path of a line is that of its entry exactly if it is not quoted and was not moved.** -/
theorem path_readChange_iff : (GitProvider.readChange entry.line).path = entry.path.text ↔
    entry.source = none ∧ entry.pathText.any needsQuote = false := by
  have hpath : (GitProvider.readChange entry.line).path =
      replaceBackslashes (normpath entry.printedPath) := by
    show replaceBackslashes (normpath (PyText.strip entry.printedPath)) = _
    rw [strip_printedPath]
  rw [hpath]
  constructor
  · -- What is read weighs as much as what is printed.
    intro h
    by_contra hnot
    have hless := entry.weight_printedPath hnot
    have hsame : weight entry.path.text = weight entry.printedPath := by
      rw [← h, weight_replaceBackslashes,
        PyText.weight_normpath entry.printsPath_printedPath.undotted]
    omega
  · rintro ⟨hsource, hany⟩
    have hprinted : entry.printedPath = entry.pathText := by
      unfold printedPath
      rw [hsource]
      exact quote_of_plain hany
    have hbackslash : backslash ∉ entry.path.text := by
      intro hmem
      have hin : backslash ∈ entry.pathText := List.mem_append_left _ hmem
      have hno := visible_of_needsQuote (by simpa using List.any_eq_false.mp hany _ hin)
      exact hno.2.2 rfl
    rw [hprinted, normpath_pathText, replaceBackslashes_of_not_mem hbackslash]

end StatusEntry

/-! ## The status of a line -/

/-- The kind of change of a column; a changed type, a copy and a conflict are none of them. -/
def Column.kind? : Column → Option FileStatus
  | .modified => some .modified
  | .added => some .added
  | .deleted => some .deleted
  | .renamed => some .renamed
  | .untracked => some .untracked
  | _ => none

namespace StatusEntry

variable (entry : StatusEntry)

/-- git reports a conflict: a column says so, or both sides added or both deleted the path. -/
def Conflicted : Prop :=
  entry.index = .unmerged ∨ entry.worktree = .unmerged ∨
    entry.index = .added ∧ entry.worktree = .added ∨
    entry.index = .deleted ∧ entry.worktree = .deleted

/-- A status is the kind of change that git reports, in the index or in the worktree. -/
def Reports (status : FileStatus) : Prop :=
  ¬ entry.Conflicted ∧
    (entry.index.kind? = some status ∨ entry.worktree.kind? = some status)

/-- **A change is faithful to an entry**: it has its path and the kind of change reported. -/
def Faithful (change : FileChange) : Prop :=
  change.path = entry.path.text ∧ entry.Reports change.status

/-- The kinds that are kept: a file modified in the index or the worktree, one that is
    untracked, and one that is added, deleted or renamed in the one and unmodified in the
    other. -/
def KindKept : Prop :=
  entry.index = .modified ∨ entry.worktree = .modified ∨
    entry.index = .untracked ∧ entry.worktree = .untracked ∨
    entry.worktree = .unmodified ∧ entry.index ∈ [Column.added, .deleted, .renamed] ∨
    entry.index = .unmodified ∧ entry.worktree ∈ [Column.added, .deleted, .renamed]

instance : Decidable entry.KindKept := inferInstanceAs (Decidable (_ ∨ _))

/-- **An entry is read**: it is no rename, copy or conflict, its path is not quoted, and its kind
    is kept. -/
structure Readable : Prop where
  source : entry.source = none
  plain : entry.pathText.any needsQuote = false
  conflicted : ¬ entry.Conflicted
  kind : entry.KindKept

theorem reports_iff (h : ¬ entry.Conflicted) :
    entry.Reports (GitProvider.readChange entry.line).status ↔ entry.KindKept := by
  have hstatus : (GitProvider.readChange entry.line).status =
      GitProvider.statusOf (PyText.strip [entry.index.letter, entry.worktree.letter]) := rfl
  unfold Reports KindKept
  unfold Conflicted at h ⊢
  rw [hstatus]
  generalize entry.index = index at h ⊢
  generalize entry.worktree = worktree at h ⊢
  revert h
  cases index <;> cases worktree <;> decide

theorem faithful_iff : entry.Faithful (GitProvider.readChange entry.line) ↔ entry.Readable := by
  constructor
  · rintro ⟨hpath, hreports⟩
    obtain ⟨hsource, hplain⟩ := entry.path_readChange_iff.mp hpath
    exact ⟨hsource, hplain, hreports.1, (entry.reports_iff hreports.1).mp hreports⟩
  · rintro ⟨hsource, hplain, hconflicted, hkind⟩
    exact ⟨entry.path_readChange_iff.mpr ⟨hsource, hplain⟩,
      (entry.reports_iff hconflicted).mpr hkind⟩

/-! ## The lines of a status -/

theorem printed_line : ∀ c ∈ entry.line, Printed c := by
  have hletter : ∀ column : Column, Printed column.letter := by
    intro column
    cases column <;> decide
  intro c hc
  rcases List.mem_cons.mp hc with rfl | hc
  · exact hletter _
  · rcases List.mem_cons.mp hc with rfl | hc
    · exact hletter _
    · rcases List.mem_cons.mp hc with rfl | hc
      · decide
      · exact entry.printsPath_printedPath.printed c hc

/-- A line is not blank: its path is not. -/
theorem strip_line_ne_nil : PyText.strip entry.line ≠ [] := by
  have hprinted := entry.printsPath_printedPath
  obtain ⟨c, rest, hcons⟩ := List.exists_cons_of_ne_nil hprinted.ne_nil
  have hc : isSpace c = false := hprinted.head c (by rw [hcons]; rfl)
  have hline : c ∈ entry.line := by
    unfold line
    rw [hcons]
    simp
  exact List.ne_nil_of_mem (PyText.mem_strip hline hc)

end StatusEntry

/-- What git prints is lines that are joined, and a line end. -/
theorem printStatus_eq {entries : List StatusEntry} (hne : entries ≠ []) :
    printStatus entries =
      join (.scalar '\n') (entries.map StatusEntry.line) ++ [.scalar '\n'] := by
  induction entries with
  | nil => exact absurd rfl hne
  | cons entry rest ih =>
      cases rest with
      | nil => rfl
      | cons next rest =>
          have hrest := ih (List.cons_ne_nil next rest)
          show _ = (entry.line ++
            .scalar '\n' :: join (.scalar '\n') ((next :: rest).map StatusEntry.line)) ++ _
          rw [printStatus, hrest, List.append_assoc, List.cons_append]

theorem of_mem_lines {entries : List StatusEntry} {line : PyText}
    (h : line ∈ entries.map StatusEntry.line) :
    line ≠ [] ∧ (∀ c ∈ line, Printed c) ∧ PyText.strip line ≠ [] := by
  obtain ⟨entry, -, rfl⟩ := List.mem_map.mp h
  exact ⟨List.cons_ne_nil _ _, entry.printed_line, entry.strip_line_ne_nil⟩

/-- No line end that is printed is translated. -/
theorem universalNewlines_printStatus {entries : List StatusEntry} (hne : entries ≠ []) :
    universalNewlines (printStatus entries) = printStatus entries := by
  refine PyText.universalNewlines_of_not_mem fun hmem => ?_
  rw [printStatus_eq hne] at hmem
  rcases List.mem_append.mp hmem with hmem | hmem
  · rcases PyText.mem_join hmem with hmem | ⟨line, hline, hmem⟩
    · exact absurd hmem (by decide)
    · exact absurd ((of_mem_lines hline).2.1 _ hmem).isNewline (by decide)
  · exact absurd hmem (by decide)

/-- Only the last line end is stripped. -/
theorem rstripNewlines_printStatus {entries : List StatusEntry} (hne : entries ≠ []) :
    rstripNewlines (printStatus entries) =
      join (.scalar '\n') (entries.map StatusEntry.line) := by
  have hlines : entries.map StatusEntry.line ≠ [] := mt List.map_eq_nil_iff.mp hne
  obtain ⟨before, last, hlast⟩ := List.eq_nil_or_concat' _ |>.resolve_left hlines
  have hline := of_mem_lines (hlast ▸ List.mem_append_right before (List.mem_singleton_self last))
  obtain ⟨front, hfront⟩ := PyText.join_concat (.scalar '\n') before last
  rw [printStatus_eq hne, PyText.rstripNewlines_append_newline, hlast, hfront]
  exact PyText.rstripNewlines_append front hline.1 fun c hc => (hline.2.1 c hc).isNewline

/-- **The lines are found again**, and a change is read of each. -/
theorem status_printStatus (entries : List StatusEntry) :
    GitProvider.status (printStatus entries) =
      entries.map fun entry => GitProvider.readChange entry.line := by
  by_cases hne : entries = []
  · rw [hne]
    rfl
  · have hone : ∀ line ∈ entries.map StatusEntry.line, OneLine line := fun line hline c hc =>
      ((of_mem_lines hline).2.1 c hc).isLineEnd
    have hkept : ((entries.map StatusEntry.line).filter fun line => PyText.strip line ≠ []) =
        entries.map StatusEntry.line :=
      List.filter_eq_self.mpr fun line hline => decide_eq_true (of_mem_lines hline).2.2
    unfold GitProvider.status
    rw [universalNewlines_printStatus hne, rstripNewlines_printStatus hne,
      PyText.splitlines_join (fun line hline => (of_mem_lines hline).1) hone, hkept, List.map_map]
    rfl

/-- **The status is read faithfully, entry by entry, exactly if every entry is one that is
    read**: no rename, no copy, no conflict, no path that is quoted, and no two columns that
    differ but for a file that is modified. -/
theorem status_faithful_iff (entries : List StatusEntry) :
    List.Forall₂ StatusEntry.Faithful entries (GitProvider.status (printStatus entries)) ↔
      ∀ entry ∈ entries, entry.Readable := by
  rw [status_printStatus, List.forall₂_map_right_iff, List.forall₂_same]
  exact forall₂_congr fun entry _ => entry.faithful_iff

/-- A new file with a space in its name. -/
def spacedEntry : StatusEntry where
  index := .added
  worktree := .unmodified
  path := ⟨[ofString "a b"], List.cons_ne_nil _ _, by decide⟩
  source := none
  directory := false
  changed := by decide
  untracked_iff := by decide
  unmerged_index := by decide
  unmerged_worktree := by decide
  source_iff := by decide
  directory_untracked := by decide

/-- The name of a new file with a space in it is read with the quotes around it. -/
theorem quotes_kept :
    GitProvider.status (printStatus [spacedEntry]) = [⟨ofString "\"a b\"", .added, none⟩] ∧
      ¬ List.Forall₂ StatusEntry.Faithful [spacedEntry]
        (GitProvider.status (printStatus [spacedEntry])) := by
  have hread : GitProvider.status (printStatus [spacedEntry]) =
      [⟨ofString "\"a b\"", .added, none⟩] := by
    decide +kernel
  refine ⟨hread, fun h => ?_⟩
  rw [hread] at h
  cases h with
  | cons hfaithful _ => exact absurd hfaithful.1 (by decide)

end Eag.Vcs
