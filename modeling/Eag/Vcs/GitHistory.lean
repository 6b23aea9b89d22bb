/-
  Eag.Vcs.GitHistory

  Reading the log of git: `GitProvider.history` (`vcs/providers/git.py`) and `GitTool.log`
  (`plugins/builtin/git/tool.py`), of what git prints for their formats.

  `history` asks for `%H|%an|%aI|%s|%P` a line, `log` for `%H`, `%an`, `%ae`, `%aI` and `%s` with
  the unit separator between them and the record separator after each record, which git follows
  with a line end.  A command that fails is not modelled here.
-/

import Eag.Foundation.Checks
import Eag.Foundation.IsoFormat
import Eag.Foundation.TextLines

namespace Eag.Vcs

open Eag.Foundation
open Eag.Foundation.PyText (ofString split join words splitlines universalNewlines rstripNewlines
  OneLine Spaceless isLineEnd isSpace)

/-! ## Characters -/

/-- `"|"`. -/
def bar : CodePoint := .scalar '|'

/-- `"\x1f"`, which `strip` removes. -/
def unitSeparator : CodePoint := .scalar (Char.ofNat 0x1f)

/-- `"\x1e"`, which ends a line for `splitlines`. -/
def recordSeparator : CodePoint := .scalar (Char.ofNat 0x1e)

/-! ## Commits -/

/-- `Commit`. -/
structure Commit where
  commitId : PyText
  author : PyText
  timestamp : DateTime
  message : PyText
  parents : List PyText
  deriving DecidableEq, Repr

/-- `GitCommit`. -/
structure GitCommit where
  commitHash : PyText
  authorName : PyText
  authorEmail : PyText
  authoredAt : PyText
  subject : PyText
  deriving DecidableEq, Repr

/-- Why reading a log raises. -/
inductive GitLogError where
  /-- `fromisoformat`. -/
  | isoformat (text : PyText)
  /-- `Git log limit must be at least 1`. -/
  | limit
  deriving DecidableEq, Repr

namespace GitProvider

/-- A line of `history`: the commit, nothing for a line that is passed over. -/
def readLine (line : PyText) : Except GitLogError (Option Commit) :=
  if line.isBlank then .ok none
  else
    match split bar line with
    | commitId :: author :: date :: message :: rest =>
        match DateTime.fromisoformat date with
        | none => .error (.isoformat date)
        | some timestamp =>
            .ok (some {
              commitId, author, timestamp, message
              parents := match rest with
                | [] => []
                | parents :: _ => if parents = [] then [] else words parents })
    | _ => .ok none

/-- `history`, of what git printed. -/
def history (stdout : PyText) : Except GitLogError (List Commit) := do
  let output := rstripNewlines (universalNewlines stdout)
  let commits ← (splitlines output).mapM readLine
  .ok (commits.filterMap id)

end GitProvider

namespace GitTool

/-- A record of `log`; one without five fields is passed over. -/
def readRecord (piece : PyText) : Option GitCommit :=
  let record := piece.strip
  if record = [] then none
  else
    match split unitSeparator record with
    | [commitHash, authorName, authorEmail, authoredAt, subject] =>
        some { commitHash, authorName, authorEmail, authoredAt, subject }
    | _ => none

/-- `log`, of what git printed for the limit. -/
def log (limit : Int) (stdout : PyText) : Except GitLogError (List GitCommit) :=
  if limit < 1 then .error .limit
  else .ok ((split recordSeparator (universalNewlines stdout)).filterMap readRecord)

end GitTool

/-! ## What git prints -/

/-- A character of an object name. -/
def isHexDigit (c : CodePoint) : Bool := c ∈ ofString "0123456789abcdef"

/-- A character of a strict ISO date. -/
def isDateCharacter (c : CodePoint) : Bool := c ∈ ofString "0123456789-:+TZ"

/-- A commit as git logs it: its names are hexadecimal, its date is in strict ISO format, and no
    field has a line break. -/
structure LoggedCommit where
  id : PyText
  author : PyText
  email : PyText
  date : PyText
  subject : PyText
  parents : List PyText
  timestamp : DateTime
  id_hex : id ≠ [] ∧ ∀ c ∈ id, isHexDigit c = true
  parents_hex : ∀ parent ∈ parents, parent ≠ [] ∧ ∀ c ∈ parent, isHexDigit c = true
  date_characters : ∀ c ∈ date, isDateCharacter c = true
  date_read : DateTime.fromisoformat date = some timestamp
  no_break : ∀ field ∈ [author, email, subject], .scalar '\n' ∉ field ∧ .scalar '\r' ∉ field

namespace LoggedCommit

variable (commit : LoggedCommit)

/-- `%H|%an|%aI|%s|%P`. -/
def historyLine : PyText :=
  join bar [commit.id, commit.author, commit.date, commit.subject,
    join (.scalar ' ') commit.parents]

/-- `%H`, `%an`, `%ae`, `%aI` and `%s`, separated. -/
def logFields : PyText :=
  join unitSeparator [commit.id, commit.author, commit.email, commit.date, commit.subject]

/-- The commit that `history` should return. -/
def toCommit : Commit where
  commitId := commit.id
  author := commit.author
  timestamp := commit.timestamp
  message := commit.subject
  parents := commit.parents

/-- The commit that `log` should return. -/
def toGitCommit : GitCommit where
  commitHash := commit.id
  authorName := commit.author
  authorEmail := commit.email
  authoredAt := commit.date
  subject := commit.subject

end LoggedCommit

/-- What `git log --pretty=format:…` prints: a line end between the commits. -/
def printHistory (commits : List LoggedCommit) : PyText :=
  join (.scalar '\n') (commits.map LoggedCommit.historyLine)

/-- What `git log --format=…` prints: a line end after every record. -/
def printLog : List LoggedCommit → PyText
  | [] => []
  | commit :: rest => commit.logFields ++ recordSeparator :: .scalar '\n' :: printLog rest

/-! ## Which commits can be read back -/

/-- No field of a commit has a separator in it, and its subject ends in a character that is not
    stripped. -/
structure LoggedCommit.Separable (commit : LoggedCommit) : Prop where
  history : ∀ field ∈ [commit.author, commit.subject], bar ∉ field ∧ OneLine field
  log : ∀ field ∈ [commit.author, commit.email, commit.subject],
    unitSeparator ∉ field ∧ recordSeparator ∉ field
  subject_end : ∃ c, commit.subject.getLast? = some c ∧ isSpace c = false

/-- A character that no reader takes for a separator, a line end or a space. -/
def Plain (c : CodePoint) : Prop :=
  c ≠ bar ∧ c ≠ unitSeparator ∧ c ≠ recordSeparator ∧ isLineEnd c = false ∧ isSpace c = false

instance : DecidablePred Plain := fun _ => inferInstanceAs (Decidable (_ ∧ _))

theorem plain_of_isHexDigit {c : CodePoint} (h : isHexDigit c = true) : Plain c := by
  have hall : ∀ c ∈ ofString "0123456789abcdef", Plain c := by decide
  exact hall c (by simpa [isHexDigit] using h)

theorem plain_of_isDateCharacter {c : CodePoint} (h : isDateCharacter c = true) : Plain c := by
  have hall : ∀ c ∈ ofString "0123456789-:+TZ", Plain c := by decide
  exact hall c (by simpa [isDateCharacter] using h)

namespace LoggedCommit

variable {commit : LoggedCommit}

theorem plain_id (commit : LoggedCommit) : ∀ c ∈ commit.id, Plain c :=
  fun c hc => plain_of_isHexDigit (commit.id_hex.2 c hc)

theorem plain_date (commit : LoggedCommit) : ∀ c ∈ commit.date, Plain c :=
  fun c hc => plain_of_isDateCharacter (commit.date_characters c hc)

theorem plain_parent {parent : PyText} (h : parent ∈ commit.parents) : ∀ c ∈ parent, Plain c :=
  fun c hc => plain_of_isHexDigit ((commit.parents_hex parent h).2 c hc)

/-- The parents have no separator between them but the space. -/
theorem mem_parentsText {c : CodePoint} (h : c ∈ join (.scalar ' ') commit.parents) :
    c ≠ bar ∧ isLineEnd c = false := by
  rcases PyText.mem_join h with rfl | ⟨parent, hparent, hc⟩
  · decide
  · obtain ⟨hbar, -, -, hend, -⟩ := plain_parent hparent c hc
    exact ⟨hbar, hend⟩

/-! ## Reading `history` back -/

/-- The fields of a line, none of which has the separator or a line end in it. -/
theorem historyFields (h : commit.Separable) :
    ∀ field ∈ [commit.id, commit.author, commit.date, commit.subject,
      join (.scalar ' ') commit.parents], bar ∉ field ∧ OneLine field := by
  intro field hfield
  simp only [List.mem_cons, List.not_mem_nil, or_false] at hfield
  rcases hfield with rfl | rfl | rfl | rfl | rfl
  · exact ⟨fun hbar => (commit.plain_id bar hbar).1 rfl, fun c hc => (commit.plain_id c hc).2.2.2.1⟩
  · exact h.history _ (by simp)
  · exact ⟨fun hbar => (commit.plain_date bar hbar).1 rfl,
      fun c hc => (commit.plain_date c hc).2.2.2.1⟩
  · exact h.history _ (by simp)
  · exact ⟨fun hbar => (mem_parentsText hbar).1 rfl, fun c hc => (mem_parentsText hc).2⟩

theorem oneLine_historyLine (h : commit.Separable) : OneLine commit.historyLine := by
  intro c hc
  rcases PyText.mem_join hc with rfl | ⟨field, hfield, hc⟩
  · decide
  · exact (historyFields h field hfield).2 c hc

theorem historyLine_ne_nil : commit.historyLine ≠ [] := by
  unfold historyLine
  rw [join]
  simp

/-- **A line of a separable commit is read back.** -/
theorem readLine_historyLine (h : commit.Separable) :
    GitProvider.readLine commit.historyLine = .ok (some commit.toCommit) := by
  have hsplit : split bar commit.historyLine = [commit.id, commit.author, commit.date,
      commit.subject, join (.scalar ' ') commit.parents] :=
    PyText.split_join (List.cons_ne_nil _ _) fun field hfield => (historyFields h field hfield).1
  have hblank : commit.historyLine.isBlank = false := by
    obtain ⟨c, hc⟩ := List.exists_mem_of_ne_nil _ commit.id_hex.1
    have hmem : c ∈ commit.historyLine := PyText.mem_join_of_mem List.mem_cons_self hc
    unfold PyText.isBlank
    rw [List.all_eq_false]
    exact ⟨c, hmem, by rw [(commit.plain_id c hc).2.2.2.2]; exact Bool.false_ne_true⟩
  have hparents : (if join (.scalar ' ') commit.parents = [] then []
      else words (join (.scalar ' ') commit.parents)) = commit.parents := by
    have hwords : words (join (.scalar ' ') commit.parents) = commit.parents :=
      PyText.words_join (fun parent hparent => (commit.parents_hex parent hparent).1)
        fun parent hparent c hc => (plain_parent hparent c hc).2.2.2.2
    split_ifs with hnil
    · rw [hnil] at hwords
      exact hwords
    · exact hwords
  unfold GitProvider.readLine
  rw [hblank, if_neg Bool.false_ne_true, hsplit]
  dsimp only
  rw [commit.date_read]
  dsimp only
  rw [hparents]
  rfl

end LoggedCommit

variable {commits : List LoggedCommit}

/-- The text that git printed, when no line has a line end in it. -/
theorem read_printHistory (h : ∀ commit ∈ commits, commit.Separable) :
    splitlines (rstripNewlines (universalNewlines (printHistory commits)))
      = commits.map LoggedCommit.historyLine := by
  have hlines : ∀ line ∈ commits.map LoggedCommit.historyLine, OneLine line := by
    intro line hline
    obtain ⟨commit, hcommit, rfl⟩ := List.mem_map.mp hline
    exact LoggedCommit.oneLine_historyLine (h commit hcommit)
  have hne : ∀ line ∈ commits.map LoggedCommit.historyLine, line ≠ [] := by
    intro line hline
    obtain ⟨commit, -, rfl⟩ := List.mem_map.mp hline
    exact LoggedCommit.historyLine_ne_nil
  have hreturn : .scalar '\r' ∉ printHistory commits := by
    intro hmem
    rcases PyText.mem_join hmem with heq | ⟨line, hline, hc⟩
    · exact absurd heq (by decide)
    · exact absurd (hlines line hline _ hc) (by decide)
  rw [PyText.universalNewlines_of_not_mem hreturn]
  have hstrip : rstripNewlines (printHistory commits) = printHistory commits := by
    rcases List.eq_nil_or_concat' commits with rfl | ⟨before, last, rfl⟩
    · rfl
    · unfold printHistory
      rw [List.map_append, List.map_singleton]
      obtain ⟨front, hfront⟩ := PyText.join_concat (.scalar '\n')
        (before.map LoggedCommit.historyLine) last.historyLine
      rw [hfront]
      refine PyText.rstripNewlines_append front LoggedCommit.historyLine_ne_nil fun c hc => ?_
      have hend := hlines last.historyLine (List.mem_map_of_mem (by simp)) c hc
      unfold PyText.isNewline
      rw [Bool.or_eq_false_iff, decide_eq_false_iff_not, decide_eq_false_iff_not]
      constructor <;> rintro rfl <;> exact absurd hend (by decide)
  rw [hstrip]
  exact PyText.splitlines_join hne hlines

theorem history_printHistory (h : ∀ commit ∈ commits, commit.Separable) :
    GitProvider.history (printHistory commits) = .ok (commits.map LoggedCommit.toCommit) := by
  unfold GitProvider.history
  dsimp only
  rw [read_printHistory h]
  have hread : (commits.map LoggedCommit.historyLine).mapM GitProvider.readLine
      = .ok (commits.map fun commit => some commit.toCommit) := by
    rw [mapM_eq_ok_forall₂, List.forall₂_map_left_iff, List.forall₂_map_right_iff,
      List.forall₂_same]
    exact fun commit hcommit => LoggedCommit.readLine_historyLine (h commit hcommit)
  rw [hread]
  have hfound : (commits.map fun commit => some commit.toCommit).filterMap id
      = commits.map LoggedCommit.toCommit := by
    rw [List.filterMap_map]
    exact congrFun List.filterMap_eq_map commits
  exact congrArg Except.ok hfound

/-- What `history` returns has no separator and no line end in its texts, whatever git printed. -/
theorem history_texts {stdout : PyText} {found : List Commit}
    (h : GitProvider.history stdout = .ok found) {commit : Commit} (hcommit : commit ∈ found) :
    ∀ field ∈ [commit.author, commit.message], bar ∉ field ∧ OneLine field := by
  unfold GitProvider.history at h
  simp only [except_bind_eq_ok] at h
  obtain ⟨read, hread, h⟩ := h
  obtain rfl := Except.ok.inj h
  obtain ⟨option, hoption, hid⟩ := List.mem_filterMap.mp hcommit
  obtain rfl : option = some commit := hid
  obtain ⟨line, hline, hfound⟩ :=
    exists_mem_of_forall₂_right (mapM_eq_ok_forall₂.mp hread) hoption
  have hpieces : commit.author ∈ split bar line ∧ commit.message ∈ split bar line := by
    unfold GitProvider.readLine at hfound
    split at hfound
    · cases hfound
    · split at hfound
      · next heq =>
          rw [heq]
          split at hfound
          · cases hfound
          · cases hfound
            simp
      · cases hfound
  have hpiece : ∀ field ∈ split bar line, bar ∉ field ∧ OneLine field := fun field hfield =>
    ⟨PyText.not_mem_of_mem_split hfield, fun c hc =>
      PyText.oneLine_of_mem_splitlines hline c (PyText.mem_of_mem_split hfield hc)⟩
  intro field hfield
  simp only [List.mem_cons, List.not_mem_nil, or_false] at hfield
  rcases hfield with rfl | rfl
  · exact hpiece _ hpieces.1
  · exact hpiece _ hpieces.2

/-! ## Reading `log` back -/

namespace LoggedCommit

variable {commit : LoggedCommit}

theorem logFields_plain (h : commit.Separable) :
    ∀ field ∈ [commit.id, commit.author, commit.email, commit.date, commit.subject],
      unitSeparator ∉ field ∧ recordSeparator ∉ field := by
  intro field hfield
  simp only [List.mem_cons, List.not_mem_nil, or_false] at hfield
  rcases hfield with rfl | rfl | rfl | rfl | rfl
  · exact ⟨fun hc => (commit.plain_id _ hc).2.1 rfl, fun hc => (commit.plain_id _ hc).2.2.1 rfl⟩
  · exact h.log _ (by simp)
  · exact h.log _ (by simp)
  · exact ⟨fun hc => (commit.plain_date _ hc).2.1 rfl, fun hc => (commit.plain_date _ hc).2.2.1 rfl⟩
  · exact h.log _ (by simp)

/-- Nothing is stripped of a record: it starts with a name, and ends with the subject. -/
theorem strip_logFields (h : commit.Separable) : commit.logFields.strip = commit.logFields := by
  refine PyText.strip_of_ends (fun c hc => ?_) fun c hc => ?_
  · obtain ⟨d, rest, hid⟩ := List.exists_cons_of_ne_nil commit.id_hex.1
    have hhead : commit.logFields.head? = some d := by
      unfold logFields
      rw [hid]
      rfl
    have hdc : d = c := Option.some.inj (hhead.symm.trans hc)
    have hmem : c ∈ commit.id := by
      rw [hid, ← hdc]
      exact List.mem_cons_self
    exact (commit.plain_id c hmem).2.2.2.2
  · obtain ⟨d, hlast, hspace⟩ := h.subject_end
    obtain ⟨front, hfront⟩ := PyText.join_concat unitSeparator
      [commit.id, commit.author, commit.email, commit.date] commit.subject
    have hend : commit.logFields.getLast? = some d := by
      have hfields : commit.logFields = front ++ commit.subject := hfront
      rw [hfields, List.getLast?_append, hlast, Option.some_or]
    rw [hend] at hc
    exact Option.some.inj hc ▸ hspace

/-- **A record of a separable commit is read back.** -/
theorem readRecord_logFields (h : commit.Separable) :
    GitTool.readRecord commit.logFields = some commit.toGitCommit := by
  have hne : commit.logFields ≠ [] := by
    unfold logFields
    rw [join]
    simp
  have hsplit : split unitSeparator commit.logFields
      = [commit.id, commit.author, commit.email, commit.date, commit.subject] :=
    PyText.split_join (List.cons_ne_nil _ _) fun field hfield =>
      (logFields_plain h field hfield).1
  unfold GitTool.readRecord
  dsimp only
  rw [strip_logFields h, if_neg hne, hsplit]
  rfl

end LoggedCommit

/-- The records that are read of a text. -/
def readRecords (t : PyText) : List GitCommit :=
  (split recordSeparator t).filterMap GitTool.readRecord

/-- The line end before a record is stripped. -/
theorem readRecords_newline (t : PyText) : readRecords (.scalar '\n' :: t) = readRecords t := by
  have hrecord : ∀ piece, GitTool.readRecord (.scalar '\n' :: piece) = GitTool.readRecord piece := by
    intro piece
    unfold GitTool.readRecord
    dsimp only
    rw [PyText.strip_cons_space (by decide)]
  unfold readRecords
  rw [PyText.split, if_neg (by decide)]
  cases hsplit : split recordSeparator t with
  | nil => exact absurd hsplit (PyText.split_ne_nil _ _)
  | cons piece rest =>
      show List.filterMap GitTool.readRecord ((.scalar '\n' :: piece) :: rest) = _
      rw [List.filterMap_cons, List.filterMap_cons, hrecord]

theorem readRecords_printLog (h : ∀ commit ∈ commits, commit.Separable) :
    readRecords (printLog commits) = commits.map LoggedCommit.toGitCommit := by
  induction commits with
  | nil => decide
  | cons commit rest ih =>
      have hcommit := h commit List.mem_cons_self
      have hrecord : recordSeparator ∉ commit.logFields := by
        intro hmem
        rcases PyText.mem_join hmem with heq | ⟨field, hfield, hc⟩
        · exact absurd heq (by decide)
        · exact (LoggedCommit.logFields_plain hcommit field hfield).2 hc
      have hfirst : readRecords (printLog (commit :: rest))
          = commit.toGitCommit :: readRecords (.scalar '\n' :: printLog rest) := by
        unfold readRecords
        rw [printLog, PyText.split_append hrecord, List.filterMap_cons,
          LoggedCommit.readRecord_logFields hcommit]
      rw [hfirst, readRecords_newline, ih fun c hc => h c (List.mem_cons_of_mem _ hc),
        List.map_cons]

theorem log_printLog {limit : Int} (hlimit : 1 ≤ limit)
    (h : ∀ commit ∈ commits, commit.Separable) :
    GitTool.log limit (printLog commits) = .ok (commits.map LoggedCommit.toGitCommit) := by
  have hreturn : .scalar '\r' ∉ printLog commits := by
    clear hlimit
    induction commits with
    | nil => exact List.not_mem_nil
    | cons commit rest ih =>
        rw [printLog, List.mem_append, List.mem_cons, List.mem_cons]
        rintro (hmem | hmem | hmem | hmem)
        · rcases PyText.mem_join hmem with heq | ⟨field, hfield, hc⟩
          · exact absurd heq (by decide)
          · simp only [List.mem_cons, List.not_mem_nil, or_false] at hfield
            rcases hfield with rfl | rfl | rfl | rfl | rfl
            · exact absurd (commit.plain_id _ hc) (by decide)
            · exact (commit.no_break _ (by simp)).2 hc
            · exact (commit.no_break _ (by simp)).2 hc
            · exact absurd (commit.plain_date _ hc) (by decide)
            · exact (commit.no_break _ (by simp)).2 hc
        · exact absurd hmem (by decide)
        · exact absurd hmem (by decide)
        · exact ih (fun c hc => h c (List.mem_cons_of_mem _ hc)) hmem
  unfold GitTool.log
  rw [if_neg (by omega), PyText.universalNewlines_of_not_mem hreturn]
  exact congrArg Except.ok (readRecords_printLog h)

/-- What `log` returns has no separator in its texts and ends in no space, whatever git printed. -/
theorem log_texts {limit : Int} {stdout : PyText} {found : List GitCommit}
    (h : GitTool.log limit stdout = .ok found) {commit : GitCommit} (hcommit : commit ∈ found) :
    (∀ field ∈ [commit.authorName, commit.authorEmail, commit.subject],
      unitSeparator ∉ field ∧ recordSeparator ∉ field) ∧
    ∃ c, commit.subject.getLast? = some c ∧ isSpace c = false := by
  unfold GitTool.log at h
  split at h
  · cases h
  obtain rfl := Except.ok.inj h
  obtain ⟨piece, hpiece, hread⟩ := List.mem_filterMap.mp hcommit
  unfold GitTool.readRecord at hread
  dsimp only at hread
  split at hread
  · cases hread
  split at hread
  · next hash author email date subject heq =>
      cases hread
      have hfield : ∀ field ∈ split unitSeparator piece.strip,
          unitSeparator ∉ field ∧ recordSeparator ∉ field := fun field hfield =>
        ⟨PyText.not_mem_of_mem_split hfield, fun hc =>
          PyText.not_mem_of_mem_split hpiece
            (PyText.mem_of_mem_strip (PyText.mem_of_mem_split hfield hc))⟩
      rw [heq] at hfield
      refine ⟨?_, ?_⟩
      · intro field hmem
        refine hfield field ?_
        simp only [List.mem_cons, List.not_mem_nil, or_false] at hmem ⊢
        tauto
      · -- The record ends in its subject, and a stripped record not in the separator before it.
        have hjoin : piece.strip = join unitSeparator [hash, author, email, date, subject] := by
          rw [← heq, PyText.join_split]
        rcases List.eq_nil_or_concat' subject with rfl | ⟨start, c, rfl⟩
        · have hrecord : piece.strip = (hash ++ unitSeparator :: (author ++ unitSeparator ::
              (email ++ unitSeparator :: date))) ++ [unitSeparator] := by
            rw [hjoin]
            simp [join]
          have hend : piece.strip.getLast? = some unitSeparator := by
            rw [hrecord, List.getLast?_concat]
          exact absurd (PyText.getLast?_strip hend) (by decide)
        · obtain ⟨front, hfront⟩ :=
            PyText.join_concat unitSeparator [hash, author, email, date] (start ++ [c])
          have hend : piece.strip.getLast? = some c := by
            rw [hjoin]
            exact hfront ▸ by simp
          exact ⟨c, by simp, PyText.getLast?_strip hend⟩
  · cases hread

/-! ## Exactly the separable commits are read back -/

/-- **The logs are read back exactly when every commit is separable**: no bar and nothing that
    `splitlines` takes for a line end in an author or a subject, neither of the separators in a
    text that `log` reads, and a subject whose end is not stripped, so not the empty one. -/
theorem logs_read_back_iff (commits : List LoggedCommit) (limit : Int) (hlimit : 1 ≤ limit) :
    (GitProvider.history (printHistory commits) = .ok (commits.map LoggedCommit.toCommit) ∧
      GitTool.log limit (printLog commits) = .ok (commits.map LoggedCommit.toGitCommit)) ↔
      ∀ commit ∈ commits, commit.Separable := by
  constructor
  · rintro ⟨hhistory, hlog⟩ commit hcommit
    obtain ⟨htexts, hend⟩ := log_texts hlog (List.mem_map_of_mem hcommit)
    exact ⟨history_texts hhistory (List.mem_map_of_mem hcommit), htexts, hend⟩
  · exact fun h => ⟨history_printHistory h, log_printLog hlimit h⟩

/-- A commit with a subject. -/
def commitWith (subject : String)
    (h : .scalar '\n' ∉ ofString subject ∧ .scalar '\r' ∉ ofString subject) : LoggedCommit where
  id := ofString "c0ffee"
  author := ofString "Author"
  email := ofString "author@example.com"
  date := ofString "2024-01-02T03:04:05+00:00"
  subject := ofString subject
  parents := [ofString "badf00d"]
  timestamp := ⟨63839761445000000, some 0⟩
  id_hex := by decide
  parents_hex := by decide
  date_characters := by decide
  date_read := by decide +kernel
  no_break := by
    intro field hfield
    simp only [List.mem_cons, List.not_mem_nil, or_false] at hfield
    rcases hfield with rfl | rfl | rfl
    · decide
    · decide
    · exact h

theorem logs_read_back_iff_fix :
    (GitProvider.history (printHistory [commitWith "Fix" (by decide)])
        = .ok ([commitWith "Fix" (by decide)].map LoggedCommit.toCommit) ∧
      GitTool.log 10 (printLog [commitWith "Fix" (by decide)])
        = .ok ([commitWith "Fix" (by decide)].map LoggedCommit.toGitCommit)) ↔
      ∀ commit ∈ [commitWith "Fix" (by decide)], commit.Separable :=
  logs_read_back_iff [commitWith "Fix" (by decide)] 10 (by decide)

/-- A bar in a subject ends the message, and what follows it is read as the parents; a commit
    with an empty subject is not in what `log` returns. -/
theorem bar_ends_message :
    GitProvider.history (printHistory [commitWith "Use a|b" (by decide)])
      = .ok [{ (commitWith "Use a|b" (by decide)).toCommit with
          message := ofString "Use a", parents := [ofString "b"] }] ∧
    GitTool.log 10 (printLog [commitWith "" (by decide)]) = .ok [] ∧
    ¬ ∀ (commits : List LoggedCommit) (limit : Int), 1 ≤ limit →
      GitProvider.history (printHistory commits) = .ok (commits.map LoggedCommit.toCommit) ∧
        GitTool.log limit (printLog commits) = .ok (commits.map LoggedCommit.toGitCommit) := by
  have hempty : GitTool.log 10 (printLog [commitWith "" (by decide)]) = .ok [] := by
    decide +kernel
  refine ⟨by decide +kernel, hempty, fun hclaim => ?_⟩
  have hlog := (hclaim [commitWith "" (by decide)] 10 (by decide)).2
  rw [hempty] at hlog
  cases hlog

end Eag.Vcs
