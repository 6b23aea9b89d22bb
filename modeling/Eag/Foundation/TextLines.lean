/-
  Eag.Foundation.TextLines

  What a program makes of the text another one prints: the line ends that are translated when
  it is read, its lines (`str.splitlines`) and its words (`str.split` at whitespace).

  `splitlines_join` and `words_join` say of which texts the lines and the words are found
  again, and `isLineEnd_of_mem_splitlines` that a line that was found has no end in it.
-/

import Eag.Foundation.DottedNames

namespace Eag.Foundation

namespace PyText

/-! ## Joined pieces -/

theorem mem_join {separator c : CodePoint} {pieces : List PyText}
    (h : c ∈ join separator pieces) : c = separator ∨ ∃ piece ∈ pieces, c ∈ piece := by
  induction pieces with
  | nil => cases h
  | cons piece rest ih =>
      cases rest with
      | nil => exact .inr ⟨piece, List.mem_cons_self, h⟩
      | cons next rest =>
          rw [join, List.mem_append, List.mem_cons] at h
          rcases h with h | h | h
          · exact .inr ⟨piece, List.mem_cons_self, h⟩
          · exact .inl h
          · rcases ih h with h | ⟨p, hp, hc⟩
            · exact .inl h
            · exact .inr ⟨p, List.mem_cons_of_mem _ hp, hc⟩

/-- The pieces of a text are the text. -/
theorem join_split (separator : CodePoint) (t : PyText) : join separator (split separator t) = t := by
  induction t with
  | nil => rfl
  | cons c rest ih =>
      rw [split]
      split_ifs with hc
      · cases hrest : split separator rest with
        | nil => exact absurd hrest (split_ne_nil separator rest)
        | cons piece others =>
            rw [join, ← hrest, ih, hc]
            rfl
      · cases hrest : split separator rest with
        | nil => exact absurd hrest (split_ne_nil separator rest)
        | cons piece others =>
            rw [hrest] at ih
            rw [consPiece, ← ih]
            cases others with
            | nil => rfl
            | cons next others => rw [join, join, List.cons_append]

/-- Joined pieces end in the last of them. -/
theorem join_concat (separator : CodePoint) (pieces : List PyText) (last : PyText) :
    ∃ front, join separator (pieces ++ [last]) = front ++ last := by
  induction pieces with
  | nil => exact ⟨[], rfl⟩
  | cons piece rest ih =>
      obtain ⟨front, hfront⟩ := ih
      cases rest with
      | nil => exact ⟨piece ++ [separator], by simp [join]⟩
      | cons next rest =>
          refine ⟨piece ++ separator :: front, ?_⟩
          rw [List.cons_append, List.cons_append, join, ← List.cons_append, hfront,
            List.append_assoc, List.cons_append]

/-! ## Stripping -/

/-- Nothing is stripped of a text between two characters that are no spaces. -/
theorem strip_of_ends {t : PyText} (hhead : ∀ c, t.head? = some c → isSpace c = false)
    (hlast : ∀ c, t.getLast? = some c → isSpace c = false) : strip t = t := by
  have hleft : lstrip t = t := by
    cases t with
    | nil => rfl
    | cons c rest =>
        rw [lstrip, List.dropWhile_cons, if_neg (by rw [hhead c rfl]; exact Bool.false_ne_true)]
  rw [strip, hleft, rstrip]
  rw [List.dropWhile_eq_self_iff.mpr, List.reverse_reverse]
  intro hpos
  have hfirst : t.reverse.head? = some t.reverse[0] := (List.head?_eq_getElem? ..).trans
    (List.getElem?_eq_getElem hpos)
  rw [List.head?_reverse] at hfirst
  rw [hlast _ hfirst]
  exact Bool.false_ne_true

theorem strip_cons_space {c : CodePoint} (h : isSpace c = true) (t : PyText) :
    strip (c :: t) = strip t := by
  rw [strip, strip, lstrip, lstrip, List.dropWhile_cons, if_pos h]

theorem mem_of_mem_strip {c : CodePoint} {t : PyText} (h : c ∈ strip t) : c ∈ t := by
  have hright : c ∈ lstrip t := by
    have hmem := (List.dropWhile_sublist isSpace).subset (List.mem_reverse.mp h)
    exact List.mem_reverse.mp hmem
  exact (List.dropWhile_sublist isSpace).subset hright

/-- What is no space is kept. -/
theorem mem_strip {c : CodePoint} {t : PyText} (h : c ∈ t) (hc : isSpace c = false) :
    c ∈ strip t := by
  have hkept : ∀ s : PyText, c ∈ s → c ∈ s.dropWhile isSpace := by
    intro s hs
    rw [← List.takeWhile_append_dropWhile (p := isSpace) (l := s), List.mem_append] at hs
    refine hs.resolve_left fun hmem => ?_
    exact Bool.false_ne_true (hc.symm.trans (List.mem_takeWhile_imp hmem))
  have hright : c ∈ lstrip t := hkept t h
  exact List.mem_reverse.mpr (hkept _ (List.mem_reverse.mpr hright))

/-- A stripped text does not end in a space. -/
theorem getLast?_strip {c : CodePoint} {t : PyText} (h : (strip t).getLast? = some c) :
    isSpace c = false := by
  rw [strip, rstrip, List.getLast?_reverse] at h
  have hhead := List.head?_dropWhile_not isSpace (lstrip t).reverse
  rw [h] at hhead
  simpa using hhead

/-! ## Line ends -/

/-- The line ends of a text that is read, which are `"\n"` whatever was written. -/
def universalNewlines : PyText → PyText
  | [] => []
  | .scalar '\r' :: .scalar '\n' :: rest => .scalar '\n' :: universalNewlines rest
  | c :: rest => (if c = .scalar '\r' then .scalar '\n' else c) :: universalNewlines rest

theorem universalNewlines_of_not_mem {t : PyText} (h : .scalar '\r' ∉ t) :
    universalNewlines t = t := by
  induction t with
  | nil => rfl
  | cons c rest ih =>
      obtain ⟨hc, hrest⟩ := not_or.mp (mt List.mem_cons.mpr h)
      rw [universalNewlines, if_neg (Ne.symm hc), ih hrest]
      exact fun _ heq => absurd heq.symm hc

/-- A code point that `rstrip("\r\n")` removes. -/
def isNewline (c : CodePoint) : Bool := c = .scalar '\r' || c = .scalar '\n'

/-- `value.rstrip("\r\n")`. -/
def rstripNewlines (t : PyText) : PyText := (t.reverse.dropWhile isNewline).reverse

theorem rstripNewlines_append_newline (t : PyText) :
    rstripNewlines (t ++ [.scalar '\n']) = rstripNewlines t := by
  unfold rstripNewlines
  rw [List.reverse_append]
  rfl

/-- A text that ends in something else is left as it is. -/
theorem rstripNewlines_append (front : PyText) {last : PyText} (hne : last ≠ [])
    (h : ∀ c ∈ last, isNewline c = false) : rstripNewlines (front ++ last) = front ++ last := by
  obtain ⟨start, c, rfl⟩ := List.eq_nil_or_concat' last |>.resolve_left hne
  unfold rstripNewlines
  rw [← List.append_assoc, List.reverse_append, List.reverse_singleton, List.singleton_append,
    List.dropWhile_cons, h c (by simp)]
  simp

/-! ## Lines -/

/-- `value.splitlines()`: of each line what stands before its end. -/
def splitlines (t : PyText) : List PyText :=
  (splitLines t).map fun line => line.takeWhile fun c => !isLineEnd c

/-- A text without a line end in it. -/
def OneLine (t : PyText) : Prop := ∀ c ∈ t, isLineEnd c = false

instance (t : PyText) : Decidable t.OneLine := inferInstanceAs (Decidable (∀ _ ∈ t, _ = _))

theorem oneLine_of_mem_splitlines {t line : PyText} (h : line ∈ splitlines t) : line.OneLine := by
  obtain ⟨whole, -, rfl⟩ := List.mem_map.mp h
  intro c hc
  simpa using List.mem_takeWhile_imp hc

theorem splitLines_cons {c : CodePoint} (rest : PyText) (h : isLineEnd c = false) :
    splitLines (c :: rest) = consPiece c (splitLines rest) := by
  rw [splitLines, if_neg (by rw [h]; exact Bool.false_ne_true)]
  rintro _ rfl
  exact absurd h (by decide)

theorem splitLines_newline (rest : PyText) :
    splitLines (.scalar '\n' :: rest) = [.scalar '\n'] :: splitLines rest := by
  rw [splitLines, if_pos (by decide)]
  exact fun _ heq => absurd heq (by decide)

/-- A line with its end comes first. -/
theorem splitLines_append {line : PyText} (h : line.OneLine) (rest : PyText) :
    splitLines (line ++ .scalar '\n' :: rest) = (line ++ [.scalar '\n']) :: splitLines rest := by
  induction line with
  | nil => exact splitLines_newline rest
  | cons c line ih =>
      rw [List.cons_append, splitLines_cons _ (h c List.mem_cons_self),
        ih fun d hd => h d (List.mem_cons_of_mem _ hd)]
      rfl

theorem splitLines_of_oneLine {line : PyText} (hne : line ≠ []) (h : line.OneLine) :
    splitLines line = [line] := by
  induction line with
  | nil => exact absurd rfl hne
  | cons c line ih =>
      rw [splitLines_cons _ (h c List.mem_cons_self)]
      cases line with
      | nil => rfl
      | cons d line =>
          rw [ih (List.cons_ne_nil d line) fun e he => h e (List.mem_cons_of_mem _ he)]
          rfl

theorem takeWhile_of_oneLine {line : PyText} (h : line.OneLine) (rest : PyText) :
    (line ++ .scalar '\n' :: rest).takeWhile (fun c => !isLineEnd c) = line := by
  rw [List.takeWhile_append_of_pos fun c hc => by rw [h c hc]; rfl]
  simp [isLineEnd]

/-- **Lines that are joined are found again**, when none is empty or has a line end in it. -/
theorem splitlines_join {lines : List PyText} (hne : ∀ line ∈ lines, line ≠ [])
    (h : ∀ line ∈ lines, line.OneLine) : splitlines (join (.scalar '\n') lines) = lines := by
  unfold splitlines
  induction lines with
  | nil => rfl
  | cons line rest ih =>
      have hline := h line List.mem_cons_self
      cases rest with
      | nil =>
          rw [join, splitLines_of_oneLine (hne line List.mem_cons_self) hline, List.map_singleton,
            List.takeWhile_eq_self_iff.mpr fun c hc => by rw [hline c hc]; rfl]
      | cons next rest =>
          rw [join, splitLines_append hline, List.map_cons, takeWhile_of_oneLine hline,
            ih (fun l hl => hne l (List.mem_cons_of_mem _ hl))
              fun l hl => h l (List.mem_cons_of_mem _ hl)]

/-! ## Words -/

/-- `value.split()`. -/
def words (t : PyText) : List PyText := (t.splitOnP isSpace).filter fun word => word ≠ []

theorem words_append_space (word rest : PyText) :
    words (word ++ .scalar ' ' :: rest) = words word ++ words rest := by
  unfold words
  rw [List.splitOnP_append_cons word rest (by decide), List.filter_append]

theorem words_of_spaceless {word : PyText} (hne : word ≠ []) (h : word.Spaceless) :
    words word = [word] := by
  unfold words
  rw [List.splitOnP_eq_singleton fun c hc => h c hc]
  simp [hne]

/-- **Words that are joined are found again.** -/
theorem words_join {pieces : List PyText} (hne : ∀ piece ∈ pieces, piece ≠ [])
    (h : ∀ piece ∈ pieces, piece.Spaceless) : words (join (.scalar ' ') pieces) = pieces := by
  induction pieces with
  | nil => rfl
  | cons piece rest ih =>
      have hpiece := words_of_spaceless (hne piece List.mem_cons_self) (h piece List.mem_cons_self)
      cases rest with
      | nil => exact hpiece
      | cons next rest =>
          rw [join, words_append_space, hpiece,
            ih (fun p hp => hne p (List.mem_cons_of_mem _ hp))
              fun p hp => h p (List.mem_cons_of_mem _ hp)]
          rfl

end PyText

end Eag.Foundation
