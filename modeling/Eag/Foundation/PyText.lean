/-
  Eag.Foundation.PyText

  Python texts with everything a `str` may hold: Unicode scalar values and lone
  surrogates, which a JSON escape can put there and which have no UTF-8 form.

  The path part is the reading `PurePosixPath` gives a text, and the line part the
  lines that `str.splitlines(keepends=True)` gives, with `str.find` in one of them.
-/

import Mathlib.Algebra.GroupWithZero.Nat
import Mathlib.Data.List.Infix
import Mathlib.Data.List.Lex
import Mathlib.Data.Nat.Basic
import Eag.Foundation.Text

namespace Eag.Foundation

/-! ## Texts -/

/-- One element of a `str`. -/
inductive CodePoint where
  | scalar (c : Char)
  /-- The surrogate `0xd800 + offset`. -/
  | surrogate (offset : Fin 2048)
  deriving DecidableEq, Repr

/-- A Python `str`. -/
abbrev PyText := List CodePoint

/-- Texts are compared by their code points. -/
instance : LawfulBEq PyText := inferInstance

namespace PyText

/-- A text without surrogates. -/
def ofString (s : String) : PyText := s.toList.map .scalar

/-- The characters of a text without surrogates. -/
def scalars? : PyText → Option (List Char)
  | [] => some []
  | .scalar c :: rest => (scalars? rest).map (c :: ·)
  | .surrogate _ :: _ => none

@[simp] theorem scalars?_map (cs : List Char) : scalars? (cs.map .scalar) = some cs := by
  induction cs with
  | nil => rfl
  | cons c cs ih => simp [scalars?, ih]

theorem scalars?_eq_some {t : PyText} {cs : List Char} :
    scalars? t = some cs ↔ t = cs.map .scalar := by
  constructor
  · intro h
    induction t generalizing cs with
    | nil =>
        rw [← Option.some.inj h]
        rfl
    | cons c rest ih =>
        cases c with
        | scalar c =>
            obtain ⟨cs, hcs, rfl⟩ := Option.map_eq_some_iff.mp h
            rw [ih hcs, List.map_cons]
        | surrogate _ => cases h
  · rintro rfl
    exact scalars?_map cs

theorem scalars?_ofString (s : String) : scalars? (ofString s) = some s.toList :=
  scalars?_map s.toList

theorem ofString_injective {a b : String} (h : ofString a = ofString b) : a = b := by
  have hs := congrArg scalars? h
  rw [scalars?_ofString, scalars?_ofString] at hs
  exact String.toList_injective (Option.some.inj hs)

/-- `len(value.encode("utf-8"))`; `none` where the encoding fails. -/
def utf8Length (t : PyText) : Option Nat :=
  (scalars? t).map fun cs => (cs.map Char.utf8Size).sum

/-- A text with a UTF-8 form. -/
def Encodable (t : PyText) : Prop := (scalars? t).isSome = true

instance (t : PyText) : Decidable t.Encodable := inferInstanceAs (Decidable (_ = true))

theorem utf8Length_isSome {t : PyText} : t.utf8Length.isSome = true ↔ t.Encodable := by
  simp [utf8Length, Encodable]

/-- A code point `str.strip()` removes. -/
def isSpace : CodePoint → Bool
  | .scalar c => Foundation.isSpace c
  | .surrogate _ => false

/-- `not value.strip()`. -/
def isBlank (t : PyText) : Bool := t.all isSpace

/-- A text with something left after stripping. -/
def NonBlank (t : PyText) : Prop := isBlank t = false

instance (t : PyText) : Decidable t.NonBlank := inferInstanceAs (Decidable (_ = false))

/-- The ASCII part of `value.lower()`. -/
def asciiLower : PyText → PyText :=
  List.map fun
    | .scalar c => .scalar c.toLower
    | .surrogate offset => .surrogate offset

/-- `ord`. -/
def codeValue : CodePoint → Nat
  | .scalar c => c.toNat
  | .surrogate offset => 0xd800 + offset

/-- `sorted(values)`. -/
def sorted (values : List PyText) : List PyText :=
  values.mergeSort fun a b => decide (a.map codeValue ≤ b.map codeValue)

/-- `value.startswith(affix)`. -/
def startsWith (t affix : PyText) : Bool := affix.isPrefixOf t

/-! ## Paths -/

/-- Add a code point to the first of the pieces. -/
def consPiece (c : CodePoint) : List PyText → List PyText
  | [] => [[c]]
  | piece :: rest => (c :: piece) :: rest

/-- `value.split(separator)`. -/
def split (separator : CodePoint) : PyText → List PyText
  | [] => [[]]
  | c :: rest =>
      if c = separator then [] :: split separator rest
      else consPiece c (split separator rest)

/-- `separator.join(pieces)`. -/
def join (separator : CodePoint) : List PyText → PyText
  | [] => []
  | [piece] => piece
  | piece :: next :: rest => piece ++ separator :: join separator (next :: rest)

theorem split_ne_nil (separator : CodePoint) (t : PyText) : split separator t ≠ [] := by
  cases t with
  | nil => simp [split]
  | cons c rest =>
      rw [split]
      split
      · simp
      · cases split separator rest <;> simp [consPiece]

theorem not_mem_of_mem_split {separator : CodePoint} {t piece : PyText}
    (h : piece ∈ split separator t) : separator ∉ piece := by
  induction t generalizing piece with
  | nil =>
      rw [split, List.mem_singleton] at h
      rw [h]
      exact List.not_mem_nil
  | cons c rest ih =>
      rw [split] at h
      split at h
      case isTrue =>
        rcases List.mem_cons.mp h with rfl | h
        · exact List.not_mem_nil
        · exact ih h
      case isFalse hne =>
        cases hrest : split separator rest with
        | nil => exact absurd hrest (split_ne_nil separator rest)
        | cons first others =>
            rw [hrest, consPiece, List.mem_cons] at h
            rcases h with rfl | h
            · intro hmem
              rcases List.mem_cons.mp hmem with heq | hmem
              · exact hne heq.symm
              · exact ih (by rw [hrest]; exact List.mem_cons_self) hmem
            · exact ih (by rw [hrest]; exact List.mem_cons_of_mem _ h)

theorem split_append {separator : CodePoint} {piece : PyText} (h : separator ∉ piece)
    (rest : PyText) :
    split separator (piece ++ separator :: rest) = piece :: split separator rest := by
  induction piece with
  | nil => simp [split]
  | cons c piece ih =>
      obtain ⟨hc, hpiece⟩ := not_or.mp (mt List.mem_cons.mpr h)
      rw [List.cons_append, split, if_neg (Ne.symm hc), ih hpiece]
      rfl

theorem split_of_not_mem {separator : CodePoint} {piece : PyText} (h : separator ∉ piece) :
    split separator piece = [piece] := by
  induction piece with
  | nil => rfl
  | cons c piece ih =>
      obtain ⟨hc, hpiece⟩ := not_or.mp (mt List.mem_cons.mpr h)
      rw [split, if_neg (Ne.symm hc), ih hpiece]
      rfl

/-- Splitting takes pieces without the separator apart again. -/
theorem split_join {separator : CodePoint} {pieces : List PyText} (hne : pieces ≠ [])
    (h : ∀ piece ∈ pieces, separator ∉ piece) :
    split separator (join separator pieces) = pieces := by
  induction pieces with
  | nil => exact absurd rfl hne
  | cons piece rest ih =>
      have hpiece : separator ∉ piece := h piece List.mem_cons_self
      cases rest with
      | nil => exact split_of_not_mem hpiece
      | cons next rest =>
          rw [join, split_append hpiece,
            ih (List.cons_ne_nil next rest) fun p hp => h p (List.mem_cons_of_mem _ hp)]

/-- The root `PurePosixPath` reads off a text: two slashes, but not three, are a
    root of their own. -/
def posixRoot : PyText → PyText
  | .scalar '/' :: .scalar '/' :: .scalar '/' :: _ => [.scalar '/']
  | .scalar '/' :: .scalar '/' :: _ => [.scalar '/', .scalar '/']
  | .scalar '/' :: _ => [.scalar '/']
  | _ => []

/-- `PurePosixPath(value).parts`: the root when there is one, then the names, without
    empty names and dots. -/
def posixParts (t : PyText) : List PyText :=
  let names := (split (.scalar '/') t).filter fun name => name ≠ [] ∧ name ≠ [.scalar '.']
  if posixRoot t = [] then names else posixRoot t :: names

/-- `str(PurePosixPath(value))`. -/
def posixText (t : PyText) : PyText :=
  let names := (split (.scalar '/') t).filter fun name => name ≠ [] ∧ name ≠ [.scalar '.']
  if posixRoot t = [] ∧ names = [] then [.scalar '.']
  else posixRoot t ++ join (.scalar '/') names

/-- `PurePosixPath(value).is_absolute()`. -/
def posixIsAbsolute (t : PyText) : Bool := decide (posixRoot t ≠ [])

example : posixParts (ofString "a//./b/../c") =
    ["a", "b", "..", "c"].map ofString := by decide

/-- A relative path that is its own text has no empty name and no dot among its parts. -/
theorem split_of_posixText {t : PyText} (hroot : posixRoot t = []) (hparts : posixParts t ≠ [])
    (htext : posixText t = t) : split (.scalar '/') t = posixParts t := by
  have hnames : posixParts t =
      (split (.scalar '/') t).filter fun name => name ≠ [] ∧ name ≠ [.scalar '.'] := if_pos hroot
  rw [posixText, hroot, ← hnames, if_neg fun h => hparts h.2, List.nil_append] at htext
  conv_lhs => rw [← htext]
  refine split_join hparts fun name hname => ?_
  rw [hnames] at hname
  exact not_mem_of_mem_split (List.mem_of_mem_filter hname)

/-! ## Lines -/

/-- A character `str.splitlines` ends a line with. -/
def isLineEnd : CodePoint → Bool
  | .scalar c =>
      let n := c.toNat
      (0x0a ≤ n && n ≤ 0x0d) || (0x1c ≤ n && n ≤ 0x1e) || n == 0x85 || n == 0x2028 || n == 0x2029
  | .surrogate _ => false

/-- `value.splitlines(keepends=True)`: `"\r\n"` is one end. -/
def splitLines : PyText → List PyText
  | [] => []
  | .scalar '\r' :: .scalar '\n' :: rest => [.scalar '\r', .scalar '\n'] :: splitLines rest
  | c :: rest => if isLineEnd c then [c] :: splitLines rest else consPiece c (splitLines rest)

theorem flatten_consPiece (c : CodePoint) (lines : List PyText) :
    (consPiece c lines).flatten = c :: lines.flatten := by
  cases lines <;> rfl

/-- The lines are the text. -/
theorem flatten_splitLines (t : PyText) : (splitLines t).flatten = t := by
  induction t using splitLines.induct with
  | case1 => rfl
  | case2 rest ih => rw [splitLines, List.flatten_cons, ih]; rfl
  | case3 c rest hne hend ih =>
      rw [splitLines, if_pos hend, List.flatten_cons, ih]
      · rfl
      · exact hne
  | case4 c rest hne hend ih =>
      rw [splitLines, if_neg hend, flatten_consPiece, ih]
      exact hne

/-! ## Search -/

/-- `value.find(wanted, start)`; `none` for `-1`. -/
def findFrom (t wanted : PyText) (start : Nat) : Option Nat :=
  (List.range (t.length + 1)).find? fun i => start ≤ i && wanted.isPrefixOf (t.drop i)

end PyText

end Eag.Foundation
