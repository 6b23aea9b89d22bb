/-
  Eag.Foundation.Json

  JSON values and the compact text `json.dumps` gives them with sorted keys,
  `(",", ":")` separators and ASCII escapes. The text determines the value
  (`dumps_injective`), so a digest of the text binds every field that was put into
  the value.

  The proof reads a text from the left: a rendered value followed by a delimiter can
  be told apart from every other.
-/

import Mathlib.Data.List.Basic
import Mathlib.Tactic.IntervalCases

namespace Eag.Foundation

/-! ## Characters of a string -/

/-- The lowercase hexadecimal digit of `n`. -/
def hexDigit (n : Nat) : Char :=
  match n with
  | 0 => '0' | 1 => '1' | 2 => '2' | 3 => '3' | 4 => '4' | 5 => '5' | 6 => '6' | 7 => '7'
  | 8 => '8' | 9 => '9' | 10 => 'a' | 11 => 'b' | 12 => 'c' | 13 => 'd' | 14 => 'e' | _ => 'f'

/-- The value of a hexadecimal digit. -/
def hexValue (c : Char) : Nat :=
  if c.toNat < 0x60 then c.toNat - 0x30 else c.toNat - 0x57

theorem hexValue_hexDigit {n : Nat} (h : n < 16) : hexValue (hexDigit n) = n := by
  interval_cases n <;> rfl

/-- Four hexadecimal digits. -/
def hex4 (n : Nat) : List Char :=
  [hexDigit (n / 4096), hexDigit (n / 256 % 16), hexDigit (n / 16 % 16), hexDigit (n % 16)]

/-- How a character stands inside a JSON string. -/
def escapeChar (c : Char) : List Char :=
  if c = '"' then ['\\', '"']
  else if c = '\\' then ['\\', '\\']
  else if c = '\n' then ['\\', 'n']
  else if c = '\r' then ['\\', 'r']
  else if c = '\t' then ['\\', 't']
  else if c = '\x0c' then ['\\', 'f']
  else if c = '\x08' then ['\\', 'b']
  else if 0x20 ≤ c.toNat ∧ c.toNat ≤ 0x7e then [c]
  else if c.toNat < 0x10000 then '\\' :: 'u' :: hex4 c.toNat
  else
    '\\' :: 'u' :: (hex4 (0xd800 + (c.toNat - 0x10000) / 0x400) ++
      '\\' :: 'u' :: hex4 (0xdc00 + (c.toNat - 0x10000) % 0x400))

/-- The value of four hexadecimal digits. -/
def hex4Value (a b c d : Char) : Nat :=
  ((hexValue a * 16 + hexValue b) * 16 + hexValue c) * 16 + hexValue d

/-- What follows the high half of a surrogate pair. -/
def unescapeLow (high : Nat) : List Char → Option (Char × List Char)
  | _ :: _ :: a :: b :: c :: d :: rest =>
      some (Char.ofNat (0x10000 + (high - 0xd800) * 0x400 + (hex4Value a b c d - 0xdc00)), rest)
  | _ => none

/-- Four digits, and the second half when they are the first of a pair. -/
def unescapeHex : List Char → Option (Char × List Char)
  | a :: b :: c :: d :: rest =>
      if hex4Value a b c d < 0xd800 ∨ 0xdc00 ≤ hex4Value a b c d then
        some (Char.ofNat (hex4Value a b c d), rest)
      else unescapeLow (hex4Value a b c d) rest
  | _ => none

/-- The character a two-character escape stands for. -/
def shortEscape (c : Char) : Char :=
  if c = 'n' then '\n' else if c = 'r' then '\r' else if c = 't' then '\t'
  else if c = 'f' then '\x0c' else if c = 'b' then '\x08' else c

/-- Read one escaped character back. -/
def unescape : List Char → Option (Char × List Char)
  | [] => none
  | c :: rest =>
      if c = '\\' then
        match rest with
        | [] => none
        | d :: rest => if d = 'u' then unescapeHex rest else some (shortEscape d, rest)
      else some (c, rest)

theorem hex4Value_hex4 {n : Nat} (h : n < 65536) :
    hex4Value (hexDigit (n / 4096)) (hexDigit (n / 256 % 16)) (hexDigit (n / 16 % 16))
      (hexDigit (n % 16)) = n := by
  unfold hex4Value
  rw [hexValue_hexDigit (by omega), hexValue_hexDigit (by omega), hexValue_hexDigit (by omega),
    hexValue_hexDigit (by omega)]
  omega

theorem char_toNat_valid (c : Char) :
    c.toNat < 0xd800 ∨ 0xdfff < c.toNat ∧ c.toNat < 0x110000 := by
  have h : c.toNat.isValidChar := c.valid
  exact h

theorem unescape_escapeChar (c : Char) (rest : List Char) :
    unescape (escapeChar c ++ rest) = some (c, rest) := by
  unfold escapeChar
  split
  · next h => subst h; rfl
  split
  · next h => subst h; rfl
  split
  · next h => subst h; rfl
  split
  · next h => subst h; rfl
  split
  · next h => subst h; rfl
  split
  · next h => subst h; rfl
  split
  · next h => subst h; rfl
  split
  · next hslash _ _ _ _ _ _ => simp [unescape, hslash]
  have hv := char_toNat_valid c
  split
  · next h =>
      simp only [List.cons_append, List.nil_append, hex4, unescape, unescapeHex, if_true,
        hex4Value_hex4 (n := c.toNat) (by omega)]
      rw [if_pos (by omega), Char.ofNat_toNat]
  · next h =>
      have hhigh := hex4Value_hex4 (n := 0xd800 + (c.toNat - 0x10000) / 0x400) (by omega)
      have hlow := hex4Value_hex4 (n := 0xdc00 + (c.toNat - 0x10000) % 0x400) (by omega)
      have hc : 0x10000 + (0xd800 + (c.toNat - 0x10000) / 0x400 - 0xd800) * 0x400 +
          (0xdc00 + (c.toNat - 0x10000) % 0x400 - 0xdc00) = c.toNat := by omega
      simp only [List.cons_append, List.nil_append, hex4, unescape, unescapeHex, unescapeLow,
        if_true, hhigh, hlow, hc, Char.ofNat_toNat]
      rw [if_neg (by omega)]

theorem escapeChar_inj {c d : Char} {r s : List Char}
    (h : escapeChar c ++ r = escapeChar d ++ s) : c = d ∧ r = s := by
  have hu := congrArg unescape h
  rw [unescape_escapeChar, unescape_escapeChar] at hu
  simpa using hu

/-- No escaped character starts with the closing quote. -/
theorem escapeChar_ne_quote (c : Char) (r s : List Char) : escapeChar c ++ r ≠ '"' :: s := by
  intro h
  have hu := congrArg unescape h
  rw [unescape_escapeChar] at hu
  have hc : c = '"' := by simp [unescape] at hu; exact hu.1
  subst hc
  simp [escapeChar] at h

/-! ## Strings -/

/-- The rest of a string literal after its opening quote. -/
def quoteTail : List Char → List Char
  | [] => ['"']
  | c :: cs => escapeChar c ++ quoteTail cs

/-- A string literal. -/
def quote (s : String) : List Char := '"' :: quoteTail s.toList

theorem quoteTail_inj (cs ds : List Char) {r s : List Char}
    (h : quoteTail cs ++ r = quoteTail ds ++ s) : cs = ds ∧ r = s := by
  induction cs generalizing ds with
  | nil =>
      cases ds with
      | nil => simpa [quoteTail] using h
      | cons d ds =>
          simp only [quoteTail, List.append_assoc] at h
          exact absurd h.symm (escapeChar_ne_quote d _ _)
  | cons c cs ih =>
      cases ds with
      | nil =>
          simp only [quoteTail, List.append_assoc] at h
          exact absurd h (escapeChar_ne_quote c _ _)
      | cons d ds =>
          simp only [quoteTail, List.append_assoc] at h
          obtain ⟨rfl, hrest⟩ := escapeChar_inj h
          obtain ⟨rfl, hr⟩ := ih ds hrest
          exact ⟨rfl, hr⟩

theorem quote_inj {a b : String} {r s : List Char} (h : quote a ++ r = quote b ++ s) :
    a = b ∧ r = s := by
  have ht : quoteTail a.toList ++ r = quoteTail b.toList ++ s := by simpa [quote] using h
  obtain ⟨hl, hr⟩ := quoteTail_inj _ _ ht
  exact ⟨String.toList_injective hl, hr⟩

/-! ## Values -/

/-- A character that ends a number or a word inside an array or an object. -/
def isDelimiter (c : Char) : Bool := c = ',' || c = ']' || c = '}'

/-- The text of a float: no delimiter in it, not the text of an integer, and not
    one of the three words. -/
structure FloatText where
  text : List Char
  noDelimiter : ∀ c ∈ text, isDelimiter c = false
  notInteger : ∃ c ∈ text, c.isDigit = false ∧ c ≠ '-'
  head : ∃ c rest, text = c :: rest ∧ (c.isDigit = true ∨ c = '-' ∨ c = 'N' ∨ c = 'I')
  deriving DecidableEq

/-- The text of an integer. -/
def integerText : Int → List Char
  | .ofNat n => Nat.toDigits 10 n
  | .negSucc n => '-' :: Nat.toDigits 10 (n + 1)

mutual

/-- A JSON value as the digests build them. -/
inductive Json where
  | null
  | bool (b : Bool)
  | int (n : Int)
  | float (f : FloatText)
  | str (s : String)
  | arr (items : JsonItems)
  | obj (entries : JsonEntries)

/-- The items of an array. -/
inductive JsonItems where
  | nil
  | cons (item : Json) (rest : JsonItems)

/-- The entries of an object. -/
inductive JsonEntries where
  | nil
  | cons (key : String) (item : Json) (rest : JsonEntries)

end

/-- An array of the given values. -/
def JsonItems.ofList : List Json → JsonItems
  | [] => .nil
  | v :: vs => .cons v (ofList vs)

/-- An object with the given entries. -/
def JsonEntries.ofList : List (String × Json) → JsonEntries
  | [] => .nil
  | (k, v) :: es => .cons k v (ofList es)

theorem JsonItems.ofList_injective {xs ys : List Json}
    (h : JsonItems.ofList xs = JsonItems.ofList ys) : xs = ys := by
  induction xs generalizing ys with
  | nil => cases ys with
    | nil => rfl
    | cons y ys => simp [ofList] at h
  | cons x xs ih => cases ys with
    | nil => simp [ofList] at h
    | cons y ys =>
        simp only [ofList, JsonItems.cons.injEq] at h
        rw [h.1, ih h.2]

theorem JsonEntries.ofList_injective {xs ys : List (String × Json)}
    (h : JsonEntries.ofList xs = JsonEntries.ofList ys) : xs = ys := by
  induction xs generalizing ys with
  | nil => cases ys with
    | nil => rfl
    | cons y ys => simp [ofList] at h
  | cons x xs ih => cases ys with
    | nil => simp [ofList] at h
    | cons y ys =>
        simp only [ofList, JsonEntries.cons.injEq] at h
        rw [Prod.ext h.1 h.2.1, ih h.2.2]

/-- The entries of an object. -/
def JsonEntries.toList : JsonEntries → List (String × Json)
  | .nil => []
  | .cons k v rest => (k, v) :: rest.toList

/-- The text of a string value. -/
def Json.str? : Json → Option String
  | .str s => some s
  | _ => none

/-- The order of the keys. -/
def keyLe (a b : String × List Char) : Bool := decide (a.1 ≤ b.1)

/-- The members of an object after the first. -/
def membersTail : List (String × List Char) → List Char
  | [] => ['}']
  | (k, v) :: rest => ',' :: (quote k ++ ':' :: (v ++ membersTail rest))

/-- The text of an object whose members are rendered and ordered. -/
def objectText : List (String × List Char) → List Char
  | [] => ['{', '}']
  | (k, v) :: rest => '{' :: (quote k ++ ':' :: (v ++ membersTail rest))

mutual

/-- The text of a value. -/
def Json.render : Json → List Char
  | .null => ['n', 'u', 'l', 'l']
  | .bool true => ['t', 'r', 'u', 'e']
  | .bool false => ['f', 'a', 'l', 's', 'e']
  | .int n => integerText n
  | .float f => f.text
  | .str s => quote s
  | .arr .nil => ['[', ']']
  | .arr (.cons v rest) => '[' :: (v.render ++ rest.renderTail)
  | .obj entries => objectText (entries.members.mergeSort keyLe)

/-- The items of an array after the first. -/
def JsonItems.renderTail : JsonItems → List Char
  | .nil => [']']
  | .cons v rest => ',' :: (v.render ++ rest.renderTail)

/-- The rendered members of an object, in the order they were given. -/
def JsonEntries.members : JsonEntries → List (String × List Char)
  | .nil => []
  | .cons k v rest => (k, v.render) :: rest.members

end

/-- `json.dumps(value, separators=(",", ":"), sort_keys=True)`. -/
def Json.dumps (v : Json) : String := String.ofList v.render

/-! ## Scalars -/

/-- A value whose text is one word: no quotes, no brackets. -/
def Json.isScalar : Json → Bool
  | .null | .bool _ | .int _ | .float _ => true
  | _ => false

theorem integerText_chars (n : Int) : ∀ c ∈ integerText n, c.isDigit = true ∨ c = '-' := by
  intro c hc
  cases n with
  | ofNat n => exact Or.inl (Nat.isDigit_of_mem_toDigits (by decide) (by decide) hc)
  | negSucc n =>
      rcases List.mem_cons.mp hc with h | h
      · exact Or.inr h
      · exact Or.inl (Nat.isDigit_of_mem_toDigits (by decide) (by decide) h)

theorem toDigits_inj {m n : Nat} (h : Nat.toDigits 10 m = Nat.toDigits 10 n) : m = n := by
  have hm := Nat.ofDigitChars_ten_toDigits (n := m)
  rw [h, Nat.ofDigitChars_ten_toDigits] at hm
  exact hm.symm

theorem toDigits_ne_minus (n : Nat) (rest : List Char) : Nat.toDigits 10 n ≠ '-' :: rest := by
  intro h
  have hd : ('-' : Char).isDigit = true :=
    Nat.isDigit_of_mem_toDigits (b := 10) (n := n) (by decide) (by decide) (by simp [h])
  exact absurd hd (by decide)

theorem integerText_inj {m n : Int} (h : integerText m = integerText n) : m = n := by
  cases m with
  | ofNat m => cases n with
    | ofNat n => rw [toDigits_inj h]
    | negSucc n => exact absurd h (toDigits_ne_minus _ _)
  | negSucc m => cases n with
    | ofNat n => exact absurd h.symm (toDigits_ne_minus _ _)
    | negSucc n =>
        have := toDigits_inj (List.cons.inj h).2
        congr 1; omega

theorem not_delimiter_of_digit {c : Char} (h : c.isDigit = true ∨ c = '-') :
    isDelimiter c = false := by
  cases hd : isDelimiter c with
  | false => rfl
  | true =>
      simp only [isDelimiter, Bool.or_eq_true, decide_eq_true_eq] at hd
      rcases hd with (rfl | rfl) | rfl <;> exact absurd h (by decide)

theorem Json.render_scalar {v : Json} (h : v.isScalar = true) :
    ∀ c ∈ v.render, isDelimiter c = false := by
  cases v with
  | null => simp [Json.render, isDelimiter]
  | bool b => cases b <;> simp [Json.render, isDelimiter]
  | int n => exact fun c hc => not_delimiter_of_digit (integerText_chars n c hc)
  | float f => exact f.noDelimiter
  | _ => cases h

/-- The word of an integer starts with none of the letters of the other words. -/
theorem integerText_ne (n : Int) {c : Char} {rest : List Char}
    (hc : c.isDigit = false ∧ c ≠ '-') : integerText n ≠ c :: rest := by
  intro h
  rcases integerText_chars n c (by simp [h]) with hd | hd
  · rw [hc.1] at hd; cases hd
  · exact hc.2 hd

theorem integerText_ne_float (n : Int) (f : FloatText) : integerText n ≠ f.text := by
  intro h
  obtain ⟨c, hc, hd, hm⟩ := f.notInteger
  rcases integerText_chars n c (h ▸ hc) with h' | h'
  · rw [hd] at h'; cases h'
  · exact hm h'

theorem FloatText.ne_word (f : FloatText) {c : Char} {rest : List Char}
    (hc : c.isDigit = false ∧ c ≠ '-' ∧ c ≠ 'N' ∧ c ≠ 'I') : f.text ≠ c :: rest := by
  intro h
  obtain ⟨d, t, hd, hcases⟩ := f.head
  rw [h] at hd
  obtain ⟨rfl, -⟩ := List.cons.inj hd
  simp_all

theorem FloatText.eq_of_text {f g : FloatText} (h : f.text = g.text) : f = g := by
  cases f; cases g; cases h; rfl

theorem Json.scalar_inj {v w : Json} (hv : v.isScalar = true) (hw : w.isScalar = true)
    (h : v.render = w.render) : v = w := by
  cases v with
  | null => cases w with
    | null => rfl
    | bool b => cases b <;> exact absurd h (by decide)
    | int n => exact absurd h.symm (integerText_ne n (by decide))
    | float f => exact absurd h.symm (f.ne_word (by decide))
    | _ => cases hw
  | bool b => cases w with
    | null => cases b <;> exact absurd h (by decide)
    | bool c => cases b <;> cases c <;> first | rfl | exact absurd h (by decide)
    | int n => cases b <;> exact absurd h.symm (integerText_ne n (by decide))
    | float f => cases b <;> exact absurd h.symm (f.ne_word (by decide))
    | _ => cases hw
  | int m => cases w with
    | null => exact absurd h (integerText_ne m (by decide))
    | bool c => cases c <;> exact absurd h (integerText_ne m (by decide))
    | int n => rw [integerText_inj h]
    | float f => exact absurd h (integerText_ne_float m f)
    | _ => cases hw
  | float f => cases w with
    | null => exact absurd h (f.ne_word (by decide))
    | bool c => cases c <;> exact absurd h (f.ne_word (by decide))
    | int n => exact absurd h.symm (integerText_ne_float n f)
    | float g => rw [FloatText.eq_of_text h]
    | _ => cases hw
  | _ => cases hv

/-! ## The text determines the value -/

/-- What may follow a value inside a text. -/
def Delimited (r : List Char) : Prop := ∀ c t, r = c :: t → isDelimiter c = true

theorem delimited_nil : Delimited [] := by intro c t h; cases h

theorem delimited_cons {c : Char} {t : List Char} (h : isDelimiter c = true) :
    Delimited (c :: t) := by
  intro d u hd
  rw [← (List.cons.inj hd).1]; exact h

/-- Two words that end at a delimiter are equal when the texts are. -/
theorem word_inj {xs ys r s : List Char} (hx : ∀ c ∈ xs, isDelimiter c = false)
    (hy : ∀ c ∈ ys, isDelimiter c = false) (hr : Delimited r) (hs : Delimited s)
    (h : xs ++ r = ys ++ s) : xs = ys ∧ r = s := by
  induction xs generalizing ys with
  | nil =>
      cases ys with
      | nil => exact ⟨rfl, h⟩
      | cons y ys =>
          have hd := hr y (ys ++ s) h
          rw [hy y (by simp)] at hd; cases hd
  | cons x xs ih =>
      cases ys with
      | nil =>
          have hd := hs x (xs ++ r) h.symm
          rw [hx x (by simp)] at hd; cases hd
      | cons y ys =>
          obtain ⟨rfl, ht⟩ := List.cons.inj h
          obtain ⟨rfl, hrs⟩ := ih (fun c hc => hx c (List.mem_cons_of_mem _ hc))
            (fun c hc => hy c (List.mem_cons_of_mem _ hc)) ht
          exact ⟨rfl, hrs⟩

/-- Which kind of value a first character starts. -/
def startKind (c : Char) : Nat :=
  if c = '"' then 1 else if c = '[' then 2 else if c = '{' then 3 else 0

/-- Which kind of text a value has. -/
def Json.kind : Json → Nat
  | .str _ => 1
  | .arr _ => 2
  | .obj _ => 3
  | _ => 0

theorem startKind_of_digit {c : Char} (h : c.isDigit = true ∨ c = '-' ∨ c = 'N' ∨ c = 'I') :
    startKind c = 0 ∧ isDelimiter c = false := by
  unfold startKind
  split
  · next hc => subst hc; exact absurd h (by decide)
  split
  · next hc => subst hc; exact absurd h (by decide)
  split
  · next hc => subst hc; exact absurd h (by decide)
  refine ⟨rfl, ?_⟩
  cases hd : isDelimiter c with
  | false => rfl
  | true =>
      simp only [isDelimiter, Bool.or_eq_true, decide_eq_true_eq] at hd
      rcases hd with (rfl | rfl) | rfl <;> exact absurd h (by decide)

theorem Json.render_head (v : Json) :
    ∃ c t, v.render = c :: t ∧ startKind c = v.kind ∧ isDelimiter c = false := by
  cases v with
  | null => exact ⟨_, _, rfl, by decide⟩
  | bool b => cases b <;> exact ⟨_, _, rfl, by decide⟩
  | int n =>
      cases hn : integerText n with
      | nil =>
          cases n with
          | ofNat n => exact absurd hn Nat.toDigits_ne_nil
          | negSucc n => cases hn
      | cons c t =>
          have hc := integerText_chars n c (by simp [hn])
          exact ⟨c, t, hn, startKind_of_digit (by tauto)⟩
  | float f =>
      obtain ⟨c, t, hf, hc⟩ := f.head
      exact ⟨c, t, hf, startKind_of_digit hc⟩
  | str s => exact ⟨_, _, rfl, rfl, rfl⟩
  | arr items => cases items <;> exact ⟨_, _, rfl, rfl, rfl⟩
  | obj entries =>
      simp only [render]
      cases entries.members.mergeSort keyLe <;> exact ⟨_, _, rfl, rfl, rfl⟩

/-- The keys of an object, in the order they were given. -/
def JsonEntries.keys : JsonEntries → List String
  | .nil => []
  | .cons k _ rest => k :: rest.keys

mutual

/-- Every object in the value lists its keys in order. -/
def Json.Canonical : Json → Prop
  | .arr items => items.Canonical
  | .obj entries => entries.Canonical ∧ entries.keys.Pairwise (· ≤ ·)
  | _ => True

def JsonItems.Canonical : JsonItems → Prop
  | .nil => True
  | .cons v rest => v.Canonical ∧ rest.Canonical

def JsonEntries.Canonical : JsonEntries → Prop
  | .nil => True
  | .cons _ v rest => v.Canonical ∧ rest.Canonical

end

theorem JsonEntries.members_keys (es : JsonEntries) : es.members.map (·.1) = es.keys := by
  match es with
  | .nil => rfl
  | .cons k v rest =>
      simp only [members, keys, List.map_cons]
      rw [members_keys rest]

theorem JsonEntries.mergeSort_members {es : JsonEntries} (h : es.keys.Pairwise (· ≤ ·)) :
    es.members.mergeSort keyLe = es.members := by
  apply List.mergeSort_of_pairwise
  rw [← es.members_keys, List.pairwise_map] at h
  exact h.imp (by simp [keyLe])

/-- Equal texts start values of the same kind. -/
theorem Json.kind_eq_of_render {v w : Json} {r s : List Char}
    (h : v.render ++ r = w.render ++ s) : v.kind = w.kind := by
  obtain ⟨c, t, hv, hk, -⟩ := v.render_head
  obtain ⟨d, u, hw, hl, -⟩ := w.render_head
  rw [hv, hw, List.cons_append, List.cons_append] at h
  rw [← hk, ← hl, (List.cons.inj h).1]

theorem Json.isScalar_of_kind {v : Json} (h : v.kind = 0) : v.isScalar = true := by
  cases v <;> first | rfl | exact absurd h (by simp [kind])

/-- A scalar is told apart from every other value. -/
theorem Json.render_inj_of_scalar {v w : Json} (hv : v.isScalar = true) {r s : List Char}
    (hr : Delimited r) (hs : Delimited s) (h : v.render ++ r = w.render ++ s) :
    v = w ∧ r = s := by
  have hk : w.kind = 0 := by
    rw [← kind_eq_of_render h]
    cases v <;> first | rfl | cases hv
  have hw := isScalar_of_kind hk
  obtain ⟨ht, hrs⟩ := word_inj (render_scalar hv) (render_scalar hw) hr hs h
  exact ⟨scalar_inj hv hw ht, hrs⟩

theorem JsonItems.delimited_renderTail (xs : JsonItems) (r : List Char) :
    Delimited (xs.renderTail ++ r) := by
  cases xs <;> exact delimited_cons rfl

theorem delimited_membersTail (ms : List (String × List Char)) (r : List Char) :
    Delimited (membersTail ms ++ r) := by
  rcases ms with _ | ⟨⟨k, v⟩, rest⟩ <;> exact delimited_cons rfl

mutual

/-- A rendered value before a delimiter is read back in one way only. -/
theorem Json.render_inj (v w : Json) (hv : v.Canonical) (hw : w.Canonical) {r s : List Char}
    (hr : Delimited r) (hs : Delimited s) (h : v.render ++ r = w.render ++ s) :
    v = w ∧ r = s := by
  have hk := Json.kind_eq_of_render h
  match v, w with
  | .null, _ => exact Json.render_inj_of_scalar rfl hr hs h
  | .bool _, _ => exact Json.render_inj_of_scalar rfl hr hs h
  | .int _, _ => exact Json.render_inj_of_scalar rfl hr hs h
  | .float _, _ => exact Json.render_inj_of_scalar rfl hr hs h
  | .str a, .str b =>
      obtain ⟨rfl, hrs⟩ := quote_inj h
      exact ⟨rfl, hrs⟩
  | .arr .nil, .arr .nil => exact ⟨rfl, by simpa [Json.render] using h⟩
  | .arr .nil, .arr (.cons b bs) =>
      obtain ⟨c, t, hb, -, hd⟩ := b.render_head
      simp only [Json.render, hb, List.cons_append, List.nil_append, List.cons.injEq, true_and] at h
      rw [← h.1] at hd; cases hd
  | .arr (.cons a as), .arr .nil =>
      obtain ⟨c, t, ha, -, hd⟩ := a.render_head
      simp only [Json.render, ha, List.cons_append, List.nil_append, List.cons.injEq, true_and] at h
      rw [h.1] at hd; cases hd
  | .arr (.cons a as), .arr (.cons b bs) =>
      simp only [Json.render, List.cons_append, List.append_assoc, List.cons.injEq, true_and] at h
      obtain ⟨rfl, ht⟩ := Json.render_inj a b hv.1 hw.1 (as.delimited_renderTail r)
        (bs.delimited_renderTail s) h
      obtain ⟨rfl, hrs⟩ := JsonItems.renderTail_inj as bs hv.2 hw.2 ht
      exact ⟨rfl, hrs⟩
  | .obj es, .obj fs =>
      simp only [Json.render, JsonEntries.mergeSort_members hv.2,
        JsonEntries.mergeSort_members hw.2] at h
      match es, fs with
      | .nil, .nil => exact ⟨rfl, by simpa [JsonEntries.members, objectText] using h⟩
      | .nil, .cons k b fs => simp [JsonEntries.members, objectText, quote] at h
      | .cons k a es, .nil => simp [JsonEntries.members, objectText, quote] at h
      | .cons k a es, .cons l b fs =>
          simp only [JsonEntries.members, objectText, List.cons_append, List.append_assoc,
            List.cons.injEq, true_and] at h
          obtain ⟨rfl, h1⟩ := quote_inj h
          obtain ⟨rfl, h2⟩ := Json.render_inj a b hv.1.1 hw.1.1
            (delimited_membersTail _ r) (delimited_membersTail _ s) (List.cons.inj h1).2
          obtain ⟨rfl, hrs⟩ := JsonEntries.membersTail_inj es fs hv.1.2 hw.1.2 h2
          exact ⟨rfl, hrs⟩

theorem JsonItems.renderTail_inj (xs ys : JsonItems) (hx : xs.Canonical) (hy : ys.Canonical)
    {r s : List Char} (h : xs.renderTail ++ r = ys.renderTail ++ s) : xs = ys ∧ r = s := by
  match xs, ys with
  | .nil, .nil => exact ⟨rfl, by simpa [JsonItems.renderTail] using h⟩
  | .nil, .cons b bs => simp [JsonItems.renderTail] at h
  | .cons a as, .nil => simp [JsonItems.renderTail] at h
  | .cons a as, .cons b bs =>
      simp only [JsonItems.renderTail, List.cons_append, List.append_assoc, List.cons.injEq,
        true_and] at h
      obtain ⟨rfl, ht⟩ := Json.render_inj a b hx.1 hy.1 (as.delimited_renderTail r)
        (bs.delimited_renderTail s) h
      obtain ⟨rfl, hrs⟩ := JsonItems.renderTail_inj as bs hx.2 hy.2 ht
      exact ⟨rfl, hrs⟩

theorem JsonEntries.membersTail_inj (es fs : JsonEntries) (he : es.Canonical)
    (hf : fs.Canonical) {r s : List Char}
    (h : membersTail es.members ++ r = membersTail fs.members ++ s) : es = fs ∧ r = s := by
  match es, fs with
  | .nil, .nil => exact ⟨rfl, by simpa [JsonEntries.members, membersTail] using h⟩
  | .nil, .cons k b fs => simp [JsonEntries.members, membersTail] at h
  | .cons k a es, .nil => simp [JsonEntries.members, membersTail] at h
  | .cons k a es, .cons l b fs =>
      simp only [JsonEntries.members, membersTail, List.cons_append, List.append_assoc, List.cons.injEq,
        true_and] at h
      obtain ⟨rfl, h1⟩ := quote_inj h
      obtain ⟨rfl, h2⟩ := Json.render_inj a b he.1 hf.1
        (delimited_membersTail _ r) (delimited_membersTail _ s) (List.cons.inj h1).2
      obtain ⟨rfl, hrs⟩ := JsonEntries.membersTail_inj es fs he.2 hf.2 h2
      exact ⟨rfl, hrs⟩

end

/-- **The text determines the value.** -/
theorem Json.dumps_injective {v w : Json} (hv : v.Canonical) (hw : w.Canonical)
    (h : v.dumps = w.dumps) : v = w := by
  have hr : v.render ++ [] = w.render ++ [] := by rw [String.ofList_injective h]
  exact (render_inj v w hv hw delimited_nil delimited_nil hr).1

/-! ## Building values -/

/-- A Python `dict` with the given items. -/
def Json.object (entries : List (String × Json)) : Json := .obj (.ofList entries)

/-- A Python `list` or `tuple` of the given values. -/
def Json.array (items : List Json) : Json := .arr (.ofList items)

/-- An optional string: `null` when it is absent. -/
def Json.optional : Option String → Json
  | none => .null
  | some s => .str s

@[simp] theorem Json.object_inj {es fs : List (String × Json)} :
    Json.object es = Json.object fs ↔ es = fs :=
  ⟨fun h => JsonEntries.ofList_injective (Json.obj.inj h), fun h => h ▸ rfl⟩

@[simp] theorem Json.array_inj {xs ys : List Json} :
    Json.array xs = Json.array ys ↔ xs = ys :=
  ⟨fun h => JsonItems.ofList_injective (Json.arr.inj h), fun h => h ▸ rfl⟩

@[simp] theorem Json.canonical_null : Json.null.Canonical := trivial

@[simp] theorem Json.canonical_bool (b : Bool) : (Json.bool b).Canonical := trivial

@[simp] theorem Json.canonical_int (n : Int) : (Json.int n).Canonical := trivial

@[simp] theorem Json.canonical_float (f : FloatText) : (Json.float f).Canonical := trivial

@[simp] theorem Json.canonical_str (s : String) : (Json.str s).Canonical := trivial

@[simp] theorem Json.canonical_optional (s : Option String) : (Json.optional s).Canonical := by
  cases s <;> trivial

@[simp] theorem Json.canonical_array (items : List Json) :
    (Json.array items).Canonical ↔ ∀ v ∈ items, v.Canonical := by
  show (JsonItems.ofList items).Canonical ↔ _
  induction items with
  | nil => simp [JsonItems.ofList, JsonItems.Canonical]
  | cons v vs ih => simp [JsonItems.ofList, JsonItems.Canonical, ih]

theorem Json.canonical_object (entries : List (String × Json)) :
    (Json.object entries).Canonical ↔
      (∀ e ∈ entries, e.2.Canonical) ∧ (entries.map (·.1)).Pairwise (· ≤ ·) := by
  have hkeys : ∀ es : List (String × Json), (JsonEntries.ofList es).keys = es.map (·.1) := by
    intro es
    induction es with
    | nil => rfl
    | cons e es ih => simp [JsonEntries.ofList, JsonEntries.keys, ih]
  have hvals : ∀ es : List (String × Json),
      (JsonEntries.ofList es).Canonical ↔ ∀ e ∈ es, e.2.Canonical := by
    intro es
    induction es with
    | nil => simp [JsonEntries.ofList, JsonEntries.Canonical]
    | cons e es ih => simp [JsonEntries.ofList, JsonEntries.Canonical, ih]
  show (JsonEntries.ofList entries).Canonical ∧ (JsonEntries.ofList entries).keys.Pairwise _ ↔ _
  rw [hkeys, hvals]

end Eag.Foundation
