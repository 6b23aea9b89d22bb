/-
  Eag.Foundation.JsonRoundTrip

  `json.loads` of what `json.dumps` wrote. A value comes back with the members of its
  objects in the order of their keys and with its texts mended: a high surrogate directly
  before a low one is joined with it to one character (`mend`). Everything else comes
  back as it was (`loads_render`).
-/

import Eag.Foundation.JsonEncoder

namespace Eag.Foundation

open Payload (escapePoint)

/-! ## Texts -/

/-- The text of some characters. -/
abbrev ofChars (cs : List Char) : PyText := cs.map .scalar

/-- The surrogate is the second half of a pair. -/
def isLow (offset : Fin 2048) : Bool := 0x400 ≤ offset.val

/-- The character of a surrogate pair. -/
def joinPair (high low : Fin 2048) : CodePoint :=
  .scalar (Char.ofNat (0x10000 + high.val * 0x400 + (low.val - 0x400)))

/-- What a text reads back as: surrogate pairs become characters. -/
def mend : PyText → PyText
  | [] => []
  | .surrogate high :: .surrogate low :: rest =>
      if isLow high = false ∧ isLow low = true then joinPair high low :: mend rest
      else .surrogate high :: mend (.surrogate low :: rest)
  | c :: rest => c :: mend rest

/-- No high surrogate stands directly before a low one. -/
def Unpaired : PyText → Prop
  | .surrogate high :: .surrogate low :: rest =>
      ¬ (isLow high = false ∧ isLow low = true) ∧ Unpaired (.surrogate low :: rest)
  | _ :: rest => Unpaired rest
  | [] => True

theorem mend_cons {c : CodePoint} {rest : PyText}
    (hne : ∀ high low more, c = .surrogate high → rest = .surrogate low :: more → False) :
    mend (c :: rest) = c :: mend rest := by
  rw [mend]
  exact hne

theorem length_mend (t : PyText) : (mend t).length ≤ t.length := by
  induction t using mend.induct with
  | case1 => exact Nat.le_refl 0
  | case2 high low rest hpair ih =>
      rw [mend, if_pos hpair]
      simp only [List.length_cons]
      omega
  | case3 high low rest hpair ih =>
      rw [mend, if_neg hpair]
      simp only [List.length_cons] at ih ⊢
      omega
  | case4 c rest hne ih =>
      rw [mend_cons hne]
      simp only [List.length_cons]
      omega

/-- **A text comes back as it was** exactly when it holds no surrogate pair. -/
theorem mend_eq_self_iff (t : PyText) : mend t = t ↔ Unpaired t := by
  induction t using mend.induct with
  | case1 => exact ⟨fun _ => trivial, fun _ => rfl⟩
  | case2 high low rest hpair ih =>
      rw [mend, if_pos hpair, Unpaired]
      constructor
      · intro h
        -- a joined pair is shorter
        have hlength := congrArg List.length h
        have hle := length_mend rest
        simp only [List.length_cons] at hlength
        omega
      · exact fun h => absurd hpair h.1
  | case3 high low rest hpair ih =>
      rw [mend, if_neg hpair, Unpaired, List.cons_inj_right, ih]
      exact ⟨fun h => ⟨hpair, h⟩, fun h => h.2⟩
  | case4 c rest hne ih =>
      rw [mend_cons hne, List.cons_inj_right, ih, Unpaired]
      exact hne

theorem unpaired_ofChars (cs : List Char) : Unpaired (ofChars cs) := by
  induction cs with
  | nil => trivial
  | cons c cs ih => exact ih

@[simp] theorem mend_ofString (s : String) : mend (.ofString s) = .ofString s :=
  (mend_eq_self_iff _).mpr (unpaired_ofChars s.toList)

/-! ## Escapes -/

theorem hexDigit?_hexDigit {n : Nat} (h : n < 16) : hexDigit? (.scalar (hexDigit n)) = some n := by
  interval_cases n <;> rfl

/-- The four digits of a unit are read back. -/
theorem hex4?_hex4 {n : Nat} (h : n < 65536) :
    hex4? (.scalar (hexDigit (n / 4096))) (.scalar (hexDigit (n / 256 % 16)))
      (.scalar (hexDigit (n / 16 % 16))) (.scalar (hexDigit (n % 16))) = some n := by
  have h1 : n / 4096 < 16 := by omega
  have h2 : n / 256 % 16 < 16 := Nat.mod_lt _ (by decide)
  have h3 : n / 16 % 16 < 16 := Nat.mod_lt _ (by decide)
  have h4 : n % 16 < 16 := Nat.mod_lt _ (by decide)
  have hn : ((n / 4096 * 16 + n / 256 % 16) * 16 + n / 16 % 16) * 16 + n % 16 = n := by omega
  simp only [hex4?, hexDigit?_hexDigit h1, hexDigit?_hexDigit h2, hexDigit?_hexDigit h3,
    hexDigit?_hexDigit h4, Option.bind_eq_bind, Option.bind_some, Option.pure_def, hn]

/-- The escape of one unit. -/
def unitText (n : Nat) : List Char := '\\' :: 'u' :: hex4 n

/-- The text after the escape of `n` does not go on with the second half of its pair. -/
def NoPair (n : Nat) (rest : PyText) : Prop :=
  ∀ slash u a b c d after, rest = slash :: u :: a :: b :: c :: d :: after →
    lowHalf? n slash u a b c d = none

/-- **One unit** that is not the first half of a pair. -/
theorem scanString_unit {n : Nat} {rest : PyText} (hn : n < 65536) (hpair : NoPair n rest) :
    scanString (ofChars (unitText n) ++ rest) = push (codeUnit n) (scanString rest) := by
  simp only [ofChars, unitText, hex4, List.map_cons, List.map_nil, List.cons_append,
    List.nil_append]
  rw [scanString]
  simp only [CodePoint.scalar.injEq, if_true, hex4?_hex4 hn, show ('\\' : Char) ≠ '"' by decide,
    if_false]
  split
  · next slash u a b c d after =>
      rw [hpair slash u a b c d after rfl]
  · rfl

/-- **Two units** that are a surrogate pair. -/
theorem scanString_pair {high low : Nat} {rest : PyText} (hhigh : 0xd800 ≤ high ∧ high < 0xdc00)
    (hlow : 0xdc00 ≤ low ∧ low < 0xe000) :
    scanString (ofChars (unitText high) ++ (ofChars (unitText low) ++ rest)) =
      push (.scalar (Char.ofNat (0x10000 + (high - 0xd800) * 0x400 + (low - 0xdc00))))
        (scanString rest) := by
  have hh : high < 65536 := by omega
  have hl : low < 65536 := by omega
  simp only [ofChars, unitText, hex4, List.map_cons, List.map_nil, List.cons_append,
    List.nil_append]
  rw [scanString]
  simp only [CodePoint.scalar.injEq, if_true, hex4?_hex4 hh, show ('\\' : Char) ≠ '"' by decide,
    if_false]
  have hjoin : lowHalf? high (.scalar '\\') (.scalar 'u') (.scalar (hexDigit (low / 4096)))
      (.scalar (hexDigit (low / 256 % 16))) (.scalar (hexDigit (low / 16 % 16)))
      (.scalar (hexDigit (low % 16))) =
        some (.scalar (Char.ofNat (0x10000 + (high - 0xd800) * 0x400 + (low - 0xdc00)))) := by
    rw [lowHalf?, if_pos ⟨hhigh.1, hhigh.2, rfl, rfl⟩, hex4?_hex4 hl]
    show (if 0xdc00 ≤ low ∧ low < 0xe000 then _ else none) = _
    rw [if_pos hlow]
  rw [hjoin]

/-- A unit that is no first half has no pair. -/
theorem noPair_of_not_high {n : Nat} (h : ¬ (0xd800 ≤ n ∧ n < 0xdc00)) (rest : PyText) :
    NoPair n rest := by
  intro slash u a b c d after _
  rw [lowHalf?, if_neg]
  exact fun hhigh => h ⟨hhigh.1, hhigh.2.1⟩

/-- A text that does not start with the escape of a second half. -/
theorem noPair_of_head {n : Nat} {c : CodePoint} {rest : PyText} (hc : c ≠ .scalar '\\') :
    NoPair n (c :: rest) := by
  intro slash u a b c' d after heq
  rw [lowHalf?, if_neg]
  rintro ⟨-, -, rfl, -⟩
  exact hc (List.cons.inj heq).1

theorem noPair_of_second {n : Nat} {c d : CodePoint} {rest : PyText} (hd : d ≠ .scalar 'u') :
    NoPair n (c :: d :: rest) := by
  intro slash u a b c' d' after heq
  rw [lowHalf?, if_neg]
  rintro ⟨-, -, -, rfl⟩
  exact hd (List.cons.inj (List.cons.inj heq).2).1

/-- The escape of a unit that is no second half. -/
theorem noPair_unit {n m : Nat} {rest : PyText} (hm : m < 65536)
    (h : ¬ (0xdc00 ≤ m ∧ m < 0xe000)) : NoPair n (ofChars (unitText m) ++ rest) := by
  intro slash u a b c d after heq
  simp only [ofChars, unitText, hex4, List.map_cons, List.map_nil, List.cons_append,
    List.nil_append, List.cons.injEq] at heq
  obtain ⟨rfl, rfl, rfl, rfl, rfl, rfl, -⟩ := heq
  rw [lowHalf?]
  split
  · rw [hex4?_hex4 hm]
    show (if 0xdc00 ≤ m ∧ m < 0xe000 then _ else none) = _
    rw [if_neg h]
  · rfl

/-! ## Strings -/

/-- A character outside the basic plane is written as a surrogate pair. -/
theorem escapeChar_wide {c : Char} (h : 0x10000 ≤ c.toNat) :
    escapeChar c = unitText (0xd800 + (c.toNat - 0x10000) / 0x400) ++
      unitText (0xdc00 + (c.toNat - 0x10000) % 0x400) := by
  have hne : ∀ d : Char, d.toNat < 0x10000 → c ≠ d := by
    rintro d hd rfl
    omega
  unfold escapeChar
  rw [if_neg (hne _ (by decide)), if_neg (hne _ (by decide)), if_neg (hne _ (by decide)),
    if_neg (hne _ (by decide)), if_neg (hne _ (by decide)), if_neg (hne _ (by decide)),
    if_neg (hne _ (by decide)), if_neg (by omega), if_neg (by omega)]
  rfl

/-- How a character of the basic plane is written: two characters, itself, or one unit. -/
theorem escapeChar_cases {c : Char} (h : c.toNat < 0x10000) :
    (∃ d, escapeChar c = ['\\', d] ∧ d ≠ 'u' ∧ shortEscape? (.scalar d) = some (.scalar c)) ∨
    (escapeChar c = [c] ∧ c ≠ '"' ∧ c ≠ '\\' ∧ isControl (.scalar c) = false) ∨
    escapeChar c = unitText c.toNat := by
  unfold escapeChar
  split
  · next hc =>
      subst hc
      exact Or.inl ⟨'"', rfl, by decide, rfl⟩
  split
  · next hc =>
      subst hc
      exact Or.inl ⟨'\\', rfl, by decide, rfl⟩
  split
  · next hc => exact Or.inl ⟨'n', rfl, by decide, hc ▸ rfl⟩
  split
  · next hc => exact Or.inl ⟨'r', rfl, by decide, hc ▸ rfl⟩
  split
  · next hc => exact Or.inl ⟨'t', rfl, by decide, hc ▸ rfl⟩
  split
  · next hc => exact Or.inl ⟨'f', rfl, by decide, hc ▸ rfl⟩
  split
  · next hc => exact Or.inl ⟨'b', rfl, by decide, hc ▸ rfl⟩
  split
  · next hquote hslash _ _ _ _ _ hprintable =>
      refine Or.inr (Or.inl ⟨rfl, hquote, hslash, ?_⟩)
      have hbig : ¬ c.toNat ≤ 0x1f := by omega
      exact decide_eq_false hbig
  exact Or.inr (Or.inr rfl)

/-- A character of the basic plane is no unit of a surrogate pair. -/
theorem codeUnit_toNat {c : Char} : codeUnit c.toNat = .scalar c := by
  have hvalid := char_toNat_valid c
  rw [codeUnit, if_neg (by omega), Char.ofNat_toNat]

theorem scanString_short {d : Char} {c : CodePoint} {rest : PyText} (hu : d ≠ 'u')
    (hd : shortEscape? (.scalar d) = some c) :
    scanString (.scalar '\\' :: .scalar d :: rest) = push c (scanString rest) := by
  conv_lhs => unfold scanString
  simp only [CodePoint.scalar.injEq, show ('\\' : Char) ≠ '"' by decide, if_false, if_true,
    if_neg hu, hd]

theorem scanString_plain {c : Char} {rest : PyText} (hquote : c ≠ '"') (hslash : c ≠ '\\')
    (hcontrol : isControl (.scalar c) = false) :
    scanString (.scalar c :: rest) = push (.scalar c) (scanString rest) := by
  conv_lhs => unfold scanString
  simp only [CodePoint.scalar.injEq, if_neg hquote, if_neg hslash, hcontrol, Bool.false_eq_true,
    if_false]

/-- **One character.** -/
theorem scanString_escapeChar (c : Char) (rest : PyText) :
    scanString (ofChars (escapeChar c) ++ rest) = push (.scalar c) (scanString rest) := by
  have hvalid := char_toNat_valid c
  by_cases hwide : c.toNat < 0x10000
  · rcases escapeChar_cases hwide with ⟨d, htext, hu, hshort⟩ | ⟨htext, hquote, hslash, hcontrol⟩ |
      htext
    · rw [htext]
      exact scanString_short hu hshort
    · rw [htext]
      exact scanString_plain hquote hslash hcontrol
    · rw [htext, scanString_unit hwide (noPair_of_not_high (by omega) rest), codeUnit_toNat]
  · rw [escapeChar_wide (by omega), ofChars, List.map_append, List.append_assoc,
      scanString_pair (by omega) (by omega)]
    have hvalue : 0x10000 + (0xd800 + (c.toNat - 0x10000) / 0x400 - 0xd800) * 0x400 +
        (0xdc00 + (c.toNat - 0x10000) % 0x400 - 0xdc00) = c.toNat := by omega
    rw [hvalue, Char.ofNat_toNat]

/-- No character is written as a second half. -/
theorem noPair_escapeChar (n : Nat) (c : Char) (rest : PyText) :
    NoPair n (ofChars (escapeChar c) ++ rest) := by
  have hvalid := char_toNat_valid c
  by_cases hwide : c.toNat < 0x10000
  · rcases escapeChar_cases hwide with ⟨d, htext, hu, -⟩ | ⟨htext, -, hslash, -⟩ | htext
    · rw [htext]
      exact noPair_of_second fun h => hu (CodePoint.scalar.inj h)
    · rw [htext]
      exact noPair_of_head fun h => hslash (CodePoint.scalar.inj h)
    · rw [htext]
      exact noPair_unit hwide (by omega)
  · rw [escapeChar_wide (by omega), ofChars, List.map_append, List.append_assoc]
    exact noPair_unit (by omega) (by omega)

theorem escapePoint_surrogate (offset : Fin 2048) :
    escapePoint (.surrogate offset) = unitText (0xd800 + offset.val) := rfl

theorem codeUnit_surrogate (offset : Fin 2048) :
    codeUnit (0xd800 + offset.val) = .surrogate offset := by
  have hlt := offset.isLt
  have hval : (0xd800 + offset.val - 0xd800) % 2048 = offset.val := by omega
  rw [codeUnit, if_pos (by omega)]
  exact congrArg CodePoint.surrogate (Fin.ext hval)

/-- **A written text is read back mended.** -/
theorem scanString_quoteTail (t rest : PyText) :
    scanString (ofChars (Payload.quoteTail t) ++ rest) = .ok (mend t, rest) := by
  induction t using mend.induct with
  | case1 =>
      show scanString (.scalar '"' :: rest) = _
      conv_lhs => unfold scanString
      rw [if_pos rfl, mend]
  | case2 high low more hpair ih =>
      obtain ⟨hhigh, hlow⟩ := hpair
      have hlt := low.isLt
      have hh : ¬ 0x400 ≤ high.val := of_decide_eq_false hhigh
      have hl : 0x400 ≤ low.val := of_decide_eq_true hlow
      rw [mend, if_pos ⟨hhigh, hlow⟩, Payload.quoteTail, Payload.quoteTail, escapePoint_surrogate,
        escapePoint_surrogate, ofChars, List.map_append, List.map_append, List.append_assoc,
        List.append_assoc, scanString_pair (by omega) (by omega), ih, joinPair]
      simp only [push]
      rw [show 0x10000 + (0xd800 + high.val - 0xd800) * 0x400 + (0xd800 + low.val - 0xdc00) =
        0x10000 + high.val * 0x400 + (low.val - 0x400) by omega]
  | case3 high low more hpair ih =>
      have hlt := high.isLt
      have hlt' := low.isLt
      have hnext : NoPair (0xd800 + high.val)
          (ofChars (Payload.quoteTail (.surrogate low :: more)) ++ rest) := by
        by_cases hhigh : isLow high = false
        · have hl : ¬ 0x400 ≤ low.val := fun h => hpair ⟨hhigh, decide_eq_true h⟩
          rw [Payload.quoteTail, escapePoint_surrogate, ofChars, List.map_append, List.append_assoc]
          exact noPair_unit (by omega) (by omega)
        · have hh : 0x400 ≤ high.val := of_decide_eq_true (Bool.eq_true_of_not_eq_false hhigh)
          exact noPair_of_not_high (by omega) _
      rw [mend, if_neg hpair, Payload.quoteTail, escapePoint_surrogate, ofChars, List.map_append,
        List.append_assoc, scanString_unit (by omega) hnext, ih, codeUnit_surrogate]
      rfl
  | case4 c more hne ih =>
      rw [mend_cons hne]
      cases c with
      | scalar c =>
          rw [Payload.quoteTail, ofChars, List.map_append, List.append_assoc]
          show scanString (ofChars (escapeChar c) ++ _) = _
          rw [scanString_escapeChar, ih]
          rfl
      | surrogate high =>
          have hlt := high.isLt
          have hnext : NoPair (0xd800 + high.val) (ofChars (Payload.quoteTail more) ++ rest) := by
            cases more with
            | nil => exact noPair_of_head (by decide)
            | cons d more =>
                cases d with
                | scalar d =>
                    rw [Payload.quoteTail, ofChars, List.map_append, List.append_assoc]
                    exact noPair_escapeChar _ d _
                | surrogate low => exact absurd rfl (hne high low more rfl)
          rw [Payload.quoteTail, escapePoint_surrogate, ofChars, List.map_append, List.append_assoc,
            scanString_unit (by omega) hnext, ih, codeUnit_surrogate]
          rfl

/-! ## Integers -/

/-- What a number does not go on with. -/
def EndsNumber (rest : PyText) : Prop :=
  ∀ c more, rest = c :: more → ∃ d : Char, c = .scalar d ∧ d.isDigit = false ∧ d ≠ '.' ∧
    d ≠ 'e' ∧ d ≠ 'E'

theorem digitsRun_append {ds : List Char} {rest : PyText} (hds : ∀ d ∈ ds, d.isDigit = true)
    (hrest : EndsNumber rest) : digitsRun (ofChars ds ++ rest) = (ds, rest) := by
  induction ds with
  | nil =>
      cases rest with
      | nil => rfl
      | cons c more =>
          obtain ⟨d, rfl, hd, -⟩ := hrest c more rfl
          show digitsRun (.scalar d :: more) = _
          rw [digitsRun, hd]
          rfl
  | cons d ds ih =>
      show digitsRun (.scalar d :: (ofChars ds ++ rest)) = _
      rw [digitsRun, if_pos (hds d List.mem_cons_self),
        ih fun e he => hds e (List.mem_cons_of_mem d he)]

theorem fraction_ends {rest : PyText} (hrest : EndsNumber rest) : fraction rest = ([], rest) := by
  cases rest with
  | nil => rfl
  | cons c more =>
      obtain ⟨d, rfl, -, hpoint, -⟩ := hrest c more rfl
      unfold fraction
      split
      · next heq =>
          have hd : d = '.' := CodePoint.scalar.inj (List.cons.inj heq).1
          exact absurd hd hpoint
      · rfl

theorem exponent_ends {rest : PyText} (hrest : EndsNumber rest) :
    exponent rest = (none, rest) := by
  cases rest with
  | nil => rfl
  | cons c more =>
      obtain ⟨d, rfl, -, -, he, hE⟩ := hrest c more rfl
      show (if d = 'e' ∨ d = 'E' then _ else _) = _
      rw [if_neg fun h => h.elim he hE]

/-- The digits of a positive number do not start with a zero. -/
theorem toDigits_head (n : Nat) (hn : 0 < n) :
    ∃ d ds, Nat.toDigits 10 n = d :: ds ∧ d ≠ '0' := by
  induction n using Nat.strongRecOn with
  | _ n ih =>
      by_cases hsmall : n < 10
      · refine ⟨n.digitChar, [], Nat.toDigits_of_lt_base hsmall, ?_⟩
        interval_cases n <;> decide
      · obtain ⟨d, ds, hdigits, hd⟩ := ih (n / 10) (by omega) (by omega)
        refine ⟨d, ds ++ [(n % 10).digitChar], ?_, hd⟩
        rw [Nat.toDigits_of_base_le (by decide) (by omega), hdigits, List.cons_append]

/-- The integer part of a number is its digits. -/
theorem integerPart?_toDigits (n : Nat) {rest : PyText} (hrest : EndsNumber rest) :
    integerPart? (ofChars (Nat.toDigits 10 n) ++ rest) = some (Nat.toDigits 10 n, rest) := by
  rcases Nat.eq_zero_or_pos n with rfl | hn
  · rfl
  · obtain ⟨d, ds, hdigits, hd⟩ := toDigits_head n hn
    have hall : ∀ e ∈ d :: ds, e.isDigit = true := by
      intro e he
      rw [← hdigits] at he
      exact Nat.isDigit_of_mem_toDigits (by decide) (by decide) he
    rw [hdigits]
    show integerPart? (.scalar d :: (ofChars ds ++ rest)) = _
    rw [integerPart?, if_neg hd, if_pos (hall d List.mem_cons_self)]
    exact congrArg some (digitsRun_append hall hrest)

/-- The integer has no more digits than the interpreter converts. -/
def ShortInt (n : Int) : Prop := (Nat.toDigits 10 n.natAbs).length ≤ intMaxStrDigits

instance (n : Int) : Decidable (ShortInt n) := inferInstanceAs (Decidable (_ ≤ _))

/-- The digits of a natural number after their sign. -/
theorem scanNumber_digits {t : PyText} {negative : Bool} (m : Nat) {rest : PyText}
    (hsign : signOf t = (negative, ofChars (Nat.toDigits 10 m) ++ rest))
    (hrest : EndsNumber rest) (hshort : (Nat.toDigits 10 m).length ≤ intMaxStrDigits) :
    scanNumber t = .ok (.int (if negative then -(m : Int) else m), rest) := by
  unfold scanNumber
  rw [hsign]
  dsimp only
  rw [integerPart?_toDigits m hrest]
  dsimp only
  rw [fraction_ends hrest]
  dsimp only
  rw [exponent_ends hrest]
  dsimp only
  rw [if_pos ⟨rfl, rfl⟩, if_neg (Nat.not_lt.mpr hshort), Nat.ofDigitChars_ten_toDigits]

theorem scanNumber_integerText (n : Int) {rest : PyText} (hrest : EndsNumber rest)
    (hshort : ShortInt n) :
    scanNumber (ofChars (integerText n) ++ rest) = .ok (.int n, rest) := by
  cases n with
  | ofNat m =>
      have hsign : signOf (ofChars (Nat.toDigits 10 m) ++ rest) =
          (false, ofChars (Nat.toDigits 10 m) ++ rest) := by
        cases hdigits : Nat.toDigits 10 m with
        | nil => exact absurd hdigits Nat.toDigits_ne_nil
        | cons d ds =>
            have hne : d ≠ '-' := by
              rintro rfl
              exact toDigits_ne_minus m ds hdigits
            show signOf (.scalar d :: (ofChars ds ++ rest)) = _
            unfold signOf
            split
            · next heq => exact absurd (CodePoint.scalar.inj (List.cons.inj heq).1) hne
            · rfl
      exact scanNumber_digits m hsign hrest hshort
  | negSucc m =>
      have hscan := scanNumber_digits (t := ofChars (integerText (.negSucc m)) ++ rest)
        (m + 1) rfl hrest hshort
      rw [hscan]
      rfl

/-- The head of an integer's text is a digit, or a minus before one. -/
theorem integerText_head (n : Int) : ∃ c cs, integerText n = c :: cs ∧
    (c.isDigit = true ∨ c = '-' ∧ ∃ d ds, cs = d :: ds ∧ d.isDigit = true) := by
  have hnat : ∀ m : Nat, ∃ d ds, Nat.toDigits 10 m = d :: ds ∧ d.isDigit = true := by
    intro m
    cases hdigits : Nat.toDigits 10 m with
    | nil => exact absurd hdigits Nat.toDigits_ne_nil
    | cons d ds =>
        refine ⟨d, ds, rfl, ?_⟩
        exact Nat.isDigit_of_mem_toDigits (b := 10) (n := m) (by decide) (by decide)
          (hdigits ▸ List.mem_cons_self)
  cases n with
  | ofNat m =>
      obtain ⟨d, ds, hdigits, hd⟩ := hnat m
      exact ⟨d, ds, hdigits, Or.inl hd⟩
  | negSucc m =>
      obtain ⟨d, ds, hdigits, hd⟩ := hnat (m + 1)
      exact ⟨'-', d :: ds, congrArg ('-' :: ·) hdigits, Or.inr ⟨rfl, d, ds, rfl, hd⟩⟩

/-- **An integer.** -/
theorem scanScalar_integerText (n : Int) {rest : PyText} (hrest : EndsNumber rest)
    (hshort : ShortInt n) :
    scanScalar (ofChars (integerText n) ++ rest) = .ok (.int n, rest) := by
  have hnone : (jsonWords.find? fun word =>
      (ofChars (integerText n) ++ rest).startsWith (.ofString word.1)) = none := by
    obtain ⟨c, cs, htext, hhead⟩ := integerText_head n
    rw [List.find?_eq_none, htext]
    intro word hword
    simp only [jsonWords, List.mem_cons, List.not_mem_nil, or_false] at hword
    show ¬ PyText.startsWith (.scalar c :: (ofChars cs ++ rest)) _ = true
    rcases hhead with hdigit | ⟨rfl, d, ds, rfl, hdigit⟩
    · obtain rfl | rfl | rfl | rfl | rfl | rfl := hword <;>
      · intro hstarts
        simp [PyText.startsWith, PyText.ofString] at hstarts
        rw [← hstarts.1] at hdigit
        exact absurd hdigit (by decide)
    · obtain rfl | rfl | rfl | rfl | rfl | rfl := hword <;>
      · intro hstarts
        simp [PyText.startsWith, PyText.ofString] at hstarts
        try
          rw [← hstarts.1] at hdigit
          exact absurd hdigit (by decide)
  rw [scanScalar, hnone]
  exact scanNumber_integerText n hrest hshort

/-! ## Values -/

/-- How a value is handed on: what becomes of its texts, and how the members of its objects
    are arranged. -/
structure Reading where
  text : PyText → PyText
  arrange : List (String × PyValue) → List (String × PyValue)
  arrange_perm : ∀ members, (arrange members).Perm members

/-- The value itself. -/
def Reading.direct : Reading := ⟨id, id, fun _ => .refl _⟩

/-- The order of two members. -/
def memberLe {α : Type} (a b : String × α) : Bool := decide (a.1 ≤ b.1)

/-- The value written and read back. -/
def Reading.stored : Reading :=
  ⟨mend, fun members => members.mergeSort memberLe, fun members => members.mergeSort_perm _⟩

/-- The dict that is filled with these members, one after the other. -/
def PyEntries.ofMembers (members : List (String × PyValue)) : PyEntries :=
  members.foldl (fun entries member => entries.set (.ofString member.1) member.2) .nil

namespace Payload

mutual

/-- The Python object. -/
def value (r : Reading) : Payload → PyValue
  | .null => .none
  | .bool b => .bool b
  | .int n => .int n
  | .str s => .str (r.text s)
  | .list items => .list (itemValues r items)
  | .dict entries => .dict (.ofMembers (r.arrange (memberValues r entries)))

/-- The objects of the items of a list. -/
def itemValues (r : Reading) : PayloadItems → PyItems
  | .nil => .nil
  | .cons item rest => .cons (value r item) (itemValues r rest)

/-- The objects of the members of a dict. -/
def memberValues (r : Reading) : PayloadEntries → List (String × PyValue)
  | .nil => []
  | .cons key item rest => (key, value r item) :: memberValues r rest

end

mutual

/-- How many containers are open at once. -/
def depth : Payload → Nat
  | .list items => itemsDepth items + 1
  | .dict entries => entriesDepth entries + 1
  | _ => 0

/-- The same for the items of a list. -/
def itemsDepth : PayloadItems → Nat
  | .nil => 0
  | .cons item rest => max (depth item) (itemsDepth rest)

/-- The same for the members of a dict. -/
def entriesDepth : PayloadEntries → Nat
  | .nil => 0
  | .cons _ item rest => max (depth item) (entriesDepth rest)

end

mutual

/-- Every integer can be converted to its digits. -/
def convertible : Payload → Bool
  | .int n => decide (ShortInt n)
  | .list items => itemsConvertible items
  | .dict entries => entriesConvertible entries
  | _ => true

/-- The same for the items of a list. -/
def itemsConvertible : PayloadItems → Bool
  | .nil => true
  | .cons item rest => convertible item && itemsConvertible rest

/-- The same for the members of a dict. -/
def entriesConvertible : PayloadEntries → Bool
  | .nil => true
  | .cons _ item rest => convertible item && entriesConvertible rest

end

/-- `json.dumps` can write the value. -/
def Convertible (v : Payload) : Prop := v.convertible = true

instance (v : Payload) : Decidable v.Convertible := inferInstanceAs (Decidable (_ = true))

/-! ## What is written comes back -/

/-- The text that a value starts with is neither white space nor the end of a container, nor the
    mark that `loads` refuses. -/
theorem render_head (v : Payload) : ∃ c cs, v.render = c :: cs ∧
    isJsonSpace (.scalar c) = false ∧ c ≠ ']' ∧ c ≠ '}' ∧ c ≠ '\ufeff' := by
  cases v with
  | null => exact ⟨'n', _, rfl, by decide⟩
  | bool b =>
      cases b with
      | true => exact ⟨'t', _, rfl, by decide⟩
      | false => exact ⟨'f', _, rfl, by decide⟩
  | int n =>
      obtain ⟨c, cs, htext, hhead⟩ := integerText_head n
      refine ⟨c, cs, htext, ?_⟩
      rcases hhead with hdigit | ⟨rfl, -⟩
      · refine ⟨?_, ?_, ?_, ?_⟩
        · simp only [isJsonSpace, CodePoint.scalar.injEq, Bool.or_eq_false_iff,
            decide_eq_false_iff_not]
          refine ⟨⟨⟨?_, ?_⟩, ?_⟩, ?_⟩ <;>
          · rintro rfl
            exact absurd hdigit (by decide)
        all_goals
          rintro rfl
          exact absurd hdigit (by decide)
      · decide
  | str s => exact ⟨'"', _, rfl, by decide⟩
  | list items =>
      cases items with
      | nil => exact ⟨'[', _, rfl, by decide⟩
      | cons item rest => exact ⟨'[', _, rfl, by decide⟩
  | dict entries =>
      rw [render]
      generalize (members entries).mergeSort keyLe = sorted
      cases sorted with
      | nil => exact ⟨'{', _, rfl, by decide⟩
      | cons member rest => exact ⟨'{', _, rfl, by decide⟩

theorem skipSpace_cons {c : CodePoint} {t : PyText} (hc : isJsonSpace c = false) :
    skipSpace (c :: t) = c :: t := by
  rw [skipSpace, List.dropWhile_cons, hc]
  rfl

theorem skipSpace_render (v : Payload) (rest : PyText) :
    skipSpace (ofChars v.render ++ rest) = ofChars v.render ++ rest := by
  obtain ⟨c, cs, htext, hspace, -⟩ := v.render_head
  rw [htext]
  exact skipSpace_cons hspace

/-- The scanner reads this value back, whatever follows it. -/
def ReadBy (scan : PyText → Scan PyValue) (v : Payload) : Prop :=
  ∀ rest, EndsNumber rest →
    scan (ofChars v.render ++ rest) = .ok (v.value .stored, rest)

theorem endsNumber_cons {c : Char} (more : PyText)
    (hc : c.isDigit = false ∧ c ≠ '.' ∧ c ≠ 'e' ∧ c ≠ 'E') :
    EndsNumber (.scalar c :: more) := by
  intro d rest heq
  exact ⟨c, (List.cons.inj heq).1.symm, hc⟩

theorem endsNumber_renderTail (items : PayloadItems) (rest : PyText) :
    EndsNumber (ofChars (renderTail items) ++ rest) := by
  cases items with
  | nil => exact endsNumber_cons _ (by decide)
  | cons item more => exact endsNumber_cons _ (by decide)

/-- Each item of a list. -/
def EachItem (P : Payload → Prop) : PayloadItems → Prop
  | .nil => True
  | .cons item rest => P item ∧ EachItem P rest

theorem scanItems_last {scan : PyText → Scan PyValue} {steps : Nat} {t rest : PyText}
    {item : PyValue} (h : scan t = .ok (item, .scalar ']' :: rest)) :
    scanItems scan (steps + 1) t = .ok (.cons item .nil, rest) := by
  rw [scanItems, h]
  dsimp only
  rw [skipSpace_cons (by decide)]
  dsimp only
  rw [if_pos rfl]

theorem scanItems_more {scan : PyText → Scan PyValue} {steps : Nat} {t next rest : PyText}
    {item : PyValue} {items : PyItems} (h : scan t = .ok (item, .scalar ',' :: next))
    (hskip : skipSpace next = next) (hnext : scanItems scan steps next = .ok (items, rest)) :
    scanItems scan (steps + 1) t = .ok (.cons item items, rest) := by
  rw [scanItems, h]
  dsimp only
  rw [skipSpace_cons (by decide)]
  dsimp only
  rw [if_neg (by decide), if_pos rfl, hskip, hnext]

theorem ofChars_append (a b : List Char) (rest : PyText) :
    ofChars (a ++ b) ++ rest = ofChars a ++ (ofChars b ++ rest) := by
  rw [ofChars, List.map_append, List.append_assoc]

/-- **The items of a list**, from the first one on. -/
theorem scanItems_render {scan : PyText → Scan PyValue} :
    ∀ (items : PayloadItems) (item : Payload) (steps : Nat) (rest : PyText), ReadBy scan item →
      EachItem (ReadBy scan) items →
      (ofChars (item.render ++ renderTail items)).length ≤ steps →
      scanItems scan steps (ofChars (item.render ++ renderTail items) ++ rest) =
        .ok (.cons (item.value .stored) (itemValues .stored items), rest)
  | .nil, item, steps, rest, hread, _, hsteps => by
      have hlength : (ofChars (item.render ++ renderTail .nil)).length = item.render.length + 1 := by
        simp only [ofChars, List.length_map, List.length_append, renderTail, List.length_cons,
          List.length_nil]
      obtain ⟨steps, rfl⟩ : ∃ n, steps = n + 1 := ⟨steps - 1, by omega⟩
      rw [ofChars_append]
      exact scanItems_last (hread _ (endsNumber_renderTail .nil rest))
  | .cons next more, item, steps, rest, hread, hall, hsteps => by
      have hlength : (ofChars (item.render ++ renderTail (.cons next more))).length =
          item.render.length + ((ofChars (next.render ++ renderTail more)).length + 1) := by
        simp only [ofChars, List.length_map, List.length_append, renderTail, List.length_cons]
      obtain ⟨steps, rfl⟩ : ∃ n, steps = n + 1 := ⟨steps - 1, by omega⟩
      rw [ofChars_append]
      have hskip : skipSpace (ofChars (next.render ++ renderTail more) ++ rest) =
          ofChars (next.render ++ renderTail more) ++ rest := by
        rw [ofChars_append, skipSpace_render]
      exact scanItems_more (hread _ (endsNumber_renderTail (.cons next more) rest)) hskip
        (scanItems_render more next steps rest hall.1 hall.2 (by omega))

/-- A list. -/
theorem scanArray_render {scan : PyText → Scan PyValue} (item : Payload) (items : PayloadItems)
    (rest : PyText) (hread : ReadBy scan item) (hall : EachItem (ReadBy scan) items) :
    scanArray scan (ofChars (item.render ++ renderTail items) ++ rest) =
      .ok (.list (.cons (item.value .stored) (itemValues .stored items)), rest) := by
  obtain ⟨c, cs, htext, hspace, hclose, -⟩ := item.render_head
  have hsteps := scanItems_render items item
    (ofChars (item.render ++ renderTail items) ++ rest).length rest hread hall
    (by rw [List.length_append]; omega)
  have hcons : ofChars (item.render ++ renderTail items) ++ rest =
      .scalar c :: (ofChars (cs ++ renderTail items) ++ rest) := by
    rw [htext]
    rfl
  rw [hcons] at hsteps ⊢
  rw [scanArray, skipSpace_cons hspace]
  dsimp only
  rw [if_neg (fun h => hclose (CodePoint.scalar.inj h)), hsteps]

/-! ## Objects -/

/-- The members of a dict as they were given. -/
def pairs : PayloadEntries → List (String × Payload)
  | .nil => []
  | .cons key item rest => (key, item) :: pairs rest

theorem members_eq : (entries : PayloadEntries) →
    members entries = (pairs entries).map fun p => (p.1, p.2.render)
  | .nil => rfl
  | .cons key item rest => by rw [members, pairs, List.map_cons, members_eq rest]

theorem memberValues_eq (r : Reading) : (entries : PayloadEntries) →
    memberValues r entries = (pairs entries).map fun p => (p.1, p.2.value r)
  | .nil => rfl
  | .cons key item rest => by rw [memberValues, pairs, List.map_cons, memberValues_eq r rest]

/-- The written members, in the order they are written in. -/
theorem sorted_members (entries : PayloadEntries) :
    (members entries).mergeSort keyLe =
      ((pairs entries).mergeSort memberLe).map fun p => (p.1, p.2.render) := by
  have hsort := @List.map_mergeSort _ _ memberLe keyLe
    (fun p : String × Payload => (p.1, p.2.render)) (pairs entries) fun _ _ _ _ => rfl
  rw [members_eq, hsort]

theorem sorted_memberValues (r : Reading) (entries : PayloadEntries) :
    (memberValues r entries).mergeSort memberLe =
      ((pairs entries).mergeSort memberLe).map fun p => (p.1, p.2.value r) := by
  have hsort := @List.map_mergeSort _ _ memberLe memberLe
    (fun p : String × Payload => (p.1, p.2.value r)) (pairs entries) fun _ _ _ _ => rfl
  rw [memberValues_eq, hsort]

/-- A member of an object before what follows it. -/
def memberText (member : String × Payload) (tail : List Char) : List Char :=
  Foundation.quote member.1 ++ ':' :: (member.2.render ++ tail)

/-- The members after the first. -/
def tailText (rest : List (String × Payload)) : List Char :=
  membersTail (rest.map fun p => (p.1, p.2.render))

theorem tailText_cons (member : String × Payload) (rest : List (String × Payload)) :
    tailText (member :: rest) = ',' :: memberText member (tailText rest) := rfl

theorem endsNumber_tailText (members : List (String × Payload)) (rest : PyText) :
    EndsNumber (ofChars (tailText members) ++ rest) := by
  cases members with
  | nil => exact endsNumber_cons _ (by decide)
  | cons member more => exact endsNumber_cons _ (by decide)

/-- Put one more member into the entries read so far. -/
def addMember (entries : PyEntries) (member : String × Payload) : PyEntries :=
  entries.set (.ofString member.1) (member.2.value .stored)

/-- One member, read up to what follows it. -/
theorem scanMembers_member {scan : PyText → Scan PyValue} {steps : Nat} {entries : PyEntries}
    {member : String × Payload} (tail : List Char) {rest : PyText} (c : CodePoint) {more : PyText}
    (hread : ReadBy scan member.2) (hends : EndsNumber (ofChars tail ++ rest))
    (htail : ofChars tail ++ rest = c :: more) (hspace : isJsonSpace c = false) :
    scanMembers scan (steps + 1) entries (ofChars (memberText member tail) ++ rest) =
      if c = .scalar '}' then .ok (addMember entries member, more)
      else if c = .scalar ',' then
        scanMembers scan steps (addMember entries member) (skipSpace more)
      else .error .decode := by
  have hkey := scanString_quoteTail (.ofString member.1)
    (.scalar ':' :: (ofChars member.2.render ++ (ofChars tail ++ rest)))
  rw [mend_ofString] at hkey
  have hquote : ofChars (memberText member tail) ++ rest =
      .scalar '"' :: (ofChars (Payload.quoteTail (.ofString member.1)) ++
        .scalar ':' :: (ofChars member.2.render ++ (ofChars tail ++ rest))) := by
    rw [memberText, ← Payload.quote_ofString, Payload.quote]
    simp only [ofChars, List.map_append, List.map_cons, List.cons_append, List.append_assoc]
  rw [hquote, scanMembers, if_pos rfl, hkey]
  dsimp only
  rw [skipSpace_cons (by decide)]
  dsimp only
  rw [if_pos rfl, skipSpace_render, hread _ hends]
  dsimp only
  rw [htail, skipSpace_cons hspace]
  rfl

/-- **The members of an object**, from the first one on. -/
theorem scanMembers_render {scan : PyText → Scan PyValue} (members : List (String × Payload)) :
    ∀ (member : String × Payload) (entries : PyEntries) (steps : Nat) (rest : PyText),
      ReadBy scan member.2 → (∀ other ∈ members, ReadBy scan other.2) →
      (ofChars (memberText member (tailText members))).length ≤ steps →
      scanMembers scan steps entries (ofChars (memberText member (tailText members)) ++ rest) =
        .ok ((member :: members).foldl addMember entries, rest) := by
  induction members with
  | nil =>
      intro member entries steps rest hread _ hsteps
      have hlength : 0 < (ofChars (memberText member (tailText []))).length := by
        rw [ofChars, List.length_map, memberText, Foundation.quote, List.cons_append,
          List.length_cons]
        exact Nat.succ_pos _
      obtain ⟨steps, rfl⟩ : ∃ n, steps = n + 1 := ⟨steps - 1, by omega⟩
      rw [scanMembers_member (tailText []) (.scalar '}') hread
        (endsNumber_tailText [] rest) rfl (by decide), if_pos rfl]
      rfl
  | cons next more ih =>
      intro member entries steps rest hread hall hsteps
      have hlength : (ofChars (memberText next (tailText more))).length <
          (ofChars (memberText member (tailText (next :: more)))).length := by
        rw [tailText_cons]
        conv_rhs => rw [memberText]
        simp only [ofChars, List.length_map, List.length_append, List.length_cons]
        omega
      obtain ⟨steps, rfl⟩ : ∃ n, steps = n + 1 := ⟨steps - 1, by omega⟩
      rw [scanMembers_member (tailText (next :: more)) (.scalar ',') hread
        (endsNumber_tailText (next :: more) rest) rfl (by decide), if_neg (by decide), if_pos rfl]
      have hskip : skipSpace (ofChars (memberText next (tailText more)) ++ rest) =
          ofChars (memberText next (tailText more)) ++ rest := skipSpace_cons (by decide)
      show scanMembers scan steps (addMember entries member)
        (skipSpace (ofChars (memberText next (tailText more)) ++ rest)) = _
      rw [hskip, ih next (addMember entries member) steps rest (hall next List.mem_cons_self)
        (fun other hother => hall other (List.mem_cons_of_mem next hother)) (by omega)]
      rfl

/-- An object. -/
theorem scanObject_render {scan : PyText → Scan PyValue} (member : String × Payload)
    (members : List (String × Payload)) (rest : PyText) (hread : ReadBy scan member.2)
    (hall : ∀ other ∈ members, ReadBy scan other.2) :
    scanObject scan (ofChars (memberText member (tailText members)) ++ rest) =
      .ok (.dict ((member :: members).foldl addMember .nil), rest) := by
  have hsteps := scanMembers_render members member .nil
    (ofChars (memberText member (tailText members)) ++ rest).length rest hread hall
    (by rw [List.length_append]; omega)
  obtain ⟨t, ht⟩ : ∃ t, ofChars (memberText member (tailText members)) ++ rest =
      .scalar '"' :: t := ⟨_, rfl⟩
  rw [ht] at hsteps ⊢
  rw [scanObject, skipSpace_cons (by decide)]
  dsimp only
  rw [if_neg (by decide), hsteps]

theorem depth_of_mem_pairs {member : String × Payload} : (entries : PayloadEntries) →
    member ∈ pairs entries → depth member.2 ≤ entriesDepth entries
  | .cons key item rest, h => by
      rw [pairs, List.mem_cons] at h
      rw [entriesDepth]
      rcases h with rfl | h
      · exact Nat.le_max_left _ _
      · exact Nat.le_trans (depth_of_mem_pairs rest h) (Nat.le_max_right _ _)

theorem convertible_of_mem_pairs {member : String × Payload} : (entries : PayloadEntries) →
    entriesConvertible entries = true → member ∈ pairs entries → Convertible member.2
  | .cons key item rest, hall, h => by
      rw [entriesConvertible, Bool.and_eq_true] at hall
      rw [pairs, List.mem_cons] at h
      rcases h with rfl | h
      · exact hall.1
      · exact convertible_of_mem_pairs rest hall.2 h

theorem eachItem_of {P : Payload → Prop} {bound : Nat}
    (h : ∀ v : Payload, v.depth ≤ bound → v.Convertible → P v) : (items : PayloadItems) →
    itemsDepth items ≤ bound → itemsConvertible items = true → EachItem P items
  | .nil, _, _ => trivial
  | .cons item rest, hdepth, hall => by
      rw [itemsDepth, Nat.max_le] at hdepth
      rw [itemsConvertible, Bool.and_eq_true] at hall
      exact ⟨h item hdepth.1 hall.1, eachItem_of h rest hdepth.2 hall.2⟩

/-- A value that is neither a text nor a container. -/
theorem scanStep_scalar {inner : Option (PyText → Scan PyValue)} {c : Char} {rest : PyText}
    (hc : c ≠ '"' ∧ c ≠ '\x7b' ∧ c ≠ '[') :
    scanStep inner (.scalar c :: rest) = scanScalar (.scalar c :: rest) := by
  unfold scanStep
  dsimp only
  rw [if_neg fun h => hc.1 (CodePoint.scalar.inj h), if_neg fun h => hc.2.1 (CodePoint.scalar.inj h),
    if_neg fun h => hc.2.2 (CodePoint.scalar.inj h)]

theorem scanStep_text {inner : Option (PyText → Scan PyValue)} {t text rest : PyText}
    (h : scanString t = .ok (text, rest)) :
    scanStep inner (.scalar '"' :: t) = .ok (.str text, rest) := by
  unfold scanStep
  dsimp only
  rw [if_pos rfl, h]

theorem scanStep_list (scan : PyText → Scan PyValue) (rest : PyText) :
    scanStep (some scan) (.scalar '[' :: rest) = scanArray scan rest := rfl

theorem scanStep_dict (scan : PyText → Scan PyValue) (rest : PyText) :
    scanStep (some scan) (.scalar '\x7b' :: rest) = scanObject scan rest := rfl

/-- **A container at a time**: the scanner reads what its inner scanner reads inside. -/
theorem readBy_scanStep {inner : Option (PyText → Scan PyValue)} {bound : Nat}
    (hinner : ∀ v : Payload, v.depth < bound → v.Convertible →
      ∃ scan, inner = some scan ∧ ReadBy scan v)
    (hsome : 0 < bound → inner.isSome = true) (v : Payload) (hdepth : v.depth ≤ bound)
    (hconvertible : v.Convertible) : ReadBy (scanStep inner) v := by
  intro rest hends
  cases v with
  | null => rfl
  | bool b =>
      cases b with
      | true => rfl
      | false => rfl
  | int n =>
      obtain ⟨c, cs, htext, hhead⟩ := integerText_head n
      have hc : c ≠ '"' ∧ c ≠ '\x7b' ∧ c ≠ '[' := by
        rcases hhead with hdigit | ⟨rfl, -⟩
        · refine ⟨?_, ?_, ?_⟩ <;>
          · rintro rfl
            exact absurd hdigit (by decide)
        · decide
      have hscan := scanScalar_integerText n hends (of_decide_eq_true hconvertible)
      rw [render, value]
      rw [htext] at hscan ⊢
      exact (scanStep_scalar hc).trans hscan
  | str s =>
      exact scanStep_text (scanString_quoteTail s rest)
  | list items =>
      rw [depth] at hdepth
      obtain ⟨scan, rfl⟩ := Option.isSome_iff_exists.mp (hsome (by omega))
      have hread : ∀ v : Payload, v.depth ≤ bound - 1 → v.Convertible → ReadBy scan v := by
        intro v hv hv'
        obtain ⟨scan', heq, h⟩ := hinner v (by omega) hv'
        exact Option.some.inj heq ▸ h
      cases items with
      | nil => rfl
      | cons item items =>
          rw [itemsDepth] at hdepth
          obtain ⟨hitem, hitems⟩ := Bool.and_eq_true_iff.mp hconvertible
          have hall := eachItem_of hread items (by omega) hitems
          have hscan := scanArray_render item items rest (hread item (by omega) hitem) hall
          exact (scanStep_list scan _).trans hscan
  | dict entries =>
      rw [depth] at hdepth
      obtain ⟨scan, rfl⟩ := Option.isSome_iff_exists.mp (hsome (by omega))
      have hread : ∀ member ∈ (pairs entries).mergeSort memberLe, ReadBy scan member.2 := by
        intro member hmember
        have hmem := List.mem_mergeSort.mp hmember
        obtain ⟨scan', heq, h⟩ := hinner member.2
          (Nat.lt_of_le_of_lt (depth_of_mem_pairs entries hmem) (by omega))
          (convertible_of_mem_pairs entries hconvertible hmem)
        exact Option.some.inj heq ▸ h
      have hvalue : (dict entries).value .stored =
          .dict (((pairs entries).mergeSort memberLe).foldl addMember .nil) := by
        rw [value]
        show PyValue.dict (PyEntries.ofMembers ((memberValues .stored entries).mergeSort memberLe))
          = _
        rw [sorted_memberValues, PyEntries.ofMembers, List.foldl_map]
        rfl
      rw [hvalue, render, sorted_members]
      generalize (pairs entries).mergeSort memberLe = sorted at hread
      cases sorted with
      | nil => rfl
      | cons member members =>
          have hscan := scanObject_render member members rest
            (hread member List.mem_cons_self)
            fun other hother => hread other (List.mem_cons_of_mem member hother)
          exact (scanStep_dict scan _).trans hscan

/-- The scanner reads every value that nests no deeper than it may go. -/
theorem readBy_scanOnce (limit : Nat) (v : Payload) (hdepth : v.depth ≤ limit)
    (hconvertible : v.Convertible) : ReadBy (scanOnce limit) v := by
  induction limit generalizing v with
  | zero =>
      exact @readBy_scanStep _ 0 (fun _ h => absurd h (Nat.not_lt_zero _))
        (fun h => absurd h (Nat.lt_irrefl 0)) v hdepth hconvertible
  | succ limit ih =>
      exact @readBy_scanStep _ (limit + 1)
        (fun w hw hw' => ⟨_, rfl, ih w (Nat.le_of_lt_succ hw) hw'⟩) (fun _ => rfl) v hdepth
        hconvertible

/-- **`json.loads(json.dumps(value))`**, also with white space behind the text: the value
    with its objects in the order of their keys and its texts mended. -/
theorem loads_render {limit : Nat} {v : Payload} {rest : PyText} (hdepth : v.depth ≤ limit)
    (hconvertible : v.Convertible) (hspace : skipSpace rest = []) :
    loads limit (ofChars v.render ++ rest) = .ok (v.value .stored) := by
  have hends : EndsNumber rest := by
    rintro c more rfl
    have hc : isJsonSpace c = true := by
      by_contra hne
      rw [skipSpace_cons (Bool.eq_false_of_not_eq_true hne)] at hspace
      cases hspace
    simp only [isJsonSpace, Bool.or_eq_true, decide_eq_true_eq] at hc
    rcases hc with ((rfl | rfl) | rfl) | rfl <;> exact ⟨_, rfl, by decide⟩
  obtain ⟨c, cs, htext, -, -, -, hmark⟩ := v.render_head
  have hscan := readBy_scanOnce limit v hdepth hconvertible rest hends
  have hbom : (ofChars v.render ++ rest).head? ≠ some (.scalar '\ufeff') := by
    rw [htext]
    exact fun h => hmark (CodePoint.scalar.inj (Option.some.inj h))
  rw [loads, if_neg hbom, skipSpace_render, hscan]
  dsimp only
  rw [if_pos hspace]

/-! ## Looking into an object -/

end Payload

theorem PyEntries.get?_set (key : PyText) (item : PyValue) (wanted : PyText) :
    (entries : PyEntries) → (entries.set key item).get? wanted =
      if key = wanted then some item else entries.get? wanted
  | .nil => rfl
  | .cons k v rest => by
      unfold PyEntries.set
      by_cases hk : k = key
      · subst hk
        rw [if_pos rfl, PyEntries.get?, PyEntries.get?]
        by_cases hw : k = wanted
        · rw [if_pos hw, if_pos hw]
        · rw [if_neg hw, if_neg hw, if_neg hw]
      · rw [if_neg hk, PyEntries.get?, PyEntries.get?, PyEntries.get?_set key item wanted rest]
        by_cases hw : k = wanted
        · subst hw
          rw [if_pos rfl, if_pos rfl, if_neg (Ne.symm hk)]
        · rw [if_neg hw, if_neg hw]

/-- Members of different keys are all found again. -/
theorem PyEntries.get?_ofMembers {members : List (String × PyValue)}
    (hkeys : (members.map Prod.fst).Nodup) (key : String) :
    (PyEntries.ofMembers members).get? (.ofString key) = members.lookup key := by
  have hfold : ∀ (members : List (String × PyValue)), (members.map Prod.fst).Nodup →
      ∀ entries : PyEntries,
        (members.foldl (fun entries member => entries.set (.ofString member.1) member.2)
          entries).get? (.ofString key) =
          (members.lookup key).or (entries.get? (.ofString key)) := by
    intro members
    induction members with
    | nil => exact fun _ _ => rfl
    | cons member rest ih =>
        intro hkeys entries
        obtain ⟨hnot, hrest⟩ := List.nodup_cons.mp hkeys
        rw [List.foldl_cons, ih hrest, PyEntries.get?_set, List.lookup_cons]
        by_cases hkey : key = member.1
        · subst hkey
          have hnone : rest.lookup member.1 = none := by
            refine List.lookup_eq_none_iff.mpr fun other hother => ?_
            rw [bne_iff_ne]
            rintro heq
            exact hnot (heq ▸ List.mem_map_of_mem hother)
          rw [hnone, if_pos rfl, beq_self_eq_true]
          rfl
        · have hbeq : (key == member.1) = false := beq_false_of_ne hkey
          have hne : PyText.ofString member.1 ≠ PyText.ofString key := fun h =>
            hkey (PyText.ofString_injective h).symm
          rw [hbeq, if_neg hne]
  rw [PyEntries.ofMembers, hfold members hkeys]
  cases members.lookup key <;> rfl

namespace Payload

theorem pairs_ofEntries (fields : List (String × Payload)) : pairs (ofEntries fields) = fields := by
  induction fields with
  | nil => rfl
  | cons field rest ih =>
      obtain ⟨key, item⟩ := field
      rw [ofEntries, pairs, ih]

/-- A permutation of members with different keys has the same member for each key. -/
theorem lookup_perm {α : Type} {a b : List (String × α)} (hkeys : (a.map Prod.fst).Nodup)
    (h : a.Perm b) (key : String) : a.lookup key = b.lookup key := by
  have hmem : ∀ {l : List (String × α)}, (l.map Prod.fst).Nodup → ∀ item,
      l.lookup key = some item ↔ (key, item) ∈ l := by
    intro l hl item
    rw [List.lookup_eq_some_iff]
    constructor
    · rintro ⟨before, after, rfl, -⟩
      exact List.mem_append_right _ List.mem_cons_self
    · intro hitem
      obtain ⟨before, after, rfl⟩ := List.append_of_mem hitem
      refine ⟨before, after, rfl, fun other hother => bne_iff_ne.mpr ?_⟩
      rintro heq
      rw [List.map_append, List.map_cons] at hl
      exact (List.nodup_append.mp hl).2.2 other.1 (List.mem_map_of_mem hother) key
        List.mem_cons_self heq.symm
  have hkeys' : (b.map Prod.fst).Nodup := (h.map _).nodup_iff.mp hkeys
  ext item
  rw [hmem hkeys, hmem hkeys', h.mem_iff]

/-- **An object of literal fields**: each field is found under its key. -/
theorem value_object (r : Reading) (fields : List (String × Payload))
    (hkeys : (fields.map Prod.fst).Nodup) : ∃ entries, (object fields).value r = .dict entries ∧
      ∀ key, entries.get? (.ofString key) = (fields.lookup key).map (value r) := by
  refine ⟨.ofMembers (r.arrange (memberValues r (ofEntries fields))), by rw [object, value], ?_⟩
  intro key
  have hvalues : memberValues r (ofEntries fields) = fields.map fun f => (f.1, f.2.value r) := by
    rw [memberValues_eq, pairs_ofEntries]
  have hperm := r.arrange_perm (memberValues r (ofEntries fields))
  have hfst : ((memberValues r (ofEntries fields)).map Prod.fst) = fields.map Prod.fst := by
    rw [hvalues, List.map_map]
    rfl
  have hnodup : ((r.arrange (memberValues r (ofEntries fields))).map Prod.fst).Nodup := by
    rw [(hperm.map Prod.fst).nodup_iff, hfst]
    exact hkeys
  rw [PyEntries.get?_ofMembers hnodup, lookup_perm hnodup hperm, hvalues]
  clear hperm hnodup hfst hvalues hkeys
  induction fields with
  | nil => rfl
  | cons field rest ih =>
      rw [List.map_cons, List.lookup_cons, List.lookup_cons, ih]
      cases key == field.1 <;> rfl

/-- The items of an array. -/
theorem value_array (r : Reading) (items : List Payload) :
    ∃ values, (array items).value r = .list values ∧ values.toList = items.map (value r) := by
  refine ⟨itemValues r (ofItems items), by rw [array, value], ?_⟩
  induction items with
  | nil => rfl
  | cons item rest ih => rw [ofItems, itemValues, PyItems.toList, List.map_cons, ih]

/-! ## Depth and integers of literal objects -/

theorem depth_object_le {fields : List (String × Payload)} {bound : Nat} :
    (object fields).depth ≤ bound + 1 ↔ ∀ field ∈ fields, field.2.depth ≤ bound := by
  rw [object, depth, Nat.add_le_add_iff_right]
  induction fields with
  | nil => simp [ofEntries, entriesDepth]
  | cons field rest ih =>
      rw [ofEntries, entriesDepth, Nat.max_le, ih, List.forall_mem_cons]

theorem depth_array_le {items : List Payload} {bound : Nat} :
    (array items).depth ≤ bound + 1 ↔ ∀ item ∈ items, item.depth ≤ bound := by
  rw [array, depth, Nat.add_le_add_iff_right]
  induction items with
  | nil => simp [ofItems, itemsDepth]
  | cons item rest ih => rw [ofItems, itemsDepth, Nat.max_le, ih, List.forall_mem_cons]

theorem convertible_object {fields : List (String × Payload)} :
    (object fields).Convertible ↔ ∀ field ∈ fields, field.2.Convertible := by
  show entriesConvertible (ofEntries fields) = true ↔ _
  induction fields with
  | nil => simp [ofEntries, entriesConvertible]
  | cons field rest ih =>
      rw [ofEntries, entriesConvertible, Bool.and_eq_true, ih, List.forall_mem_cons]
      rfl

end Payload

end Eag.Foundation
