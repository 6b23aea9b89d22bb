/-
  Eag.Foundation.JsonDecoder

  `json.loads` of a text: the values it builds and the errors it stops with.

  The scanner follows the reading order of the decoder, so that the error of a text is
  the first one met from the left. Its depth is the recursion limit; the loops count down
  from the length of the text (`loads_ne_stuck`).
-/

import Eag.Foundation.PyText

namespace Eag.Foundation

/-! ## Values -/

/-- A `float` as its literal: the sign, the digits and the exponent of ten, or one
    of the words. The rounding to a double is left to the comparisons. -/
inductive PyFloat where
  | decimal (negative : Bool) (digits : Nat) (exponent : Int)
  | nan
  | infinity (negative : Bool)
  deriving DecidableEq, Repr

mutual

/-- A value `json.loads` builds. -/
inductive PyValue where
  | none
  | bool (b : Bool)
  | int (n : Int)
  | float (x : PyFloat)
  | str (s : PyText)
  | list (items : PyItems)
  | dict (entries : PyEntries)

/-- The items of a list. -/
inductive PyItems where
  | nil
  | cons (item : PyValue) (rest : PyItems)

/-- The entries of a dict, in insertion order. -/
inductive PyEntries where
  | nil
  | cons (key : PyText) (item : PyValue) (rest : PyEntries)

end

/-- The items as a list. -/
def PyItems.toList : PyItems → List PyValue
  | .nil => []
  | .cons item rest => item :: rest.toList

/-- `value[key]` or `value.get(key)`. -/
def PyEntries.get? : PyEntries → PyText → Option PyValue
  | .nil, _ => Option.none
  | .cons key item rest, wanted => if key = wanted then some item else rest.get? wanted

/-- The keys, in insertion order. -/
def PyEntries.keys : PyEntries → List PyText
  | .nil => []
  | .cons key _ rest => key :: rest.keys

/-- The keys are those that have an entry. -/
theorem PyEntries.mem_keys {key : PyText} :
    (entries : PyEntries) → (key ∈ entries.keys ↔ entries.get? key ≠ Option.none)
  | .nil => by simp [PyEntries.keys, PyEntries.get?]
  | .cons k item rest => by
      by_cases hk : k = key
      · simp [PyEntries.keys, PyEntries.get?, hk]
      · have hne : key ≠ k := fun h => hk h.symm
        simp [PyEntries.keys, PyEntries.get?, hk, hne, mem_keys rest]

/-- `entries[key] = item`: a key that is there keeps its place. -/
def PyEntries.set : PyEntries → PyText → PyValue → PyEntries
  | .nil, key, item => .cons key item .nil
  | .cons k v rest, key, item =>
      if k = key then .cons k item rest else .cons k v (rest.set key item)

/-! ## Errors -/

/-- How `json.loads` stops: a `JSONDecodeError`, the `ValueError` of an integer
    literal with too many digits, or a `RecursionError`. `stuck` stands for a loop of
    the model that ran out of steps. -/
inductive LoadsError where
  | decode
  | digits
  | recursion
  | stuck
  deriving DecidableEq, Repr

/-- What a scanner returns: what it read and the rest of the text. -/
abbrev Scan (α : Type) := Except LoadsError (α × PyText)

/-! ## Strings -/

/-- The value of a hexadecimal digit of either case. -/
def hexDigit? : CodePoint → Option Nat
  | .surrogate _ => none
  | .scalar c =>
      if '0' ≤ c ∧ c ≤ '9' then some (c.toNat - '0'.toNat)
      else if 'a' ≤ c ∧ c ≤ 'f' then some (c.toNat - 'a'.toNat + 10)
      else if 'A' ≤ c ∧ c ≤ 'F' then some (c.toNat - 'A'.toNat + 10)
      else none

/-- The value of four hexadecimal digits. -/
def hex4? (a b c d : CodePoint) : Option Nat := do
  let a ← hexDigit? a
  let b ← hexDigit? b
  let c ← hexDigit? c
  let d ← hexDigit? d
  return ((a * 16 + b) * 16 + c) * 16 + d

/-- The element a sixteen-bit unit is. -/
def codeUnit (n : Nat) : CodePoint :=
  if 0xd800 ≤ n ∧ n < 0xe000 then .surrogate (Fin.ofNat 2048 (n - 0xd800))
  else .scalar (Char.ofNat n)

/-- The second escape of a surrogate pair whose first half is `high`. -/
def lowHalf? (high : Nat) (slash u a b c d : CodePoint) : Option CodePoint :=
  if 0xd800 ≤ high ∧ high < 0xdc00 ∧ slash = .scalar '\\' ∧ u = .scalar 'u' then
    match hex4? a b c d with
    | none => none
    | some low =>
        if 0xdc00 ≤ low ∧ low < 0xe000 then
          some (.scalar (Char.ofNat (0x10000 + (high - 0xd800) * 0x400 + (low - 0xdc00))))
        else none
  else none

/-- The character of a two-character escape. -/
def shortEscape? : CodePoint → Option CodePoint
  | .scalar '"' => some (.scalar '"')
  | .scalar '\\' => some (.scalar '\\')
  | .scalar '/' => some (.scalar '/')
  | .scalar 'b' => some (.scalar '\x08')
  | .scalar 'f' => some (.scalar '\x0c')
  | .scalar 'n' => some (.scalar '\n')
  | .scalar 'r' => some (.scalar '\r')
  | .scalar 't' => some (.scalar '\t')
  | _ => none

/-- A control character, which a string must escape. -/
def isControl : CodePoint → Bool
  | .scalar c => c.toNat ≤ 0x1f
  | .surrogate _ => false

/-- Put an element before the string read after it. -/
def push (c : CodePoint) : Scan PyText → Scan PyText
  | .ok (text, rest) => .ok (c :: text, rest)
  | .error error => .error error

/-- `scanstring`: the rest of a string after its opening quote. -/
def scanString : PyText → Scan PyText
  | [] => .error .decode
  | c :: rest =>
      if c = .scalar '"' then .ok ([], rest)
      else if c = .scalar '\\' then
        match rest with
        | [] => .error .decode
        | d :: rest =>
            if d = .scalar 'u' then
              match rest with
              | a :: b :: c :: d :: rest =>
                  match hex4? a b c d with
                  | none => .error .decode
                  | some n =>
                      match rest with
                      | slash :: u :: a :: b :: c :: d :: after =>
                          match lowHalf? n slash u a b c d with
                          | some joined => push joined (scanString after)
                          | none =>
                              push (codeUnit n)
                                (scanString (slash :: u :: a :: b :: c :: d :: after))
                      | short => push (codeUnit n) (scanString short)
              | _ => .error .decode
            else
              match shortEscape? d with
              | some e => push e (scanString rest)
              | none => .error .decode
      else if isControl c then .error .decode
      else push c (scanString rest)

/-! ## Numbers -/

/-- `sys.get_int_max_str_digits()`. -/
def intMaxStrDigits : Nat := 4300

/-- The digits the text starts with, and the rest. -/
def digitsRun : PyText → List Char × PyText
  | .scalar c :: rest =>
      if c.isDigit then (c :: (digitsRun rest).1, (digitsRun rest).2) else ([], .scalar c :: rest)
  | t => ([], t)

/-- The integer part of a number: a zero alone, or digits that do not start with one. -/
def integerPart? : PyText → Option (List Char × PyText)
  | .scalar c :: rest =>
      if c = '0' then some (['0'], rest)
      else if c.isDigit then some (digitsRun (.scalar c :: rest))
      else none
  | _ => none

/-- The fraction: the digits after a point, when there are any. -/
def fraction (t : PyText) : List Char × PyText :=
  match t with
  | .scalar '.' :: rest => if (digitsRun rest).1 = [] then ([], t) else digitsRun rest
  | _ => ([], t)

/-- The sign of an exponent. -/
def exponentSign : PyText → Int × PyText
  | .scalar '-' :: rest => (-1, rest)
  | .scalar '+' :: rest => (1, rest)
  | t => (1, t)

/-- The exponent after `e`, with its sign, when it has digits. -/
def exponent (t : PyText) : Option Int × PyText :=
  match t with
  | .scalar e :: rest =>
      if e = 'e' ∨ e = 'E' then
        let (sign, unsigned) := exponentSign rest
        if (digitsRun unsigned).1 = [] then (none, t)
        else
          (some (sign * Nat.ofDigitChars 10 (digitsRun unsigned).1 0), (digitsRun unsigned).2)
      else (none, t)
  | _ => (none, t)

/-- The sign of a number. -/
def signOf : PyText → Bool × PyText
  | .scalar '-' :: rest => (true, rest)
  | t => (false, t)

/-- `_match_number`. -/
def scanNumber (t : PyText) : Scan PyValue :=
  let (negative, unsigned) := signOf t
  match integerPart? unsigned with
  | none => .error .decode
  | some (digits, rest) =>
      let (decimals, rest) := fraction rest
      let (power, rest) := exponent rest
      if decimals = [] ∧ power = none then
        if intMaxStrDigits < digits.length then .error .digits
        else
          let n := Nat.ofDigitChars 10 digits 0
          .ok (.int (if negative then -n else n), rest)
      else
        .ok (.float (.decimal negative (Nat.ofDigitChars 10 (digits ++ decimals) 0)
          (power.getD 0 - decimals.length)), rest)

/-! ## Values -/

/-- The words of the grammar and of the decoder's constants. -/
def jsonWords : List (String × PyValue) :=
  [("null", .none), ("true", .bool true), ("false", .bool false), ("NaN", .float .nan),
   ("Infinity", .float (.infinity false)), ("-Infinity", .float (.infinity true))]

/-- A value that is neither a string nor a container. -/
def scanScalar (t : PyText) : Scan PyValue :=
  match jsonWords.find? fun word => t.startsWith (.ofString word.1) with
  | some word => .ok (word.2, t.drop word.1.length)
  | none => scanNumber t

/-- The white space between the tokens. -/
def isJsonSpace (c : CodePoint) : Bool :=
  c = .scalar ' ' || c = .scalar '\t' || c = .scalar '\n' || c = .scalar '\r'

def skipSpace (t : PyText) : PyText := t.dropWhile isJsonSpace

/-- The items of an array, from the first one on. -/
def scanItems (scan : PyText → Scan PyValue) : Nat → PyText → Scan PyItems
  | 0, _ => .error .stuck
  | steps + 1, t =>
      match scan t with
      | .error error => .error error
      | .ok (item, rest) =>
          match skipSpace rest with
          | [] => .error .decode
          | c :: rest =>
              if c = .scalar ']' then .ok (.cons item .nil, rest)
              else if c = .scalar ',' then
                match scanItems scan steps (skipSpace rest) with
                | .error error => .error error
                | .ok (items, rest) => .ok (.cons item items, rest)
              else .error .decode

/-- `_parse_array_unicode`: an array after its opening bracket. -/
def scanArray (scan : PyText → Scan PyValue) (t : PyText) : Scan PyValue :=
  match skipSpace t with
  | [] => .error .decode
  | c :: rest =>
      if c = .scalar ']' then .ok (.list .nil, rest)
      else
        match scanItems scan (c :: rest).length (c :: rest) with
        | .error error => .error error
        | .ok (items, rest) => .ok (.list items, rest)

/-- The members of an object, from the first key on, added to the entries before. -/
def scanMembers (scan : PyText → Scan PyValue) :
    Nat → PyEntries → PyText → Scan PyEntries
  | 0, _, _ => .error .stuck
  | steps + 1, entries, t =>
      match t with
      | [] => .error .decode
      | c :: rest =>
          if c = .scalar '"' then
            match scanString rest with
            | .error error => .error error
            | .ok (key, rest) =>
                match skipSpace rest with
                | [] => .error .decode
                | c :: rest =>
                    if c = .scalar ':' then
                      match scan (skipSpace rest) with
                      | .error error => .error error
                      | .ok (item, rest) =>
                          match skipSpace rest with
                          | [] => .error .decode
                          | c :: rest =>
                              if c = .scalar '}' then .ok (entries.set key item, rest)
                              else if c = .scalar ',' then
                                scanMembers scan steps (entries.set key item) (skipSpace rest)
                              else .error .decode
                    else .error .decode
          else .error .decode

/-- `_parse_object_unicode`: an object after its opening brace. -/
def scanObject (scan : PyText → Scan PyValue) (t : PyText) : Scan PyValue :=
  match skipSpace t with
  | [] => .error .decode
  | c :: rest =>
      if c = .scalar '}' then .ok (.dict .nil, rest)
      else
        match scanMembers scan (c :: rest).length .nil (c :: rest) with
        | .error error => .error error
        | .ok (entries, rest) => .ok (.dict entries, rest)

/-- One value, where `inner` scans the values inside a container and is missing at
    the recursion limit. -/
def scanStep (inner : Option (PyText → Scan PyValue)) : PyText → Scan PyValue
  | [] => .error .decode
  | c :: rest =>
      if c = .scalar '"' then
        match scanString rest with
        | .error error => .error error
        | .ok (text, rest) => .ok (.str text, rest)
      else if c = .scalar '{' then
        match inner with
        | none => .error .recursion
        | some scan => scanObject scan rest
      else if c = .scalar '[' then
        match inner with
        | none => .error .recursion
        | some scan => scanArray scan rest
      else scanScalar (c :: rest)

/-- `scan_once`: one value, entering at most `depth` containers. -/
def scanOnce : Nat → PyText → Scan PyValue
  | 0 => scanStep none
  | depth + 1 => scanStep (some (scanOnce depth))

/-- `json.loads(value)`. -/
def loads (limit : Nat) (t : PyText) : Except LoadsError PyValue :=
  if t.head? = some (.scalar '\ufeff') then .error .decode
  else
    match scanOnce limit (skipSpace t) with
    | .error error => .error error
    | .ok (value, rest) => if skipSpace rest = [] then .ok value else .error .decode

/-! ## The loops end -/

/-- A result with a rest shorter than `n`, reached without running out of steps. -/
def Advanced {α : Type} (n : Nat) (x : Scan α) : Prop :=
  x ≠ .error .stuck ∧ ∀ a rest, x = .ok (a, rest) → rest.length < n

section Advanced

variable {α : Type} {n m : Nat}

theorem advanced_error {error : LoadsError} (h : error ≠ .stuck) :
    Advanced n (.error error : Scan α) :=
  ⟨fun hs => h (Except.error.inj hs), fun _ _ hr => nomatch hr⟩

theorem advanced_ok {a : α} {rest : PyText} (h : rest.length < n) :
    Advanced n (.ok (a, rest) : Scan α) :=
  ⟨nofun, fun _ _ hr => by cases hr; exact h⟩

theorem Advanced.mono {x : Scan α} (h : Advanced n x) (hnm : n ≤ m) : Advanced m x :=
  ⟨h.1, fun a rest hr => Nat.lt_of_lt_of_le (h.2 a rest hr) hnm⟩

theorem advanced_push {c : CodePoint} {x : Scan PyText} (h : Advanced n x) (hnm : n ≤ m) :
    Advanced m (push c x) := by
  cases x with
  | error error => exact advanced_error fun hs => h.1 (hs ▸ rfl)
  | ok r => exact advanced_ok (Nat.lt_of_lt_of_le (h.2 r.1 r.2 rfl) hnm)

end Advanced

theorem advanced_scanString (t : PyText) : Advanced t.length (scanString t) := by
  fun_induction scanString t
  case case2 => exact advanced_ok (by simp)
  case case5 ih => exact advanced_push ih (by simp only [List.length_cons]; omega)
  case case6 ih => exact advanced_push ih (by simp)
  case case7 ih => exact advanced_push ih (by simp only [List.length_cons]; omega)
  case case9 ih => exact advanced_push ih (by simp only [List.length_cons]; omega)
  case case12 ih => exact advanced_push ih (by simp)
  all_goals exact advanced_error nofun

theorem length_digitsRun (t : PyText) : (digitsRun t).2.length ≤ t.length := by
  fun_induction digitsRun t with
  | case1 c rest hc ih => exact Nat.le_succ_of_le ih
  | case2 c rest hc => exact Nat.le_refl _
  | case3 t ht => exact Nat.le_refl _

theorem length_skipSpace (t : PyText) : (skipSpace t).length ≤ t.length :=
  (List.dropWhile_suffix _).length_le

theorem length_signOf (t : PyText) : (signOf t).2.length ≤ t.length := by
  unfold signOf
  split <;> simp

theorem length_integerPart {t : PyText} {digits : List Char} {rest : PyText}
    (h : integerPart? t = some (digits, rest)) : rest.length < t.length := by
  unfold integerPart? at h
  split at h
  · next c after =>
      split at h
      · cases h
        exact Nat.lt_succ_self _
      split at h
      · next hdigit =>
          have hrest : (digitsRun (.scalar c :: after)).2 = rest := by rw [Option.some.inj h]
          rw [← hrest, digitsRun, if_pos hdigit]
          exact Nat.lt_succ_of_le (length_digitsRun after)
      · cases h
  · cases h

theorem length_fraction (t : PyText) : (fraction t).2.length ≤ t.length := by
  unfold fraction
  split
  · next rest =>
      split
      · exact Nat.le_refl _
      · exact Nat.le_succ_of_le (length_digitsRun rest)
  · exact Nat.le_refl _

theorem length_exponentSign (t : PyText) : (exponentSign t).2.length ≤ t.length := by
  unfold exponentSign
  split <;> simp

theorem length_exponent (t : PyText) : (exponent t).2.length ≤ t.length := by
  unfold exponent
  split
  · next e rest =>
      split
      · dsimp only
        split
        · exact Nat.le_refl _
        · have hdigits := length_digitsRun (exponentSign rest).2
          have hsign := length_exponentSign rest
          exact Nat.le_trans hdigits (Nat.le_succ_of_le hsign)
      · exact Nat.le_refl _
  · exact Nat.le_refl _

theorem advanced_scanNumber (t : PyText) : Advanced t.length (scanNumber t) := by
  unfold scanNumber
  have hsign := length_signOf t
  dsimp only
  split
  · exact advanced_error nofun
  · next digits rest hinteger =>
      have hrest := length_integerPart hinteger
      have hfraction := length_fraction rest
      have hexponent := length_exponent (fraction rest).2
      split
      · split
        · exact advanced_error nofun
        · exact advanced_ok (by omega)
      · exact advanced_ok (by omega)

theorem advanced_scanScalar {t : PyText} (ht : t ≠ []) : Advanced t.length (scanScalar t) := by
  unfold scanScalar
  split
  · next word hword =>
      have hmem := List.mem_of_find?_eq_some hword
      have hpositive : ∀ w ∈ jsonWords, 0 < w.1.length := by decide
      have hlength := hpositive word hmem
      have hne := List.length_pos_iff.mpr ht
      exact advanced_ok (by rw [List.length_drop]; omega)
  · exact advanced_scanNumber t

section Containers

variable {scan : PyText → Scan PyValue} (hscan : ∀ t, Advanced t.length (scan t))
include hscan

theorem advanced_scanItems (steps : Nat) (t : PyText) (hsteps : 0 < steps)
    (hlength : t.length ≤ steps) : Advanced t.length (scanItems scan steps t) := by
  induction steps generalizing t with
  | zero => cases hsteps
  | succ steps ih =>
      have hitem := hscan t
      unfold scanItems
      cases hr : scan t with
      | error error => exact advanced_error fun hs => hitem.1 (hr.trans (hs ▸ rfl))
      | ok r =>
          obtain ⟨item, rest⟩ := r
          have hrest := hitem.2 item rest hr
          have hspace := length_skipSpace rest
          dsimp only
          split
          · exact advanced_error nofun
          · next c after hafter =>
              rw [hafter, List.length_cons] at hspace
              split
              · exact advanced_ok (by omega)
              split
              · have hnext := length_skipSpace after
                have htail := ih (skipSpace after) (by omega) (by omega)
                cases hi : scanItems scan steps (skipSpace after) with
                | error error => exact advanced_error fun hs => htail.1 (hi.trans (hs ▸ rfl))
                | ok r => exact advanced_ok (by have := htail.2 r.1 r.2 hi; omega)
              · exact advanced_error nofun

theorem advanced_scanArray (t : PyText) : Advanced (t.length + 1) (scanArray scan t) := by
  have hspace := length_skipSpace t
  unfold scanArray
  split
  · exact advanced_error nofun
  · next c rest hrest =>
      rw [hrest, List.length_cons] at hspace
      split
      · exact advanced_ok (by omega)
      · have hitems := advanced_scanItems hscan (c :: rest).length (c :: rest) (by simp)
          (Nat.le_refl _)
        cases hi : scanItems scan (c :: rest).length (c :: rest) with
        | error error => exact advanced_error fun hs => hitems.1 (hi.trans (hs ▸ rfl))
        | ok r =>
            have hlt := hitems.2 r.1 r.2 hi
            rw [List.length_cons] at hlt
            exact advanced_ok (by omega)

theorem advanced_scanMembers (steps : Nat) (entries : PyEntries) (t : PyText)
    (hsteps : 0 < steps) (hlength : t.length ≤ steps) :
    Advanced t.length (scanMembers scan steps entries t) := by
  induction steps generalizing t entries with
  | zero => cases hsteps
  | succ steps ih =>
      cases t with
      | nil => exact advanced_error nofun
      | cons c rest =>
          unfold scanMembers
          rw [List.length_cons] at hlength ⊢
          dsimp only
          split
          swap
          · exact advanced_error nofun
          have hkey := advanced_scanString rest
          cases hr : scanString rest with
          | error error => exact advanced_error fun hs => hkey.1 (hr.trans (hs ▸ rfl))
          | ok r =>
              obtain ⟨key, afterKey⟩ := r
              have hkeyRest := hkey.2 key afterKey hr
              have hcolon := length_skipSpace afterKey
              dsimp only
              split
              · exact advanced_error nofun
              next c afterColon hafterColon =>
              rw [hafterColon, List.length_cons] at hcolon
              split
              swap
              · exact advanced_error nofun
              have hvalue := hscan (skipSpace afterColon)
              have hvalueSpace := length_skipSpace afterColon
              cases hv : scan (skipSpace afterColon) with
              | error error => exact advanced_error fun hs => hvalue.1 (hv.trans (hs ▸ rfl))
              | ok r =>
                  obtain ⟨item, afterItem⟩ := r
                  have hitem := hvalue.2 item afterItem hv
                  have hend := length_skipSpace afterItem
                  dsimp only
                  split
                  · exact advanced_error nofun
                  next c last hlast =>
                  rw [hlast, List.length_cons] at hend
                  split
                  · exact advanced_ok (by omega)
                  split
                  · have hnext := length_skipSpace last
                    exact (ih (entries.set key item) (skipSpace last) (by omega)
                      (by omega)).mono (by omega)
                  · exact advanced_error nofun

theorem advanced_scanObject (t : PyText) : Advanced (t.length + 1) (scanObject scan t) := by
  have hspace := length_skipSpace t
  unfold scanObject
  split
  · exact advanced_error nofun
  · next c rest hrest =>
      rw [hrest, List.length_cons] at hspace
      split
      · exact advanced_ok (by omega)
      · have hmembers := advanced_scanMembers hscan (c :: rest).length .nil (c :: rest)
          (by simp) (Nat.le_refl _)
        cases hi : scanMembers scan (c :: rest).length .nil (c :: rest) with
        | error error => exact advanced_error fun hs => hmembers.1 (hi.trans (hs ▸ rfl))
        | ok r =>
            have hlt := hmembers.2 r.1 r.2 hi
            rw [List.length_cons] at hlt
            exact advanced_ok (by omega)

end Containers

theorem advanced_scanStep {inner : Option (PyText → Scan PyValue)}
    (hinner : ∀ scan, inner = some scan → ∀ t, Advanced t.length (scan t)) (t : PyText) :
    Advanced t.length (scanStep inner t) := by
  cases t with
  | nil => exact advanced_error nofun
  | cons c rest =>
      unfold scanStep
      dsimp only
      split
      · have htext := advanced_scanString rest
        cases hr : scanString rest with
        | error error => exact advanced_error fun hs => htext.1 (hr.trans (hs ▸ rfl))
        | ok r => exact advanced_ok (Nat.lt_succ_of_lt (htext.2 r.1 r.2 hr))
      split
      · cases inner with
        | none => exact advanced_error nofun
        | some scan => exact advanced_scanObject (hinner scan rfl) rest
      split
      · cases inner with
        | none => exact advanced_error nofun
        | some scan => exact advanced_scanArray (hinner scan rfl) rest
      · exact advanced_scanScalar (by simp)

theorem advanced_scanOnce (depth : Nat) (t : PyText) :
    Advanced t.length (scanOnce depth t) := by
  induction depth generalizing t with
  | zero => exact advanced_scanStep (fun _ hnone => absurd hnone (Option.some_ne_none _).symm) t
  | succ depth ih =>
      refine advanced_scanStep (fun scan hscan => ?_) t
      cases hscan
      exact ih

/-- **The decoder comes to an end**: a value, a `JSONDecodeError`, an integer literal
    that is too long, or the recursion limit. -/
theorem loads_ne_stuck (limit : Nat) (t : PyText) : loads limit t ≠ .error .stuck := by
  have hvalue := (advanced_scanOnce limit (skipSpace t)).1
  unfold loads
  split
  · nofun
  cases hr : scanOnce limit (skipSpace t) with
  | error error => exact fun hs => hvalue (hr.trans (Except.error.inj hs ▸ rfl))
  | ok r =>
      dsimp only
      split <;> nofun

end Eag.Foundation
