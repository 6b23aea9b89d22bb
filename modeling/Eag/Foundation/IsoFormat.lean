/-
  Eag.Foundation.IsoFormat

  `datetime.fromisoformat`: the ISO 8601 texts that Python reads as a date and time, in basic
  or extended form, with a calendar or a week date, any separator between date and time, a
  fraction of a second and an offset. It reads back what `isoformat` writes
  (`fromisoformat_isoformat`).
-/

import Eag.Foundation.Calendar
import Eag.Foundation.PyText
import Mathlib.Data.List.TakeWhile

namespace Eag.Foundation

namespace DateTime

/-! ## Digits -/

/-- The value of an ASCII digit. -/
def digit? : CodePoint → Option Nat
  | .scalar c => if c.isDigit then some (c.toNat - 48) else none
  | .surrogate _ => none

/-- A number of exactly so many digits, and what follows it. -/
def readDigits : Nat → PyText → Option (Nat × PyText)
  | 0, t => some (0, t)
  | width + 1, t =>
      match readDigits width t with
      | none => none
      | some (_, []) => none
      | some (n, c :: rest) => (digit? c).map fun d => (10 * n + d, rest)

/-- A text of ASCII characters. -/
def ascii (t : List Char) : PyText := t.map .scalar

/-! ## Dates -/

/-- The ordinal of the Monday of the first ISO week of a year. -/
def isoWeek1Monday (year : Nat) : Nat :=
  let firstDay := ymdToOrdinal year 1 1
  let firstWeekday := (firstDay + 6) % 7
  if 3 < firstWeekday then firstDay - firstWeekday + 7 else firstDay - firstWeekday

/-- The date of a day of an ISO week. -/
def isoWeekToGregorian (year week day : Nat) : Option (Nat × Nat × Nat) :=
  let firstWeekday := ymdToOrdinal year 1 1 % 7
  let weeks := if firstWeekday = 4 ∨ firstWeekday = 3 ∧ isLeap year then 53 else 52
  if 1 ≤ year ∧ 1 ≤ week ∧ week ≤ weeks ∧ 1 ≤ day ∧ day ≤ 7 then
    some (civil (isoWeek1Monday year + (week - 1) * 7 + (day - 1) - 1))
  else none

/-- How many digits a text starts with. -/
def digitCount (t : PyText) : Nat := (t.takeWhile fun c => (digit? c).isSome).length

/-- Where the separator of date and time stands; `none` for a text that is cut off. -/
def separatorLocation (t : PyText) : Option Nat :=
  if t.length = 7 then some 7
  else if t[4]? = some (.scalar '-') then
    if t[5]? = some (.scalar 'W') then
      if t[8]? = some (.scalar '-') then
        if t.length = 9 then none
        else if ((t[10]?).bind digit?).isSome then some 8
        else some 10
      else some 8
    else some 10
  else if t[4]? = some (.scalar 'W') then
    let last := 7 + digitCount (t.drop 7)
    if last < 9 then some last
    else if last % 2 = 0 then some 7
    else some 8
  else some 8

/-- The day of a week date after its week. -/
def weekDay (extended : Bool) : PyText → Option Nat
  | [] => some 1
  | rest =>
      let rest? := if extended then
        (match rest with
        | .scalar '-' :: rest => some rest
        | _ => none) else some rest
      match rest?.bind (readDigits 1) with
      | some (day, []) => some day
      | _ => none

/-- The month and the day after the year of a calendar date. -/
def monthDay (extended : Bool) (t : PyText) : Option (Nat × Nat) :=
  match readDigits 2 t with
  | none => none
  | some (month, rest) =>
      let rest? := if extended then
        (match rest with
        | .scalar '-' :: rest => some rest
        | _ => none) else some rest
      match rest?.bind (readDigits 2) with
      | some (day, []) => some (month, day)
      | _ => none

/-- `_parse_isoformat_date`: year, month and day. -/
def parseDate (t : PyText) : Option (Nat × Nat × Nat) :=
  match readDigits 4 t with
  | none => none
  | some (year, rest) =>
      let extended := rest.head? = some (.scalar '-')
      let rest := if extended then rest.tail else rest
      match rest with
      | .scalar 'W' :: rest =>
          match readDigits 2 rest with
          | none => none
          | some (week, rest) => (weekDay extended rest).bind (isoWeekToGregorian year week)
      | rest => (monthDay extended rest).map fun (month, day) => (year, month, day)

/-! ## Times -/

/-- Hours, minutes, seconds and microseconds. -/
structure TimeFields where
  hour : Nat
  minute : Nat
  second : Nat
  microsecond : Nat
  deriving DecidableEq

/-- The microseconds of the digits of a fraction, of which the first six count. -/
def fractionMicroseconds (t : PyText) : Option Nat :=
  if t = [] ∨ digitCount t < t.length then none
  else (readDigits 6 (t.take 6 ++ List.replicate (6 - t.length) (.scalar '0'))).map (·.1)

/-- What follows the seconds. -/
def parseFraction : PyText → Option Nat
  | [] => some 0
  | .scalar c :: rest => if c = '.' ∨ c = ',' then fractionMicroseconds rest else none
  | .surrogate _ :: _ => none

/-- The next two digits, after a colon in the extended form. -/
def nextField (extended : Bool) (t : PyText) : Option (Nat × PyText) :=
  if extended then
    match t with
    | .scalar ':' :: rest => readDigits 2 rest
    | _ => none
  else readDigits 2 t

/-- `_parse_hh_mm_ss_ff`. -/
def parseTime (t : PyText) : Option TimeFields :=
  match readDigits 2 t with
  | none => none
  | some (hour, []) => some ⟨hour, 0, 0, 0⟩
  | some (hour, rest) =>
      let extended := rest.head? = some (.scalar ':')
      match nextField extended rest with
      | none => none
      | some (minute, []) => some ⟨hour, minute, 0, 0⟩
      | some (minute, rest) =>
          match nextField extended rest with
          | none => none
          | some (second, rest) =>
              (parseFraction rest).map fun microsecond => ⟨hour, minute, second, microsecond⟩

/-- Microseconds of a day. -/
def dayMicroseconds : Nat := 86400000000

/-- The microseconds that the fields count. -/
def TimeFields.total (f : TimeFields) : Nat :=
  ((f.hour * 60 + f.minute) * 60 + f.second) * 1000000 + f.microsecond

/-- The offset after a sign, less than a day. -/
def parseOffset (negative : Bool) (t : PyText) : Option Int :=
  match parseTime t with
  | none => none
  | some fields =>
      if fields.total < dayMicroseconds then
        some (if negative then -fields.total else fields.total)
      else none

/-- A sign or a `Z`, which starts a zone. -/
def startsZone (c : CodePoint) : Bool :=
  c = .scalar '+' || c = .scalar '-' || c = .scalar 'Z'

/-- `_parse_isoformat_time`: the time of day and the offset, where there is one. -/
def parseZonedTime (t : PyText) : Option (TimeFields × Option Int) :=
  match parseTime (t.takeWhile fun c => !startsZone c) with
  | none => none
  | some fields =>
      match t.dropWhile fun c => !startsZone c with
      | [] => some (fields, none)
      | c :: rest =>
          if c = .scalar 'Z' then if rest = [] then some (fields, some 0) else none
          else (parseOffset (c = .scalar '-') rest).map fun offset => (fields, some offset)

/-! ## `fromisoformat` -/

/-- The date-time of a date and a time of day that exist. -/
def ofFields (year month day : Nat) (time : TimeFields) (offset : Option Int) :
    Option DateTime :=
  if IsDate year month day ∧ time.hour ≤ 23 ∧ time.minute ≤ 59 ∧ time.second ≤ 59 then
    some ⟨(ymdToOrdinal year month day - 1) * dayMicroseconds + time.total, offset⟩
  else none

/-- `datetime.fromisoformat` of a text; `none` for a `ValueError`. -/
def fromisoformat (t : PyText) : Option DateTime :=
  if t.length < 7 then none
  else
    match separatorLocation t with
    | none => none
    | some location =>
        match parseDate (t.take location) with
        | none => none
        | some (year, month, day) =>
            match t.drop location with
            | [] => ofFields year month day ⟨0, 0, 0, 0⟩ none
            | _ :: rest =>
                match parseZonedTime rest with
                | none => none
                | some (time, offset) => ofFields year month day time offset

/-! ## Reading digits back -/

theorem digit?_digitChar {d : Nat} (h : d < 10) : digit? (.scalar (Nat.digitChar d)) = some d := by
  interval_cases d <;> rfl

theorem padded_one {d : Nat} (h : d < 10) : padded 1 d = [Nat.digitChar d] := by
  rw [padded, Nat.toDigits_of_lt_base h]
  rfl

/-- The last of the padded digits. -/
theorem padded_succ {width n : Nat} (hwidth : 0 < width) (hn : n < 10 ^ (width + 1)) :
    padded (width + 1) n = padded width (n / 10) ++ [Nat.digitChar (n % 10)] := by
  have hdiv : n / 10 < 10 ^ width := by
    rw [Nat.pow_succ] at hn
    omega
  have hlength := (Nat.length_toDigits_le_iff (b := 10) (by decide) hwidth).mpr hdiv
  by_cases hsmall : n < 10
  · have hquotient : n / 10 = 0 := by omega
    have hmod : n % 10 = n := by omega
    rw [padded, padded, hquotient, hmod, Nat.toDigits_of_lt_base hsmall, Nat.toDigits_zero]
    obtain ⟨k, rfl⟩ : ∃ k, width = k + 1 := ⟨width - 1, by omega⟩
    simp [← List.replicate_succ']
  · rw [padded, padded, Nat.toDigits_of_base_le (by decide) (by omega), ← List.append_assoc]
    simp only [List.length_append, List.length_singleton]
    congr 3
    omega

theorem length_padded {width n : Nat} (hwidth : 0 < width) (hn : n < 10 ^ width) :
    (padded width n).length = width := by
  have hlength := (Nat.length_toDigits_le_iff (b := 10) (by decide) hwidth).mpr hn
  rw [padded, List.length_append, List.length_replicate]
  omega

/-- **Padded digits are read back.** -/
theorem readDigits_padded {width n : Nat} (hwidth : 0 < width) (hn : n < 10 ^ width)
    (rest : PyText) : readDigits width (ascii (padded width n) ++ rest) = some (n, rest) := by
  induction width, hwidth using Nat.le_induction generalizing n rest with
  | base =>
      have hdigit : n < 10 := by omega
      rw [padded_one hdigit]
      simp [ascii, readDigits, digit?_digitChar hdigit]
  | succ width hwidth ih =>
      have hdiv : n / 10 < 10 ^ width := by
        rw [Nat.pow_succ] at hn
        omega
      have hmod : n % 10 < 10 := Nat.mod_lt _ (by decide)
      rw [padded_succ hwidth hn, ascii, List.map_append, List.append_assoc, readDigits]
      show (match readDigits width (ascii (padded width (n / 10)) ++ _) with
        | none => none
        | some (_, []) => none
        | some (n, c :: rest) => (digit? c).map fun d => (10 * n + d, rest)) = _
      rw [ih hdiv]
      simp only [List.map_cons, List.map_nil, List.cons_append, List.nil_append,
        digit?_digitChar hmod, Option.map_some, Option.some.injEq, Prod.mk.injEq, and_true]
      omega

/-- Padded digits are digits. -/
theorem digit_of_mem_padded {width n : Nat} {c : Char} (h : c ∈ padded width n) :
    c.isDigit = true := by
  rcases List.mem_append.mp h with h | h
  · rw [List.eq_of_mem_replicate h]
    rfl
  · exact Nat.isDigit_of_mem_toDigits (by decide) (by decide) h

@[simp] theorem ascii_append (a b : List Char) : ascii (a ++ b) = ascii a ++ ascii b :=
  List.map_append

@[simp] theorem ascii_cons (c : Char) (rest : List Char) :
    ascii (c :: rest) = .scalar c :: ascii rest := rfl

theorem length_ascii (t : List Char) : (ascii t).length = t.length := List.length_map _

/-! ## Reading a time back -/

/-- The fraction of a second as `isoformat` writes it. -/
def fractionText (us : Nat) : List Char := if us = 0 then [] else '.' :: padded 6 us

theorem digit?_isSome_of_mem_padded {width n : Nat} {c : CodePoint}
    (h : c ∈ ascii (padded width n)) : (digit? c).isSome = true := by
  obtain ⟨d, hd, rfl⟩ := List.mem_map.mp h
  simp only [digit?, digit_of_mem_padded hd, if_true, Option.isSome_some]

theorem parseFraction_fractionText {us : Nat} (h : us < 10 ^ 6) :
    parseFraction (ascii (fractionText us)) = some us := by
  unfold fractionText
  by_cases hzero : us = 0
  · rw [if_pos hzero, hzero]
    rfl
  · rw [if_neg hzero]
    have hlength : (ascii (padded 6 us)).length = 6 := by
      rw [length_ascii, length_padded (by decide) h]
    have hcount : digitCount (ascii (padded 6 us)) = 6 := by
      rw [digitCount, List.takeWhile_eq_self_iff.mpr fun c hc => digit?_isSome_of_mem_padded hc,
        hlength]
    have hne : ascii (padded 6 us) ≠ [] := by
      intro hnil
      rw [hnil] at hlength
      cases hlength
    have htake : (ascii (padded 6 us)).take 6 = ascii (padded 6 us) :=
      List.take_of_length_le (Nat.le_of_eq hlength)
    have hread := readDigits_padded (by decide : 0 < 6) h []
    show fractionMicroseconds (ascii (padded 6 us)) = some us
    rw [fractionMicroseconds, hcount, hlength, htake, if_neg (by simp [hne])]
    show Option.map _ (readDigits 6 (ascii (padded 6 us) ++ [])) = some us
    rw [hread]
    rfl

/-- The time of day as `isoformat` writes it. -/
def timeText (f : TimeFields) : List Char :=
  padded 2 f.hour ++ ':' :: padded 2 f.minute ++ ':' :: padded 2 f.second ++
    fractionText f.microsecond

theorem parseTime_timeText {f : TimeFields} (hhour : f.hour < 100) (hminute : f.minute < 100)
    (hsecond : f.second < 100) (hmicrosecond : f.microsecond < 10 ^ 6) :
    parseTime (ascii (timeText f)) = some f := by
  have hh := @readDigits_padded 2 _ (by decide) hhour
  have hm := @readDigits_padded 2 _ (by decide) hminute
  have hs := @readDigits_padded 2 _ (by decide) hsecond
  simp only [timeText, parseTime, ascii_append, ascii_cons, List.append_assoc, List.cons_append, hh,
    List.head?_cons, nextField, hm, hs, if_true, decide_true,
    parseFraction_fractionText hmicrosecond, Option.map_some]

theorem not_startsZone_of_mem_padded {width n : Nat} {c : CodePoint}
    (h : c ∈ ascii (padded width n)) : startsZone c = false := by
  obtain ⟨d, hd, rfl⟩ := List.mem_map.mp h
  have hdigit := digit_of_mem_padded hd
  have hne : ∀ mark : Char, mark.isDigit = false → CodePoint.scalar d ≠ .scalar mark := by
    rintro mark hmark heq
    rw [CodePoint.scalar.inj heq, hmark] at hdigit
    cases hdigit
  simp only [startsZone, hne '+' rfl, hne '-' rfl, hne 'Z' rfl, decide_false, Bool.or_self]

theorem not_startsZone_of_mem_timeText {f : TimeFields} {c : CodePoint}
    (h : c ∈ ascii (timeText f)) : startsZone c = false := by
  simp only [timeText, fractionText, ascii_append, ascii_cons, List.mem_append,
    List.mem_cons] at h
  rcases h with ((h | rfl | h) | rfl | h) | h
  · exact not_startsZone_of_mem_padded h
  · rfl
  · exact not_startsZone_of_mem_padded h
  · rfl
  · exact not_startsZone_of_mem_padded h
  · split at h
    · cases h
    · rcases List.mem_cons.mp h with rfl | h
      · rfl
      · exact not_startsZone_of_mem_padded h

theorem parseZonedTime_timeText {f : TimeFields} (hhour : f.hour < 100) (hminute : f.minute < 100)
    (hsecond : f.second < 100) (hmicrosecond : f.microsecond < 10 ^ 6) :
    parseZonedTime (ascii (timeText f ++ offsetText 0)) = some (f, some 0) := by
  have htime : ∀ c ∈ ascii (timeText f), (!startsZone c) = true := fun c hc => by
    rw [not_startsZone_of_mem_timeText hc]
    rfl
  have hstop : (ascii (offsetText 0)).takeWhile (fun c => !startsZone c) = [] := by decide
  have hrest : (ascii (offsetText 0)).dropWhile (fun c => !startsZone c) =
      .scalar '+' :: ascii ['0', '0', ':', '0', '0'] := by decide
  have hoffset : parseOffset (decide (CodePoint.scalar '+' = .scalar '-'))
      (ascii ['0', '0', ':', '0', '0']) = some 0 := by decide
  rw [parseZonedTime, ascii_append, List.takeWhile_append_of_pos htime,
    List.dropWhile_append_of_pos htime, hstop, hrest, List.append_nil,
    parseTime_timeText hhour hminute hsecond hmicrosecond]
  show (if CodePoint.scalar '+' = .scalar 'Z' then _ else
    (parseOffset _ _).map _) = _
  rw [hoffset]
  rfl

/-! ## Reading a date back -/

theorem padded_two {n : Nat} (h : n < 100) :
    padded 2 n = [Nat.digitChar (n / 10), Nat.digitChar (n % 10)] := by
  rw [padded_succ (by decide) h, padded_one (by omega)]
  rfl

/-- The date as `isoformat` writes it. -/
def dateText (year month day : Nat) : List Char :=
  padded 4 year ++ '-' :: padded 2 month ++ '-' :: padded 2 day

theorem length_dateText {year month day : Nat} (hyear : year < 10 ^ 4) (hmonth : month < 10 ^ 2)
    (hday : day < 10 ^ 2) : (dateText year month day).length = 10 := by
  simp only [dateText, List.length_append, List.length_cons, length_padded (by decide) hyear,
    length_padded (by decide) hmonth, length_padded (by decide) hday]

theorem digitChar_ne_W (n : Nat) (h : n < 10) :
    CodePoint.scalar (Nat.digitChar n) ≠ .scalar 'W' := by
  interval_cases n <;> decide

theorem parseDate_dateText {year month day : Nat} (hyear : year < 10 ^ 4) (hmonth : month < 10 ^ 2)
    (hday : day < 10 ^ 2) :
    parseDate (ascii (dateText year month day)) = some (year, month, day) := by
  have hy := @readDigits_padded 4 _ (by decide) hyear
  have hm := @readDigits_padded 2 _ (by decide) hmonth
  have hd := @readDigits_padded 2 _ (by decide) hday []
  have hmonthDay : monthDay true (ascii (padded 2 month ++ '-' :: padded 2 day)) =
      some (month, day) := by
    rw [List.append_nil] at hd
    simp only [monthDay, ascii_append, ascii_cons, hm, if_true, Option.bind_some, hd]
  rw [padded_two hmonth] at hmonthDay
  simp only [dateText, parseDate, ascii_append, ascii_cons, List.append_assoc, List.cons_append, hy,
    List.head?_cons, decide_true, List.tail_cons, if_true, padded_two hmonth]
  split
  · next hweek =>
      exact absurd (List.cons.inj hweek).1 (digitChar_ne_W _ (by omega))
  · exact congrArg (Option.map fun date => (year, date.1, date.2)) hmonthDay

/-- The separator stands after ten characters. -/
theorem separatorLocation_dateText {year month day : Nat} (hyear : year < 10 ^ 4)
    (hmonth : month < 10 ^ 2) (hday : day < 10 ^ 2) (rest : PyText) :
    separatorLocation (ascii (dateText year month day) ++ .scalar 'T' :: rest) = some 10 := by
  have hlength : (ascii (dateText year month day) ++ .scalar 'T' :: rest).length ≠ 7 := by
    rw [List.length_append, length_ascii, length_dateText hyear hmonth hday, List.length_cons]
    omega
  have hdash : (ascii (dateText year month day) ++ .scalar 'T' :: rest)[4]? =
      some (.scalar '-') := by
    have hyearLength : (ascii (padded 4 year)).length = 4 := by
      rw [length_ascii, length_padded (by decide) hyear]
    simp only [dateText, ascii_append, ascii_cons, List.append_assoc, List.cons_append]
    rw [List.getElem?_append_right (Nat.le_of_eq hyearLength), hyearLength]
    rfl
  have hdigit : (ascii (dateText year month day) ++ .scalar 'T' :: rest)[5]? ≠
      some (.scalar 'W') := by
    have hyearLength : (ascii (padded 4 year)).length = 4 := by
      rw [length_ascii, length_padded (by decide) hyear]
    simp only [dateText, ascii_append, ascii_cons, List.append_assoc, List.cons_append,
      padded_two hmonth]
    rw [List.getElem?_append_right (by omega), hyearLength]
    intro hweek
    exact digitChar_ne_W _ (by omega) (Option.some.inj hweek)
  rw [separatorLocation, if_neg hlength, if_pos hdash, if_neg hdigit]

/-! ## Reading a date-time back -/

/-- The date-times that Python can hold: the wall clock of an existing day. -/
def InRange (t : DateTime) : Prop := 0 ≤ t.wall ∧ t.wall < 3652059 * dayMicroseconds

instance (t : DateTime) : Decidable t.InRange := inferInstanceAs (Decidable (_ ∧ _))

/-- The time of day of a count of microseconds. -/
def timeFieldsOf (us : Nat) : TimeFields :=
  ⟨us / 1000000 / 3600 % 24, us / 1000000 / 60 % 60, us / 1000000 % 60, us % 1000000⟩

theorem isoformat_utc {t : DateTime} (hutc : t.utcOffset = some 0) :
    t.isoformat = String.ofList (
      (let (year, month, day) := civil (t.wall.toNat / 1000000 / 86400)
      dateText year month day) ++ 'T' ::
        (timeText (timeFieldsOf t.wall.toNat) ++ offsetText 0)) := by
  simp only [isoformat, hutc, dateText, timeText, timeFieldsOf, fractionText, Option.map_some,
    Option.getD_some, List.append_assoc, List.cons_append]
  rfl

/-- **`fromisoformat` reads back what `isoformat` writes** for a time in UTC. -/
theorem fromisoformat_isoformat {t : DateTime} (hutc : t.utcOffset = some 0) (hrange : t.InRange) :
    fromisoformat (PyText.ofString t.isoformat) = some t := by
  obtain ⟨wall, offset⟩ := t
  obtain rfl : offset = some 0 := hutc
  obtain ⟨hlow, hhigh⟩ := hrange
  obtain ⟨us, rfl⟩ := Int.eq_ofNat_of_zero_le hlow
  have hday : us / 1000000 / 86400 < 3652059 := by
    simp only [dayMicroseconds] at hhigh
    omega
  obtain ⟨hdate, hordinal⟩ := ymdToOrdinal_civil hday
  rw [isoformat_utc rfl, PyText.ofString, String.toList_ofList]
  show fromisoformat (ascii _) = _
  rw [Int.toNat_natCast]
  generalize civil (us / 1000000 / 86400) = date at hdate hordinal ⊢
  obtain ⟨year, month, day⟩ := date
  simp only at hdate hordinal
  obtain ⟨hyear1, hyear, hmonth1, hmonth, hday1, hdayMax⟩ := hdate
  have hdays : daysInMonth year month ≤ 31 := by
    unfold daysInMonth
    split_ifs <;> decide
  have hy4 : year < 10 ^ 4 := by omega
  have hm2 : month < 10 ^ 2 := by omega
  have hd2 : day < 10 ^ 2 := by omega
  have hlength : (ascii (dateText year month day)).length = 10 := by
    rw [length_ascii, length_dateText hy4 hm2 hd2]
  have hlong : ¬(ascii (dateText year month day ++ 'T' ::
      (timeText (timeFieldsOf us) ++ offsetText 0))).length < 7 := by
    rw [ascii_append, List.length_append, hlength]
    omega
  have hsecond : us / 1000000 % 60 < 60 := Nat.mod_lt _ (by decide)
  have hminute : us / 1000000 / 60 % 60 < 60 := Nat.mod_lt _ (by decide)
  have hhour : us / 1000000 / 3600 % 24 < 24 := Nat.mod_lt _ (by decide)
  have hzoned : parseZonedTime (ascii (timeText (timeFieldsOf us) ++ offsetText 0)) =
      some (timeFieldsOf us, some 0) :=
    parseZonedTime_timeText (by show us / 1000000 / 3600 % 24 < 100; omega)
      (by show us / 1000000 / 60 % 60 < 100; omega) (by show us / 1000000 % 60 < 100; omega)
      (Nat.mod_lt _ (by decide))
  rw [fromisoformat, if_neg hlong, ascii_append, ascii_cons,
    separatorLocation_dateText hy4 hm2 hd2]
  simp only [List.take_left' hlength, List.drop_left' hlength, parseDate_dateText hy4 hm2 hd2,
    hzoned]
  have hexists : IsDate year month day ∧ (timeFieldsOf us).hour ≤ 23 ∧
      (timeFieldsOf us).minute ≤ 59 ∧ (timeFieldsOf us).second ≤ 59 :=
    ⟨⟨hyear1, hyear, hmonth1, hmonth, hday1, hdayMax⟩, Nat.le_of_lt_succ hhour,
      Nat.le_of_lt_succ hminute, Nat.le_of_lt_succ hsecond⟩
  rw [ofFields, if_pos hexists]
  have htotal : (us / 1000000 / 86400) * dayMicroseconds + (timeFieldsOf us).total = us := by
    simp only [dayMicroseconds, TimeFields.total, timeFieldsOf]
    omega
  have hwall : ((ymdToOrdinal year month day : Int) - 1) * dayMicroseconds +
      (timeFieldsOf us).total = us := by
    rw [hordinal, Nat.cast_add, Nat.cast_one, add_sub_cancel_right]
    exact_mod_cast htotal
  rw [hwall]

end DateTime

end Eag.Foundation
