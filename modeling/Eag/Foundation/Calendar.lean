/-
  Eag.Foundation.Calendar

  Date-times with an optional UTC offset, their conversion to UTC and their ISO text; and the
  proleptic Gregorian calendar: which dates exist, their ordinals, and that the date of a
  day has that day's ordinal (`ymdToOrdinal_civil`).
-/

import Mathlib.Data.List.Basic
import Mathlib.Tactic.IntervalCases

namespace Eag.Foundation

/-- A `datetime`: microseconds on the wall clock since the first day of year 1,
    and the UTC offset in microseconds when the value is timezone-aware. -/
structure DateTime where
  wall : Int
  utcOffset : Option Int
  deriving DecidableEq, Repr

namespace DateTime

/-- `value.astimezone(UTC)` of an aware value with this offset. -/
def toUtc (t : DateTime) (offset : Int) : DateTime := ⟨t.wall - offset, some 0⟩

theorem toUtc_utcOffset (t : DateTime) (offset : Int) : (t.toUtc offset).utcOffset = some 0 := rfl

/-- The epoch is in UTC. -/
theorem epoch_utc : (⟨0, some 0⟩ : DateTime).utcOffset = some 0 := rfl

/-- The instant of an aware value, for comparisons. -/
def instant (t : DateTime) : Int := t.wall - t.utcOffset.getD 0

/-- `a >= b`; a value with an offset and one without cannot be compared. -/
def ge? (a b : DateTime) : Option Bool :=
  match a.utcOffset, b.utcOffset with
  | none, none => some (b.wall ≤ a.wall)
  | some _, some _ => some (b.instant ≤ a.instant)
  | _, _ => none

/-- `n` in at least `width` digits. -/
def padded (width n : Nat) : List Char :=
  let digits := Nat.toDigits 10 n
  List.replicate (width - digits.length) '0' ++ digits

/-- Year, month and day of a day count; the era starts on 1 March of year 0. -/
def civil (day : Nat) : Nat × Nat × Nat :=
  let z := day + 306
  let era := z / 146097
  let doe := z % 146097
  let yoe := (doe - doe / 1460 + doe / 36524 - doe / 146096) / 365
  let doy := doe - (365 * yoe + yoe / 4 - yoe / 100)
  let mp := (5 * doy + 2) / 153
  let month := if mp < 10 then mp + 3 else mp - 9
  (yoe + era * 400 + (if month ≤ 2 then 1 else 0), month, doy - (153 * mp + 2) / 5 + 1)

/-- The text of an offset: `+HH:MM`, with seconds and microseconds when it has any. -/
def offsetText (offset : Int) : List Char :=
  let us := offset.natAbs
  let seconds := us / 1000000
  (if offset < 0 then '-' else '+') :: (padded 2 (seconds / 3600) ++ ':' ::
    padded 2 (seconds / 60 % 60) ++
    (if us % 60000000 = 0 then []
      else ':' :: (padded 2 (seconds % 60) ++
        if us % 1000000 = 0 then [] else '.' :: padded 6 (us % 1000000))))

/-- `value.isoformat()`. -/
def isoformat (t : DateTime) : String :=
  let us := t.wall.toNat
  let seconds := us / 1000000
  let (year, month, day) := civil (seconds / 86400)
  String.ofList (padded 4 year ++ '-' :: padded 2 month ++ '-' :: padded 2 day ++
    'T' :: padded 2 (seconds / 3600 % 24) ++ ':' :: padded 2 (seconds / 60 % 60) ++
    ':' :: padded 2 (seconds % 60) ++
    (if us % 1000000 = 0 then [] else '.' :: padded 6 (us % 1000000)) ++
    (t.utcOffset.map offsetText).getD [])

example : isoformat ⟨63082281600000000, some 0⟩ = "2000-01-01T00:00:00+00:00" := by
  decide +kernel

/-! ## Dates -/

/-- `calendar.isleap`. -/
def isLeap (year : Nat) : Bool := year % 4 = 0 && (year % 100 ≠ 0 || year % 400 = 0)

/-- The days of a month. -/
def daysInMonth (year month : Nat) : Nat :=
  if month = 2 then (if isLeap year then 29 else 28)
  else if month = 4 ∨ month = 6 ∨ month = 9 ∨ month = 11 then 30
  else 31

/-- The days of a common year before a month. -/
def daysBeforeMonth : Nat → Nat
  | 1 => 0 | 2 => 31 | 3 => 59 | 4 => 90 | 5 => 120 | 6 => 151 | 7 => 181 | 8 => 212 | 9 => 243
  | 10 => 273 | 11 => 304 | _ => 334

/-- The days of the years up to a year. -/
def daysThroughYear (year : Nat) : Nat := year * 365 + year / 4 - year / 100 + year / 400

/-- `_ymd2ord`: the ordinal of a date, the first of January of year 1 being day 1. -/
def ymdToOrdinal (year month day : Nat) : Nat :=
  daysThroughYear (year - 1) + daysBeforeMonth month +
    (if 2 < month ∧ isLeap year then 1 else 0) + day

/-- A date that exists. -/
def IsDate (year month day : Nat) : Prop :=
  1 ≤ year ∧ year ≤ 9999 ∧ 1 ≤ month ∧ month ≤ 12 ∧ 1 ≤ day ∧ day ≤ daysInMonth year month

instance (year month day : Nat) : Decidable (IsDate year month day) :=
  inferInstanceAs (Decidable (_ ∧ _))

/-! ## The date of a day -/

theorem isLeap_iff {year : Nat} :
    isLeap year = true ↔ year % 4 = 0 ∧ (year % 100 ≠ 0 ∨ year % 400 = 0) := by
  simp [isLeap]

theorem daysThroughYear_succ (year : Nat) :
    daysThroughYear (year + 1) =
      daysThroughYear year + 365 + (if isLeap (year + 1) then 1 else 0) := by
  have hsucc : ∀ n, (year + 1) / n = year / n + if (year + 1) % n = 0 then 1 else 0 := by
    intro n
    rw [Nat.succ_div]
    simp only [Nat.dvd_iff_mod_eq_zero]
  have hle : year / 100 ≤ year / 4 := Nat.div_le_div_left (by decide) (by decide)
  have hnested : (year + 1) % 400 = 0 → (year + 1) % 100 = 0 := by omega
  have hnested' : (year + 1) % 100 = 0 → (year + 1) % 4 = 0 := by omega
  rw [if_congr isLeap_iff rfl rfl]
  unfold daysThroughYear
  rw [hsucc 4, hsucc 100, hsucc 400]
  clear hsucc
  generalize (year + 1) % 4 = a, (year + 1) % 100 = b, (year + 1) % 400 = c at *
  split_ifs <;> omega

/-- A day of the era is a century, a four-year block, a year and a day in it; the years
    start in March. -/
theorem exists_yearOfEra {doe : Nat} (h : doe < 146097) :
    ∃ c k j doy, doe = 36524 * c + 1461 * k + 365 * j + doy ∧ c < 4 ∧ k < 25 ∧ j < 4 ∧
      (doy < 365 ∨ doy = 365 ∧ j = 3 ∧ (k < 24 ∨ c = 3)) := by
  obtain ⟨c, r, hc, hr, hlt⟩ :
      ∃ c r, c < 4 ∧ doe = 36524 * c + r ∧ (r < 36524 ∨ r = 36524 ∧ c = 3) := by
    by_cases hlast : doe = 146096
    · exact ⟨3, 36524, by decide, hlast, Or.inr ⟨rfl, rfl⟩⟩
    · have hr : doe % 36524 < 36524 := Nat.mod_lt _ (by decide)
      exact ⟨doe / 36524, doe % 36524, by omega, (Nat.div_add_mod doe 36524).symm, Or.inl hr⟩
  obtain ⟨k, s, hs, hr'⟩ : ∃ k s, s < 1461 ∧ r = 1461 * k + s :=
    ⟨r / 1461, r % 1461, Nat.mod_lt _ (by decide), (Nat.div_add_mod r 1461).symm⟩
  subst hr hr'
  by_cases hlast : s = 1460
  · exact ⟨c, k, 3, 365, by omega, hc, by omega, by omega, by omega⟩
  · obtain ⟨j, doy, hdoy, rfl⟩ : ∃ j doy, doy < 365 ∧ s = 365 * j + doy :=
      ⟨s / 365, s % 365, Nat.mod_lt _ (by decide), (Nat.div_add_mod s 365).symm⟩
    exact ⟨c, k, j, doy, by omega, hc, by omega, by omega, Or.inl hdoy⟩

theorem yearOfEra_eq {c k j doy : Nat} (hc : c < 4) (hk : k < 25) (hj : j < 4)
    (hdoy : doy < 365 ∨ doy = 365 ∧ j = 3 ∧ (k < 24 ∨ c = 3)) {doe : Nat}
    (hdoe : doe = 36524 * c + 1461 * k + 365 * j + doy) :
    (doe - doe / 1460 + doe / 36524 - doe / 146096) / 365 = 100 * c + 4 * k + j := by
  have hcentury : doe / 36524 = c ∨ doe = 146096 ∧ c = 3 ∧ k = 24 ∧ j = 3 := by omega
  rcases hcentury with hcentury | ⟨rfl, rfl, rfl, rfl⟩
  · have hera : doe / 146096 = 0 := by omega
    rw [hcentury, hera]
    omega
  · rfl

theorem daysThroughYear_era {c k j era : Nat} (hc : c < 4) (hk : k < 25) (hj : j < 4) :
    daysThroughYear (100 * c + 4 * k + j + era * 400) =
      146097 * era + 36524 * c + 1461 * k + 365 * j := by
  have h4 : (100 * c + 4 * k + j + era * 400) / 4 = 25 * c + k + 100 * era := by omega
  have h100 : (100 * c + 4 * k + j + era * 400) / 100 = c + 4 * era := by omega
  have h400 : (100 * c + 4 * k + j + era * 400) / 400 = era := by omega
  rw [daysThroughYear, h4, h100, h400]
  omega

/-- **A day is a year that starts in March and a day in it.** -/
theorem exists_marchYear (day : Nat) :
    ∃ year doy, day + 306 = daysThroughYear year + doy ∧
      (doy < 365 ∨ doy = 365 ∧ isLeap (year + 1) = true) ∧
      civil day =
        (let month := if (5 * doy + 2) / 153 < 10 then (5 * doy + 2) / 153 + 3
          else (5 * doy + 2) / 153 - 9
        (year + (if month ≤ 2 then 1 else 0), month,
          doy - (153 * ((5 * doy + 2) / 153) + 2) / 5 + 1)) := by
  obtain ⟨c, k, j, doy, hdoe, hc, hk, hj, hdoy⟩ :=
    exists_yearOfEra (Nat.mod_lt (day + 306) (show 0 < 146097 by decide))
  have hyoe := yearOfEra_eq hc hk hj hdoy hdoe
  refine ⟨100 * c + 4 * k + j + (day + 306) / 146097 * 400, doy, ?_, ?_, ?_⟩
  · rw [daysThroughYear_era hc hk hj]
    omega
  · rcases hdoy with hdoy | ⟨rfl, rfl, hlast⟩
    · exact Or.inl hdoy
    · refine Or.inr ⟨rfl, ?_⟩
      rw [isLeap_iff]
      omega
  · have hdoy' : (day + 306) % 146097 -
        (365 * (100 * c + 4 * k + j) + (100 * c + 4 * k + j) / 4 -
          (100 * c + 4 * k + j) / 100) = doy := by
      have h4 : (100 * c + 4 * k + j) / 4 = 25 * c + k := by omega
      have h100 : (100 * c + 4 * k + j) / 100 = c := by omega
      rw [h4, h100, hdoe]
      omega
    simp only [civil, hyoe, hdoy']

/-- **The date of a day exists, and its ordinal is the day's.** -/
theorem ymdToOrdinal_civil {day : Nat} (h : day < 3652059) :
    IsDate (civil day).1 (civil day).2.1 (civil day).2.2 ∧
      ymdToOrdinal (civil day).1 (civil day).2.1 (civil day).2.2 = day + 1 := by
  obtain ⟨year, doy, hday, hdoy, hcivil⟩ := exists_marchYear day
  have hyear : year ≤ 9999 := by
    unfold daysThroughYear at hday
    omega
  have hlast : year = 9999 → doy < 306 := by
    rintro rfl
    have hthrough : daysThroughYear 9999 = 3652059 := rfl
    omega
  have hfirst : year = 0 → 306 ≤ doy := by
    rintro rfl
    have hthrough : daysThroughYear 0 = 0 := rfl
    omega
  have hdoy' : doy ≤ 365 := by omega
  have hlong : doy = 365 → isLeap (year + 1) = true := by
    rintro rfl
    exact (hdoy.resolve_left (by decide)).2
  rw [hcivil]
  clear hcivil hdoy h
  have hmp : (5 * doy + 2) / 153 < 12 := by omega
  by_cases hspring : (5 * doy + 2) / 153 < 10
  · -- March to December of the year counted through
    obtain ⟨before, rfl⟩ : ∃ before, year = before + 1 := ⟨year - 1, by omega⟩
    rw [daysThroughYear_succ] at hday
    have hnot : ¬(5 * doy + 2) / 153 + 3 ≤ 2 := by omega
    have hlate : 2 < (5 * doy + 2) / 153 + 3 := by omega
    simp only [if_pos hspring, if_neg hnot, Nat.add_zero, ymdToOrdinal, Nat.add_sub_cancel, IsDate,
      hlate, true_and]
    generalize (if isLeap (before + 1) = true then 1 else 0) = leap at *
    clear hlong hlast hfirst hnot hlate
    generalize hm : (5 * doy + 2) / 153 = mp at *
    refine ⟨⟨by omega, by omega, by omega, by omega, by omega, ?_⟩, ?_⟩
    · unfold daysInMonth
      interval_cases mp <;> simp <;> omega
    · interval_cases mp <;> simp only [daysBeforeMonth] <;> omega
  · -- January and February of the year after
    have hmonth : (5 * doy + 2) / 153 - 9 ≤ 2 := by omega
    have hearly : ¬2 < (5 * doy + 2) / 153 - 9 := by omega
    simp only [if_neg hspring, if_pos hmonth, ymdToOrdinal, Nat.add_sub_cancel, IsDate,
      hearly, false_and, if_false]
    have hcases : (5 * doy + 2) / 153 = 10 ∨ (5 * doy + 2) / 153 = 11 := by omega
    rcases hcases with hm | hm
    · rw [hm]
      refine ⟨⟨by omega, by omega, by omega, by omega, by omega, ?_⟩, ?_⟩
      · show _ ≤ 31
        omega
      · show daysThroughYear year + 0 + 0 + _ = _
        omega
    · rw [hm]
      refine ⟨⟨by omega, by omega, by omega, by omega, by omega, ?_⟩, ?_⟩
      · show _ ≤ if isLeap (year + 1) = true then 29 else 28
        split
        · omega
        · rename_i hl
          have hne : doy ≠ 365 := fun h => hl (hlong h)
          omega
      · show daysThroughYear year + 31 + 0 + _ = _
        omega

end DateTime
end Eag.Foundation
