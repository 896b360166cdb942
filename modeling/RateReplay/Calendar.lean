import RateReplay.Lib.Json

/-!
# Dates, instants and the local time zone

A `date` is the number of its day, counted from 1970-01-01; year, month and day are
read off by decomposing the day count of a year that starts in March into spans of
400, 100, 4 and 1 years.  An instant is a number of microseconds since 1970 in UTC.

The time-zone database is not part of the repository.  `Zone` is what the programs
use of one zone: the offset at an instant, the offset at a wall-clock time, and the
one law they rest on, that the local midnight ending the day of an instant comes
after that instant.

## Main definitions

* `Date.civil`, `Date.ofCivil`, `Date.isoformat`, `Date.weekday`, `Date.replaceYear`.
* `Zone`, `Zone.localDate`, `Zone.localMinute`, `Zone.midnight`.

## Main results

* `Date.ofCivil_civil` — year, month and day determine the date.
* `Date.isoformat_injective` — **so does its ISO text.**
-/

namespace RateReplay

open List

namespace Date

/-! ### Year, month and day -/

/-- The years of 365 or 366 days, from March to February, inside a span of 400. -/
structure YearDay where
  yearOfEra : ℤ
  dayOfYear : ℤ

/-- Splits a day of a 400-year span into spans of 100, 4 and 1 years. -/
def yearDay (dayOfEra : ℤ) : YearDay :=
  let century := min (dayOfEra / 36524) 3
  let dayOfCentury := dayOfEra - 36524 * century
  let quadrennium := dayOfCentury / 1461
  let dayOfQuadrennium := dayOfCentury - 1461 * quadrennium
  let year := min (dayOfQuadrennium / 365) 3
  ⟨100 * century + 4 * quadrennium + year, dayOfQuadrennium - 365 * year⟩

/-- Year, month and day. -/
structure Civil where
  year : ℤ
  month : ℤ
  day : ℤ
  deriving DecidableEq

/-- The year, month and day of a day of the year of an era of 400 years, both counted
from March. -/
def civilOf (era : ℤ) (yd : YearDay) : Civil :=
  let monthFromMarch := (5 * yd.dayOfYear + 2) / 153
  let month := if monthFromMarch < 10 then monthFromMarch + 3 else monthFromMarch - 9
  { year := 400 * era + yd.yearOfEra + if month ≤ 2 then 1 else 0
    month
    day := yd.dayOfYear - (153 * monthFromMarch + 2) / 5 + 1 }

/-- The year, month and day of a date; 719468 days lie between 0000-03-01 and 1970. -/
def civil (date : ℤ) : Civil :=
  civilOf ((date + 719468) / 146097) (yearDay ((date + 719468) % 146097))

/-- The date of a year, month and day. -/
def ofCivil (c : Civil) : ℤ :=
  let year := if c.month ≤ 2 then c.year - 1 else c.year
  let yearOfEra := year % 400
  let monthFromMarch := if c.month > 2 then c.month - 3 else c.month + 9
  let dayOfYear := (153 * monthFromMarch + 2) / 5 + c.day - 1
  146097 * (year / 400) + 365 * yearOfEra + yearOfEra / 4 - yearOfEra / 100 + dayOfYear - 719468

/-- `date.month`. -/
def month (date : ℤ) : ℤ := (civil date).month

/-- `date.year`. -/
def year (date : ℤ) : ℤ := (civil date).year

/-- `date.weekday()`: Monday is 0; 1970-01-01 was a Thursday. -/
def weekday (date : ℤ) : ℤ := (date + 3) % 7

def isLeap (year : ℤ) : Bool := year % 4 = 0 ∧ (year % 100 ≠ 0 ∨ year % 400 = 0)

/-- `date.replace(year=year)`; the 29th of February exists in leap years only. -/
def replaceYear (date : ℤ) (year : ℤ) : Option ℤ :=
  let c := civil date
  if year < 1 ∨ (c.month = 2 ∧ c.day = 29 ∧ isLeap year = false) then none
  else some (ofCivil { c with year })

theorem yearDay_spec {d : ℤ} (h0 : 0 ≤ d) (h1 : d < 146097) :
    0 ≤ (yearDay d).yearOfEra ∧ (yearDay d).yearOfEra < 400 ∧
      0 ≤ (yearDay d).dayOfYear ∧ (yearDay d).dayOfYear ≤ 365 ∧
      d = 365 * (yearDay d).yearOfEra + (yearDay d).yearOfEra / 4
        - (yearDay d).yearOfEra / 100 + (yearDay d).dayOfYear := by
  simp only [yearDay]
  have hcentury : 0 ≤ min (d / 36524) 3 ∧ min (d / 36524) 3 ≤ 3 ∧
      0 ≤ d - 36524 * min (d / 36524) 3 ∧ d - 36524 * min (d / 36524) 3 ≤ 36524 := by omega
  generalize min (d / 36524) 3 = c at hcentury ⊢
  have hquad : 0 ≤ (d - 36524 * c) / 1461 ∧ (d - 36524 * c) / 1461 ≤ 24 ∧
      0 ≤ d - 36524 * c - 1461 * ((d - 36524 * c) / 1461) ∧
      d - 36524 * c - 1461 * ((d - 36524 * c) / 1461) ≤ 1460 := by omega
  generalize (d - 36524 * c) / 1461 = q at hquad ⊢
  have hyear : 0 ≤ min ((d - 36524 * c - 1461 * q) / 365) 3 ∧
      min ((d - 36524 * c - 1461 * q) / 365) 3 ≤ 3 ∧
      0 ≤ d - 36524 * c - 1461 * q - 365 * min ((d - 36524 * c - 1461 * q) / 365) 3 ∧
      d - 36524 * c - 1461 * q - 365 * min ((d - 36524 * c - 1461 * q) / 365) 3 ≤ 365 := by omega
  generalize min ((d - 36524 * c - 1461 * q) / 365) 3 = y at hyear ⊢
  -- the year count is written in mixed radix, so its quotients are its leading digits
  have hfour : (100 * c + 4 * q + y) / 4 = 25 * c + q := by omega
  have hhundred : (100 * c + 4 * q + y) / 100 = c := by omega
  rw [hfour, hhundred]
  omega

theorem civil_bounds (date : ℤ) : 1 ≤ (civil date).month ∧ (civil date).month ≤ 12 ∧
    1 ≤ (civil date).day ∧ (civil date).day ≤ 31 := by
  obtain ⟨-, -, hlo, hhi, -⟩ :=
    yearDay_spec (d := (date + 719468) % 146097) (by omega) (by omega)
  simp only [civil, civilOf]
  omega

theorem ofCivil_civilOf (era yoe doy : ℤ) (hyoe : 0 ≤ yoe ∧ yoe < 400)
    (hdoy : 0 ≤ doy ∧ doy ≤ 365) :
    ofCivil (civilOf era ⟨yoe, doy⟩)
      = 146097 * era + (365 * yoe + yoe / 4 - yoe / 100 + doy) - 719468 := by
  simp only [ofCivil, civilOf]
  have hmp : 0 ≤ (5 * doy + 2) / 153 ∧ (5 * doy + 2) / 153 ≤ 11 := by omega
  have hera : (400 * era + yoe) / 400 = era := by omega
  have hmod : (400 * era + yoe) % 400 = yoe := by omega
  by_cases h : (5 * doy + 2) / 153 < 10
  · rw [if_pos h, if_neg (by omega), if_neg (by omega), if_pos (by omega), add_zero, hera, hmod]
    omega
  · rw [if_neg h, if_pos (by omega), if_pos (by omega), if_neg (by omega),
      add_sub_cancel_right, hera, hmod]
    omega

/-- **Year, month and day determine the date.** -/
theorem ofCivil_civil (date : ℤ) : ofCivil (civil date) = date := by
  obtain ⟨hyoe, hyoe', hdoy, hdoy', hday⟩ :=
    yearDay_spec (d := (date + 719468) % 146097) (by omega) (by omega)
  rw [civil, ofCivil_civilOf _ _ _ ⟨hyoe, hyoe'⟩ ⟨hdoy, hdoy'⟩, ← hday]
  omega

theorem civil_injective : Function.Injective civil :=
  Function.LeftInverse.injective ofCivil_civil

/-! ### The ISO text -/

/-- Two decimal digits. -/
def twoDigits (n : ℤ) : List Char :=
  [Nat.digitChar (n.toNat / 10 % 10), Nat.digitChar (n.toNat % 10)]

/-- At least four digits, and a sign before the year 0. -/
def yearText (year : ℤ) : List Char :=
  let digits := Nat.toDigits 10 year.natAbs
  (if year < 0 then ['-'] else []) ++ (List.replicate (4 - digits.length) '0' ++ digits)

/-- `date.isoformat()`. -/
def isoformat (date : ℤ) : String :=
  let c := civil date
  String.ofList (yearText c.year ++ ('-' :: twoDigits c.month ++ '-' :: twoDigits c.day))

theorem digitChar_injOn : ∀ m < 10, ∀ n < 10, Nat.digitChar m = Nat.digitChar n → m = n := by
  decide

theorem twoDigits_inj {m n : ℤ} (hm : 0 ≤ m ∧ m < 100) (hn : 0 ≤ n ∧ n < 100)
    (h : twoDigits m = twoDigits n) : m = n := by
  rw [twoDigits, twoDigits, cons.injEq, cons.injEq] at h
  have htens := digitChar_injOn _ (by omega) _ (by omega) h.1
  have hones := digitChar_injOn _ (by omega) _ (by omega) h.2.1
  omega

/-- Leading zeros do not change the number. -/
theorem ofDigitChars_replicate (k : ℕ) (ds : List Char) :
    Nat.ofDigitChars 10 (replicate k '0' ++ ds) 0 = Nat.ofDigitChars 10 ds 0 := by
  induction k with
  | zero => rfl
  | succ k ih =>
    rw [replicate_succ, cons_append, Nat.ofDigitChars_cons]
    exact ih

theorem paddedDigits_inj {m n j k : ℕ}
    (h : replicate j '0' ++ Nat.toDigits 10 m = replicate k '0' ++ Nat.toDigits 10 n) :
    m = n := by
  have hvalue := congrArg (fun ds => Nat.ofDigitChars 10 ds 0) h
  simpa only [ofDigitChars_replicate, Nat.ofDigitChars_ten_toDigits] using hvalue

/-- A padded number starts with a digit, not with a sign. -/
theorem padded_ne_minus {j n : ℕ} {ds : List Char} :
    replicate j '0' ++ Nat.toDigits 10 n ≠ '-' :: ds := by
  intro h
  cases j with
  | zero =>
    have hmem : '-' ∈ Nat.toDigits 10 n := by
      rw [replicate_zero, nil_append] at h
      rw [h]
      exact mem_cons_self
    exact absurd (Json.isDigit_toDigits _ hmem) (by decide)
  | succ j =>
    rw [replicate_succ, cons_append, cons.injEq] at h
    exact absurd h.1 (by decide)

theorem yearText_injective : Function.Injective yearText := by
  intro x y h
  simp only [yearText] at h
  by_cases hx : x < 0
  · by_cases hy : y < 0
    · rw [if_pos hx, if_pos hy] at h
      have := paddedDigits_inj (append_cancel_left h)
      omega
    · rw [if_pos hx, if_neg hy] at h
      exact absurd h.symm padded_ne_minus
  · by_cases hy : y < 0
    · rw [if_neg hx, if_pos hy] at h
      exact absurd h padded_ne_minus
    · rw [if_neg hx, if_neg hy] at h
      have := paddedDigits_inj (append_cancel_left h)
      omega

/-- **The ISO text determines the date.** -/
theorem isoformat_injective : Function.Injective isoformat := by
  intro x y h
  have hx := civil_bounds x
  have hy := civil_bounds y
  have htext := String.ofList_injective h
  -- month and day take the last six characters
  obtain ⟨hyear, hrest⟩ := append_inj' htext rfl
  simp only [cons_append, cons.injEq, true_and] at hrest
  obtain ⟨hmonth, hday⟩ := append_inj' hrest rfl
  rw [cons.injEq] at hday
  apply civil_injective
  have hm := twoDigits_inj (by omega) (by omega) hmonth
  have hd := twoDigits_inj (by omega) (by omega) hday.2
  have hyr := yearText_injective hyear
  generalize civil x = cx at *
  generalize civil y = cy at *
  cases cx
  cases cy
  simp_all

end Date

/-- How a date is dumped. -/
def dumpDate (d : ℤ) : Json := .str (Date.isoformat d)

/-! ### Instants -/

namespace Instant

/-- The time of day of a UTC instant, with microseconds unless they are 0. -/
def clockText (t : ℤ) : List Char :=
  let second := t % 86400000000 / 1000000
  let micro := t % 1000000
  Date.twoDigits (second / 3600) ++ ':' :: Date.twoDigits (second / 60 % 60) ++
    ':' :: Date.twoDigits (second % 60) ++
    if micro = 0 then [] else '.' :: (Date.twoDigits (micro / 10000) ++
      Date.twoDigits (micro / 100 % 100) ++ Date.twoDigits (micro % 100))

/-- Date and time of day of a UTC instant. -/
def text (t : ℤ) : String :=
  Date.isoformat (t / 86400000000) ++ "T" ++ String.ofList (clockText t)

/-- `value.isoformat()` of a UTC instant. -/
def isoformat (t : ℤ) : String := text t ++ "+00:00"

end Instant

/-- How a UTC instant is dumped. -/
def dumpInstant (t : ℤ) : Json := .str (Instant.text t ++ "Z")

/-! ### Time zones -/

/-- What the programs read of one time zone: the offset from UTC, in seconds, at an
instant and at a wall-clock time. -/
structure Zone where
  /-- The offset at a second of UTC. -/
  utcOffset : ℤ → ℤ
  /-- The offset at a second of wall-clock time, the earlier one where two apply. -/
  wallOffset : ℤ → ℤ
  /-- A local day ends after each of its instants. -/
  lt_midnight : ∀ t : ℤ, t < ((t + utcOffset t) / 86400 + 1) * 86400
    - wallOffset (((t + utcOffset t) / 86400 + 1) * 86400)

namespace Zone

variable (zone : Zone)

/-- `t.astimezone(zone)` as microseconds of wall-clock time. -/
def localTime (t : ℤ) : ℤ := t + zone.utcOffset (t / 1000000) * 1000000

/-- `t.astimezone(zone).date()`. -/
def localDate (t : ℤ) : ℤ := zone.localTime t / 86400000000

/-- `hour * 60 + minute` of `t.astimezone(zone)`. -/
def localMinute (t : ℤ) : ℤ := zone.localTime t % 86400000000 / 60000000

/-- `datetime.combine(d, time.min, tzinfo=zone).astimezone(UTC)`. -/
def midnight (d : ℤ) : ℤ := (d * 86400 - zone.wallOffset (d * 86400)) * 1000000

/-- The midnight that ends the local day of an instant comes after it. -/
theorem lt_midnight_localDate (t : ℤ) : t < zone.midnight (zone.localDate t + 1) := by
  have hlaw := zone.lt_midnight (t / 1000000)
  have hdate : zone.localDate t = (t / 1000000 + zone.utcOffset (t / 1000000)) / 86400 := by
    rw [localDate, localTime]
    omega
  rw [midnight, hdate]
  omega

/-- Midnights fall on whole seconds. -/
theorem midnight_whole (d : ℤ) : zone.midnight d % 1000000 = 0 := by
  rw [midnight]
  omega

/-- A zone with one offset throughout. -/
def fixed (offset : ℤ) : Zone where
  utcOffset _ := offset
  wallOffset _ := offset
  lt_midnight t := by omega

end Zone
end RateReplay
