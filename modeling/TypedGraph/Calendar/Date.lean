/-!
# Days of the calendar

Dates of the proleptic Gregorian calendar, numbered by their distance from the
first of January 1970. Years run from -262143 to 262142. A date is found again from its
number (`ofNumber_number`).
-/
namespace TypedGraph.Calendar

/-- A year, a month from 1 and a day from 1. -/
structure Date where
  year : Int
  month : Nat
  day : Nat
deriving DecidableEq, Repr, Inhabited

def minYear : Int := -262143

def maxYear : Int := 262142

def isLeap (year : Int) : Bool := year % 4 == 0 && (year % 100 != 0 || year % 400 == 0)

theorem isLeap_iff (year : Int) :
    isLeap year = true ↔ year % 4 = 0 ∧ (year % 100 ≠ 0 ∨ year % 400 = 0) := by
  simp [isLeap]

def daysInMonth (year : Int) (month : Nat) : Nat :=
  match month with
  | 4 | 6 | 9 | 11 => 30
  | 2 => if isLeap year then 29 else 28
  | _ => 31

namespace Date

/-- Whether the date exists and its year is in range. -/
def isValid (d : Date) : Bool :=
  minYear ≤ d.year && d.year ≤ maxYear && 1 ≤ d.month && d.month ≤ 12 &&
    1 ≤ d.day && d.day ≤ daysInMonth d.year d.month

/-- The number of the day. Years are counted from March, so that a leap day is the
last day of its year, and in eras of 400 years. -/
def number (d : Date) : Int :=
  let year := if d.month ≤ 2 then d.year - 1 else d.year
  let month := if d.month ≤ 2 then d.month + 9 else d.month - 3
  let era := year / 400
  let yearOfEra := year % 400
  let dayOfYear : Int := (153 * month + 2) / 5 + d.day - 1
  let dayOfEra := yearOfEra * 365 + yearOfEra / 4 - yearOfEra / 100 + dayOfYear
  era * 146097 + dayOfEra - 719468

/-- The date with a number. -/
def ofNumber (n : Int) : Date :=
  let shifted := n + 719468
  let era := shifted / 146097
  let dayOfEra := shifted % 146097
  let yearOfEra := (dayOfEra - dayOfEra / 1460 + dayOfEra / 36524 - dayOfEra / 146096) / 365
  let dayOfYear := dayOfEra - (365 * yearOfEra + yearOfEra / 4 - yearOfEra / 100)
  let month := (5 * dayOfYear + 2) / 153
  let day := dayOfYear - (153 * month + 2) / 5 + 1
  let year := yearOfEra + era * 400
  if month < 10 then ⟨year, (month + 3).toNat, day.toNat⟩
  else ⟨year + 1, (month - 9).toNat, day.toNat⟩

/-- The year of an era is found again from the day of the era. -/
theorem yearOfEra_eq {year day : Int} (h₀ : 0 ≤ year) (h₁ : year < 400) (h₂ : 0 ≤ day)
    (h₃ : day ≤ 364 ∨ day = 365 ∧ year % 4 = 3 ∧ (year % 100 ≠ 99 ∨ year = 399)) :
    let n := year * 365 + year / 4 - year / 100 + day
    (n - n / 1460 + n / 36524 - n / 146096) / 365 = year := by
  intro n
  have century : n / 36524 - n / 146096 = year / 100 := by
    have last : n / 146096 = 0 ∨ n / 146096 = 1 := by omega
    have : year / 100 = 0 ∨ year / 100 = 1 ∨ year / 100 = 2 ∨ year / 100 = 3 := by omega
    rcases this with h | h | h | h <;> rcases last with last | last <;> omega
  have fours : n / 1460 = year / 4 ∨ n / 1460 = year / 4 + 1 ∧ year % 4 = 3 ∧ 1 ≤ day := by omega
  omega

/-- The month, counted from March, is found again from the day of the year. -/
theorem month_eq {month day : Int} (h₀ : 0 ≤ month) (h₁ : month ≤ 11) (h₂ : 1 ≤ day)
    (h₃ : day ≤ 31) (h₄ : month = 1 ∨ month = 3 ∨ month = 6 ∨ month = 8 ∨ month = 11 → day ≤ 30) :
    (5 * ((153 * month + 2) / 5 + day - 1) + 2) / 153 = month := by
  have : month = 0 ∨ month = 1 ∨ month = 2 ∨ month = 3 ∨ month = 4 ∨ month = 5 ∨ month = 6 ∨
    month = 7 ∨ month = 8 ∨ month = 9 ∨ month = 10 ∨ month = 11 := by omega
  rcases this with rfl | rfl | rfl | rfl | rfl | rfl | rfl | rfl | rfl | rfl | rfl | rfl <;> omega

/-- The date of a day that is given by its era, year of the era, and month and day from
March on. -/
theorem ofNumber_eq (era : Int) {year month day : Int} (h₀ : 0 ≤ year) (h₁ : year < 400)
    (h₂ : 0 ≤ month) (h₃ : month ≤ 11) (h₄ : 1 ≤ day) (h₅ : day ≤ 31)
    (h₆ : month = 1 ∨ month = 3 ∨ month = 6 ∨ month = 8 → day ≤ 30)
    (h₇ : month = 11 → day ≤ 28 ∨ day = 29 ∧ year % 4 = 3 ∧ (year % 100 ≠ 99 ∨ year = 399)) :
    ofNumber (era * 146097 +
        (year * 365 + year / 4 - year / 100 + ((153 * month + 2) / 5 + day - 1)) - 719468) =
      if month < 10 then ⟨year + era * 400, (month + 3).toNat, day.toNat⟩
      else ⟨year + era * 400 + 1, (month - 9).toNat, day.toNat⟩ := by
  generalize hdoy : (153 * month + 2) / 5 + day - 1 = dayOfYear
  have hy := yearOfEra_eq h₀ h₁ (show 0 ≤ dayOfYear by omega) (by omega)
  have hm := month_eq h₂ h₃ h₄ h₅ (by omega)
  rw [hdoy] at hm
  generalize hn : year * 365 + year / 4 - year / 100 + dayOfYear = n at hy
  have hlo : 0 ≤ n := by omega
  have hhi : n < 146097 := by omega
  have era_eq : (era * 146097 + n - 719468 + 719468) / 146097 = era := by omega
  have rest_eq : (era * 146097 + n - 719468 + 719468) % 146097 = n := by omega
  have doy_eq : n - (365 * year + year / 4 - year / 100) = dayOfYear := by omega
  simp only [ofNumber, era_eq, rest_eq, hy, doy_eq, hm]
  have : dayOfYear - (153 * month + 2) / 5 + 1 = day := by omega
  rw [this]

/-- A date is found again from its number. -/
theorem ofNumber_number {d : Date} (h : d.isValid) : ofNumber d.number = d := by
  obtain ⟨year, month, day⟩ := d
  simp only [isValid, Bool.and_eq_true, decide_eq_true_eq] at h
  obtain ⟨⟨⟨⟨-, hm⟩, hm'⟩, hd⟩, hd'⟩ := h
  have long : day ≤ 31 := by
    unfold daysInMonth at hd'
    split at hd' <;> try split at hd'
    all_goals omega
  have short : month = 4 ∨ month = 6 ∨ month = 9 ∨ month = 11 → day ≤ 30 := by
    rintro (rfl | rfl | rfl | rfl) <;> exact hd'
  have february : month = 2 → day ≤ 28 ∨ day = 29 ∧ isLeap year := by
    rintro rfl
    cases leap : isLeap year <;> simp [daysInMonth, leap] at hd' ⊢ <;> omega
  simp only [isLeap_iff] at february
  simp only [number]
  split
  · rename_i early
    rw [ofNumber_eq ((year - 1) / 400) (by omega) (by omega) (by omega) (by omega) (by omega)
      (by omega) (by omega) (by omega), if_neg (by omega)]
    congr 1 <;> omega
  · rename_i late
    rw [ofNumber_eq (year / 400) (by omega) (by omega) (by omega) (by omega) (by omega)
      (by omega) (by omega) (by omega), if_pos (by omega)]
    congr 1 <;> omega

end Date

end TypedGraph.Calendar
