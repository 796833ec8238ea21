import TypedGraph.Calendar.Date

/-!
# Numbers of days

Every number is the number of a day: the date that belongs to it is a date of its year and
has that number again (`Calendar.Date.number_ofNumber`, `Calendar.Date.isValid_ofNumber`).
With `ofNumber_number`, dates and numbers stand for each other.
-/
namespace TypedGraph.Calendar.Date

/-- A day of an era is a day of one of its 400 years, which begin in March and end with the
leap day. -/
theorem exists_dayOfYear {n : Int} (h₀ : 0 ≤ n) (h₁ : n < 146097) :
    ∃ year day : Int, n = year * 365 + year / 4 - year / 100 + day ∧ 0 ≤ year ∧ year < 400 ∧
      0 ≤ day ∧ (day ≤ 364 ∨ day = 365 ∧ year % 4 = 3 ∧ (year % 100 ≠ 99 ∨ year = 399)) := by
  -- Centuries have 36524 days but for the last one, and groups of four years 1461 but for
  -- the last one of a century.
  obtain ⟨century, rest, hn, hcentury⟩ : ∃ century rest : Int, n = century * 36524 + rest ∧
      0 ≤ century ∧ 0 ≤ rest ∧ (century ≤ 3 ∧ rest < 36524 ∨ century = 3 ∧ rest = 36524) := by
    by_cases hlast : n = 146096
    · exact ⟨3, 36524, by omega, by omega⟩
    · exact ⟨n / 36524, n % 36524, by omega, by omega⟩
  obtain ⟨group, left, hrest, hgroup⟩ : ∃ group left : Int, rest = group * 1461 + left ∧
      0 ≤ group ∧ group ≤ 24 ∧ 0 ≤ left ∧ left < 1461 :=
    ⟨rest / 1461, rest % 1461, by omega, by omega⟩
  obtain ⟨place, day, hleft, hplace⟩ : ∃ place day : Int, left = place * 365 + day ∧
      0 ≤ place ∧ 0 ≤ day ∧ (place ≤ 3 ∧ day < 365 ∨ place = 3 ∧ day = 365) := by
    by_cases hlast : left = 1460
    · exact ⟨3, 365, by omega, by omega⟩
    · exact ⟨left / 365, left % 365, by omega, by omega⟩
  refine ⟨100 * century + 4 * group + place, day, ?_⟩
  have hfours : (100 * century + 4 * group + place) / 4 = 25 * century + group := by omega
  have hhundreds : (100 * century + 4 * group + place) / 100 = century := by omega
  rw [hfours, hhundreds]
  omega

/-- A day of a year that begins in March is a day of one of its months. -/
theorem exists_dayOfMonth {n : Int} (h₀ : 0 ≤ n) (h₁ : n ≤ 365) :
    ∃ month day : Int, n = (153 * month + 2) / 5 + day - 1 ∧ 0 ≤ month ∧ month ≤ 11 ∧
      1 ≤ day ∧ day ≤ 31 ∧
      (month = 1 ∨ month = 3 ∨ month = 6 ∨ month = 8 → day ≤ 30) ∧
      (month = 11 → day ≤ 29 ∧ n = 336 + day) := by
  have hmonth : (5 * n + 2) / 153 = 0 ∨ (5 * n + 2) / 153 = 1 ∨ (5 * n + 2) / 153 = 2 ∨
      (5 * n + 2) / 153 = 3 ∨ (5 * n + 2) / 153 = 4 ∨ (5 * n + 2) / 153 = 5 ∨
      (5 * n + 2) / 153 = 6 ∨ (5 * n + 2) / 153 = 7 ∨ (5 * n + 2) / 153 = 8 ∨
      (5 * n + 2) / 153 = 9 ∨ (5 * n + 2) / 153 = 10 ∨ (5 * n + 2) / 153 = 11 := by omega
  refine ⟨(5 * n + 2) / 153, n - (153 * ((5 * n + 2) / 153) + 2) / 5 + 1, by omega, ?_⟩
  rcases hmonth with h | h | h | h | h | h | h | h | h | h | h | h <;> rw [h] <;> omega

/-- The date of a number by its era, year of the era, and month and day from March on. -/
theorem exists_ofNumber (n : Int) :
    ∃ era year month day : Int,
      n = era * 146097 +
        (year * 365 + year / 4 - year / 100 + ((153 * month + 2) / 5 + day - 1)) - 719468 ∧
      0 ≤ year ∧ year < 400 ∧ 0 ≤ month ∧ month ≤ 11 ∧ 1 ≤ day ∧ day ≤ 31 ∧
      (month = 1 ∨ month = 3 ∨ month = 6 ∨ month = 8 → day ≤ 30) ∧
      (month = 11 → day ≤ 28 ∨ day = 29 ∧ year % 4 = 3 ∧ (year % 100 ≠ 99 ∨ year = 399)) := by
  obtain ⟨year, dayOfYear, hyear, h₀, h₁, h₂, h₃⟩ :=
    exists_dayOfYear (n := (n + 719468) % 146097) (by omega) (by omega)
  obtain ⟨month, day, hmonth, h₄, h₅, h₆, h₇, h₈, h₉⟩ :=
    exists_dayOfMonth h₂ (n := dayOfYear) (by omega)
  refine ⟨(n + 719468) / 146097, year, month, day, ?_, h₀, h₁, h₄, h₅, h₆, h₇, h₈, ?_⟩
  · rw [← hmonth]
    omega
  · intro hlast
    have := h₉ hlast
    omega

/-- The date of a number has that number. -/
theorem number_ofNumber (n : Int) : (ofNumber n).number = n := by
  obtain ⟨era, year, month, day, hn, h₀, h₁, h₂, h₃, h₄, h₅, h₆, h₇⟩ := exists_ofNumber n
  have hdate := ofNumber_eq era h₀ h₁ h₂ h₃ h₄ h₅ h₆ h₇
  rw [← hn] at hdate
  rw [hdate]
  by_cases hmonth : month < 10
  · rw [if_pos hmonth]
    have hlate : ¬ (month + 3).toNat ≤ 2 := by omega
    simp only [number, if_neg hlate]
    omega
  · rw [if_neg hmonth]
    have hearly : (month - 9).toNat ≤ 2 := by omega
    simp only [number, if_pos hearly]
    omega

theorem le_daysInMonth {year : Int} {month day : Nat} (h : day ≤ 31)
    (hshort : month = 4 ∨ month = 6 ∨ month = 9 ∨ month = 11 → day ≤ 30)
    (hfebruary : month = 2 → day ≤ 28 ∨ day = 29 ∧ isLeap year) : day ≤ daysInMonth year month := by
  unfold daysInMonth
  split
  · exact hshort (by simp)
  · exact hshort (by simp)
  · exact hshort (by simp)
  · exact hshort (by simp)
  · split
    · have := hfebruary rfl
      omega
    · have := hfebruary rfl
      simp_all
  · exact h

/-- The date of a number is a date of its year. -/
theorem isValid_ofNumber {n : Int} (hmin : minYear ≤ (ofNumber n).year)
    (hmax : (ofNumber n).year ≤ maxYear) : (ofNumber n).isValid := by
  obtain ⟨era, year, month, day, hn, h₀, h₁, h₂, h₃, h₄, h₅, h₆, h₇⟩ := exists_ofNumber n
  have hdate := ofNumber_eq era h₀ h₁ h₂ h₃ h₄ h₅ h₆ h₇
  rw [← hn] at hdate
  rw [hdate] at hmin hmax ⊢
  by_cases hmonth : month < 10
  · rw [if_pos hmonth] at hmin hmax ⊢
    have hday : day.toNat ≤ daysInMonth (year + era * 400) (month + 3).toNat :=
      le_daysInMonth (by omega) (by omega) (by omega)
    simp only [isValid, Bool.and_eq_true, decide_eq_true_eq]
    exact ⟨⟨⟨⟨⟨hmin, hmax⟩, by omega⟩, by omega⟩, by omega⟩, hday⟩
  · rw [if_neg hmonth] at hmin hmax ⊢
    have hleap : (year % 4 = 3 ∧ (year % 100 ≠ 99 ∨ year = 399)) →
        isLeap (year + era * 400 + 1) := by
      rw [isLeap_iff]
      omega
    have hday : day.toNat ≤ daysInMonth (year + era * 400 + 1) (month - 9).toNat :=
      le_daysInMonth (by omega) (by omega) fun hfebruary => by
        rcases h₇ (by omega) with hshort | ⟨hlast, hyear⟩
        · exact .inl (by omega)
        · exact .inr ⟨by omega, hleap hyear⟩
    simp only [isValid, Bool.and_eq_true, decide_eq_true_eq]
    exact ⟨⟨⟨⟨⟨hmin, hmax⟩, by omega⟩, by omega⟩, by omega⟩, hday⟩

end TypedGraph.Calendar.Date
