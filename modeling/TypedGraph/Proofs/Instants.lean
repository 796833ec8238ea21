import Mathlib.Algebra.Group.Nat.Defs
import TypedGraph.Calendar.Reading
import TypedGraph.Proofs.Days

/-!
# Instants in words

An instant that is written with as many digits as it needs is read again in the loose form
(`Calendar.loose?_render`). It has to be one that can be written: of the years of the
calendar, and with a leap second only at the end of a minute. Every instant that the loose
form reads is of this kind (`Calendar.isWritable_of_loose?`).
-/
namespace TypedGraph

/-! ## Digits -/

namespace Decimal

theorem digit?_eq (c : Char) :
    digit? c = if c.isDigit then some (c.toNat - '0'.toNat) else none := by
  simp only [digit?, Char.isDigit, Char.le_def, ge_iff_le, Bool.and_eq_true, decide_eq_true_eq]

theorem isDigit_eq (c : Char) : isDigit c = c.isDigit := by
  rw [isDigit, digit?_eq]
  split <;> simp_all

theorem getD_digit?_le (c : Char) : (digit? c).getD 0 ≤ 9 := by
  rw [digit?_eq]
  split
  · rename_i h
    have hle : c.toNat ≤ 57 := (Char.isDigit_iff_toNat.1 h).2
    change c.toNat - 48 ≤ 9
    omega
  · exact Nat.zero_le 9

/-- Digits have the value that they have as a numeral. -/
theorem digitsValue_eq {cs : List Char} (h : ∀ c ∈ cs, isDigit c = true) (n : Nat) :
    digitsValue n cs = Nat.ofDigitChars 10 cs n := by
  induction cs generalizing n with
  | nil => simp [digitsValue]
  | cons c cs ih =>
    rw [List.forall_mem_cons] at h
    have hdigit : digit? c = some (c.toNat - '0'.toNat) := by
      rw [digit?_eq, if_pos (isDigit_eq c ▸ h.1)]
    have hstep := ih h.2 (10 * n + (c.toNat - '0'.toNat))
    rw [Nat.ofDigitChars_cons, ← hstep]
    simp [digitsValue, hdigit]

theorem digitsValue_lt (cs : List Char) (n : Nat) :
    digitsValue n cs < (n + 1) * 10 ^ cs.length := by
  induction cs generalizing n with
  | nil => simp [digitsValue]
  | cons c cs ih =>
    have hdigit := getD_digit?_le c
    have hstep := ih (10 * n + (digit? c).getD 0)
    calc digitsValue n (c :: cs) = digitsValue (10 * n + (digit? c).getD 0) cs := by
          simp [digitsValue]
      _ < (10 * n + (digit? c).getD 0 + 1) * 10 ^ cs.length := hstep
      _ ≤ ((n + 1) * 10) * 10 ^ cs.length := Nat.mul_le_mul_right _ (by omega)
      _ = (n + 1) * 10 ^ (c :: cs).length := by
          rw [List.length_cons, Nat.pow_succ, Nat.mul_assoc, Nat.mul_comm 10]

theorem isDigit_of_mem_toDigits {n : Nat} : ∀ c ∈ Nat.toDigits 10 n, isDigit c = true := by
  intro c hc
  rw [isDigit_eq]
  exact Nat.isDigit_of_mem_toDigits (by omega) (by omega) hc

end Decimal

namespace Calendar

open Decimal (isDigit digitsValue)

variable {l m width n : Nat} {digits rest : List Char}

theorem isDigit_of_mem_padded (width n : Nat) : ∀ c ∈ padded width n, isDigit c = true := by
  intro c hc
  rcases List.mem_append.1 hc with hc | hc
  · obtain ⟨-, rfl⟩ := List.mem_replicate.1 hc
    rfl
  · exact Decimal.isDigit_of_mem_toDigits c hc

theorem digitsValue_padded : digitsValue 0 (padded width n) = n := by
  rw [Decimal.digitsValue_eq (isDigit_of_mem_padded width n), padded, Nat.ofDigitChars_append,
    Nat.ofDigitChars_replicate_zero, Nat.mul_zero, Nat.ofDigitChars_ten_toDigits]

theorem le_length_padded (width n : Nat) : width ≤ (padded width n).length := by
  simp only [padded, List.length_append, List.length_replicate]
  omega

theorem length_padded (hwidth : 0 < width) (hn : n < 10 ^ width) :
    (padded width n).length = width := by
  have hdigits : (Nat.toDigits 10 n).length ≤ width :=
    (Nat.length_toDigits_le_iff (by omega) hwidth).2 hn
  simp only [padded, List.length_append, List.length_replicate]
  omega

theorem takeWhile_isDigit_append (hdigits : ∀ c ∈ digits, isDigit c = true)
    (hmost : digits.length ≤ m) (hrest : ∀ c ∈ rest.head?, isDigit c = false) :
    ((digits ++ rest).take m).takeWhile isDigit = digits := by
  have htake : (digits ++ rest).take m = digits ++ rest.take (m - digits.length) := by
    rw [List.take_append, List.take_of_length_le hmost]
  have hstop : (rest.take (m - digits.length)).takeWhile isDigit = [] := by
    cases rest with
    | nil => simp
    | cons c rest =>
      have hc : isDigit c = false := hrest c rfl
      cases m - digits.length <;> simp [hc]
  rw [htake, List.takeWhile_append_of_pos hdigits, hstop, List.append_nil]

/-- Padded digits up to something else are read as the number that they are of. -/
theorem number?_padded (hleast : l ≤ width) (hmost : (padded width n).length ≤ m)
    (hrest : ∀ c ∈ rest.head?, isDigit c = false) :
    number? l m (padded width n ++ rest) = some (n, rest) := by
  have henough : ¬ (padded width n).length < l := by
    have := le_length_padded width n
    omega
  simp [number?, takeWhile_isDigit_append (isDigit_of_mem_padded width n) hmost hrest, henough,
    digitsValue_padded]

/-! ## What is read of what is written -/

theorem isBlank_of_isDigit {c : Char} (h : isDigit c = true) : Text.isBlank c = false := by
  have hrange : 48 ≤ c.toNat ∧ c.toNat ≤ 57 := by
    rwa [Decimal.isDigit_eq, Char.isDigit_iff_toNat] at h
  simp only [Text.isBlank, Text.blankRanges, List.any_cons, List.any_nil, Bool.or_false,
    Bool.or_eq_false_iff, Bool.and_eq_false_iff, decide_eq_false_iff_not]
  omega

theorem skipBlank_padded (hwidth : 0 < width) :
    skipBlank (padded width n ++ rest) = padded width n ++ rest := by
  have hlength := le_length_padded width n
  have hdigits := isDigit_of_mem_padded width n
  generalize padded width n = digits at hlength hdigits
  cases digits with
  | nil =>
    simp only [List.length_nil] at hlength
    omega
  | cons c digits =>
    have hblank := isBlank_of_isDigit (hdigits c (List.mem_cons_self ..))
    simp [skipBlank, hblank]

theorem field?_padded (hn : n < 100) (hrest : ∀ c ∈ rest.head?, isDigit c = false) :
    field? (padded 2 n ++ rest) = some (n, rest) := by
  have hlength : (padded 2 n).length = 2 := length_padded (by omega) hn
  rw [field?, skipBlank_padded (by omega)]
  exact number?_padded (by omega) (by omega) hrest

/-- Digits have neither sign in front. -/
theorem year?_padded (hn : n < 10000) (hrest : ∀ c ∈ rest.head?, isDigit c = false) :
    year? (padded 4 n ++ rest) = some ((n : Int), rest) := by
  have hlength : (padded 4 n).length = 4 := length_padded (by omega) hn
  have hread : number? 1 4 (padded 4 n ++ rest) = some (n, rest) :=
    number?_padded (by omega) (by omega) hrest
  have hdigits := isDigit_of_mem_padded 4 n
  rw [year?, skipBlank_padded (by omega)]
  split
  · rename_i heq
    have hmem : '-' ∈ padded 4 n := by
      cases hp : padded 4 n <;> simp_all
    exact absurd (hdigits _ hmem) (by decide)
  · rename_i heq
    have hmem : '+' ∈ padded 4 n := by
      cases hp : padded 4 n <;> simp_all
    exact absurd (hdigits _ hmem) (by decide)
  · rw [hread]
    rfl

theorem year?_yearText (year : Int) (hrest : ∀ c ∈ rest.head?, isDigit c = false) :
    year? (yearText year ++ rest) = some (year, rest) := by
  have hlong : number? 1 (padded 4 year.natAbs ++ rest).length (padded 4 year.natAbs ++ rest) =
      some (year.natAbs, rest) := by
    refine number?_padded (by omega) ?_ hrest
    rw [List.length_append]
    omega
  unfold yearText
  split
  · rw [year?_padded (by omega) hrest]
    congr 2
    omega
  · split
    · have hblank : skipBlank ('-' :: padded 4 year.natAbs ++ rest) =
          '-' :: (padded 4 year.natAbs ++ rest) := rfl
      rw [year?, hblank]
      simp only [hlong, Option.map_some]
      congr 2
      omega
    · have hblank : skipBlank ('+' :: padded 4 year.natAbs ++ rest) =
          '+' :: (padded 4 year.natAbs ++ rest) := rfl
      rw [year?, hblank]
      simp only [hlong, Option.map_some]
      congr 2
      omega

/-- A fraction of up to nine digits is read as that many parts of a second. -/
theorem nanos?_padded (hwidth : 0 < width) (hnine : width ≤ 9) (hn : n < 10 ^ width)
    (hrest : ∀ c ∈ rest.head?, isDigit c = false) :
    nanos? ('.' :: padded width n ++ rest) = some (n * 10 ^ (9 - width), rest) := by
  have hlength : (padded width n).length = width := length_padded hwidth hn
  have hsome : padded width n ≠ [] := fun h => by simp [h] at hlength; omega
  have hstop : rest.dropWhile isDigit = rest := by
    cases rest with
    | nil => rfl
    | cons c rest => simp [show isDigit c = false from hrest c rfl]
  simp [nanos?, takeWhile_isDigit_append (isDigit_of_mem_padded width n) (hlength ▸ hnine) hrest,
    hsome, digitsValue_padded, hlength, hstop]

theorem nanos?_fractionText (hn : n < 1000000000) :
    nanos? (fractionText n .fitting ++ ['Z']) = some (n, ['Z']) := by
  have hrest : ∀ c ∈ (['Z'] : List Char).head?, isDigit c = false := by
    rintro c ⟨⟩
    rfl
  simp only [fractionText]
  split
  · rename_i hzero
    rw [hzero]
    rfl
  split
  · rw [nanos?_padded (by omega) (by omega) (by omega) hrest]
    congr 2
    omega
  split
  · rw [nanos?_padded (by omega) (by omega) (by omega) hrest]
    congr 2
    omega
  · rw [nanos?_padded (by omega) (by omega) (by omega) hrest]
    congr 2
    omega

/-! ## Instants -/

/-- Whether the instant can be written: within the calendar, and with more than a second of
nanoseconds only at the end of a minute. -/
def Instant.IsWritable (t : Instant) : Prop :=
  t.isValid = true ∧
    (t.nanos < 1000000000 ∨ t.nanos < 2000000000 ∧ t.seconds % 60 = 59)

variable {date : Date} {gap : List Char → List Char}

theorem date?_text (hgap : ∀ cs, gap ('-' :: cs) = '-' :: cs) (hmonth : date.month < 100)
    (hday : date.day < 100) (hrest : ∀ c ∈ rest.head?, isDigit c = false) :
    date? gap (yearText date.year ++ '-' :: (padded 2 date.month ++
      '-' :: (padded 2 date.day ++ rest))) = some (date, rest) := by
  have hdash (cs : List Char) : char? '-' (gap ('-' :: cs)) = some cs := by
    rw [hgap, char?, if_pos rfl]
  have hstop (cs : List Char) : ∀ c ∈ ('-' :: cs).head?, isDigit c = false := by
    rintro c ⟨⟩
    decide
  simp only [date?, year?_yearText _ (hstop _), hdash, field?_padded hmonth (hstop _),
    field?_padded hday hrest, Option.bind_eq_bind, Option.bind_some, Option.pure_def]

theorem time?_text {hour minute second : Nat} (hgap : ∀ cs, gap (':' :: cs) = ':' :: cs)
    (hhour : hour < 100) (hminute : minute < 100) (hsecond : second < 100)
    (hrest : ∀ c ∈ rest.head?, isDigit c = false) :
    time? gap (padded 2 hour ++ ':' :: (padded 2 minute ++
      ':' :: (padded 2 second ++ rest))) = some ((hour, minute, second), rest) := by
  have hcolon (cs : List Char) : char? ':' (gap (':' :: cs)) = some cs := by
    rw [hgap, char?, if_pos rfl]
  have hstop (cs : List Char) : ∀ c ∈ (':' :: cs).head?, isDigit c = false := by
    rintro c ⟨⟩
    decide
  simp only [time?, hcolon, field?_padded hhour (hstop _), field?_padded hminute (hstop _),
    field?_padded hsecond hrest, Option.bind_eq_bind, Option.bind_some, Option.pure_def]

theorem head?_fractionText (nanos : Nat) (fraction : Fraction) :
    ∀ c ∈ (fractionText nanos fraction ++ ['Z']).head?, isDigit c = false := by
  have hpoint : isDigit '.' = false ∧ isDigit 'Z' = false := by decide
  cases fraction <;> simp only [fractionText] <;> repeat' split
  all_goals simp [hpoint]

/-- The text of an instant as a date, a time of day and the rest. -/
theorem toList_render (fraction : Fraction) (t : Instant) :
    (t.render fraction).toList =
      yearText (Date.ofNumber (t.seconds / 86400)).year ++
        '-' :: (padded 2 (Date.ofNumber (t.seconds / 86400)).month ++
          '-' :: (padded 2 (Date.ofNumber (t.seconds / 86400)).day ++
            'T' :: (padded 2 ((t.seconds % 86400).toNat / 3600) ++
              ':' :: (padded 2 ((t.seconds % 86400).toNat / 60 % 60) ++
                ':' :: (padded 2 ((t.seconds % 86400).toNat % 60 + t.nanos / 1000000000) ++
                  (fractionText (t.nanos % 1000000000) fraction ++ ['Z'])))))) := by
  simp [Instant.render]

theorem Instant.isValid_date {t : Instant} (h : t.isValid = true) :
    (Date.ofNumber (t.seconds / 86400)).isValid = true := by
  simp only [Instant.isValid, Bool.and_eq_true, decide_eq_true_eq] at h
  exact Date.isValid_ofNumber h.1 h.2

theorem Date.le_of_isValid (h : date.isValid = true) : date.month ≤ 12 ∧ date.day ≤ 31 := by
  simp only [Date.isValid, Bool.and_eq_true, decide_eq_true_eq] at h
  obtain ⟨⟨⟨⟨-, -⟩, hmonth⟩, -⟩, hday⟩ := h
  have hlong : daysInMonth date.year date.month ≤ 31 := by
    unfold daysInMonth
    split <;> try split
    all_goals omega
  omega

/-- The fields that an instant is written with make it again. -/
theorem instant?_fields {t : Instant} (h : t.IsWritable) :
    Fields.instant? ⟨Date.ofNumber (t.seconds / 86400), (t.seconds % 86400).toNat / 3600,
      (t.seconds % 86400).toNat / 60 % 60,
      (t.seconds % 86400).toNat % 60 + t.nanos / 1000000000, t.nanos % 1000000000⟩ 0 = some t := by
  obtain ⟨seconds, nanos⟩ := t
  obtain ⟨hvalid, hnanos⟩ := h
  have hdate := Instant.isValid_date hvalid
  have hnumber := Date.number_ofNumber (seconds / 86400)
  simp only at hnanos hdate ⊢
  have hhour : (seconds % 86400).toNat / 3600 < 24 := by omega
  have hminute : (seconds % 86400).toNat / 60 % 60 < 60 := by omega
  have hsecond : (seconds % 86400).toNat % 60 + nanos / 1000000000 ≤ 60 := by omega
  have hleap : (seconds % 86400).toNat % 60 + nanos / 1000000000 = 60 ↔
      ¬ nanos < 1000000000 := by omega
  have hsame : (⟨(Date.ofNumber (seconds / 86400)).number * 86400 +
        ((seconds % 86400).toNat / 3600 : Nat) * 3600 +
        ((seconds % 86400).toNat / 60 % 60 : Nat) * 60 +
        (min ((seconds % 86400).toNat % 60 + nanos / 1000000000) 59 : Nat) - 0,
      nanos % 1000000000 +
        (if (seconds % 86400).toNat % 60 + nanos / 1000000000 = 60 then 1000000000 else 0)⟩ :
      Instant) = ⟨seconds, nanos⟩ := by
    rw [hnumber]
    congr 1
    · omega
    · simp only [hleap]
      split <;> omega
  simp only [Fields.instant?, hdate, hhour, hminute, hsecond, decide_true, Bool.and_self, if_true]
  rw [hsame, if_pos hvalid]

theorem loose?_render {t : Instant} (h : t.IsWritable) :
    loose? (t.render .fitting).toList = some t := by
  have hdate := Date.le_of_isValid (Instant.isValid_date h.1)
  have hmark (cs : List Char) : dateTimeMark? ('T' :: cs) = some cs := rfl
  have hstop (cs : List Char) : ∀ c ∈ ('T' :: cs).head?, isDigit c = false := by
    rintro c ⟨⟩
    decide
  have hzone : looseOffset? (skipBlank ['Z']) = some (0, []) := by decide
  have hoffset : checkedOffset? 0 = some 0 := rfl
  have hleap : t.nanos / 1000000000 < 2 := by
    have := h.2
    omega
  rw [toList_render, loose?, date?_text (fun _ => rfl) (by omega) (by omega) (hstop _)]
  simp only [Option.bind_eq_bind, Option.bind_some, hmark]
  rw [time?_text (fun _ => rfl) (by omega) (by omega) (by omega) (head?_fractionText _ _)]
  simp only [Option.bind_some]
  rw [nanos?_fractionText (by omega)]
  simp only [Option.bind_some, hzone, hoffset]
  exact instant?_fields h

/-- An instant that is made of fields can be written, if its offset is one of minutes. -/
theorem Fields.isWritable_of_instant? {f : Fields} {offset : Int} {t : Instant}
    (h : f.instant? offset = some t) (hnanos : f.nanos < 1000000000)
    (hoffset : offset % 60 = 0) : t.IsWritable := by
  simp only [Fields.instant?, Option.ite_none_right_eq_some, Option.some.injEq] at h
  obtain ⟨-, hvalid, rfl⟩ := h
  refine ⟨hvalid, ?_⟩
  dsimp only
  by_cases hleap : f.second = 60
  · rw [if_pos hleap]
    exact .inr (by omega)
  · rw [if_neg hleap]
    exact .inl (by omega)

theorem nanos?_lt {cs : List Char} {nanos : Nat} (h : nanos? cs = some (nanos, rest)) :
    nanos < 1000000000 := by
  unfold nanos? at h
  split at h
  · rename_i cs
    have hlength : ((cs.take 9).takeWhile isDigit).length ≤ 9 :=
      Nat.le_trans (List.takeWhile_sublist _).length_le (List.length_take_le 9 cs)
    dsimp only at h
    generalize (cs.take 9).takeWhile isDigit = digits at h hlength
    have hvalue := Decimal.digitsValue_lt digits 0
    split at h
    · cases h
    · simp only [Option.some.injEq, Prod.mk.injEq] at h
      calc nanos = digitsValue 0 digits * 10 ^ (9 - digits.length) := h.1.symm
        _ < ((0 + 1) * 10 ^ digits.length) * 10 ^ (9 - digits.length) :=
          Nat.mul_lt_mul_of_pos_right hvalue (Nat.pow_pos (by omega))
        _ = 10 ^ 9 := by rw [Nat.zero_add, Nat.one_mul, ← Nat.pow_add, Nat.add_sub_cancel' hlength]
        _ = 1000000000 := rfl
  · simp only [Option.some.injEq, Prod.mk.injEq] at h
    omega

theorem signedOffset?_minutes {colon? : List Char → Option (List Char)} {cs : List Char}
    {offset : Int} (h : signedOffset? colon? cs = some (offset, rest)) : offset % 60 = 0 := by
  unfold signedOffset? at h
  split at h <;> simp only [Option.bind_eq_bind, Option.bind_some, Option.bind_none,
    Option.bind_eq_some_iff, Option.pure_def, Option.ite_none_right_eq_some, Option.some.injEq,
    Prod.mk.injEq, reduceCtorEq] at h
  all_goals
    obtain ⟨⟨hours, _⟩, -, _, -, ⟨minutes, _⟩, -, -, hoffset, -⟩ := h
    split at hoffset <;> omega

theorem offset?_minutes {colon? : List Char → Option (List Char)} {cs : List Char} {offset : Int}
    (h : offset? colon? cs = some (offset, rest)) : offset % 60 = 0 := by
  unfold offset? at h
  split at h
  · simp only [Option.some.injEq, Prod.mk.injEq] at h
    omega
  · simp only [Option.some.injEq, Prod.mk.injEq] at h
    omega
  · exact signedOffset?_minutes h

theorem looseOffset?_minutes {cs : List Char} {offset : Int}
    (h : looseOffset? cs = some (offset, rest)) : offset % 60 = 0 := by
  unfold looseOffset? at h
  split at h
  · simp only [Option.some.injEq, Prod.mk.injEq] at h
    omega
  · exact offset?_minutes h

theorem eq_of_checkedOffset? {offset checked : Int} (h : checkedOffset? offset = some checked) :
    checked = offset := by
  unfold checkedOffset? at h
  split at h <;> simp_all

theorem isWritable_of_loose? {cs : List Char} {t : Instant} (h : loose? cs = some t) :
    t.IsWritable := by
  simp only [loose?, Option.bind_eq_bind, Option.bind_eq_some_iff] at h
  obtain ⟨⟨date, rest⟩, -, rest', -, ⟨⟨hour, minute, second⟩, rest''⟩, -, ⟨nanos, last⟩, hnanos,
    ⟨offset, last'⟩, hoffset, h⟩ := h
  split at h
  · obtain ⟨offset', hchecked, hinstant⟩ := Option.bind_eq_some_iff.1 h
    obtain rfl := eq_of_checkedOffset? hchecked
    exact Fields.isWritable_of_instant? hinstant (nanos?_lt hnanos) (looseOffset?_minutes hoffset)
  · cases h

end Calendar

end TypedGraph
