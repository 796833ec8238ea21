import TypedGraph.Proofs.Coercions
import TypedGraph.Proofs.Instants

/-!
# Dates written again

A value that stands for an instant is converted to the text of the instant in universal time, with
three digits of the fraction of a second. This text is read as the instant without the rest of the
fraction, so that its conversion gives the text again; but only if the year has four digits
(`Calendar.instant?_render`). Outside of the years 0 to 9999 it begins with a sign, and none of the
forms that are read takes a sign and a fraction. So a date is stable exactly within these years, and
its conversion fails otherwise (`Conversion.dates_stable_iff`).
-/
namespace TypedGraph

namespace Calendar

open Decimal (isDigit)

variable {t : Instant} {date : Date} {cs rest : List Char}

/-! ## Years of four digits -/

namespace Instant

/-- The year that an instant falls into. -/
def year (t : Instant) : Int := (Date.ofNumber (t.seconds / 86400)).year

/-- Whether the year is written with four digits and without a sign. -/
def HasShortYear (t : Instant) : Prop := 0 ≤ t.year ∧ t.year ≤ 9999

instance (t : Instant) : Decidable t.HasShortYear := inferInstanceAs (Decidable (_ ∧ _))

/-- The instant with whole milliseconds only. -/
def toMillis (t : Instant) : Instant := { t with nanos := t.nanos / 1000000 * 1000000 }

theorem render_toMillis (t : Instant) : t.toMillis.render .millis = t.render .millis := by
  have hleap : t.nanos / 1000000 * 1000000 / 1000000000 = t.nanos / 1000000000 := by omega
  have hmillis : t.nanos / 1000000 * 1000000 % 1000000000 / 1000000 =
      t.nanos % 1000000000 / 1000000 := by omega
  simp only [render, toMillis, fractionText, hleap, hmillis]

theorem IsWritable.toMillis (h : t.IsWritable) : t.toMillis.IsWritable := by
  obtain ⟨hvalid, hnanos⟩ := h
  refine ⟨hvalid, ?_⟩
  simp only [Instant.toMillis]
  omega

end Instant

theorem nanos?_millis {nanos : Nat} (h : nanos < 1000000000) :
    nanos? (fractionText nanos .millis ++ ['Z']) = some (nanos / 1000000 * 1000000, ['Z']) := by
  have hrest : ∀ c ∈ (['Z'] : List Char).head?, isDigit c = false := by
    rintro c ⟨⟩
    rfl
  exact nanos?_padded (by omega) (by omega) (by omega) hrest

theorem number?_yearText {year : Int} (h : 0 ≤ year ∧ year ≤ 9999)
    (hrest : ∀ c ∈ rest.head?, isDigit c = false) :
    number? 4 4 (yearText year ++ rest) = some (year.natAbs, rest) := by
  have hlength : (padded 4 year.natAbs).length = 4 := length_padded (by omega) (by omega)
  rw [yearText, if_pos h]
  exact number?_padded (by omega) (by omega) hrest

theorem number?_two {n : Nat} (hn : n < 100) (hrest : ∀ c ∈ rest.head?, isDigit c = false) :
    number? 2 2 (padded 2 n ++ rest) = some (n, rest) := by
  have hlength : (padded 2 n).length = 2 := length_padded (by omega) hn
  exact number?_padded (by omega) (by omega) hrest

/-- A field of two digits and the mark in front of it are read together. -/
theorem bind_marked_eq_some {mark? : List Char → Option (List Char)} {mark : Char} {n : Nat}
    {f : Nat × List Char → Option Instant} (hmark : ∀ cs, mark? (mark :: cs) = some cs)
    (hn : n < 100) (hrest : ∀ c ∈ rest.head?, isDigit c = false) (hf : f (n, rest) = some t) :
    ((mark? (mark :: (padded 2 n ++ rest))).bind fun cs => (number? 2 2 cs).bind f) = some t := by
  rw [hmark, Option.bind_some, number?_two hn hrest]
  exact hf

theorem strict?_render_of_millis (h : t.IsWritable) (hyear : t.HasShortYear)
    (hmillis : t.nanos % 1000000 = 0) : strict? (t.render .millis).toList = some t := by
  have hmark (cs : List Char) : dateTimeMark? ('T' :: cs) = some cs := rfl
  have hdash (cs : List Char) : char? '-' ('-' :: cs) = some cs := rfl
  have hcolon (cs : List Char) : char? ':' (':' :: cs) = some cs := rfl
  have hstop {c : Char} (hc : isDigit c = false) (cs : List Char) :
      ∀ d ∈ (c :: cs).head?, isDigit d = false := by
    rintro d ⟨⟩
    exact hc
  replace hyear : 0 ≤ (Date.ofNumber (t.seconds / 86400)).year ∧
    (Date.ofNumber (t.seconds / 86400)).year ≤ 9999 := hyear
  have hdate := Date.le_of_isValid (Instant.isValid_date h.1)
  have hmonth : (Date.ofNumber (t.seconds / 86400)).month < 100 := by omega
  have hday : (Date.ofNumber (t.seconds / 86400)).day < 100 := by omega
  have hhour : (t.seconds % 86400).toNat / 3600 < 100 := by omega
  have hminute : (t.seconds % 86400).toNat / 60 % 60 < 100 := by omega
  have hsecond : (t.seconds % 86400).toNat % 60 + t.nanos / 1000000000 < 100 := by
    have := h.2
    omega
  have hnanos : nanos? (fractionText (t.nanos % 1000000000) .millis ++ ['Z']) =
      some (t.nanos % 1000000000, ['Z']) := by
    rw [nanos?_millis (by omega), show t.nanos % 1000000000 / 1000000 * 1000000 =
      t.nanos % 1000000000 by omega]
  have hzone : offset? (char? ':') ['Z'] = some (0, []) := rfl
  have hoffset : checkedOffset? 0 = some 0 := rfl
  rw [toList_render, strict?]
  refine Option.bind_eq_some_iff.2 ⟨_, number?_yearText hyear (hstop (by decide) _), ?_⟩
  refine bind_marked_eq_some hdash hmonth (hstop (by decide) _) ?_
  refine bind_marked_eq_some hdash hday (hstop (by decide) _) ?_
  refine bind_marked_eq_some hmark hhour (hstop (by decide) _) ?_
  refine bind_marked_eq_some hcolon hminute (hstop (by decide) _) ?_
  refine bind_marked_eq_some hcolon hsecond (head?_fractionText _ _) ?_
  refine Option.bind_eq_some_iff.2 ⟨_, hnanos, Option.bind_eq_some_iff.2 ⟨_, hzone, ?_⟩⟩
  refine (if_pos rfl).trans (Option.bind_eq_some_iff.2 ⟨_, hoffset, ?_⟩)
  rw [Int.natAbs_of_nonneg hyear.1]
  exact instant?_fields h

/-- In a year of four digits, what is written of an instant is read in the strict form. -/
theorem strict?_render (h : t.IsWritable) (hyear : t.HasShortYear) :
    strict? (t.render .millis).toList = some t.toMillis := by
  rw [← Instant.render_toMillis]
  exact strict?_render_of_millis h.toMillis hyear (Nat.mul_mod_left ..)

/-! ## Years with a sign -/

theorem exists_yearText_eq {year : Int} (h : ¬ (0 ≤ year ∧ year ≤ 9999)) :
    ∃ c digits, yearText year = c :: digits ∧ isDigit c = false := by
  rw [yearText, if_neg h]
  exact ⟨_, _, rfl, by split <;> decide⟩

theorem number?_of_not_isDigit {least most : Nat} {c : Char} (hleast : 0 < least)
    (hc : isDigit c = false) : number? least most (c :: cs) = none := by
  have hnone : ((c :: cs).take most).takeWhile isDigit = [] := by
    cases most <;> simp [hc]
  rw [number?, hnone]
  exact if_pos hleast

theorem strict?_render_eq_none (hyear : ¬ t.HasShortYear) :
    strict? (t.render .millis).toList = none := by
  obtain ⟨c, digits, htext, hc⟩ := exists_yearText_eq hyear
  rw [Instant.year] at htext
  rw [toList_render, htext, List.cons_append, strict?, number?_of_not_isDigit (by omega) hc]
  rfl

/-- The bare form reads the date of what is written, and leaves the time of day. -/
theorem exists_date?_render (h : t.IsWritable) :
    ∃ hour minute second nanos, hour < 100 ∧ minute < 100 ∧ second < 100 ∧
      date? id (t.render .millis).toList = some (Date.ofNumber (t.seconds / 86400),
        'T' :: (padded 2 hour ++ ':' :: (padded 2 minute ++ ':' :: (padded 2 second ++
          (fractionText nanos .millis ++ ['Z']))))) := by
  have hdate := Date.le_of_isValid (Instant.isValid_date h.1)
  have hleap := h.2
  refine ⟨(t.seconds % 86400).toNat / 3600, (t.seconds % 86400).toNat / 60 % 60,
    (t.seconds % 86400).toNat % 60 + t.nanos / 1000000000, t.nanos % 1000000000,
    by omega, by omega, by omega, ?_⟩
  rw [toList_render, date?_text (fun _ => rfl) (by omega) (by omega)]
  rintro c ⟨⟩
  decide

/-- A time of day does not begin with the mark in front of it, and takes no fraction. -/
theorem bareTime?_render (h : t.IsWritable) :
    bareTime? (fun cs => some (skipBlank cs)) (t.render .millis).toList = none ∧
      bareTime? (char? 'T') (t.render .millis).toList = none ∧
      bareDate? (t.render .millis).toList = none := by
  obtain ⟨hour, minute, second, nanos, hhour, hminute, hsecond, hdate⟩ := exists_date?_render h
  have hblank (cs : List Char) : skipBlank ('T' :: cs) = 'T' :: cs := rfl
  have hmark (cs : List Char) : char? 'T' ('T' :: cs) = some cs := rfl
  have hfield (cs : List Char) : field? ('T' :: cs) = none := by
    rw [field?, hblank, number?_of_not_isDigit (by omega) (by decide)]
  have htime : time? id _ = some ((hour, minute, second), fractionText nanos .millis ++ ['Z']) :=
    time?_text (fun _ => rfl) hhour hminute hsecond (head?_fractionText nanos .millis)
  have hrest : (fractionText nanos .millis ++ ['Z']).isEmpty = false := by simp
  refine ⟨?_, ?_, ?_⟩
  · simp only [bareTime?, hdate, Option.bind_eq_bind, Option.bind_some, hblank, time?, hfield,
      Option.bind_none]
  · simp only [bareTime?, hdate, Option.bind_eq_bind, Option.bind_some, hmark, htime, hrest,
      Bool.false_eq_true, if_false]
  · simp only [bareDate?, hdate, Option.bind_eq_bind, Option.bind_some, List.isEmpty_cons,
      Bool.false_eq_true, if_false]

theorem isBlank_of_mem_padded (width n : Nat) :
    ∀ c ∈ padded width n, Text.isBlank c = false :=
  fun c hc => isBlank_of_isDigit (isDigit_of_mem_padded width n c hc)

theorem isBlank_of_mem_render (t : Instant) :
    ∀ c ∈ (t.render .millis).toList, Text.isBlank c = false := by
  have hmarks : Text.isBlank '-' = false ∧ Text.isBlank '+' = false ∧ Text.isBlank 'T' = false ∧
      Text.isBlank ':' = false ∧ Text.isBlank '.' = false ∧ Text.isBlank 'Z' = false := by decide
  obtain ⟨hdash, hplus, hmark, hcolon, hpoint, hzone⟩ := hmarks
  have hyear (year : Int) : ∀ c ∈ yearText year, Text.isBlank c = false := by
    unfold yearText
    split
    · exact isBlank_of_mem_padded _ _
    · rw [List.forall_mem_cons]
      refine ⟨?_, isBlank_of_mem_padded _ _⟩
      split
      · exact hdash
      · exact hplus
  have hnone : ∀ c ∈ ([] : List Char), Text.isBlank c = false := nofun
  rw [toList_render]
  simp only [fractionText, List.cons_append, List.forall_mem_append, List.forall_mem_cons, hdash,
    hmark, hcolon, hpoint, hzone, true_and]
  exact ⟨hyear _, isBlank_of_mem_padded _ _, isBlank_of_mem_padded _ _, isBlank_of_mem_padded _ _,
    isBlank_of_mem_padded _ _, isBlank_of_mem_padded _ _, isBlank_of_mem_padded _ _, hnone⟩

/-- What is written of an instant is read again up to milliseconds, in years of four digits. In
other years nothing is read of it. -/
theorem instant?_render (h : t.IsWritable) :
    instant? (t.render .millis) = if t.HasShortYear then some t.toMillis else none := by
  rw [instant?, Text.trim_eq_self (isBlank_of_mem_render t)]
  obtain ⟨hspaced, hmarked, hdate⟩ := bareTime?_render h
  split
  · next hyear => simp [strict?_render h hyear]
  · next hyear => simp [strict?_render_eq_none hyear, hspaced, hmarked, hdate]

/-! ## What is read can be written -/

theorem isWritable_of_strict? (h : strict? cs = some t) : t.IsWritable := by
  unfold strict? at h
  obtain ⟨⟨year, _⟩, -, h⟩ := Option.bind_eq_some_iff.1 h
  obtain ⟨_, -, h⟩ := Option.bind_eq_some_iff.1 h
  obtain ⟨⟨month, _⟩, -, h⟩ := Option.bind_eq_some_iff.1 h
  obtain ⟨_, -, h⟩ := Option.bind_eq_some_iff.1 h
  obtain ⟨⟨day, _⟩, -, h⟩ := Option.bind_eq_some_iff.1 h
  obtain ⟨_, -, h⟩ := Option.bind_eq_some_iff.1 h
  obtain ⟨⟨hour, _⟩, -, h⟩ := Option.bind_eq_some_iff.1 h
  obtain ⟨_, -, h⟩ := Option.bind_eq_some_iff.1 h
  obtain ⟨⟨minute, _⟩, -, h⟩ := Option.bind_eq_some_iff.1 h
  obtain ⟨_, -, h⟩ := Option.bind_eq_some_iff.1 h
  obtain ⟨⟨second, _⟩, -, h⟩ := Option.bind_eq_some_iff.1 h
  obtain ⟨⟨nanos, _⟩, hnanos, h⟩ := Option.bind_eq_some_iff.1 h
  obtain ⟨⟨offset, _⟩, hoffset, h⟩ := Option.bind_eq_some_iff.1 h
  dsimp only at h
  split at h
  · obtain ⟨offset', hchecked, hinstant⟩ := Option.bind_eq_some_iff.1 h
    obtain rfl := eq_of_checkedOffset? hchecked
    exact Fields.isWritable_of_instant? hinstant (nanos?_lt hnanos) (offset?_minutes hoffset)
  · cases h

theorem isWritable_of_bareTime? {mark? : List Char → Option (List Char)}
    (h : bareTime? mark? cs = some t) : t.IsWritable := by
  simp only [bareTime?, Option.bind_eq_bind, Option.bind_eq_some_iff] at h
  obtain ⟨⟨date, _⟩, -, _, -, ⟨⟨hour, minute, second⟩, _⟩, -, h⟩ := h
  split at h
  · exact Fields.isWritable_of_instant? h (Nat.succ_pos _) rfl
  · cases h

theorem isWritable_of_bareDate? (h : bareDate? cs = some t) : t.IsWritable := by
  simp only [bareDate?, Option.bind_eq_bind, Option.bind_eq_some_iff] at h
  obtain ⟨⟨date, _⟩, -, h⟩ := h
  split at h
  · exact Fields.isWritable_of_instant? h (Nat.succ_pos _) rfl
  · cases h

theorem isWritable_of_instant? {s : String} (h : instant? s = some t) : t.IsWritable := by
  simp only [instant?, Option.orElse_eq_orElse, Option.orElse_eq_or, Option.or_eq_some_iff] at h
  rcases h with h | ⟨-, h | ⟨-, h | ⟨-, h⟩⟩⟩
  · exact isWritable_of_strict? h
  · exact isWritable_of_bareTime? h
  · exact isWritable_of_bareTime? h
  · exact isWritable_of_bareDate? h

theorem isWritable_of_ofMillis? {ms : Int} (h : Instant.ofMillis? ms = some t) :
    t.IsWritable := by
  simp only [Instant.ofMillis?, Option.ite_none_right_eq_some, Option.some.injEq] at h
  obtain ⟨hvalid, rfl⟩ := h
  refine ⟨hvalid, .inl ?_⟩
  dsimp only
  omega

end Calendar

namespace Conversion

open Calendar (Instant instant?)

/-! ## Converting again -/

/-- The instant that a value stands for: milliseconds since the start of 1970, or a text. -/
def instantOf? : Json → Option Instant
  | .number (.int n) =>
    if -(Nat.pow 2 63 : Int) ≤ n ∧ n < Nat.pow 2 63 then Instant.ofMillis? n else none
  | .string s => instant? s
  | _ => none

/-- Whether a value is converted to a date that is written as `s`. -/
def YieldsDate (v : Json) (s : String) : Prop :=
  convert .date (some v) = some { given := v, converted := some (.string s) }

variable {v : Json} {s : String} {t : Instant}

theorem isWritable_of_instantOf? (h : instantOf? v = some t) : t.IsWritable := by
  unfold instantOf? at h
  split at h
  · exact Calendar.isWritable_of_ofMillis? (Option.ite_none_right_eq_some.1 h).2
  · exact Calendar.isWritable_of_instant? h
  · cases h

theorem instant?_null : instant? "null" = none := by decide +kernel

/-- A value that stands for an instant is converted to its text, and no other one is converted. -/
theorem convert_date_cases (v : Json) :
    (∃ t, instantOf? v = some t ∧ YieldsDate v (t.render .millis)) ∨
      instantOf? v = none ∧ ∃ failure : Failure,
        convert .date (some v) = some { given := v, error := some failure.message } := by
  cases v with
  | null => exact .inr ⟨rfl, .noValue, rfl⟩
  | bool | array | object => exact .inr ⟨rfl, .notDateLike, rfl⟩
  | number n =>
    cases n with
    | float => exact .inr ⟨rfl, .timestampOutOfRange, rfl⟩
    | int n =>
      unfold YieldsDate
      rw [convert_eq_map_attempt (v := .number (.int n)) nofun nofun, attempt, instantOf?]
      by_cases hword : -(Nat.pow 2 63 : Int) ≤ n ∧ n < Nat.pow 2 63
      · simp only [if_pos hword]
        cases Instant.ofMillis? n with
        | some t => exact .inl ⟨t, rfl, rfl⟩
        | none => exact .inr ⟨rfl, .timestampOutOfRange, rfl⟩
      · simp only [if_neg hword, true_and]
        exact .inr ⟨.timestampOutOfRange, rfl⟩
  | string s =>
    by_cases hs : s = "null"
    · rw [hs]
      exact .inr ⟨instant?_null, .noValue, rfl⟩
    · unfold YieldsDate
      rw [convert_text hs, attempt, instantOf?]
      cases instant? s with
      | some t => exact .inl ⟨t, rfl, rfl⟩
      | none => exact .inr ⟨rfl, .notADate s, rfl⟩

theorem YieldsDate.unique {w : String} (hs : YieldsDate v s) (hw : YieldsDate v w) : s = w := by
  simpa using hs.symm.trans hw

theorem yieldsDate_iff : YieldsDate v s ↔ ∃ t, instantOf? v = some t ∧ s = t.render .millis := by
  rcases convert_date_cases v with ⟨t, ht, hyields⟩ | ⟨hnone, failure, hfailed⟩
  · simp only [ht, Option.some.injEq, exists_eq_left']
    exact ⟨fun hs => hs.unique hyields, fun hs => hs ▸ hyields⟩
  · simp only [hnone, reduceCtorEq, false_and, exists_false, iff_false]
    intro hs
    cases hs.symm.trans hfailed

/-- The date that is written of an instant yields itself in the years of four digits, and is not
converted in other years. -/
theorem yieldsDate_render_iff {w : String} (h : t.IsWritable) :
    YieldsDate (.string (t.render .millis)) w ↔ w = t.render .millis ∧ t.HasShortYear := by
  rw [yieldsDate_iff, instantOf?, Calendar.instant?_render h]
  split
  · next hyear => simp [hyear, Instant.render_toMillis]
  · next hyear => simp [hyear]

theorem render_ne_null (t : Instant) : t.render .millis ≠ "null" := by
  intro h
  have hmem : 'Z' ∈ (t.render .millis).toList := by simp [Calendar.toList_render]
  rw [h] at hmem
  exact absurd hmem (by decide)

theorem convert_render_of_not_hasShortYear (h : t.IsWritable) (hyear : ¬ t.HasShortYear) :
    convert .date (some (.string (t.render .millis))) =
      some { given := .string (t.render .millis),
             error := some (Failure.notADate (t.render .millis)).message } := by
  rw [convert_text (render_ne_null t), attempt, Calendar.instant?_render h, if_neg hyear]
  rfl

/-- A converted date is the text of an instant. Its conversion gives it again if the year of the
instant is one of 0 to 9999, and otherwise tells that the text is no date. It never gives another
text. -/
theorem dates_stable_iff (h : YieldsDate v s) :
    ∃ t, instantOf? v = some t ∧ s = t.render .millis ∧
      (YieldsDate (.string s) s ↔ t.HasShortYear) ∧
      (∀ w, YieldsDate (.string s) w → w = s) ∧
      (¬ t.HasShortYear → convert .date (some (.string s)) =
        some { given := .string s, error := some (Failure.notADate s).message }) := by
  obtain ⟨t, ht, rfl⟩ := yieldsDate_iff.1 h
  have hwritable := isWritable_of_instantOf? ht
  have hagain {w : String} := yieldsDate_render_iff (w := w) hwritable
  refine ⟨t, ht, rfl, ?_, ?_, convert_render_of_not_hasShortYear hwritable⟩
  · rw [hagain]
    exact and_iff_right rfl
  · intro w hw
    exact (hagain.1 hw).1

theorem dates_stable_iff_leapSecond :
    YieldsDate (.string "2016-12-31 23:59:60") "2016-12-31T23:59:60.000Z" ∧
      YieldsDate (.string "2016-12-31T23:59:60.000Z") "2016-12-31T23:59:60.000Z" := by
  have hyields : YieldsDate (.string "2016-12-31 23:59:60") "2016-12-31T23:59:60.000Z" := by
    unfold YieldsDate
    decide +kernel
  have hread : instantOf? (.string "2016-12-31 23:59:60") = some ⟨1483228799, 1000000000⟩ := by
    decide +kernel
  obtain ⟨t, ht, -, hagain, -⟩ := dates_stable_iff hyields
  obtain rfl : t = ⟨1483228799, 1000000000⟩ := Option.some.inj (ht.symm.trans hread)
  exact ⟨hyields, hagain.2 (by decide)⟩

/-- A time stamp of the year 10000 is converted to a text that is not converted again. -/
theorem not_dates_stable : ¬ ∀ v s, YieldsDate v s → YieldsDate (.string s) s := by
  intro h
  have hyields : YieldsDate (.int 253402300800000) "+10000-01-01T00:00:00.000Z" := by
    unfold YieldsDate
    decide +kernel
  have hagain := h _ _ hyields
  unfold YieldsDate at hagain
  revert hagain
  decide +kernel

end Conversion

end TypedGraph
