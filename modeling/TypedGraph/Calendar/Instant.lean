import TypedGraph.Calendar.Date

/-!
# Instants

An instant is a whole second of universal time, counted from the start of 1970,
and nanoseconds within it. A leap second is the second before it with a full
second more of nanoseconds.

An instant is written as a date, a time of day and `Z`. The fraction of its second
has three digits, or as many groups of three as it needs.
-/
namespace TypedGraph.Calendar

/-- A point in universal time. -/
structure Instant where
  seconds : Int
  nanos : Nat
deriving DecidableEq, Repr, Inhabited

/-- How many digits of the fraction of a second are written. -/
inductive Fraction where
  /-- Three, the rest cut off. -/
  | millis
  /-- None, three, six or nine, as the fraction needs. -/
  | fitting
deriving DecidableEq, Repr

/-- A natural with at least `width` digits. -/
def padded (width n : Nat) : List Char :=
  let digits := Nat.toDigits 10 n
  List.replicate (width - digits.length) '0' ++ digits

/-- Four digits, with a sign outside of the years 0 to 9999. -/
def yearText (year : Int) : List Char :=
  if 0 ≤ year ∧ year ≤ 9999 then padded 4 year.natAbs
  else (if year < 0 then '-' else '+') :: padded 4 year.natAbs

def fractionText (nanos : Nat) : Fraction → List Char
  | .millis => '.' :: padded 3 (nanos / 1000000)
  | .fitting =>
    if nanos = 0 then []
    else if nanos % 1000000 = 0 then '.' :: padded 3 (nanos / 1000000)
    else if nanos % 1000 = 0 then '.' :: padded 6 (nanos / 1000)
    else '.' :: padded 9 nanos

namespace Instant

/-- Whether the instant falls into the years of the calendar. -/
def isValid (t : Instant) : Bool :=
  let year := (Date.ofNumber (t.seconds / 86400)).year
  minYear ≤ year && year ≤ maxYear

/-- The instant that many milliseconds after the start of 1970, within the calendar. -/
def ofMillis? (ms : Int) : Option Instant :=
  let t : Instant := ⟨ms / 1000, (ms % 1000).toNat * 1000000⟩
  if t.isValid then some t else none

/-- The instant in words of the calendar. -/
def render (fraction : Fraction) (t : Instant) : String :=
  let date := Date.ofNumber (t.seconds / 86400)
  let second := (t.seconds % 86400).toNat
  let leap := t.nanos / 1000000000
  let nanos := t.nanos % 1000000000
  String.ofList (yearText date.year ++ '-' :: padded 2 date.month ++ '-' :: padded 2 date.day ++
    'T' :: padded 2 (second / 3600) ++ ':' :: padded 2 (second / 60 % 60) ++
    ':' :: padded 2 (second % 60 + leap) ++ fractionText nanos fraction ++ ['Z'])

end Instant

end TypedGraph.Calendar
