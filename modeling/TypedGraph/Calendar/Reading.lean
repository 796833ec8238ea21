import TypedGraph.Calendar.Instant
import TypedGraph.Decimal.Reading
import TypedGraph.Text.Blank

/-!
# Reading instants

Three ways to write an instant are read. The strict form has full-width fields, a
`T` or a blank between date and time, and an offset from universal time. The loose
form lets fields be shorter, allows blanks between them and signed years. The bare
form is a date with or without a time of day, taken as universal time.

A second of 60 is a leap second in any minute.
-/
namespace TypedGraph.Calendar

open Decimal (isDigit digitsValue)

/-- The fields of an instant as they are read. -/
structure Fields where
  date : Date
  hour : Nat
  minute : Nat
  second : Nat
  nanos : Nat
deriving DecidableEq, Repr

namespace Fields

/-- The instant of the fields at an offset in seconds east of universal time. -/
def instant? (f : Fields) (offset : Int) : Option Instant :=
  if f.date.isValid && f.hour < 24 && f.minute < 60 && f.second ≤ 60 then
    let second := min f.second 59
    let nanos := f.nanos + (if f.second = 60 then 1000000000 else 0)
    let wall : Int := f.date.number * 86400 + f.hour * 3600 + f.minute * 60 + second
    let t : Instant := ⟨wall - offset, nanos⟩
    if t.isValid then some t else none
  else none

end Fields

/-- Drops white space in front. -/
def skipBlank (cs : List Char) : List Char := cs.dropWhile Text.isBlank

/-- Between `least` and `most` digits. -/
def number? (least most : Nat) (cs : List Char) : Option (Nat × List Char) :=
  let digits := (cs.take most).takeWhile isDigit
  if digits.length < least then none
  else some (digitsValue 0 digits, cs.drop digits.length)

/-- What follows an expected character. -/
def char? (c : Char) : List Char → Option (List Char)
  | d :: rest => if c = d then some rest else none
  | [] => none

/-- What follows the mark between date and time. -/
def dateTimeMark? : List Char → Option (List Char)
  | 'T' :: rest | 't' :: rest | ' ' :: rest => some rest
  | _ => none

/-- A fraction of a second, if a point follows; digits beyond the ninth are dropped. -/
def nanos? : List Char → Option (Nat × List Char)
  | '.' :: rest =>
    let digits := (rest.take 9).takeWhile isDigit
    if digits.isEmpty then none
    else
      some (digitsValue 0 digits * Nat.pow 10 (9 - digits.length),
        (rest.drop digits.length).dropWhile isDigit)
  | cs => some (0, cs)

/-- Hours and minutes of an offset, with a sign in front; `colon?` reads what stands
between them. -/
def signedOffset? (colon? : List Char → Option (List Char)) (cs : List Char) :
    Option (Int × List Char) := do
  let (negative, rest) ← match cs with
    | '+' :: rest => some (false, rest)
    | '-' :: rest => some (true, rest)
    | '\u2212' :: rest => some (true, rest)
    | _ => none
  let (hours, rest) ← number? 2 2 rest
  let rest ← colon? rest
  let (minutes, rest) ← number? 2 2 rest
  if minutes < 60 then
    let seconds : Int := hours * 3600 + minutes * 60
    return (if negative then -seconds else seconds, rest)
  else none

/-- An offset: `Z` or hours and minutes. -/
def offset? (colon? : List Char → Option (List Char)) : List Char → Option (Int × List Char)
  | 'Z' :: rest | 'z' :: rest => some (0, rest)
  | cs => signedOffset? colon? cs

/-- Offsets are shorter than a day. -/
def checkedOffset? (offset : Int) : Option Int := if offset.natAbs < 86400 then some offset else none

/-- The strict form. -/
def strict? (cs : List Char) : Option Instant := do
  let (year, cs) ← number? 4 4 cs
  let (month, cs) ← number? 2 2 (← char? '-' cs)
  let (day, cs) ← number? 2 2 (← char? '-' cs)
  let (hour, cs) ← number? 2 2 (← dateTimeMark? cs)
  let (minute, cs) ← number? 2 2 (← char? ':' cs)
  let (second, cs) ← number? 2 2 (← char? ':' cs)
  let (nanos, cs) ← nanos? cs
  let (offset, cs) ← offset? (char? ':') cs
  if cs.isEmpty then
    Fields.instant? ⟨⟨year, month, day⟩, hour, minute, second, nanos⟩ (← checkedOffset? offset)
  else none

/-- A year behind white space: up to four digits, or any number of them with a sign. -/
def year? (cs : List Char) : Option (Int × List Char) :=
  match skipBlank cs with
  | '-' :: rest => (number? 1 rest.length rest).map fun (n, rest) => (-(n : Int), rest)
  | '+' :: rest => (number? 1 rest.length rest).map fun (n, rest) => ((n : Int), rest)
  | rest => (number? 1 4 rest).map fun (n, rest) => ((n : Int), rest)

/-- One or two digits behind white space. -/
def field? (cs : List Char) : Option (Nat × List Char) := number? 1 2 (skipBlank cs)

/-- A date whose fields `gap` may set apart from the hyphens. -/
def date? (gap : List Char → List Char) (cs : List Char) : Option (Date × List Char) := do
  let (year, cs) ← year? cs
  let (month, cs) ← field? (← char? '-' (gap cs))
  let (day, cs) ← field? (← char? '-' (gap cs))
  return (⟨year, month, day⟩, cs)

/-- A time of day whose fields `gap` may set apart from the colons. -/
def time? (gap : List Char → List Char) (cs : List Char) : Option ((Nat × Nat × Nat) × List Char) := do
  let (hour, cs) ← field? cs
  let (minute, cs) ← field? (← char? ':' (gap cs))
  let (second, cs) ← field? (← char? ':' (gap cs))
  return ((hour, minute, second), cs)

/-- Drops colons and white space in front. -/
def skipColons (cs : List Char) : List Char := cs.dropWhile fun c => c == ':' || Text.isBlank c

/-- The offset of the loose form, which may also be called `UTC`. -/
def looseOffset? (cs : List Char) : Option (Int × List Char) :=
  if (cs.take 3).map Char.toUpper = ['U', 'T', 'C'] then some (0, cs.drop 3)
  else offset? (fun cs => some (skipColons cs)) cs

/-- The loose form. -/
def loose? (cs : List Char) : Option Instant := do
  let (date, cs) ← date? skipBlank cs
  let ((hour, minute, second), cs) ← time? skipBlank (← dateTimeMark? cs)
  let (nanos, cs) ← nanos? cs
  let (offset, cs) ← looseOffset? (skipBlank cs)
  if (skipBlank cs).isEmpty then
    Fields.instant? ⟨date, hour, minute, second, nanos⟩ (← checkedOffset? offset)
  else none

/-- The bare form with a time of day behind what `mark?` reads. -/
def bareTime? (mark? : List Char → Option (List Char)) (cs : List Char) : Option Instant := do
  let (date, cs) ← date? id cs
  let ((hour, minute, second), cs) ← time? id (← mark? cs)
  if cs.isEmpty then Fields.instant? ⟨date, hour, minute, second, 0⟩ 0 else none

/-- The bare form without a time of day: midnight. -/
def bareDate? (cs : List Char) : Option Instant := do
  let (date, cs) ← date? id cs
  if cs.isEmpty then Fields.instant? ⟨date, 0, 0, 0, 0⟩ 0 else none

/-- The instant of a text in the strict or a bare form, white space around it
ignored. -/
def instant? (s : String) : Option Instant :=
  let cs := Text.trim s.toList
  strict? cs <|> bareTime? (fun cs => some (skipBlank cs)) cs <|> bareTime? (char? 'T') cs
    <|> bareDate? cs

/-- The instant of a time stamp, in the loose form. -/
def timestamp? (s : String) : Option Instant := loose? s.toList

end TypedGraph.Calendar
