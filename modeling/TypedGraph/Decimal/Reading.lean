import TypedGraph.Decimal.Shortest

/-!
# Reading numbers

Numerals are read from characters. `natural?` accepts decimal digits alone and
`number?` a signed decimal with an optional fraction and exponent, or one of the
words `inf`, `infinity` and `nan` in any case. The value of a decimal is the
binary number nearest to it.
-/
namespace TypedGraph.Decimal

/-- The value of an ASCII decimal digit. -/
def digit? (c : Char) : Option Nat :=
  if '0' ≤ c ∧ c ≤ '9' then some (c.toNat - '0'.toNat) else none

def isDigit (c : Char) : Bool := (digit? c).isSome

/-- The natural that follows `n` when the digits of `cs` are written behind it. -/
def digitsValue (n : Nat) (cs : List Char) : Nat :=
  cs.foldl (fun n c => 10 * n + (digit? c).getD 0) n

/-- The natural written with the digits `cs`: at least one and nothing else. -/
def natural? (cs : List Char) : Option Nat :=
  if cs.isEmpty || !cs.all isDigit then none else some (digitsValue 0 cs)

/-- Splits off the leading digits. -/
def spanDigits (cs : List Char) : List Char × List Char := (cs.takeWhile isDigit, cs.dropWhile isDigit)

/-- A natural with an optional plus sign, below a bound. -/
def boundedNatural? (bound : Nat) (cs : List Char) : Option Nat := do
  let n ← natural? (match cs with | '+' :: rest => rest | _ => cs)
  if n < bound then some n else none

namespace Binary64

/-- The number nearest to `± digits * 10^exponent`. A decimal that starts beyond
the 400th power of ten is out of reach on either side and is not expanded. -/
def ofDecimal (negative : Bool) (digits : Nat) (exponent : Int) : Binary64 :=
  let size := exponent + digitCount digits
  if digits = 0 ∨ size < -400 then .finite negative 0
  else if size > 400 then .infinity negative
  else ofRatio negative (digits * Nat.pow 10 exponent.toNat) (Nat.pow 10 (-exponent).toNat)

end Binary64

/-- Splits off a sign: whether it is a minus, and the rest. -/
def spanSign : List Char → Bool × List Char
  | '-' :: rest => (true, rest)
  | '+' :: rest => (false, rest)
  | cs => (false, cs)

/-- The exponent behind the digits of a decimal: none written, or a marker, an
optional sign and at least one digit up to the end. -/
def exponentPart? : List Char → Option Int
  | [] => some 0
  | c :: rest =>
    if c = 'e' ∨ c = 'E' then
      let (negative, digits) := spanSign rest
      (natural? digits).map fun n => if negative then -(n : Int) else n
    else none

/-- An unsigned decimal: digits, an optional point with more of them, at least
one digit in all, and an optional exponent. -/
def decimal? (cs : List Char) : Option Numeral := do
  let (whole, rest) := spanDigits cs
  let (fraction, rest) := match rest with
    | '.' :: rest => spanDigits rest
    | _ => ([], rest)
  if whole.isEmpty && fraction.isEmpty then none
  else
    let e ← exponentPart? rest
    return ⟨digitsValue 0 (whole ++ fraction), e - fraction.length⟩

/-- The special numbers, by their words in any case. -/
def specialNumber? (negative : Bool) (cs : List Char) : Option Binary64 :=
  let word := String.ofList (cs.map Char.toLower)
  if word = "inf" ∨ word = "infinity" then some (.infinity negative)
  else if word = "nan" then some .nan
  else none

/-- A number with an optional sign. -/
def number? (cs : List Char) : Option Binary64 :=
  let (negative, body) := spanSign cs
  match decimal? body with
  | some d => some (.ofDecimal negative d.digits d.exponent)
  | none => specialNumber? negative body

end TypedGraph.Decimal
