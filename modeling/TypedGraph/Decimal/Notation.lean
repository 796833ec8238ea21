import TypedGraph.Decimal.Shortest

/-!
# Written forms of numbers

A number is written with its fewest digits, either positionally or with an
exponent. Which exponents are positional, whether a whole number keeps a `.0`,
and how ties between equally near digits go, is a `Style`.
-/
namespace TypedGraph.Decimal

/-- The decisions of a written form. The leading digit of a number stands at the
power `e` of ten. -/
structure Style where
  /-- Powers `e` with `least ≤ e < bound` are written positionally; `none`: all. -/
  positional : Option (Int × Int)
  /-- Whole numbers keep a point and a zero. -/
  pointZero : Bool
  tie : Tie
deriving DecidableEq, Repr

namespace Style

/-- The form of numbers in documents: positional from `10^-5` up to `10^16`, else
with a signed exponent, and told from integers by a point or an exponent. -/
def document : Style := ⟨some (-5, 16), true, .toEven⟩

/-- The form of numbers in running text: never an exponent, whole numbers bare. -/
def plain : Style := ⟨none, false, .awayFromZero⟩

/-- Digits with the decimal point after the first `point` of them. -/
def positionalText (style : Style) (digits : List Char) (point : Int) : List Char :=
  if point ≤ 0 then '0' :: '.' :: (List.replicate (-point).toNat '0' ++ digits)
  else
    let whole := point.toNat
    if digits.length ≤ whole then
      digits ++ List.replicate (whole - digits.length) '0'
        ++ (if style.pointZero then ['.', '0'] else [])
    else digits.take whole ++ '.' :: digits.drop whole

/-- One digit, the others behind a point, and the exponent of the first. -/
def exponentText (digits : List Char) (e : Int) : List Char :=
  let mantissa := match digits with
    | [] => []
    | [d] => [d]
    | d :: rest => d :: '.' :: rest
  mantissa ++ 'e' :: (if e < 0 then '-' else '+') :: Nat.toDigits 10 e.natAbs

/-- The text of a positive decimal. -/
def decimalText (style : Style) (d : Numeral) : List Char :=
  let digits := Nat.toDigits 10 d.digits
  let point : Int := d.exponent + digits.length
  match style.positional with
  | none => style.positionalText digits point
  | some (least, bound) =>
    if least ≤ point - 1 ∧ point - 1 < bound then style.positionalText digits point
    else exponentText digits (point - 1)

/-- The text of a binary number in a style. -/
def render (style : Style) : Binary64 → String
  | .nan => "NaN"
  | .infinity negative => if negative then "-inf" else "inf"
  | .finite negative units =>
    let text := if units = 0 then (if style.pointZero then ['0', '.', '0'] else ['0'])
      else style.decimalText (.shortest style.tie units)
    String.ofList (if negative then '-' :: text else text)

end Style

end TypedGraph.Decimal
