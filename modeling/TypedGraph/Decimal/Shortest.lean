import TypedGraph.Decimal.Binary64

/-!
# The fewest digits that read back

The reals that round to a given binary number form an interval around it. Its
shortest decimal is the decimal with the fewest digits inside that interval and,
among those, the one nearest to the number. The search walks the grids of 1, 2,
… 17 digits and tests the two neighbours of the number on each of them in exact
arithmetic. Two equally near neighbours are told apart by a rule of the caller.
-/
namespace TypedGraph.Decimal

/-- The number `digits * 10^exponent`. -/
structure Numeral where
  digits : Nat
  exponent : Int
deriving DecidableEq, Repr

/-- Which of two equally near candidates is chosen. -/
inductive Tie where
  | toEven
  | awayFromZero
deriving DecidableEq, Repr

/-- The number of decimal digits of a natural, one for zero. -/
def digitCount (n : Nat) : Nat := (Nat.toDigits 10 n).length

namespace Numeral

/-- Compares `d` with `quarters / 4` units, exactly. -/
def compareQuarters (d : Numeral) (quarters : Nat) : Ordering :=
  compare (4 * d.digits * Nat.pow 10 d.exponent.toNat * Binary64.one)
    (quarters * Nat.pow 10 (-d.exponent).toNat)

/-- Whether `d` lies among the reals that round to `units` units: between the
midpoints to the two neighbours, the ends included when the last bit is zero.
Below a power of two the lower neighbour is half as far away. -/
def readsBack (d : Numeral) (units : Nat) : Bool :=
  let gap := Binary64.gap units
  let below := if gap > 1 && units == Nat.pow 2 52 * gap then gap else 2 * gap
  let closed := (units / gap) % 2 == 0
  let low := d.compareQuarters (4 * units - below)
  let high := d.compareQuarters (4 * units + 2 * gap)
  (low == .gt || (closed && low == .eq)) && (high == .lt || (closed && high == .eq))

/-- The least `k` with `units < 10^k` units of one, for a positive count. -/
def scale (units : Nat) : Int :=
  if units ≥ Binary64.one then digitCount (units / Binary64.one)
  else
    let inverse := (Binary64.one + units - 1) / units
    1 - (digitCount (inverse - 1) : Int)

/-- The nearer of two neighbours on a grid to `units`. -/
def nearer (tie : Tie) (units : Nat) (low high : Numeral) : Numeral :=
  let sum : Numeral := ⟨low.digits + high.digits, low.exponent⟩
  match sum.compareQuarters (8 * units), tie with
  | .gt, _ => low
  | .lt, _ => high
  | .eq, .awayFromZero => high
  | .eq, .toEven => if low.digits % 2 == 0 then low else high

/-- The shortest decimal on the grid of `n` digits, if a point of it reads back. -/
def onGrid? (tie : Tie) (units : Nat) (n : Nat) : Option Numeral :=
  let e := scale units - n
  let digits := units * Nat.pow 10 (-e).toNat / (Binary64.one * Nat.pow 10 e.toNat)
  let low : Numeral := ⟨digits, e⟩
  let high : Numeral := ⟨digits + 1, e⟩
  match low.readsBack units, high.readsBack units with
  | true, true => some (nearer tie units low high)
  | true, false => some low
  | false, true => some high
  | false, false => none

/-- Moves factors of ten from the digits into the exponent. -/
def strip (d : Numeral) : Numeral :=
  go d.digits d
where
  go : Nat → Numeral → Numeral
    | 0, d => d
    | fuel + 1, d =>
      if d.digits % 10 == 0 && d.digits != 0 then go fuel ⟨d.digits / 10, d.exponent + 1⟩ else d

/-- The shortest decimal that rounds to a positive count of units. Seventeen
digits suffice; the exact value stands behind them. -/
def shortest (tie : Tie) (units : Nat) : Numeral :=
  match (List.range' 1 17).findSome? (onGrid? tie units) with
  | some d => d.strip
  | none => strip ⟨units * Nat.pow 5 1074, -1074⟩

end Numeral

end TypedGraph.Decimal
