/-!
# Binary floating-point numbers

A 64-bit binary number is kept as what it denotes: not a number, an infinity, or
a sign and a whole number of units, the unit being the least positive number
`2^-1074`. Order and equality are then those of the integers. `ofRatio` rounds a
quotient of naturals to the nearest such number, a tie to the even neighbour; it
is the only way in which the library makes one, so every finite count of units
has at most 53 significant bits and stays below `2^2098`. The rounding of quotients is
`roundHalfEven`: its result lies within half a unit (`roundHalfEven_near`), and is even
if there are two such naturals (`roundHalfEven_of_half`).

Powers are written with `Nat.pow`: `^` is read in another way where an algebra of monoids
is in scope, and these definitions are used in both settings.
-/
namespace TypedGraph.Decimal

/-- A 64-bit binary floating-point number. -/
inductive Binary64 where
  | nan
  | infinity (negative : Bool)
  | finite (negative : Bool) (units : Nat)
deriving DecidableEq, Repr, Inhabited

/-- A quotient rounded to the nearest natural, a half to the even neighbour. -/
def roundHalfEven (num den : Nat) : Nat :=
  let q := num / den
  match compare (2 * (num % den)) den with
  | .lt => q
  | .gt => q + 1
  | .eq => if q % 2 = 0 then q else q + 1

/-- A rounded quotient is at most half a unit away. -/
theorem roundHalfEven_near (num : Nat) {den : Nat} (h : 0 < den) :
    2 * (roundHalfEven num den * den) ≤ 2 * num + den ∧
      2 * num ≤ 2 * (roundHalfEven num den * den) + den := by
  have hdm := Nat.div_add_mod num den
  have hlt := Nat.mod_lt num h
  have hs : (num / den + 1) * den = den * (num / den) + den := by
    rw [Nat.add_mul, Nat.mul_comm, Nat.one_mul]
  have hq : num / den * den = den * (num / den) := Nat.mul_comm ..
  unfold roundHalfEven
  dsimp only
  split <;> rename_i hc
  · rw [Nat.compare_eq_lt] at hc
    omega
  · rw [Nat.compare_eq_gt] at hc
    omega
  · rw [Nat.compare_eq_eq] at hc
    split <;> omega

/-- A quotient half way between two naturals is rounded to the even one. -/
theorem roundHalfEven_of_half {num den : Nat} (h : 2 * (num % den) = den) :
    roundHalfEven num den % 2 = 0 := by
  unfold roundHalfEven
  simp only [h, Nat.compare_eq_eq.2]
  split <;> omega

namespace Binary64

/-- The number of units in one. -/
def one : Nat := Nat.pow 2 1074

/-- The distance between neighbouring numbers at `units`: one unit up to `2^53`
units, and doubling with each further bit. -/
def gap (units : Nat) : Nat := Nat.pow 2 (units.log2 - 52)

/-- The nearest count of units that 53 significant bits can hold. -/
def nearestUnits (num den : Nat) : Nat :=
  let step := gap (num / den)
  roundHalfEven num (den * step) * step

/-- The number nearest to `± num / den`; beyond the largest one an infinity. -/
def ofRatio (negative : Bool) (num den : Nat) : Binary64 :=
  let units := nearestUnits (num * one) den
  if units < Nat.pow 2 2098 then .finite negative units else .infinity negative

/-- The number nearest to an integer. -/
def ofInt (n : Int) : Binary64 := ofRatio (n < 0) n.natAbs 1

def isNaN : Binary64 → Bool
  | .nan => true
  | _ => false

def isFinite : Binary64 → Bool
  | .finite .. => true
  | _ => false

/-- The signed count of units of a number, an infinity lying beyond all finite
counts. -/
def signedUnits : Binary64 → Option Int
  | .nan => none
  | .infinity negative => some (if negative then -(Nat.pow 2 2098 : Int) else Nat.pow 2 2098)
  | .finite negative units => some (if negative then -(units : Int) else units)

/-- The order of two numbers; there is none with `nan`. The two zeros are equal. -/
def order? (x y : Binary64) : Option Ordering := do
  return compare (← x.signedUnits) (← y.signedUnits)

/-- Equality of values: `nan` equals nothing and the two zeros are equal. -/
def equal (x y : Binary64) : Bool := x.order? y == some .eq

def lt (x y : Binary64) : Bool := x.order? y == some .lt

def neg : Binary64 → Binary64
  | .nan => .nan
  | .infinity negative => .infinity (!negative)
  | .finite negative units => .finite (!negative) units

/-- Whether the number is `0.0` or `-0.0`. -/
def isZero : Binary64 → Bool
  | .finite _ units => units == 0
  | _ => false

/-- The number as an integer, where it is finite and has no fraction. -/
def toInt? : Binary64 → Option Int
  | .finite negative units =>
    if units % one = 0 then
      some (if negative then -((units / one : Nat) : Int) else ((units / one : Nat) : Int))
    else none
  | _ => none

/-- The product of two finite numbers, rounded; `nan` if either is not finite. -/
def mul : Binary64 → Binary64 → Binary64
  | .finite s u, .finite t v => ofRatio (s != t) (u * v) (one * one)
  | _, _ => .nan

/-- The quotient of two finite numbers, rounded; `nan` if either is not finite. -/
def div : Binary64 → Binary64 → Binary64
  | .finite s u, .finite t v => ofRatio (s != t) u v
  | _, _ => .nan

end Binary64

end TypedGraph.Decimal
