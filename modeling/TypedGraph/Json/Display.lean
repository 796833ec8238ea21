import TypedGraph.Decimal.Notation
import TypedGraph.Json.Basic

/-!
# Values in running text

The text of a value where it becomes part of an identity, a list or a message:
numbers without a needless fraction, the items of a list joined by commas, and
objects all alike. Texts of different values may therefore agree.
-/
namespace TypedGraph.Json

/-- The text of a number. -/
def displayNumber : JsonNumber → String
  | .int n => toString n
  | .float x => Decimal.Style.plain.render x

mutual

/-- The text of a value. -/
def display : Json → String
  | null => "null"
  | bool b => if b then "true" else "false"
  | number n => displayNumber n
  | string s => s
  | array items => ",".intercalate (displayItems items)
  | object _ => "[object Object]"

/-- The texts of the items of a list, `null` being empty. -/
def displayItems : List Json → List String
  | [] => []
  | null :: rest => "" :: displayItems rest
  | item :: rest => display item :: displayItems rest

end

/-- Whether a value counts as true: not `null`, `false`, a zero or the empty text. -/
def isTruthy : Json → Bool
  | null => false
  | bool b => b
  | number n => !n.toBinary.isZero && !n.toBinary.isNaN
  | string s => !s.isEmpty
  | array _ => true
  | object _ => true

end TypedGraph.Json
