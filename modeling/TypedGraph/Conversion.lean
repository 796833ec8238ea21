import TypedGraph.Condition
import TypedGraph.Graph.Record
import TypedGraph.Ontology.Key

/-!
# Converting values to data types

A value on its way to a property can be converted to the data type of its key. A
value of the right form is left alone; otherwise the conversion yields a value of
that form or says why there is none.
-/
namespace TypedGraph

namespace Conversion

/-- Why a value is not converted. -/
inductive Failure where
  | noValue
  | notANumber
  | timestampOutOfRange
  | notADate (text : String)
  | notDateLike
  | notBooleanLike
deriving DecidableEq, Repr

def Failure.message : Failure → String
  | noValue => "unable to convert value, value is null or undefined"
  | notANumber => "unable to convert value to number"
  | timestampOutOfRange => "unable to convert value to date, timestamp out of range"
  | notADate text => "unable to convert value to date: `" ++ text ++ "`"
  | notDateLike => "unable to convert value to date, value is not string or number"
  | notBooleanLike => "unable to convert boolean, must be a boolean, string, or number"

/-- The number of a text: an integer where it is whole and below `2^53`, and none for
the infinities and for what is no number. -/
def number? (s : String) : Option Json := do
  let x ← Decimal.number? (Text.trim s.toList)
  if x.isFinite then some ((Json.ofWhole? x).getD (.number (.float x))) else none

/-- An instant as it is kept in a property: universal time with three digits of the
fraction of a second. -/
def dateText (t : Calendar.Instant) : Json := .string (t.render .millis)

/-- A text counts as true if one of these words occurs in it. -/
def trueWords : List String := ["true", "TRUE", "True", "1"]

/-- The value that stands for another one of a data type: nothing if it is of that
type, else the value or the reason why there is none. -/
def attempt (t : DataType) (value : Json) : Option (Except Failure Json) :=
  match t, value with
  | .number, .number _ => none
  | .number, .string s => some ((number? s).elim (.error .notANumber) .ok)
  | .number, _ => some (.error .notANumber)
  | .date, .number (.int n) =>
    if -(Nat.pow 2 63 : Int) ≤ n ∧ n < Nat.pow 2 63 then
      some ((Calendar.Instant.ofMillis? n).elim (.error .timestampOutOfRange) (.ok ∘ dateText))
    else some (.error .timestampOutOfRange)
  | .date, .number (.float _) => some (.error .timestampOutOfRange)
  | .date, .string s => some ((Calendar.instant? s).elim (.error (.notADate s)) (.ok ∘ dateText))
  | .date, _ => some (.error .notDateLike)
  | .string, .string _ | .enumeration, .string _ | .file, .string _ => none
  | .string, other | .enumeration, other | .file, other => some (.ok (.string other.display))
  | .boolean, .bool _ => none
  | .boolean, .string s =>
    some (.ok (.bool (trueWords.any fun word => Condition.occursIn word.toList s.toList)))
  | .boolean, .number n => some (.ok (.bool (n.toBinary.equal (.ofInt 1))))
  | .boolean, _ => some (.error .notBooleanLike)
  | .list, .array _ => none
  | .list, other => some (.ok (.array [other]))
  | .unknown, _ => none

/-- Converts a value to a data type; nothing if it may stay as it is. An absent value,
`null` and the text `null` cannot be converted to any type. -/
def convert (t : DataType) (value : Option Json) : Option Conversion :=
  match value with
  | none | some .null => some { given := .null, error := some Failure.noValue.message }
  | some (.string "null") =>
    some { given := .string "null", error := some Failure.noValue.message }
  | some value =>
    (attempt t value).map fun
      | .ok converted => { given := value, converted := some converted }
      | .error failure => { given := value, error := some failure.message }

end Conversion

end TypedGraph
