import TypedGraph.Json.Codec
import TypedGraph.Json.Display
import TypedGraph.Path
import TypedGraph.Text.Blank

/-!
# Conditions on payloads

A condition compares the value at a path with a value of its own. Its further
parts are joined to the result from left to right: a part with `AND` is looked at
while the result is true, one with `OR` while it is false, and one without a
connective never. So `a OR b AND c` reads `(a OR b) AND c`.

On the outside a condition whose path leads to nothing, or to something that does
not count as true, is false whatever follows; its parts have no such rule. Taken as
parts, conditions joined by `AND` and `OR` have the values of a conjunction and of a
disjunction (`evaluatePart_andAlso`, `evaluatePart_orElse`).
-/
namespace TypedGraph

/-- How a part of a condition is joined to what stands before it. -/
inductive Connective where
  | and
  | or
deriving DecidableEq, Repr, Inhabited

/-- The comparisons. -/
inductive Operator where
  | equal
  | notEqual
  | member
  | contains
  | present
  | greater
  | less
  | greaterOrEqual
  | lessOrEqual
deriving DecidableEq, Repr, Inhabited

def Connective.codec : Codec Connective := .words [("AND", .and), ("OR", .or)]

def Operator.codec : Codec Operator := .words
  [("==", .equal), ("!=", .notEqual), ("in", .member), ("contains", .contains),
   ("exists", .present), (">", .greater), ("<", .less), (">=", .greaterOrEqual),
   ("<=", .lessOrEqual)]

/-- A condition with the parts joined to it. -/
structure Condition where
  connective : Option Connective
  key : String
  operator : Operator
  value : Json
  parts : List Condition
deriving Repr, Inhabited

namespace Condition

mutual

/-- Decides whether two conditions are the same. -/
def decEq : (a b : Condition) → Decidable (a = b)
  | ⟨c, k, o, v, ps⟩, ⟨d, l, p, w, qs⟩ =>
    have := decEqParts ps qs
    decidable_of_iff (c = d ∧ k = l ∧ o = p ∧ v = w ∧ ps = qs) (by simp)

def decEqParts : (as bs : List Condition) → Decidable (as = bs)
  | [], [] => isTrue rfl
  | [], _ :: _ => isFalse nofun
  | _ :: _, [] => isFalse nofun
  | a :: as, b :: bs =>
    have := decEq a b
    have := decEqParts as bs
    decidable_of_iff (a = b ∧ as = bs) (List.cons_eq_cons).symm

end

instance : DecidableEq Condition := decEq

/-- Equality of values; two numbers are equal when their nearest binary numbers are. -/
def sameValue (a b : Json) : Bool :=
  match a, b with
  | .number x, .number y => x.toBinary.equal y.toBinary
  | _, _ => a.equal b

/-- The number for which a value stands in an ordering: texts are read as numbers,
the blank text and `null` are zero. -/
def asNumber? : Json → Option Decimal.Binary64
  | .number n => some n.toBinary
  | .bool b => some (.ofInt (if b then 1 else 0))
  | .null => some (.ofInt 0)
  | .string s =>
    let text := Text.trim s.toList
    if text.isEmpty then some (.ofInt 0) else Decimal.number? text
  | .array _ => none
  | .object _ => none

/-- The order of two values: texts as texts, everything else as numbers. -/
def order? (actual expected : Json) : Option Ordering :=
  match actual, expected with
  | .string a, .string b => some (compare a b)
  | _, _ => do (← asNumber? actual).order? (← asNumber? expected)

/-- Whether one text stands somewhere in another. -/
def occursIn (needle : List Char) : List Char → Bool
  | [] => needle.isEmpty
  | c :: rest => needle.isPrefixOf (c :: rest) || occursIn needle rest

/-- Whether a value is among those of a list, or its text among the parts of a text
between commas. -/
def isMember (actual : Json) : Json → Bool
  | .string list => (list.splitOn ",").contains actual.display
  | .array items => items.any (sameValue actual)
  | _ => false

/-- Compares a value, or its absence, with the expected one. -/
def compareValues (operator : Operator) (actual : Option Json) (expected : Json) : Bool :=
  match operator, actual with
  | .present, _ => actual.isSome
  | .notEqual, none => true
  | _, none => false
  | .equal, some a => sameValue a expected
  | .notEqual, some a => !sameValue a expected
  | .member, some a => isMember a expected
  | .contains, some a => occursIn expected.display.toList a.display.toList
  | .greater, some a => order? a expected == some .gt
  | .less, some a => order? a expected == some .lt
  | .greaterOrEqual, some a => order? a expected == some .gt || order? a expected == some .eq
  | .lessOrEqual, some a => order? a expected == some .lt || order? a expected == some .eq

mutual

/-- The value of a condition as a part of another one. -/
def evaluatePart (payload : Json) (index : List Nat) : Condition → Bool
  | ⟨_, key, operator, value, parts⟩ =>
    joinParts payload index parts (compareValues operator (Path.resolve payload key index) value)

/-- Joins parts to a result from left to right. -/
def joinParts (payload : Json) (index : List Nat) : List Condition → Bool → Bool
  | [], result => result
  | part :: rest, result =>
    let next := match part.connective with
      | some .or => if result then true else evaluatePart payload index part
      | some .and => if result then evaluatePart payload index part else false
      | none => result
    joinParts payload index rest next

end

theorem evaluatePart_eq (payload : Json) (index : List Nat) (c : Condition) :
    evaluatePart payload index c =
      joinParts payload index c.parts
        (compareValues c.operator (Path.resolve payload c.key index) c.value) := by
  cases c
  simp only [evaluatePart]

theorem joinParts_append (payload : Json) (index : List Nat) (front back : List Condition)
    (result : Bool) :
    joinParts payload index (front ++ back) result =
      joinParts payload index back (joinParts payload index front result) := by
  induction front generalizing result with
  | nil => simp only [List.nil_append, joinParts]
  | cons part front ih => simp only [List.cons_append, joinParts, ih]

/-- The value of a condition. It is false if its own key reaches nothing, or a value
that counts as false. -/
def evaluate (c : Condition) (payload : Json) (index : List Nat) : Bool :=
  match Path.resolve payload c.key index with
  | some v => v.isTruthy && evaluatePart payload index c
  | none => false

/-- Whether one of the conditions holds, or there are none. -/
def anyHolds (conditions : List Condition) (payload : Json) (index : List Nat) : Bool :=
  conditions.isEmpty || conditions.any fun c => c.evaluate payload index

/-- A condition without further parts. -/
def simple (key : String) (operator : Operator) (value : Json) : Condition :=
  ⟨none, key, operator, value, []⟩

/-- Joins a part that is looked at while the result is true. -/
def andAlso (c part : Condition) : Condition :=
  { c with parts := c.parts ++ [{ part with connective := some .and }] }

/-- Joining with "and" gives the conjunction of the two values. -/
theorem evaluatePart_andAlso (payload : Json) (index : List Nat) (c part : Condition) :
    evaluatePart payload index (c.andAlso part) =
      (evaluatePart payload index c && evaluatePart payload index part) := by
  simp only [andAlso, evaluatePart_eq, joinParts_append, joinParts]
  cases joinParts payload index c.parts _ <;> rfl

/-- Joins a part that is looked at while the result is false. -/
def orElse (c part : Condition) : Condition :=
  { c with parts := c.parts ++ [{ part with connective := some .or }] }

/-- Joining with "or" gives the disjunction of the two values. -/
theorem evaluatePart_orElse (payload : Json) (index : List Nat) (c part : Condition) :
    evaluatePart payload index (c.orElse part) =
      (evaluatePart payload index c || evaluatePart payload index part) := by
  simp only [orElse, evaluatePart_eq, joinParts_append, joinParts]
  cases joinParts payload index c.parts _ <;> rfl

def connectiveField : Field (Option Connective) := .optional "expression" Connective.codec

def keyField : Field String := .required "key" .text

def operatorField : Field Operator := .required "operator" Operator.codec

def valueField : Field Json := .defaulted "value" .document .null

/-- The name of the field with the parts of a condition, left out when there are none. -/
def partsName : String := "subexpressions"

mutual

/-- Reads a condition. -/
def read? : Json → Option Condition
  | .object entries =>
    if Codec.namedOnce
        [connectiveField.name, keyField.name, operatorField.name, valueField.name, partsName]
        entries then do
      return {
        connective := ← connectiveField.read? entries
        key := ← keyField.read? entries
        operator := ← operatorField.read? entries
        value := ← valueField.read? entries
        parts := ← readParts? entries }
    else none
  | _ => none

/-- Reads the parts from the entries of a condition. -/
def readParts? : List (String × Json) → Option (List Condition)
  | [] => some []
  | (name, value) :: rest => if name = partsName then readList? value else readParts? rest

/-- Reads a list of conditions. -/
def readList? : Json → Option (List Condition)
  | .array items => readItems? items
  | _ => none

def readItems? : List Json → Option (List Condition)
  | [] => some []
  | item :: rest => do return (← read? item) :: (← readItems? rest)

end

mutual

/-- Writes a condition. -/
def write : Condition → Json
  | ⟨connective, key, operator, value, parts⟩ =>
    .ofFields (connectiveField.write connective ++ keyField.write key ++
      operatorField.write operator ++ valueField.write value ++ writeParts parts)

/-- The entry for the parts of a condition. -/
def writeParts : List Condition → List (String × Json)
  | [] => []
  | part :: rest => [(partsName, .array (write part :: writeItems rest))]

def writeItems : List Condition → List Json
  | [] => []
  | part :: rest => write part :: writeItems rest

end

def codec : Codec Condition := ⟨read?, write⟩

end Condition

end TypedGraph
