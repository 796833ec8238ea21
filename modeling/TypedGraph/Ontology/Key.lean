import TypedGraph.Decimal.Reading
import TypedGraph.Json.Codec
import TypedGraph.Text.Blank

/-!
# Property keys

A property key declares one property of a kind of nodes or edges: its name in the
properties, its data type, whether it is required, a default, and further checks.
-/
namespace TypedGraph

/-- The declared data type of a property. -/
inductive DataType where
  | number
  | date
  | string
  | boolean
  | enumeration
  | file
  | list
  /-- Any other type; every value is of it. -/
  | unknown
deriving DecidableEq, Repr, Inhabited

namespace DataType

/-- The words for the data types. -/
def names : List (String × DataType) :=
  [("number", number), ("date", date), ("string", string), ("boolean", boolean),
   ("enumeration", enumeration), ("file", file), ("list", list), ("unknown", unknown)]

def text (t : DataType) : String := ((names.find? fun row => row.2 = t).map (·.1)).getD ""

/-- Every word is read, one without a meaning as `unknown`. -/
def codec : Codec DataType where
  read? j := j.string?.map fun name => (names.lookup name).getD unknown
  write t := .string t.text

end DataType

/-- Checks made after a value was found to be of its type. -/
structure KeyValidation where
  regex : Option String := none
  min : Option Decimal.Binary64 := none
  max : Option Decimal.Binary64 := none
deriving DecidableEq, Repr, Inhabited

namespace KeyValidation

def isEmpty (v : KeyValidation) : Bool := v.regex.isNone && v.min.isNone && v.max.isNone

def regexField : Field (Option String) := .optional "regex" .text

def minField : Field (Option Decimal.Binary64) := .optional "min" .binary

def maxField : Field (Option Decimal.Binary64) := .optional "max" .binary

def codec : Codec KeyValidation := .record [regexField.name, minField.name, maxField.name]
  (fun e => do
    return { regex := ← regexField.read? e, min := ← minField.read? e, max := ← maxField.read? e })
  (fun v => regexField.write v.regex ++ minField.write v.min ++ maxField.write v.max)

end KeyValidation

/-- The declaration of a property. -/
structure PropertyKey where
  id : Option String := none
  name : String
  /-- The property in the properties of a record. -/
  propertyName : String
  description : String := ""
  dataType : DataType
  required : Bool := false
  /-- The admissible values of an enumeration. -/
  options : Option (List String) := none
  defaultValue : Option Json := none
  validation : Option KeyValidation := none
  archived : Bool := false
deriving DecidableEq, Repr, Inhabited

namespace PropertyKey

def idField : Field (Option String) := .optional "id" .text

def nameField : Field String := .required "name" .text

def propertyNameField : Field String := .required "property_name" .text

def descriptionField : Field String := .defaulted "description" .text ""

def dataTypeField : Field DataType := .required "data_type" DataType.codec

def requiredField : Field Bool := .defaulted "required" .bool false

def optionsField : Field (Option (List String)) := .optional "options" (.list .text)

def defaultValueField : Field (Option Json) := .optional "default_value" .document

def validationField : Field (Option KeyValidation) := .optional "validation" KeyValidation.codec

def archivedField : Field Bool := .defaulted "archived" .bool false

def codec : Codec PropertyKey := .record
  [idField.name, nameField.name, propertyNameField.name, descriptionField.name,
    dataTypeField.name, requiredField.name, optionsField.name, defaultValueField.name,
    validationField.name, archivedField.name]
  (fun e => do
    return {
      id := ← idField.read? e
      name := ← nameField.read? e
      propertyName := ← propertyNameField.read? e
      description := ← descriptionField.read? e
      dataType := ← dataTypeField.read? e
      required := ← requiredField.read? e
      options := ← optionsField.read? e
      defaultValue := ← defaultValueField.read? e
      validation := ← validationField.read? e
      archived := ← archivedField.read? e })
  (fun k =>
    idField.write k.id ++ nameField.write k.name ++ propertyNameField.write k.propertyName ++
    descriptionField.write k.description ++ dataTypeField.write k.dataType ++
    requiredField.write k.required ++ optionsField.write k.options ++
    defaultValueField.write k.defaultValue ++ validationField.write k.validation ++
    archivedField.write k.archived)

end PropertyKey

namespace Json

/-- A finite number without fraction below `2^53` as an integer. -/
def ofWhole? (x : Decimal.Binary64) : Option Json :=
  x.toInt?.bind fun n => if n.natAbs < Nat.pow 2 53 then some (.int n) else none

/-- A finite number. -/
def ofFinite? (x : Decimal.Binary64) : Option Json :=
  if x.isFinite then some (.number (.float x)) else none

end Json

namespace PropertyKey

/-- The default of a key as a value of its data type. Defaults are often kept as
texts: a number is read from its text if it can be, and a boolean is true for `true`
and `t` alone. -/
def coercedDefault (k : PropertyKey) : Option Json :=
  match k.defaultValue with
  | none | some .null => none
  | some raw =>
    match k.dataType, raw with
    | .number, .string s =>
      match Decimal.number? (Text.trim s.toList) with
      | some x => some ((Json.ofWhole? x <|> Json.ofFinite? x).getD raw)
      | none => some raw
    | .boolean, .string s => some (.bool (s == "true" || s == "t"))
    | .boolean, .bool b => some (.bool b)
    | .boolean, _ => some (.bool false)
    | _, _ => some raw

end PropertyKey

end TypedGraph
