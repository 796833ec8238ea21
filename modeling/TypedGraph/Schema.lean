import TypedGraph.Json.Printer
import TypedGraph.Ontology.Basic

/-!
# Schemas

The keys of a kind of nodes or edges are compiled into a schema: the defaults, and a
descriptor for each key. A schema is applied to a payload in three passes. Absent
properties take their defaults; every property has to be of the kind that its key
asks for; then bounds and patterns are checked. The second pass reports all its
mismatches and the third all its violations, in the order of the keys. Properties
without a key pass through.
-/
namespace TypedGraph

/-- An engine of regular expressions: it reads a pattern as the test that a text has to
pass, or says why it refuses the pattern. -/
class PatternEngine where
  read : String → Except String (String → Bool)

/-- The form that a property has to have. -/
inductive FieldKind where
  | number
  | string
  | boolean
  | list
  /-- One of these texts. -/
  | oneOf (options : List String)
  | any
deriving DecidableEq, Repr, Inhabited

namespace FieldKind

/-- The form that a key asks for. An enumeration without options is any text. -/
def ofKey (key : PropertyKey) : FieldKind :=
  match key.dataType with
  | .number => number
  | .string | .date => string
  | .boolean => boolean
  | .list => list
  | .enumeration =>
    match key.options with
    | some (o :: options) => oneOf (o :: options)
    | _ => string
  | .file | .unknown => any

/-- Whether a value has the form. -/
def accepts : FieldKind → Json → Bool
  | number, .number _ => true
  | string, .string _ => true
  | boolean, .bool _ => true
  | list, .array _ => true
  | oneOf options, .string s => options.contains s
  | any, _ => true
  | _, _ => false

/-- The form in words. -/
def describe : FieldKind → String
  | number => "number"
  | string => "string"
  | boolean => "boolean"
  | list => "list"
  | oneOf options => "one of [" ++ ", ".intercalate options ++ "]"
  | any => "any value"

end FieldKind

/-- A property that has not the form that its key asks for. -/
structure FieldMismatch where
  field : String
  expected : String
  found : String
deriving DecidableEq, Repr

def FieldMismatch.message (m : FieldMismatch) : String :=
  "field `" ++ m.field ++ "`: expected " ++ m.expected ++ ", found " ++ m.found

/-- Why a property of the right form is refused. A number is measured by its value, a
text or a list by its length. -/
inductive ViolationCause where
  | below (quantity : String) (measure min : Decimal.Binary64)
  | above (quantity : String) (measure max : Decimal.Binary64)
  | unmatched (text pattern : String)
deriving DecidableEq, Repr

/-- A property that violates the checks of its key. -/
structure KeyViolation where
  key : String
  cause : ViolationCause
deriving DecidableEq, Repr

namespace KeyViolation

def reason (v : KeyViolation) : String :=
  let text (x : Decimal.Binary64) : String := Decimal.Style.plain.render x
  match v.cause with
  | .below quantity measure min =>
    quantity ++ " " ++ text measure ++ " is below minimum " ++ text min
  | .above quantity measure max =>
    quantity ++ " " ++ text measure ++ " is above maximum " ++ text max
  | .unmatched value pattern => "`" ++ value ++ "` does not match /" ++ pattern ++ "/"

def message (v : KeyViolation) : String := "key `" ++ v.key ++ "`: " ++ v.reason

end KeyViolation

/-- Why there is no schema, or why a schema refuses a payload. -/
inductive SchemaError where
  | mismatch (mismatches : List FieldMismatch)
  | violation (violations : List KeyViolation)
  | invalidPattern (key diagnosis : String)
deriving DecidableEq, Repr

namespace SchemaError

def isMismatch : SchemaError → Bool
  | mismatch _ => true
  | _ => false

def isViolation : SchemaError → Bool
  | violation _ => true
  | _ => false

/-- The message without the diagnosis of a pattern. -/
def headline : SchemaError → String
  | mismatch mismatches =>
    "schema mismatch: " ++ "; ".intercalate (mismatches.map FieldMismatch.message)
  | violation violations =>
    "validation failed: " ++ "; ".intercalate (violations.map KeyViolation.message)
  | invalidPattern key _ => "invalid validation pattern on key `" ++ key ++ "`"

def message (e : SchemaError) : String :=
  match e with
  | invalidPattern _ diagnosis => e.headline ++ ": " ++ diagnosis
  | _ => e.headline

end SchemaError

/-- A pattern with the text from which it was read. -/
structure CompiledPattern where
  source : String
  matchesText : String → Bool
deriving Inhabited

/-- What a schema asks of one property. -/
structure FieldDescriptor where
  propertyName : String
  kind : FieldKind
  required : Bool
  pattern : Option CompiledPattern
  min : Option Decimal.Binary64
  max : Option Decimal.Binary64
deriving Inhabited

namespace FieldDescriptor

/-- Reads the pattern of a key; the empty text is none. -/
def patternOf [PatternEngine] (key : PropertyKey) : Except SchemaError (Option CompiledPattern) :=
  match key.validation.bind KeyValidation.regex with
  | none => .ok none
  | some "" => .ok none
  | some source =>
    match PatternEngine.read source with
    | .ok matchesText => .ok (some ⟨source, matchesText⟩)
    | .error diagnosis => .error (.invalidPattern key.propertyName diagnosis)

/-- The descriptor of a key. -/
def ofKey [PatternEngine] (key : PropertyKey) : Except SchemaError FieldDescriptor := do
  return {
    propertyName := key.propertyName
    kind := .ofKey key
    required := key.required
    pattern := ← patternOf key
    min := key.validation.bind KeyValidation.min
    max := key.validation.bind KeyValidation.max }

/-- The quantity of a value that bounds apply to, and its measure. -/
def measure? : Json → Option (String × Decimal.Binary64)
  | .number n => some ("value", n.toBinary)
  | .string s => some ("length", .ofInt s.length)
  | .array items => some ("length", .ofInt items.length)
  | _ => none

/-- The bound that a value violates, the minimum first. -/
def boundViolation (f : FieldDescriptor) (value : Json) : Option ViolationCause := do
  let (quantity, measure) ← measure? value
  let low := f.min.bind fun min => if measure.lt min then some (.below quantity measure min) else none
  let high := f.max.bind fun max => if max.lt measure then some (.above quantity measure max) else none
  low <|> high

/-- The text of a value on which a pattern is tried: a text itself, else its document. -/
def patternText : Json → String
  | .string s => s
  | value => value.compact

/-- The violation of the pattern, if a value does not match it. -/
def patternViolation (f : FieldDescriptor) (value : Json) : Option ViolationCause := do
  let pattern ← f.pattern
  let text := patternText value
  if pattern.matchesText text then none else some (.unmatched text pattern.source)

/-- The violations of a property, none if it is absent or `null`. -/
def violations (f : FieldDescriptor) (properties : Entries) : List KeyViolation :=
  match properties.get? f.propertyName with
  | none | some .null => []
  | some value =>
    ((f.boundViolation value).toList ++ (f.patternViolation value).toList).map (⟨f.propertyName, ·⟩)

/-- Whether a property, or its absence, is what the key asks for. -/
def isSatisfied (f : FieldDescriptor) (properties : Entries) : Bool :=
  match properties.get? f.propertyName with
  | none | some .null => !f.required
  | some value => f.kind.accepts value

end FieldDescriptor

/-- What a value is called in a mismatch. -/
def typeName : Option Json → String
  | none => "nothing"
  | some .null => "null"
  | some (.bool _) => "boolean"
  | some (.number _) => "number"
  | some (.string _) => "string"
  | some (.array _) => "list"
  | some (.object _) => "object"

namespace FieldDescriptor

/-- What was found in place of a property. Where only certain texts are admitted, the
text itself is shown. -/
def describeFound (f : FieldDescriptor) (found : Option Json) : String :=
  match f.kind, found with
  | .oneOf _, some (.string s) => "\"" ++ s ++ "\""
  | _, _ => typeName found

/-- The mismatch of a property, if it is not what the key asks for. -/
def mismatch? (f : FieldDescriptor) (properties : Entries) : Option FieldMismatch :=
  if f.isSatisfied properties then none
  else some ⟨f.propertyName, f.kind.describe, f.describeFound (properties.get? f.propertyName)⟩

end FieldDescriptor

/-- The checks for one set of keys. -/
structure CompiledSchema where
  defaults : List (String × Json) := []
  fields : List FieldDescriptor := []
deriving Inhabited

namespace CompiledSchema

/-- Compiles keys; the first key without a valid pattern is reported. -/
def compile [PatternEngine] (keys : List PropertyKey) : Except SchemaError CompiledSchema := do
  return {
    defaults := keys.filterMap fun key => key.coercedDefault.map (key.propertyName, ·)
    fields := ← keys.mapM FieldDescriptor.ofKey }

/-- Sets the defaults of absent properties, the first default of a property winning. -/
def withDefaults (schema : CompiledSchema) (properties : Entries) : Entries :=
  schema.defaults.foldl
    (fun properties (name, value) =>
      if properties.contains name then properties else properties.insert name value)
    properties

/-- Applies a schema to a payload: its properties with the defaults. -/
def apply (schema : CompiledSchema) (payload : Json) : Except SchemaError Entries :=
  match payload with
  | .object input =>
    let properties := schema.withDefaults input
    match schema.fields.filterMap fun f => f.mismatch? properties with
    | m :: mismatches => .error (.mismatch (m :: mismatches))
    | [] =>
      match schema.fields.flatMap fun f => f.violations properties with
      | v :: violations => .error (.violation (v :: violations))
      | [] => .ok properties
  | other => .error (.mismatch [⟨"", "object", typeName (some other)⟩])

end CompiledSchema

/-- Compiles keys and applies them to a payload. -/
def validate [PatternEngine] (keys : List PropertyKey) (payload : Json) :
    Except SchemaError Entries := do
  (← CompiledSchema.compile keys).apply payload

namespace KeyedType

variable [PatternEngine]

/-- The schema of the keys that are not archived. -/
def compile (t : KeyedType) : Except SchemaError CompiledSchema := CompiledSchema.compile t.liveKeys

def validateProperties (t : KeyedType) (payload : Json) : Except SchemaError Entries := do
  (← t.compile).apply payload

end KeyedType

end TypedGraph
