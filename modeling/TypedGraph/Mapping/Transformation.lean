import TypedGraph.Condition
import TypedGraph.Graph.Record

/-!
# Transformations

A transformation is a rule that turns a payload, or every element of a list in it,
into nodes of a metatype or edges of a relationship pair. Its key mappings say which
value of the payload becomes which property.
-/
namespace TypedGraph

/-- What is done about a key whose value is missing or cannot be converted. -/
inductive ErrorAction where
  /-- The key is skipped. -/
  | ignore
  /-- The branch fails if the key is required. -/
  | failOnRequired
  /-- The branch fails. -/
  | fail
deriving DecidableEq, Repr, Inhabited

namespace ErrorAction

def codec : Codec ErrorAction := .words
  [("ignore", ignore), ("fail on required", failOnRequired), ("fail", fail)]

/-- Whether a branch fails for a key. -/
def failsFor : ErrorAction → (required : Bool) → Bool
  | ignore, _ => false
  | failOnRequired, required => required
  | fail, _ => true

end ErrorAction

/-- How a transformation treats the values of its keys. -/
structure TransformationConfig where
  onMissing : ErrorAction := .ignore
  onConversionError : ErrorAction := .ignore
  convertValues : Bool := false
deriving DecidableEq, Repr, Inhabited

namespace TransformationConfig

def onMissingField : Field ErrorAction :=
  .defaulted "on_key_extraction_error" ErrorAction.codec .ignore

def onConversionErrorField : Field ErrorAction :=
  .defaulted "on_conversion_error" ErrorAction.codec .ignore

def convertValuesField : Field Bool := .defaulted "convert_values" .bool false

def codec : Codec TransformationConfig := .record
  [onMissingField.name, onConversionErrorField.name, convertValuesField.name]
  (fun e => do
    return {
      onMissing := ← onMissingField.read? e
      onConversionError := ← onConversionErrorField.read? e
      convertValues := ← convertValuesField.read? e })
  (fun c => onMissingField.write c.onMissing ++ onConversionErrorField.write c.onConversionError ++
    convertValuesField.write c.convertValues)

end TransformationConfig

/-- What is wrong with a transformation as a whole. -/
inductive Malformation where
  | twoDestinations
  | noDestination
  | twoTargets
  | noTarget
deriving DecidableEq, Repr

def Malformation.message : Malformation → String
  | twoDestinations => "key mapping targets both a metatype key and a relationship key"
  | noDestination => "key mapping has no destination key"
  | twoTargets => "both metatype_id and metatype_relationship_pair_id are set"
  | noTarget => "neither metatype_id nor metatype_relationship_pair_id is set"

/-- Takes a value of the payload, or a constant, to a property. -/
structure KeyMapping where
  id : Option String := none
  /-- The path to the value. If there is one, the constant is not used. -/
  path : Option String := none
  metatypeKeyId : Option String := none
  relationshipKeyId : Option String := none
  constant : Option Json := none
deriving DecidableEq, Repr, Inhabited

/-- The property key to which a key mapping takes its value. -/
inductive KeyDestination where
  | metatypeKey (id : String)
  | relationshipKey (id : String)
deriving DecidableEq, Repr

namespace KeyMapping

/-- Takes the value at a path to a key of a metatype. -/
def toMetatype (path keyId : String) : KeyMapping :=
  { path := some path, metatypeKeyId := some keyId }

/-- Takes the value at a path to a key of a relationship. -/
def toRelationship (path keyId : String) : KeyMapping :=
  { path := some path, relationshipKeyId := some keyId }

/-- Takes a constant to a key of a metatype. -/
def constantToMetatype (value : Json) (keyId : String) : KeyMapping :=
  { constant := some value, metatypeKeyId := some keyId }

/-- The one destination of a key mapping. -/
def destination (m : KeyMapping) : Except Malformation KeyDestination :=
  match m.metatypeKeyId, m.relationshipKeyId with
  | some id, none => .ok (.metatypeKey id)
  | none, some id => .ok (.relationshipKey id)
  | some _, some _ => .error .twoDestinations
  | none, none => .error .noDestination

def idField : Field (Option String) := .optional "id" .text

def pathField : Field (Option String) := .optional "key" .text

def metatypeKeyIdField : Field (Option String) := .optional "metatype_key_id" .text

def relationshipKeyIdField : Field (Option String) :=
  .optional "metatype_relationship_key_id" .text

def constantField : Field (Option Json) := .optional "value" .document

def codec : Codec KeyMapping := .record
  [idField.name, pathField.name, metatypeKeyIdField.name, relationshipKeyIdField.name,
    constantField.name]
  (fun e => do
    return {
      id := ← idField.read? e
      path := ← pathField.read? e
      metatypeKeyId := ← metatypeKeyIdField.read? e
      relationshipKeyId := ← relationshipKeyIdField.read? e
      constant := ← constantField.read? e })
  (fun m =>
    idField.write m.id ++ pathField.write m.path ++ metatypeKeyIdField.write m.metatypeKeyId ++
    relationshipKeyIdField.write m.relationshipKeyId ++ constantField.write m.constant)

end KeyMapping

/-- How an end of the edges of a transformation is found: by the identity at a path of
the payload, or else by parameters. -/
structure EndRule where
  path : Option String := none
  metatypeId : Option String := none
  dataSourceId : Option String := none
  parameters : List ConnectionParameter := []
deriving DecidableEq, Repr, Inhabited

namespace EndRule

def pathField (which : End) : Field (Option String) := .optional (which.text ++ "_id_key") .text

def metatypeIdField (which : End) : Field (Option String) :=
  .optional (which.text ++ "_metatype_id") .text

def dataSourceIdField (which : End) : Field (Option String) :=
  .optional (which.text ++ "_data_source_id") .text

def parametersField (which : End) : Field (List ConnectionParameter) :=
  .unlessVoid (which.text ++ "_parameters") (.list ConnectionParameter.codec) [] List.isEmpty

def fieldNames (which : End) : List String :=
  [(pathField which).name, (metatypeIdField which).name, (dataSourceIdField which).name,
    (parametersField which).name]

def read? (which : End) (e : Entries) : Option EndRule := do
  return {
    path := ← (pathField which).read? e
    metatypeId := ← (metatypeIdField which).read? e
    dataSourceId := ← (dataSourceIdField which).read? e
    parameters := ← (parametersField which).read? e }

def write (which : End) (r : EndRule) : List (String × Json) :=
  (pathField which).write r.path ++ (metatypeIdField which).write r.metatypeId ++
  (dataSourceIdField which).write r.dataSourceId ++ (parametersField which).write r.parameters

end EndRule

/-- A rule that turns a payload into nodes or edges. -/
structure Transformation where
  id : Option String := none
  name : Option String := none
  mappingId : Option String := none
  containerId : String := ""
  dataSourceId : Option String := none
  /-- A branch is discarded unless one of these holds, or there are none. -/
  conditions : List Condition := []
  keys : List KeyMapping := []
  metatypeId : Option String := none
  pairId : Option String := none
  origin : EndRule := {}
  destination : EndRule := {}
  /-- The lists whose elements are the branches. -/
  rootArray : Option String := none
  /-- The path to the identity of a record in its source. -/
  uniqueKey : Option String := none
  config : TransformationConfig := {}
  archived : Bool := false
deriving DecidableEq, Repr, Inhabited

/-- What a transformation produces. -/
inductive Target where
  | node (metatypeId : String)
  | edge (pairId : String)
deriving DecidableEq, Repr

namespace Transformation

/-- A transformation that produces nodes of a metatype. -/
def toNode (containerId metatypeId : String) : Transformation :=
  { containerId, metatypeId := some metatypeId }

/-- A transformation that produces edges between nodes known by their identities. -/
def toEdge (containerId pairId originPath destinationPath : String) : Transformation :=
  { containerId, pairId := some pairId, origin := { path := some originPath },
    destination := { path := some destinationPath } }

/-- A transformation that produces edges between all nodes that meet the parameters. -/
def toEdgeBetweenMatches (containerId pairId : String)
    (origins destinations : List ConnectionParameter) : Transformation :=
  { containerId, pairId := some pairId, origin := { parameters := origins },
    destination := { parameters := destinations } }

/-- The one target of a transformation. -/
def target (t : Transformation) : Except Malformation Target :=
  match t.metatypeId, t.pairId with
  | some id, none => .ok (.node id)
  | none, some id => .ok (.edge id)
  | some _, some _ => .error .twoTargets
  | none, none => .error .noTarget

/-- One of the rules for the ends. -/
def side (t : Transformation) : End → EndRule
  | .origin => t.origin
  | .destination => t.destination

/-- The parts of a text between markers `[]`. -/
def splitMarkers : List Char → List (List Char)
  | [] => [[]]
  | '[' :: ']' :: rest => [] :: splitMarkers rest
  | c :: rest =>
    match splitMarkers rest with
    | part :: parts => (c :: part) :: parts
    | [] => [[c]]

/-- Drops the last of several parts if it consists of dots only. -/
def dropBlankEnd (parts : List (List Char)) : List (List Char) :=
  match parts with
  | [] => []
  | first :: rest =>
    if rest.getLast?.any fun last => last.all (· = '.') then first :: rest.dropLast else parts

/-- Drops the dots at the end of a text. -/
def trimDots (cs : List Char) : List Char := (cs.reverse.dropWhile (· = '.')).reverse

/-- The texts of the first parts, of the first two, and so on. -/
def joinedParts (parts : List (List Char)) : List (List Char) :=
  (List.range parts.length).map fun depth =>
    ['[', ']'].intercalate (parts.take (depth + 1))

/-- The paths to the list at each level of nested lists. Each path is followed with
the places in the lists above it: `cars[].repairs[]` has the levels `cars` and
`cars[].repairs`. -/
def rootLevels (t : Transformation) : List String :=
  match t.rootArray with
  | none => []
  | some root =>
    if (Text.trim root.toList).isEmpty then []
    else (joinedParts (dropBlankEnd (splitMarkers root.toList))).map (String.ofList ∘ trimDots)

def idField : Field (Option String) := .optional "id" .text

def nameField : Field (Option String) := .optional "name" .text

def mappingIdField : Field (Option String) := .optional "type_mapping_id" .text

def containerIdField : Field String := .defaulted "container_id" .text ""

def dataSourceIdField : Field (Option String) := .optional "data_source_id" .text

def conditionsField : Field (List Condition) :=
  .defaulted "conditions" (.list Condition.codec) []

def keysField : Field (List KeyMapping) := .defaulted "keys" (.list KeyMapping.codec) []

def metatypeIdField : Field (Option String) := .optional "metatype_id" .text

def pairIdField : Field (Option String) := .optional "metatype_relationship_pair_id" .text

def rootArrayField : Field (Option String) := .optional "root_array" .text

def uniqueKeyField : Field (Option String) := .optional "unique_identifier_key" .text

def configField : Field TransformationConfig :=
  .defaulted "config" TransformationConfig.codec {}

def archivedField : Field Bool := .defaulted "archived" .bool false

def fieldNames : List String :=
  [idField.name, nameField.name, mappingIdField.name, containerIdField.name,
    dataSourceIdField.name, conditionsField.name, keysField.name, metatypeIdField.name,
    pairIdField.name] ++ EndRule.fieldNames .origin ++ EndRule.fieldNames .destination ++
  [rootArrayField.name, uniqueKeyField.name, configField.name, archivedField.name]

def codec : Codec Transformation := .record fieldNames
  (fun e => do
    return {
      id := ← idField.read? e
      name := ← nameField.read? e
      mappingId := ← mappingIdField.read? e
      containerId := ← containerIdField.read? e
      dataSourceId := ← dataSourceIdField.read? e
      conditions := ← conditionsField.read? e
      keys := ← keysField.read? e
      metatypeId := ← metatypeIdField.read? e
      pairId := ← pairIdField.read? e
      origin := ← EndRule.read? .origin e
      destination := ← EndRule.read? .destination e
      rootArray := ← rootArrayField.read? e
      uniqueKey := ← uniqueKeyField.read? e
      config := ← configField.read? e
      archived := ← archivedField.read? e })
  (fun t =>
    idField.write t.id ++ nameField.write t.name ++ mappingIdField.write t.mappingId ++
    containerIdField.write t.containerId ++ dataSourceIdField.write t.dataSourceId ++
    conditionsField.write t.conditions ++ keysField.write t.keys ++
    metatypeIdField.write t.metatypeId ++ pairIdField.write t.pairId ++
    EndRule.write .origin t.origin ++ EndRule.write .destination t.destination ++
    rootArrayField.write t.rootArray ++ uniqueKeyField.write t.uniqueKey ++
    configField.write t.config ++ archivedField.write t.archived)

end Transformation

end TypedGraph
