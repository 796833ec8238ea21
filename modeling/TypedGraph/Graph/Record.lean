import TypedGraph.Graph.Timestamp

/-!
# Records of the graph

A node has a metatype, an edge a relationship pair and two ends; both have
properties and remember where they came from. An end of an edge is a node by its id,
by its identity in the source of the data, or by conditions that nodes have to meet.
-/
namespace TypedGraph

/-- What became of a value that was to be converted to the type of its key: exactly
one of a converted value and an error. -/
structure Conversion where
  given : Json
  converted : Option Json := none
  error : Option String := none
deriving DecidableEq, Repr, Inhabited

namespace Conversion

def givenField : Field Json := .required "original_value" .document

def convertedField : Field (Option Json) := .optional "converted_value" .document

def errorField : Field (Option String) := .optional "errors" .text

def codec : Codec Conversion := .record
  [givenField.name, convertedField.name, errorField.name]
  (fun e => do
    return {
      given := ← givenField.read? e
      converted := ← convertedField.read? e
      error := ← errorField.read? e })
  (fun c => givenField.write c.given ++ convertedField.write c.converted ++
    errorField.write c.error)

end Conversion

/-- The conversions made for a record, by the names of the properties. -/
structure ConversionLog where
  done : Table Conversion := []
  failed : Table Conversion := []
deriving DecidableEq, Repr, Inhabited

namespace ConversionLog

def isEmpty (log : ConversionLog) : Bool := log.done.isEmpty && log.failed.isEmpty

def doneField : Field (Table Conversion) :=
  .unlessVoid "conversions" (.table Conversion.codec) [] List.isEmpty

def failedField : Field (Table Conversion) :=
  .unlessVoid "failed_conversions" (.table Conversion.codec) [] List.isEmpty

def codec : Codec ConversionLog := .record [doneField.name, failedField.name]
  (fun e => do return { done := ← doneField.read? e, failed := ← failedField.read? e })
  (fun log => doneField.write log.done ++ failedField.write log.failed)

end ConversionLog

/-- One of the two ends of an edge. -/
inductive End where
  | origin
  | destination
deriving DecidableEq, Repr, Inhabited

def End.text : End → String
  | .origin => "origin"
  | .destination => "destination"

/-- What a connection parameter compares. -/
inductive ParameterKind where
  | dataSource
  | metatypeId
  | metatypeName
  | externalId
  | property
  | id
deriving DecidableEq, Repr, Inhabited

namespace ParameterKind

def names : List (String × ParameterKind) :=
  [("data_source", dataSource), ("metatype_id", metatypeId), ("metatype_name", metatypeName),
   ("original_id", externalId), ("property", property), ("id", id)]

def codec : Codec ParameterKind := .words names

end ParameterKind

/-- A condition on the nodes that an end of an edge may be. With a `key` its value is
taken from the payload. -/
structure ConnectionParameter where
  kind : ParameterKind
  key : Option String := none
  property : Option String := none
  value : Option Json := none
deriving DecidableEq, Repr, Inhabited

namespace ConnectionParameter

def kindField : Field ParameterKind := .required "type" ParameterKind.codec

def keyField : Field (Option String) := .optional "key" .text

def propertyField : Field (Option String) := .optional "property" .text

def valueField : Field (Option Json) := .optional "value" .document

def codec : Codec ConnectionParameter := .record
  [kindField.name, keyField.name, propertyField.name, valueField.name]
  (fun e => do
    return {
      kind := ← kindField.read? e
      key := ← keyField.read? e
      property := ← propertyField.read? e
      value := ← valueField.read? e })
  (fun p => kindField.write p.kind ++ keyField.write p.key ++ propertyField.write p.property ++
    valueField.write p.value)

end ConnectionParameter

/-- An end of an edge as far as it is known. -/
structure EdgeEnd where
  nodeId : Option String := none
  externalId : Option String := none
  compositeId : Option String := none
  metatypeId : Option String := none
  dataSourceId : Option String := none
  parameters : List ConnectionParameter := []
deriving DecidableEq, Repr, Inhabited

namespace EdgeEnd

def nodeIdField (which : End) : Field (Option String) :=
  .optional (which.text ++ "_node_id") .text

def externalIdField (which : End) : Field (Option String) :=
  .optional (which.text ++ "_node_original_id") .text

def compositeIdField (which : End) : Field (Option String) :=
  .optional (which.text ++ "_node_composite_original_id") .text

def metatypeIdField (which : End) : Field (Option String) :=
  .optional (which.text ++ "_metatype_id") .text

def dataSourceIdField (which : End) : Field (Option String) :=
  .optional (which.text ++ "_data_source_id") .text

def parametersField (which : End) : Field (List ConnectionParameter) :=
  .unlessVoid (which.text ++ "_parameters") (.list ConnectionParameter.codec) [] List.isEmpty

def fieldNames (which : End) : List String :=
  [(nodeIdField which).name, (externalIdField which).name, (compositeIdField which).name,
    (metatypeIdField which).name, (dataSourceIdField which).name, (parametersField which).name]

def read? (which : End) (e : Entries) : Option EdgeEnd := do
  return {
    nodeId := ← (nodeIdField which).read? e
    externalId := ← (externalIdField which).read? e
    compositeId := ← (compositeIdField which).read? e
    metatypeId := ← (metatypeIdField which).read? e
    dataSourceId := ← (dataSourceIdField which).read? e
    parameters := ← (parametersField which).read? e }

def write (which : End) (x : EdgeEnd) : List (String × Json) :=
  (nodeIdField which).write x.nodeId ++ (externalIdField which).write x.externalId ++
  (compositeIdField which).write x.compositeId ++ (metatypeIdField which).write x.metatypeId ++
  (dataSourceIdField which).write x.dataSourceId ++ (parametersField which).write x.parameters

end EdgeEnd

/-- What nodes and edges have in common. -/
structure RecordBase where
  id : Option String := none
  containerId : String
  graphId : Option String := none
  properties : Entries := []
  /-- The identity of the record in the source of its data. -/
  externalId : Option String := none
  dataSourceId : Option String := none
  transformationId : Option String := none
  /-- The identity among all records of the data source. -/
  compositeId : Option String := none
  importId : Option String := none
  stagingId : Option String := none
  archived : Bool := false
  log : ConversionLog := {}
  createdAt : Option Timestamp := none
deriving DecidableEq, Repr, Inhabited

namespace RecordBase

def idField : Field (Option String) := .optional "id" .text

def containerIdField : Field String := .required "container_id" .text

def graphIdField : Field (Option String) := .optional "graph_id" .text

def propertiesField : Field Entries := .defaulted "properties" .entries []

def externalIdField : Field (Option String) := .optional "original_data_id" .text

def dataSourceIdField : Field (Option String) := .optional "data_source_id" .text

def transformationIdField : Field (Option String) :=
  .optional "type_mapping_transformation_id" .text

def compositeIdField : Field (Option String) := .optional "composite_original_id" .text

def importIdField : Field (Option String) := .optional "import_data_id" .text

def stagingIdField : Field (Option String) := .optional "data_staging_id" .text

def archivedField : Field Bool := .defaulted "archived" .bool false

def logField : Field ConversionLog :=
  .unlessVoid "metadata" ConversionLog.codec {} ConversionLog.isEmpty

def createdAtField : Field (Option Timestamp) := .optional "created_at" Timestamp.codec

def fieldNames : List String :=
  [idField.name, containerIdField.name, graphIdField.name, propertiesField.name,
    externalIdField.name, dataSourceIdField.name, transformationIdField.name,
    compositeIdField.name, importIdField.name, stagingIdField.name, archivedField.name,
    logField.name, createdAtField.name]

def read? (e : Entries) : Option RecordBase := do
  return {
    id := ← idField.read? e
    containerId := ← containerIdField.read? e
    graphId := ← graphIdField.read? e
    properties := ← propertiesField.read? e
    externalId := ← externalIdField.read? e
    dataSourceId := ← dataSourceIdField.read? e
    transformationId := ← transformationIdField.read? e
    compositeId := ← compositeIdField.read? e
    importId := ← importIdField.read? e
    stagingId := ← stagingIdField.read? e
    archived := ← archivedField.read? e
    log := ← logField.read? e
    createdAt := ← createdAtField.read? e }

def write (r : RecordBase) : List (String × Json) :=
  idField.write r.id ++ containerIdField.write r.containerId ++ graphIdField.write r.graphId ++
  propertiesField.write r.properties ++ externalIdField.write r.externalId ++
  dataSourceIdField.write r.dataSourceId ++ transformationIdField.write r.transformationId ++
  compositeIdField.write r.compositeId ++ importIdField.write r.importId ++
  stagingIdField.write r.stagingId ++ archivedField.write r.archived ++
  logField.write r.log ++ createdAtField.write r.createdAt

end RecordBase

/-- A node. -/
structure Node extends RecordBase where
  metatypeId : String
deriving DecidableEq, Repr, Inhabited

namespace Node

def metatypeIdField : Field String := .required "metatype_id" .text

def codec : Codec Node := .record (metatypeIdField.name :: RecordBase.fieldNames)
  (fun e => do
    return { toRecordBase := ← RecordBase.read? e, metatypeId := ← metatypeIdField.read? e })
  (fun n => n.toRecordBase.write ++ metatypeIdField.write n.metatypeId)

end Node

/-- A directed edge of a relationship pair. -/
structure Edge extends RecordBase where
  pairId : String
  origin : EdgeEnd := {}
  destination : EdgeEnd := {}
deriving DecidableEq, Repr, Inhabited

namespace Edge

def pairIdField : Field String := .required "relationship_pair_id" .text

def codec : Codec Edge := .record
  (pairIdField.name :: RecordBase.fieldNames ++ EdgeEnd.fieldNames .origin ++
    EdgeEnd.fieldNames .destination)
  (fun e => do
    return {
      toRecordBase := ← RecordBase.read? e
      pairId := ← pairIdField.read? e
      origin := ← EdgeEnd.read? .origin e
      destination := ← EdgeEnd.read? .destination e })
  (fun x => x.toRecordBase.write ++ pairIdField.write x.pairId ++
    EdgeEnd.write .origin x.origin ++ EdgeEnd.write .destination x.destination)

/-- One of the ends. -/
def side (x : Edge) : End → EdgeEnd
  | .origin => x.origin
  | .destination => x.destination

end Edge

/-- What a transformation produces. -/
inductive GraphRecord where
  | node (n : Node)
  | edge (x : Edge)
deriving DecidableEq, Repr, Inhabited

namespace GraphRecord

def node? : GraphRecord → Option Node
  | node n => some n
  | edge _ => none

def edge? : GraphRecord → Option Edge
  | edge x => some x
  | node _ => none

/-- A record with its kind as a further field. -/
def codec : Codec GraphRecord where
  read?
    | .object entries =>
      match Table.get? entries "kind" with
      | some (.string "node") => (Node.codec.read? (.object (Table.erase entries "kind"))).map node
      | some (.string "edge") => (Edge.codec.read? (.object (Table.erase entries "kind"))).map edge
      | _ => none
    | _ => none
  write r :=
    let (kind, record) := match r with
      | node n => ("node", Node.codec.write n)
      | edge x => ("edge", Edge.codec.write x)
    match record with
    | .object entries => .object (Table.insert entries "kind" (.string kind))
    | other => other

end GraphRecord

end TypedGraph
