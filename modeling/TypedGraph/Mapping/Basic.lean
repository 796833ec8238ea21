import TypedGraph.Mapping.Transformation
import TypedGraph.Ontology.Difference
import TypedGraph.Shape

/-!
# Type mappings

A type mapping holds the transformations for the payloads of one data source that
have one shape. The shape is that of a sample payload, under options for the keys
that are dropped or described by their values.
-/
namespace TypedGraph

/-- The transformations for payloads of one shape. -/
structure TypeMapping where
  id : Option String := none
  containerId : String := ""
  dataSourceId : String := ""
  samplePayload : Json := .null
  active : Bool := false
  /-- The fingerprint that payloads have to have. -/
  shapeHash : String := ""
  shapeOptions : Option ShapeOptions := none
  transformations : List Transformation := []
  createdAt : Option Timestamp := none
deriving DecidableEq, Repr, Inhabited

namespace TypeMapping

/-- An inactive mapping for payloads of the shape of a sample. -/
def ofSample (containerId dataSourceId : String) (sample : Json) : TypeMapping :=
  { containerId, dataSourceId, samplePayload := sample, shapeHash := Shape.fingerprint {} sample }

/-- The fingerprint of a payload under the options of the mapping. -/
def fingerprint (m : TypeMapping) (payload : Json) : String :=
  Shape.fingerprint (m.shapeOptions.getD {}) payload

/-- Takes the shape of the sample under other options. -/
def withOptions (m : TypeMapping) (options : ShapeOptions) : TypeMapping :=
  { m with
    shapeHash := Shape.fingerprint options m.samplePayload
    shapeOptions := if options.isEmpty then none else some options }

def activate (m : TypeMapping) : TypeMapping := { m with active := true }

/-- Takes the shape of the sample anew. -/
def refresh (m : TypeMapping) : TypeMapping :=
  { m with shapeHash := m.fingerprint m.samplePayload }

/-- Takes the shape of the sample if there is none yet. -/
def refreshIfUnset (m : TypeMapping) : TypeMapping :=
  if m.shapeHash.isEmpty then m.refresh else m

/-- Whether the mapping is active and a payload has its shape. -/
def fits (m : TypeMapping) (payload : Json) : Bool :=
  m.active && m.fingerprint payload == m.shapeHash

/-- Appends a transformation, which from then on names the mapping unless it names
one already. -/
def addTransformation (m : TypeMapping) (t : Transformation) : TypeMapping :=
  { m with
    transformations := m.transformations ++ [{ t with mappingId := t.mappingId <|> m.id }] }

/-- Removes the first transformation with an id, and returns it. -/
def removeTransformation (m : TypeMapping) (id : String) : Option Transformation × TypeMapping :=
  match m.transformations.find? fun t => t.id == some id with
  | some t =>
    (some t, { m with transformations := m.transformations.eraseP fun t => t.id == some id })
  | none => (none, m)

/-- Replaces all transformations, and tells what that changes. -/
def replaceTransformations (m : TypeMapping) (transformations : List Transformation) :
    Difference Transformation × TypeMapping :=
  (.between Transformation.id m.transformations transformations, { m with transformations })

/-- The transformations that are not archived. -/
def liveTransformations (m : TypeMapping) : List Transformation :=
  m.transformations.filter fun t => !t.archived

def idField : Field (Option String) := .optional "id" .text

def containerIdField : Field String := .defaulted "container_id" .text ""

def dataSourceIdField : Field String := .defaulted "data_source_id" .text ""

def samplePayloadField : Field Json := .defaulted "sample_payload" .document .null

def activeField : Field Bool := .defaulted "active" .bool false

def shapeHashField : Field String := .defaulted "shape_hash" .text ""

def shapeOptionsField : Field (Option ShapeOptions) :=
  .optional "shape_hash_options" ShapeOptions.codec

def transformationsField : Field (List Transformation) :=
  .defaulted "transformations" (.list Transformation.codec) []

def createdAtField : Field (Option Timestamp) := .optional "created_at" Timestamp.codec

def codec : Codec TypeMapping := .record
  [idField.name, containerIdField.name, dataSourceIdField.name, samplePayloadField.name,
    activeField.name, shapeHashField.name, shapeOptionsField.name, transformationsField.name,
    createdAtField.name]
  (fun e => do
    return {
      id := ← idField.read? e
      containerId := ← containerIdField.read? e
      dataSourceId := ← dataSourceIdField.read? e
      samplePayload := ← samplePayloadField.read? e
      active := ← activeField.read? e
      shapeHash := ← shapeHashField.read? e
      shapeOptions := ← shapeOptionsField.read? e
      transformations := ← transformationsField.read? e
      createdAt := ← createdAtField.read? e })
  (fun m =>
    idField.write m.id ++ containerIdField.write m.containerId ++
    dataSourceIdField.write m.dataSourceId ++ samplePayloadField.write m.samplePayload ++
    activeField.write m.active ++ shapeHashField.write m.shapeHash ++
    shapeOptionsField.write m.shapeOptions ++ transformationsField.write m.transformations ++
    createdAtField.write m.createdAt)

end TypeMapping

/-- A payload that waits to be transformed. -/
structure StagedData where
  id : Option String := none
  dataSourceId : String
  importId : Option String := none
  data : Json
  createdAt : Option Timestamp := none
deriving DecidableEq, Repr, Inhabited

namespace StagedData

/-- A payload from a data source. -/
def ofPayload (dataSourceId : String) (data : Json) : StagedData := { dataSourceId, data }

def idField : Field (Option String) := .optional "id" .text

def dataSourceIdField : Field String := .required "data_source_id" .text

def importIdField : Field (Option String) := .optional "import_id" .text

def dataField : Field Json := .required "data" .document

def createdAtField : Field (Option Timestamp) := .optional "created_at" Timestamp.codec

def codec : Codec StagedData := .record
  [idField.name, dataSourceIdField.name, importIdField.name, dataField.name, createdAtField.name]
  (fun e => do
    return {
      id := ← idField.read? e
      dataSourceId := ← dataSourceIdField.read? e
      importId := ← importIdField.read? e
      data := ← dataField.read? e
      createdAt := ← createdAtField.read? e })
  (fun s =>
    idField.write s.id ++ dataSourceIdField.write s.dataSourceId ++
    importIdField.write s.importId ++ dataField.write s.data ++ createdAtField.write s.createdAt)

end StagedData

end TypedGraph
