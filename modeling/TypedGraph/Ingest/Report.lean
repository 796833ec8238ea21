import TypedGraph.Graph.Connection
import TypedGraph.Mapping.Error
import TypedGraph.Schema
import TypedGraph.Text.Quoted

/-!
# Reports of an ingest

An ingest reports the records that it wrote and the failures of those that it did not
write. A failure of the stores, of the checks made beforehand, or of time ends it as a
whole, and nothing of it is kept.
-/
namespace TypedGraph

/-- How payloads are ingested. -/
structure IngestConfig where
  /-- Refuse mappings that are not active. -/
  requireActive : Bool := true
  /-- Refuse payloads of another shape than that of the mapping. -/
  requireShape : Bool := true
  /-- Apply the schemas of metatypes and relationships. -/
  validateProperties : Bool := true
  /-- The number of milliseconds after which an ingest ends. -/
  timeout : Option Nat := none
deriving DecidableEq, Repr, Inhabited

namespace IngestConfig

def requireActiveField : Field Bool := .defaulted "require_active_mapping" .bool true

def requireShapeField : Field Bool := .defaulted "require_shape_match" .bool true

def validatePropertiesField : Field Bool := .defaulted "validate_properties" .bool true

def timeoutField : Field (Option Nat) := .nullable "timeout_ms" .word

def codec : Codec IngestConfig := .record
  [requireActiveField.name, requireShapeField.name, validatePropertiesField.name,
    timeoutField.name]
  (fun e => do
    return {
      requireActive := ← requireActiveField.read? e
      requireShape := ← requireShapeField.read? e
      validateProperties := ← validatePropertiesField.read? e
      timeout := ← timeoutField.read? e })
  (fun c =>
    requireActiveField.write c.requireActive ++ requireShapeField.write c.requireShape ++
    validatePropertiesField.write c.validateProperties ++ timeoutField.write c.timeout)

end IngestConfig

/-- Why a record is not written. -/
inductive RecordError where
  | transform (cause : TransformError)
  | schema (cause : SchemaError)
  | connection (cause : ConnectionError)
  | ontology (cause : OntologyError)
  | storage (cause : StorageError)
  | unresolvedEnd (which : End) (reference : String)
  | noMatchingNodes (which : End)
deriving DecidableEq, Repr

def RecordError.message : RecordError → String
  | transform cause => cause.message
  | schema cause => cause.message
  | connection cause => cause.message
  | ontology cause => cause.message
  | storage cause => cause.message
  | unresolvedEnd which reference =>
    which.text ++ " node `" ++ reference ++ "` could not be resolved"
  | noMatchingNodes which =>
    "no live node matches the " ++ which.text ++ " connection parameters"

/-- A record that was not written: the transformation and the branch that were to
produce it, and why. -/
structure RecordFailure where
  transformationId : Option String
  index : List Nat
  error : RecordError
deriving DecidableEq, Repr

namespace RecordFailure

def transformationIdField : Field (Option String) := .nullable "transformation_id" .text

/-- A failure as a document, its error as a message. -/
def write (f : RecordFailure) : Json := .ofFields
  (transformationIdField.write f.transformationId ++
    [("index", .array (f.index.map Json.nat)), ("error", .string f.error.message)])

end RecordFailure

/-- What an ingest wrote, and what it did not write. -/
structure IngestReport where
  nodes : List Node := []
  edges : List Edge := []
  failures : List RecordFailure := []
deriving DecidableEq, Repr, Inhabited

namespace IngestReport

/-- A report as a document. -/
def write (r : IngestReport) : Json := .ofFields
  [("nodes", .array (r.nodes.map Node.codec.write)),
   ("edges", .array (r.edges.map Edge.codec.write)),
   ("failures", .array (r.failures.map RecordFailure.write))]

end IngestReport

/-- Why an ingest ends without a report. -/
inductive IngestError where
  | inactiveMapping (mappingId : Option String)
  | shapeMismatch (expected found : String)
  | storage (cause : StorageError)
  | ontology (cause : OntologyError)
  | cancelled
  | timedOut (milliseconds : Nat)
deriving DecidableEq, Repr

def IngestError.message : IngestError → String
  | inactiveMapping none => "type mapping None is not active"
  | inactiveMapping (some id) => "type mapping Some(" ++ Text.quoted id ++ ") is not active"
  | shapeMismatch expected found =>
    "payload shape `" ++ found ++ "` does not match mapping shape `" ++ expected ++ "`"
  | storage cause => cause.message
  | ontology cause => cause.message
  | cancelled => "ingest cancelled"
  | timedOut milliseconds => "ingest timed out after " ++ toString milliseconds ++ " ms"

end TypedGraph
