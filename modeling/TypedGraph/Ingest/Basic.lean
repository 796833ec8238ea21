import TypedGraph.Ingest.Ends
import TypedGraph.Ingest.Memo
import TypedGraph.Mapping.Output

/-!
# Ingesting payloads

An ingest applies every transformation of a mapping to a payload and writes the records
in one transaction, all nodes before the edges. A record that the schema, the ends or
the cardinality of its pair do not admit is reported and left out; a store that fails
ends the ingest, and the transaction is dropped.

An edge whose ends were found by parameters is written once for every combination of
its ends, each with a composite identity of its own.
-/
namespace TypedGraph

/-- What an ingest works with. -/
structure IngestSetting where
  ontology : Ontology := {}
  /-- The methods of the graph that are not served. -/
  outage : Outage := {}
  config : IngestConfig := {}
deriving DecidableEq, Repr, Inhabited

/-- A record on its way into the graph. -/
structure Pending (α : Type) where
  transformationId : Option String
  index : List Nat
  record : α
deriving DecidableEq, Repr, Inhabited

/-- The failure of a record on its way. -/
def Pending.failure {α : Type} (p : Pending α) (error : RecordError) : RecordFailure :=
  ⟨p.transformationId, p.index, error⟩

/-- What the transformations of a mapping produce. -/
structure Produced where
  nodes : List (Pending Node) := []
  edges : List (Pending Edge) := []
  failures : List RecordFailure := []
deriving DecidableEq, Repr, Inhabited

namespace Produced

def append (a b : Produced) : Produced :=
  ⟨a.nodes ++ b.nodes, a.edges ++ b.edges, a.failures ++ b.failures⟩

/-- The output of a transformation. -/
def ofOutput (transformationId : Option String) (output : TransformOutput) : Produced where
  nodes := output.records.filterMap fun r => r.record.node?.map (⟨transformationId, r.index, ·⟩)
  edges := output.records.filterMap fun r => r.record.edge?.map (⟨transformationId, r.index, ·⟩)
  failures := output.errors.map fun e => ⟨transformationId, e.index, .transform e.error⟩

end Produced

/-- The schemas of metatypes or relationships as far as they were compiled. -/
abbrev SchemaMemo := Memo (Except RecordError CompiledSchema)

/-- The pairs and the schemas of relationships that were asked for. -/
structure EdgeMemo where
  pairs : Memo (Except RecordError RelationshipPair) := {}
  schemas : SchemaMemo := {}

namespace Ingest

variable [Supply] [PatternEngine]

/-- Checks that a mapping is active and a payload has its shape. -/
def checkMapping (config : IngestConfig) (mapping : TypeMapping) (staged : StagedData) :
    Except IngestError Unit :=
  let found := mapping.fingerprint staged.data
  if config.requireActive && !mapping.active then .error (.inactiveMapping mapping.id)
  else if config.requireShape && found != mapping.shapeHash then
    .error (.shapeMismatch mapping.shapeHash found)
  else .ok ()

section Preparation

variable {σ : Type} [KeepsCalls σ]

/-- Applies transformations. One that fails as a whole is a failure without a branch,
unless the ontology is out. -/
def produce (o : Ontology) (staged : StagedData) : List Transformation →
    Access σ IngestError Produced
  | [] => return {}
  | t :: rest => do
    let produced : Produced ← match ← Access.outcome (t.apply o staged) with
      | .ok output => pure (.ofOutput t.id output)
      | .error (.ontology (.backend reason)) => throw (.ontology (.backend reason))
      | .error error => pure { failures := [⟨t.id, [], .transform error⟩] }
    return produced.append (← produce o staged rest)

/-- A question to the ontology whose answer may be that there is no such record. -/
def askOntology {α : Type} (question : Access σ OntologyError α) :
    Access σ IngestError (Except RecordError α) := do
  match ← Access.outcome question with
  | .ok a => return .ok a
  | .error (.notFound kind id) => return .error (.ontology (.notFound kind id))
  | .error cause => throw (.ontology cause)

/-- The schema of the keys that the ontology answers with. -/
def askSchema (question : Access σ OntologyError (List PropertyKey)) :
    Access σ IngestError (Except RecordError CompiledSchema) := do
  match ← askOntology question with
  | .ok keys => return (CompiledSchema.compile keys).mapError .schema
  | .error error => return .error error

/-- Applies a schema to the properties of a record. -/
def checkProperties (schema : Except RecordError CompiledSchema) (r : RecordBase) :
    Except RecordError RecordBase := do
  let properties ← ((← schema).apply (.object r.properties)).mapError .schema
  return { r with properties }

/-- Applies the schema of its metatype to a node. -/
def validateNode (s : IngestSetting) (memo : SchemaMemo) (n : Node) :
    Access σ IngestError (Except RecordError Node × SchemaMemo) := do
  if !s.config.validateProperties then return (.ok n, memo)
  let (schema, memo) ← memo.answer n.metatypeId
    (askSchema (s.ontology.metatypeKeys n.containerId n.metatypeId))
  return ((checkProperties schema n.toRecordBase).map fun base => { n with toRecordBase := base },
    memo)

/-- Applies schemas to nodes: those that are admitted, and the failures of the others. -/
def validateNodes (s : IngestSetting) :
    SchemaMemo → List (Pending Node) → Access σ IngestError (List Node × List RecordFailure)
  | _, [] => return ([], [])
  | memo, p :: rest => do
    let (result, memo) ← validateNode s memo p.record
    let (nodes, failures) ← validateNodes s memo rest
    match result with
    | .ok n => return (n :: nodes, failures)
    | .error error => return (nodes, p.failure error :: failures)

/-- What is to be written, and what has failed before. -/
structure Prepared where
  nodes : List Node
  edges : List (Pending Edge)
  failures : List RecordFailure
deriving DecidableEq, Repr, Inhabited

/-- Everything that comes before the transaction. -/
def prepare (s : IngestSetting) (mapping : TypeMapping) (staged : StagedData) :
    Access σ IngestError Prepared := do
  Access.ofResult id (checkMapping s.config mapping staged)
  let produced ← produce s.ontology staged mapping.liveTransformations
  let (nodes, failures) ← validateNodes s {} produced.nodes
  return ⟨nodes, produced.edges, produced.failures ++ failures⟩

end Preparation

/-- Applies the schema of the relationship of its pair to an edge. -/
def validateEdge (s : IngestSetting) (memo : SchemaMemo) (pair : RelationshipPair) (edge : Edge) :
    Access Transaction IngestError (Except RecordError Edge × SchemaMemo) := do
  if !s.config.validateProperties then return (.ok edge, memo)
  let (schema, memo) ← memo.answer pair.relationshipId
    (askSchema (s.ontology.relationshipKeys edge.containerId pair.relationshipId))
  return ((checkProperties schema edge.toRecordBase).map fun base =>
    { edge with toRecordBase := base }, memo)

/-- The id of the edge that writing an edge would replace. -/
def replacedId (s : IngestSetting) (edge : Edge) :
    Access Transaction StorageError (Option String) := do
  let stored ← match edge.compositeId, edge.dataSourceId with
    | some compositeId, some dataSourceId =>
      Transaction.findEdgeByComposite s.outage compositeId dataSourceId
    | _, _ => pure none
  return stored.bind (·.id) <|> edge.id

/-- Joins an edge to the nodes that were found for its ends. -/
def joinTo (edge : Edge) (origin destination : Node) : Edge :=
  { edge with
    origin := { edge.origin with nodeId := origin.id, metatypeId := some origin.metatypeId }
    destination :=
      { edge.destination with
        nodeId := destination.id, metatypeId := some destination.metatypeId } }

/-- Writes an edge between two nodes if they may be connected. -/
def connect (s : IngestSetting) (pair : RelationshipPair) (edge : Edge)
    (origin destination : Node) : Access Transaction IngestError (Except RecordError Edge) := do
  let edge := joinTo edge origin destination
  let replaced ← Access.ofResult .storage (← Access.outcome (replacedId s edge))
  match ← Access.outcome (Connection.check s.outage pair origin destination replaced) with
  | .error (.lookup cause) => throw (.storage cause)
  | .error cause => return .error (.connection cause)
  | .ok () =>
    match ← Access.outcome (Transaction.putEdges s.outage [edge]) with
    | .ok stored =>
      match stored.getLast? with
      | some edge => return .ok edge
      | none => return .error (.storage (.backend "edge write returned nothing"))
    | .error (.uniqueViolation edgeId originId destinationId pairId) =>
      return .error (.storage (.uniqueViolation edgeId originId destinationId pairId))
    | .error cause => throw (.storage cause)

/-- The copy of an edge for one combination of its ends. -/
def copyFor (edge : Edge) (origin destination : Node) : Edge :=
  { edge with
    compositeId := edge.compositeId.map fun id =>
      id ++ "+" ++ origin.id.getD "" ++ "+" ++ destination.id.getD ""
    origin := { edge.origin with parameters := [] }
    destination := { edge.destination with parameters := [] } }

/-- Writes an edge for every combination of the nodes that its ends may be. -/
def connectAll (s : IngestSetting) (pair : RelationshipPair) (edge : Edge)
    (origins destinations : EndNodes) :
    Access Transaction IngestError (List (Except RecordError Edge)) :=
  let isCopied := origins.byParameters || destinations.byParameters
  let combinations := origins.nodes.flatMap fun a => destinations.nodes.map fun b => (a, b)
  combinations.mapM fun (origin, destination) =>
    connect s pair (if isCopied then copyFor edge origin destination else edge) origin destination

/-- Writes an edge: the result for every combination of its ends, or its failure. -/
def writeEdge (s : IngestSetting) (memo : EdgeMemo) (edge : Edge) :
    Access Transaction IngestError (List (Except RecordError Edge) × EdgeMemo) := do
  let (pair, pairs) ← memo.pairs.answer edge.pairId
    (askOntology (s.ontology.relationshipPair edge.containerId edge.pairId))
  let memo := { memo with pairs }
  match pair with
  | .error error => return ([.error error], memo)
  | .ok pair =>
    let (edge, schemas) ← validateEdge s memo.schemas pair edge
    let memo := { memo with schemas }
    match edge with
    | .error error => return ([.error error], memo)
    | .ok edge =>
      match ← findEnd s.ontology s.outage edge pair .origin with
      | .error error => return ([.error error], memo)
      | .ok origins =>
        match ← findEnd s.ontology s.outage edge pair .destination with
        | .error error => return ([.error error], memo)
        | .ok destinations => return (← connectAll s pair edge origins destinations, memo)

/-- Writes edges: those that were written, and the failures of the others. -/
def writeEdges (s : IngestSetting) :
    EdgeMemo → List (Pending Edge) → Access Transaction IngestError (List Edge × List RecordFailure)
  | _, [] => return ([], [])
  | memo, p :: rest => do
    let (results, memo) ← writeEdge s memo p.record
    let (edges, failures) ← writeEdges s memo rest
    return (results.filterMap Except.toOption ++ edges,
      (results.filterMap fun
        | .ok _ => none
        | .error error => some (p.failure error)) ++ failures)

/-- Everything that happens in the transaction. -/
def write (s : IngestSetting) (prepared : Prepared) :
    Access Transaction IngestError IngestReport := do
  let nodes ← Access.ofResult .storage
    (← Access.outcome (Transaction.putNodes s.outage prepared.nodes))
  let (edges, failures) ← writeEdges s {} prepared.edges
  return ⟨nodes, edges, prepared.failures ++ failures⟩

/-- Everything up to the beginning of the transaction. -/
def start {σ : Type} [KeepsCalls σ] (s : IngestSetting) (mapping : TypeMapping)
    (staged : StagedData) : Access σ IngestError Prepared := do
  let prepared ← prepare s mapping staged
  Access.call s.outage .begin (fun reason => .storage (.backend reason)) (return prepared)

/-- An ingest on the copy of the graph that its transaction works on. -/
def run (s : IngestSetting) (mapping : TypeMapping) (staged : StagedData) :
    Access Transaction IngestError IngestReport := do
  let prepared ← start s mapping staged
  let report ← write s prepared
  Access.call s.outage .commit (fun reason => .storage (.backend reason)) (return report)

end Ingest

end TypedGraph
