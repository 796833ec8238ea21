import TypedGraph.Ingest.Report

/-!
# Finding the ends of an edge

An end that carries an identity is one node: the one of the id, else the one of the
composite identity, else the one of the identity in its source. An end that carries
none may be any node that meets its parameters.
-/
namespace TypedGraph

/-- The nodes that an end may be, and whether they were found by parameters. -/
structure EndNodes where
  nodes : List Node
  byParameters : Bool
deriving DecidableEq, Repr, Inhabited

namespace EdgeEnd

/-- Whether the end names one node. -/
def namesNode (x : EdgeEnd) : Bool :=
  x.nodeId.isSome || x.compositeId.isSome || x.externalId.isSome

/-- The name of the node in a message. -/
def reference (x : EdgeEnd) : String :=
  (x.nodeId <|> x.compositeId <|> x.externalId).getD "<none>"

end EdgeEnd

/-- The metatype of a pair at one of the ends. -/
def RelationshipPair.metatypeAt (p : RelationshipPair) : End → String
  | .origin => p.originMetatypeId
  | .destination => p.destinationMetatypeId

namespace Ingest

/-- Looks for a node if its two names are known. -/
def findIfNamed (first second : Option String)
    (find : String → String → Access Transaction StorageError (Option Node)) :
    Access Transaction StorageError (Option Node) :=
  match first, second with
  | some a, some b => find a b
  | _, _ => return none

/-- The node that an end names. The data source of the end is that of the edge unless
it has its own, and its metatype that of the pair. -/
def findNamedNode (outage : Outage) (edge : Edge) (pair : RelationshipPair) (which : End) :
    Access Transaction StorageError (Option Node) := do
  let x := edge.side which
  let dataSourceId := x.dataSourceId <|> edge.dataSourceId
  let metatypeId := x.metatypeId.getD (pair.metatypeAt which)
  let byId ← match x.nodeId with
    | some id => Transaction.findNode outage id
    | none => pure none
  if byId.isSome then return byId
  let byComposite ← findIfNamed x.compositeId dataSourceId (Transaction.findNodeByComposite outage)
  if byComposite.isSome then return byComposite
  findIfNamed x.externalId dataSourceId fun externalId dataSourceId =>
    Transaction.findNodeByExternal outage externalId dataSourceId metatypeId

/-- The condition that a parameter puts on nodes; none if no node can meet it. -/
def parameterCondition (o : Ontology) (containerId : String) (p : ConnectionParameter) :
    Access Transaction IngestError (Option NodeCondition) :=
  match p.value with
  | none | some .null => return none
  | some value =>
    match p.kind with
    | .id => return some (.id value.display)
    | .dataSource => return some (.dataSource value.display)
    | .metatypeId => return some (.metatype value.display)
    | .externalId => return some (.externalId value.display)
    | .property => return p.property.map fun name => .property name value
    | .metatypeName => do
      match ← Access.outcome (o.metatypeByName containerId value.display) with
      | .ok metatype => return some (.metatype (metatype.id.getD ""))
      | .error (.notFound _ _) => return none
      | .error cause => throw (.ontology cause)

/-- The conditions that parameters put on nodes; none if no node can meet them. -/
def parameterConditions (o : Ontology) (containerId : String) :
    List ConnectionParameter → Access Transaction IngestError (Option (List NodeCondition))
  | [] => return some []
  | p :: rest => do
    match ← parameterCondition o containerId p with
    | none => return none
    | some condition =>
      return (← parameterConditions o containerId rest).map (condition :: ·)

/-- The nodes that meet parameters. -/
def findMatchingNodes (o : Ontology) (outage : Outage) (containerId : String)
    (parameters : List ConnectionParameter) : Access Transaction IngestError (List Node) := do
  match ← parameterConditions o containerId parameters with
  | none => return []
  | some conditions =>
    Access.ofResult .storage (← Access.outcome
      (Transaction.findNodes outage { containerId, conditions }))

/-- The nodes that an end of an edge may be. -/
def findEnd (o : Ontology) (outage : Outage) (edge : Edge) (pair : RelationshipPair)
    (which : End) : Access Transaction IngestError (Except RecordError EndNodes) := do
  let x := edge.side which
  if x.namesNode || x.parameters.isEmpty then
    match ← Access.outcome (findNamedNode outage edge pair which) with
    | .error cause => throw (.storage cause)
    | .ok (some n) => return .ok ⟨[n], false⟩
    | .ok none => return .error (.unresolvedEnd which x.reference)
  else
    match ← findMatchingNodes o outage edge.containerId x.parameters with
    | [] => return .error (.noMatchingNodes which)
    | nodes => return .ok ⟨nodes, true⟩

end Ingest

end TypedGraph
