import TypedGraph.Graph.Transaction
import TypedGraph.Ontology.Basic

/-!
# Connecting nodes

An edge of a pair may join two nodes if they have the metatypes of the pair, are stored
and not archived, and no other edge of the pair stands in its way: none joins the same
nodes, and the cardinality of the pair admits one more at either end. What is wrong is
reported in this order, and at each step for the origin first.
-/
namespace TypedGraph

/-- Why two nodes cannot be connected. -/
inductive ConnectionError where
  | typeMismatch (which : End) (expected found : String)
  | duplicate (pairId originId destinationId : String)
  | cardinality (pairId : String) (rule : Cardinality) (which : End) (nodeId edgeId : String)
  | unsavedNode (which : End)
  | archivedNode (which : End) (nodeId : String)
  | lookup (cause : StorageError)
deriving DecidableEq, Repr

def ConnectionError.message : ConnectionError → String
  | typeMismatch which expected found =>
    which.text ++ " node has metatype `" ++ found ++ "`, relationship pair expects `" ++
      expected ++ "`"
  | duplicate pairId originId destinationId =>
    "an edge of pair `" ++ pairId ++ "` already connects `" ++ originId ++ "` to `" ++
      destinationId ++ "`"
  | cardinality pairId rule which nodeId edgeId =>
    rule.text ++ " pair `" ++ pairId ++ "`: " ++ which.text ++ " node `" ++ nodeId ++
      "` already has edge `" ++ edgeId ++ "`"
  | unsavedNode which => which.text ++ " node has not been saved"
  | archivedNode which nodeId => which.text ++ " node `" ++ nodeId ++ "` is archived"
  | lookup cause => "edge lookup failed: " ++ cause.message

namespace Connection

/-- The ids of two nodes that an edge of a pair may join as far as the nodes are concerned. -/
def checkNodes (pair : RelationshipPair) (origin destination : Node) :
    Except ConnectionError (String × String) :=
  if origin.metatypeId ≠ pair.originMetatypeId then
    .error (.typeMismatch .origin pair.originMetatypeId origin.metatypeId)
  else if destination.metatypeId ≠ pair.destinationMetatypeId then
    .error (.typeMismatch .destination pair.destinationMetatypeId destination.metatypeId)
  else
    match origin.id, destination.id with
    | none, _ => .error (.unsavedNode .origin)
    | some _, none => .error (.unsavedNode .destination)
    | some originId, some destinationId =>
      if origin.archived then .error (.archivedNode .origin originId)
      else if destination.archived then .error (.archivedNode .destination destinationId)
      else .ok (originId, destinationId)

/-- The first edge other than the one that is to be replaced. -/
def firstOther? (replaced : Option String) (edges : List Edge) : Option Edge :=
  edges.find? fun x => replaced.all fun id => x.id != some id

/-- Refuses to go on if there is an edge other than the one that is to be replaced. -/
def refuseOther (replaced : Option String) (edges : Access Transaction StorageError (List Edge))
    (refusal : Edge → ConnectionError) : Access Transaction ConnectionError Unit := do
  match ← Access.outcome edges with
  | .error cause => throw (.lookup cause)
  | .ok edges =>
    match firstOther? replaced edges with
    | some x => throw (refusal x)
    | none => return

/-- Checks that an edge of a pair may join two nodes, once the edge `replaced` is gone. -/
def check (outage : Outage) (pair : RelationshipPair) (origin destination : Node)
    (replaced : Option String) : Access Transaction ConnectionError Unit := do
  let (originId, destinationId) ← Access.ofResult id (checkNodes pair origin destination)
  let pairId := pair.id.getD ""
  refuseOther replaced (Transaction.edgesBetween outage pairId originId destinationId) fun _ =>
    .duplicate pairId originId destinationId
  if pair.cardinality.oneFromOrigin then
    refuseOther replaced (Transaction.edgesFromOrigin outage pairId originId) fun x =>
      .cardinality pairId pair.cardinality .origin originId (x.id.getD "")
  if pair.cardinality.oneIntoDestination then
    refuseOther replaced (Transaction.edgesIntoDestination outage pairId destinationId) fun x =>
      .cardinality pairId pair.cardinality .destination destinationId (x.id.getD "")

end Connection

end TypedGraph
