import TypedGraph.Access
import TypedGraph.Graph.Basic
import TypedGraph.Graph.Supply

/-!
# Transactions

A transaction works on a copy of the graph. New records are given an id and a time of
creation if they come without. Both are drawn from a supply, and what was drawn is gone
even where the record that it was drawn for is refused. Writing edges stops at the first
that is refused, and leaves the edges before it written.
-/
namespace TypedGraph

/-- What the graph keeps. -/
inductive RecordKind where
  | node
  | edge
deriving DecidableEq, Repr

def RecordKind.text : RecordKind → String
  | node => "node"
  | edge => "edge"

/-- Why a call on the graph fails. -/
inductive StorageError where
  /-- Two edges of a pair would join the same nodes. -/
  | uniqueViolation (edgeId originId destinationId pairId : String)
  | notFound (kind : RecordKind) (id : String)
  | backend (reason : String)
deriving DecidableEq, Repr

def StorageError.message : StorageError → String
  | uniqueViolation edgeId originId destinationId pairId =>
    "unique constraint violated: edge `" ++ edgeId ++ "` already connects `" ++ originId ++
      "` to `" ++ destinationId ++ "` on pair `" ++ pairId ++ "`"
  | notFound kind id => kind.text ++ " `" ++ id ++ "` not found"
  | backend reason => "storage backend error: " ++ reason

/-- A transaction: its copy of the graph, how much was drawn, and the calls made. -/
structure Transaction where
  graph : Graph := {}
  drawn : Drawn := {}
  calls : List Method := []
deriving DecidableEq, Repr, Inhabited

namespace Transaction

instance : KeepsCalls Transaction := ⟨fun m t => { t with calls := m :: t.calls }⟩

variable [Supply] {ε : Type}

/-- Draws an id. -/
def drawId : Access Transaction ε String := do
  let n := (← get).drawn.ids + 1
  modify fun t => { t with drawn.ids := n }
  return Supply.drawnId n

/-- Reads the clock. -/
def readClock : Access Transaction ε Timestamp := do
  let n := (← get).drawn.readings + 1
  modify fun t => { t with drawn.readings := n }
  return Supply.reading n

/-- Gives a record the id and the time of creation of the record it replaces, or else
an id and a time of its own where it has none. -/
def stamp (replaced : Option RecordBase) (r : RecordBase) : Access Transaction ε RecordBase :=
  match replaced with
  | some old => return { r with id := old.id, createdAt := old.createdAt <|> r.createdAt }
  | none => do
    let id ← match r.id with
      | some id => pure id
      | none => drawId
    let createdAt ← match r.createdAt with
      | some createdAt => pure createdAt
      | none => readClock
    return { r with id := some id, createdAt := some createdAt }

/-- Writes a node. -/
def putNode (n : Node) : Access Transaction ε Node := do
  let g := (← get).graph
  let old := Graph.replaced? Node.toRecordBase g.nodes n.toRecordBase
  let base ← stamp (old.map Node.toRecordBase) n.toRecordBase
  let n := { n with toRecordBase := base }
  modify fun t => { t with graph := t.graph.insertNode n }
  return n

/-- The ids of the nodes that an edge joins. They have to be known and stored, and not
to be archived unless the edge is. -/
def joinedNodes (g : Graph) (x : Edge) : Except StorageError (String × String) :=
  match x.origin.nodeId, x.destination.nodeId with
  | some originId, some destinationId =>
    let isUsable (id : String) : Bool := (g.nodes.get? id).any fun n => x.archived || !n.archived
    if !isUsable originId then .error (.notFound .node originId)
    else if !isUsable destinationId then .error (.notFound .node destinationId)
    else .ok (originId, destinationId)
  | _, _ => .error (.backend "edge endpoints must be node ids before they are written")

/-- Writes an edge. -/
def putEdge (x : Edge) : Access Transaction StorageError Edge := do
  let g := (← get).graph
  let (originId, destinationId) ← Access.ofResult id (joinedNodes g x)
  let old := Graph.replaced? Edge.toRecordBase g.edges x.toRecordBase
  let base ← stamp (old.map Edge.toRecordBase) x.toRecordBase
  let x := { x with toRecordBase := base }
  match if x.archived then none else g.clash? x with
  | some y => throw (.uniqueViolation (y.id.getD "") originId destinationId x.pairId)
  | none =>
    modify fun t => { t with graph := t.graph.insertEdge x }
    return x

/-- Calls a method that only reads the graph. -/
def read {α : Type} (outage : Outage) (m : Method) (answer : Graph → α) :
    Access Transaction StorageError α :=
  .call outage m .backend do return answer (← get).graph

def findNode (outage : Outage) (id : String) : Access Transaction StorageError (Option Node) :=
  read outage .findNode fun g => g.node? id

def findNodeByComposite (outage : Outage) (compositeId dataSourceId : String) :
    Access Transaction StorageError (Option Node) :=
  read outage .findNodeByComposite fun g => g.nodeByComposite? compositeId dataSourceId

def findNodeByExternal (outage : Outage) (externalId dataSourceId metatypeId : String) :
    Access Transaction StorageError (Option Node) :=
  read outage .findNodeByExternal fun g => g.nodeByExternal? externalId dataSourceId metatypeId

def findNodes (outage : Outage) (f : NodeFilter) : Access Transaction StorageError (List Node) :=
  read outage .findNodes fun g => g.nodesWhere f

def findEdgeByComposite (outage : Outage) (compositeId dataSourceId : String) :
    Access Transaction StorageError (Option Edge) :=
  read outage .findEdgeByComposite fun g => g.edgeByComposite? compositeId dataSourceId

def edgesFromOrigin (outage : Outage) (pairId originId : String) :
    Access Transaction StorageError (List Edge) :=
  read outage .edgesFromOrigin fun g => g.edgesFrom pairId originId

def edgesIntoDestination (outage : Outage) (pairId destinationId : String) :
    Access Transaction StorageError (List Edge) :=
  read outage .edgesIntoDestination fun g => g.edgesInto pairId destinationId

def edgesBetween (outage : Outage) (pairId originId destinationId : String) :
    Access Transaction StorageError (List Edge) :=
  read outage .edgesBetween fun g => g.edgesBetween pairId originId destinationId

/-- Writes nodes, and returns them as they are stored. -/
def putNodes (outage : Outage) (nodes : List Node) : Access Transaction StorageError (List Node) :=
  .call outage .putNodes .backend (nodes.mapM putNode)

/-- Writes edges, and returns them as they are stored. -/
def putEdges (outage : Outage) (edges : List Edge) : Access Transaction StorageError (List Edge) :=
  .call outage .putEdges .backend
    (if outage.silentEdges then return [] else edges.mapM putEdge)

/-- Archives a node with the edges that end at it. -/
def archiveNode (outage : Outage) (id : String) : Access Transaction StorageError Unit :=
  .call outage .archiveNode .backend do
    match (← get).graph.archiveNode? id with
    | some graph => modify fun t => { t with graph }
    | none => throw (.notFound .node id)

/-- Archives an edge. -/
def archiveEdge (outage : Outage) (id : String) : Access Transaction StorageError Unit :=
  .call outage .archiveEdge .backend do
    match (← get).graph.archiveEdge? id with
    | some graph => modify fun t => { t with graph }
    | none => throw (.notFound .edge id)

end Transaction

end TypedGraph
