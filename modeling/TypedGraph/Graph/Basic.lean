import TypedGraph.Graph.Filter

/-!
# Graphs

A graph keeps nodes and edges in tables by their ids. Records with a composite identity
are told apart by it and their data source, all others by their ids alone. A record
that is put takes the place of the one it is told to be, and keeps the id and the time
of creation of that one.
-/
namespace TypedGraph

/-- Nodes and edges by their ids. -/
structure Graph where
  nodes : Table Node := []
  edges : Table Edge := []
deriving DecidableEq, Repr, Inhabited

namespace RecordBase

/-- Whether a record has a composite identity in a data source. -/
def hasIdentity (compositeId dataSourceId : String) (r : RecordBase) : Bool :=
  r.compositeId == some compositeId && r.dataSourceId == some dataSourceId

end RecordBase

namespace Graph

/-- The record of a composite identity, archived or not. -/
def byIdentity? {α : Type} (base : α → RecordBase) (t : Table α)
    (compositeId dataSourceId : String) : Option α :=
  t.values.find? fun a => (base a).hasIdentity compositeId dataSourceId

/-- The record whose place another one takes. -/
def replaced? {α : Type} (base : α → RecordBase) (t : Table α) (r : RecordBase) : Option α :=
  match r.compositeId, r.dataSourceId with
  | some compositeId, some dataSourceId => byIdentity? base t compositeId dataSourceId
  | _, _ => r.id.bind t.get?

/-- A node that is not archived. -/
def node? (g : Graph) (id : String) : Option Node :=
  (g.nodes.get? id).filter fun n => !n.archived

/-- The node of a composite identity, unless it is archived. -/
def nodeByComposite? (g : Graph) (compositeId dataSourceId : String) : Option Node :=
  (byIdentity? Node.toRecordBase g.nodes compositeId dataSourceId).filter fun n => !n.archived

/-- The node of an identity in its source, the one with the least id if there are several. -/
def nodeByExternal? (g : Graph) (externalId dataSourceId metatypeId : String) : Option Node :=
  g.nodes.values.find? fun n =>
    !n.archived && n.externalId == some externalId && n.dataSourceId == some dataSourceId &&
      n.metatypeId == metatypeId

/-- The nodes that a filter selects, in the order of their ids. -/
def nodesWhere (g : Graph) (f : NodeFilter) : List Node := g.nodes.values.filter f.selects

/-- The edge of a composite identity, archived or not. -/
def edgeByComposite? (g : Graph) (compositeId dataSourceId : String) : Option Edge :=
  byIdentity? Edge.toRecordBase g.edges compositeId dataSourceId

/-- The edges that are not archived, in the order of their ids. -/
def liveEdges (g : Graph) : List Edge := g.edges.values.filter fun x => !x.archived

/-- The edges of a pair that leave a node. -/
def edgesFrom (g : Graph) (pairId originId : String) : List Edge :=
  g.liveEdges.filter fun x => x.pairId == pairId && x.origin.nodeId == some originId

/-- The edges of a pair that enter a node. -/
def edgesInto (g : Graph) (pairId destinationId : String) : List Edge :=
  g.liveEdges.filter fun x => x.pairId == pairId && x.destination.nodeId == some destinationId

/-- The edges of a pair from one node to another. -/
def edgesBetween (g : Graph) (pairId originId destinationId : String) : List Edge :=
  g.liveEdges.filter fun x =>
    x.pairId == pairId && x.origin.nodeId == some originId &&
      x.destination.nodeId == some destinationId

/-- Stores a node under its id. -/
def insertNode (g : Graph) (n : Node) : Graph :=
  { g with nodes := g.nodes.insert (n.id.getD "") n }

/-- Stores an edge under its id. -/
def insertEdge (g : Graph) (x : Edge) : Graph :=
  { g with edges := g.edges.insert (x.id.getD "") x }

/-- An edge that is not archived and joins the same nodes on the same pair as another one. -/
def clash? (g : Graph) (x : Edge) : Option Edge :=
  g.liveEdges.find? fun y =>
    y.id != x.id && y.pairId == x.pairId && y.origin.nodeId == x.origin.nodeId &&
      y.destination.nodeId == x.destination.nodeId

/-- Whether an edge ends at a node. -/
def touches (id : String) (x : Edge) : Bool :=
  x.origin.nodeId == some id || x.destination.nodeId == some id

/-- Archives a node and every edge that ends at it; nothing if there is no such node. -/
def archiveNode? (g : Graph) (id : String) : Option Graph :=
  (g.nodes.get? id).map fun n =>
    { nodes := g.nodes.insert id { n with archived := true }
      edges := g.edges.map fun (k, x) => (k, if touches id x then { x with archived := true } else x) }

/-- Archives an edge; nothing if there is no such edge. -/
def archiveEdge? (g : Graph) (id : String) : Option Graph :=
  (g.edges.get? id).map fun x => { g with edges := g.edges.insert id { x with archived := true } }

end Graph

end TypedGraph
