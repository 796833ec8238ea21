import TypedGraph.Proofs.Calls
import TypedGraph.Proofs.Registers

/-!
# What transactions write

Writing a node always succeeds (`run_putNode`). Writing an edge fails if its ends cannot
be used or another edge joins the same nodes, and then leaves the graph as it is. A graph
is sound if its tables are registers, and whatever is written or archived keeps it sound.
-/
namespace TypedGraph

/-- A graph whose tables are registers. -/
structure Graph.IsSound (g : Graph) : Prop where
  nodes : IsRegister Node.toRecordBase g.nodes
  edges : IsRegister Edge.toRecordBase g.edges

theorem Graph.isSound_empty : Graph.IsSound {} := ⟨.nil, .nil⟩

namespace Transaction

open Access

variable {ε : Type}

/-! ## Nodes -/

variable [Supply]

/-- The stamp of a node in a transaction, and the count of ids. -/
def nodeStamp (t : Transaction) (n : Node) : RecordBase × Drawn :=
  stamped t.drawn
    ((Graph.replaced? Node.toRecordBase t.graph.nodes n.toRecordBase).map Node.toRecordBase)
    n.toRecordBase

/-- A node as a transaction stores it. -/
def storedNode (t : Transaction) (n : Node) : Node := { n with toRecordBase := (t.nodeStamp n).1 }

/-- A transaction after a node was written. -/
def withNode (t : Transaction) (n : Node) : Transaction :=
  { t with graph := t.graph.insertNode (t.storedNode n), drawn := (t.nodeStamp n).2 }

theorem run_putNode (n : Node) (t : Transaction) :
    (putNode n : Access Transaction ε Node).run.run t = (.ok (t.storedNode n), t.withNode n) := by
  change (stamp _ _ >>= _ : Access Transaction ε Node).run.run t = _
  rw [run_bind_of_ok (run_stamp _ _ t)]
  rfl

/-- Nodes as a transaction stores them one after the other. -/
def storedNodes : Transaction → List Node → List Node
  | _, [] => []
  | t, n :: nodes => t.storedNode n :: storedNodes (t.withNode n) nodes

/-- A transaction after nodes were written one after the other. -/
def withNodes : Transaction → List Node → Transaction
  | t, [] => t
  | t, n :: nodes => withNodes (t.withNode n) nodes

theorem run_mapM_putNode (nodes : List Node) (t : Transaction) :
    (nodes.mapM putNode : Access Transaction ε (List Node)).run.run t =
      (.ok (t.storedNodes nodes), t.withNodes nodes) := by
  induction nodes generalizing t with
  | nil => rfl
  | cons n nodes ih =>
    rw [List.mapM_cons, run_bind_of_ok (run_putNode n t), run_bind_of_ok (ih (t.withNode n))]
    rfl

@[simp] theorem withNodes_calls (t : Transaction) (nodes : List Node) :
    (t.withNodes nodes).calls = t.calls := by
  induction nodes generalizing t with
  | nil => rfl
  | cons n nodes ih => exact ih (t.withNode n)

@[simp] theorem withNodes_edges (t : Transaction) (nodes : List Node) :
    (t.withNodes nodes).graph.edges = t.graph.edges := by
  induction nodes generalizing t with
  | nil => rfl
  | cons n nodes ih => exact ih (t.withNode n)

theorem isSound_withNode {t : Transaction} (h : t.graph.IsSound) (n : Node) :
    (t.withNode n).graph.IsSound where
  nodes := h.nodes.insert_stamped (a := t.storedNode n) (r := n.toRecordBase) rfl
  edges := h.edges

theorem isSound_withNodes {t : Transaction} (h : t.graph.IsSound) (nodes : List Node) :
    (t.withNodes nodes).graph.IsSound := by
  induction nodes generalizing t with
  | nil => exact h
  | cons n nodes ih => exact ih (isSound_withNode h n)

/-! ## Edges -/

/-- The stamp of an edge in a transaction, and the count of ids. -/
def edgeStamp (t : Transaction) (x : Edge) : RecordBase × Drawn :=
  stamped t.drawn
    ((Graph.replaced? Edge.toRecordBase t.graph.edges x.toRecordBase).map Edge.toRecordBase)
    x.toRecordBase

/-- An edge as a transaction stores it. -/
def storedEdge (t : Transaction) (x : Edge) : Edge := { x with toRecordBase := (t.edgeStamp x).1 }

/-- A transaction after an edge was written. -/
def withEdge (t : Transaction) (x : Edge) : Transaction :=
  { t with graph := t.graph.insertEdge (t.storedEdge x), drawn := (t.edgeStamp x).2 }

/-- The edge that stands in the way of another one when it is written. -/
def obstacle? (t : Transaction) (x : Edge) : Option Edge :=
  if x.archived then none else t.graph.clash? (t.storedEdge x)

variable {t : Transaction} {x y : Edge} {originId destinationId : String}

theorem run_putEdge_of_unusable {cause : StorageError} (h : joinedNodes t.graph x = .error cause) :
    (putEdge x).run.run t = (.error cause, t) := by
  have hrun : (ofResult id (joinedNodes t.graph x) : Access Transaction StorageError _).run.run t =
      (.error cause, t) := by
    rw [run_ofResult, h]
    rfl
  exact run_bind_of_error hrun _

private theorem run_putEdge_of_usable (h : joinedNodes t.graph x = .ok (originId, destinationId)) :
    (putEdge x).run.run t =
      match t.obstacle? x with
      | some y => (.error (.uniqueViolation (y.id.getD "") originId destinationId x.pairId),
        { t with drawn := (t.edgeStamp x).2 })
      | none => (.ok (t.storedEdge x), t.withEdge x) := by
  have hrun : (ofResult id (joinedNodes t.graph x) : Access Transaction StorageError _).run.run t =
      (.ok (originId, destinationId), t) := by
    rw [run_ofResult, h]
    rfl
  refine (run_bind_of_ok hrun _).trans ((run_bind_of_ok (run_stamp _ _ t) _).trans ?_)
  have hobstacle : t.obstacle? x =
      if (t.storedEdge x).archived then none else t.graph.clash? (t.storedEdge x) := by
    simp [obstacle?, storedEdge, edgeStamp]
  rw [hobstacle]
  change (match if (t.storedEdge x).archived then none else t.graph.clash? (t.storedEdge x) with
    | some y => throw _
    | none => _ : Access Transaction StorageError Edge).run.run _ = _
  split <;> rfl

theorem run_putEdge_of_obstacle (h : joinedNodes t.graph x = .ok (originId, destinationId))
    (hy : t.obstacle? x = some y) :
    (putEdge x).run.run t =
      (.error (.uniqueViolation (y.id.getD "") originId destinationId x.pairId),
        { t with drawn := (t.edgeStamp x).2 }) := by
  rw [run_putEdge_of_usable h, hy]

theorem run_putEdge_of_free (h : joinedNodes t.graph x = .ok (originId, destinationId))
    (hfree : t.obstacle? x = none) :
    (putEdge x).run.run t = (.ok (t.storedEdge x), t.withEdge x) := by
  rw [run_putEdge_of_usable h, hfree]

theorem isSound_withEdge (h : t.graph.IsSound) (x : Edge) : (t.withEdge x).graph.IsSound where
  nodes := h.nodes
  edges := h.edges.insert_stamped (a := t.storedEdge x) (r := x.toRecordBase) rfl

/-! ## Calls that write -/

variable {I : Graph → Prop} {outage : Outage}

/-- A call that puts nodes keeps what the writes of these nodes keep. -/
theorem keeps_putNodes {nodes : List Node}
    (h : ∀ t : Transaction, I t.graph → I (t.withNodes nodes).graph) :
    Keeps I (putNodes outage nodes) := by
  refine Keeps.call fun t ht => ?_
  rw [run_mapM_putNode]
  exact h t ht

section Edges

variable (h : ∀ (t : Transaction) x ids, joinedNodes t.graph x = .ok ids → t.obstacle? x = none →
  I t.graph → I (t.withEdge x).graph)

include h

theorem keeps_putEdge (x : Edge) : Keeps I (putEdge x) := by
  intro t ht
  cases hjoined : joinedNodes t.graph x with
  | error cause =>
    rw [run_putEdge_of_unusable hjoined]
    exact ht
  | ok ids =>
    cases hy : t.obstacle? x with
    | some y =>
      rw [run_putEdge_of_obstacle hjoined hy]
      exact ht
    | none =>
      rw [run_putEdge_of_free hjoined hy]
      exact h t x ids hjoined hy ht

/-- A call that puts edges keeps what the write of an edge keeps that may be written. -/
theorem keeps_putEdges (edges : List Edge) : Keeps I (putEdges outage edges) := by
  refine Keeps.call ?_
  split
  · exact fun _ ht => ht
  · exact Keeps.mapM (keeps_putEdge h) edges

end Edges

omit [Supply] in
/-- A change of the graph keeps what it keeps where it is possible. -/
theorem keeps_update {f : Graph → Option Graph} {e : StorageError}
    (h : ∀ g g', I g → f g = some g' → I g') :
    Keeps I (do
      match f (← get).graph with
      | some graph => modify fun t => { t with graph }
      | none => throw e : Access Transaction StorageError Unit) := by
  intro t ht
  have hget : (get : Access Transaction StorageError _).run.run t = (.ok t, t) := rfl
  rw [run_bind_of_ok hget]
  cases hg : f t.graph with
  | none => exact ht
  | some g' => exact h _ _ ht hg

omit [Supply] in
theorem keeps_archiveNode {id : String}
    (h : ∀ g g', I g → Graph.archiveNode? g id = some g' → I g') :
    Keeps I (archiveNode outage id) :=
  (keeps_update h).call

omit [Supply] in
theorem keeps_archiveEdge {id : String}
    (h : ∀ g g', I g → Graph.archiveEdge? g id = some g' → I g') :
    Keeps I (archiveEdge outage id) :=
  (keeps_update h).call

end Transaction

namespace Graph

variable {g g' : Graph} {id : String}

/-- Archiving a node, and the edges at it, keeps the register of edges. -/
theorem isRegister_archiveNode? (h : IsRegister Edge.toRecordBase g.edges)
    (hg : g.archiveNode? id = some g') : IsRegister Edge.toRecordBase g'.edges := by
  obtain ⟨n, -, rfl⟩ := Option.map_eq_some_iff.1 hg
  refine h.map (f := fun x => if touches id x then { x with archived := true } else x) ?_ ?_ ?_ ?_
  all_goals
    intro x
    split <;> rfl

theorem isSound_archiveNode? (h : g.IsSound) (hg : g.archiveNode? id = some g') : g'.IsSound := by
  have hedges := isRegister_archiveNode? h.edges hg
  obtain ⟨n, hn, rfl⟩ := Option.map_eq_some_iff.1 hg
  exact ⟨h.nodes.insert_same hn rfl rfl rfl rfl, hedges⟩

theorem isSound_archiveEdge? (h : g.IsSound) (hg : g.archiveEdge? id = some g') : g'.IsSound := by
  obtain ⟨x, hx, rfl⟩ := Option.map_eq_some_iff.1 hg
  exact ⟨h.nodes, h.edges.insert_same hx rfl rfl rfl rfl⟩

end Graph

end TypedGraph
