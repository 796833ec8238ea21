import Mathlib.Data.List.Induction
import TypedGraph.Graph.Counting
import TypedGraph.Pattern.Engine
import TypedGraph.Proofs.Batches
import TypedGraph.Proofs.Reached

/-!
# What a record takes the place of

A record that is put is keyed to a stored one by its composite identity in its data source, or
by its id if it has no such identity. It takes the place of that one, with its id and its time of
creation, and all other records stay as they are. But a record with a new identity is stored
under the id that it has, whether that is taken or not. A batch replaces records to which
nothing is keyed exactly if this happens with one of its records
(`Transaction.upserts_iff_isOrderly`).
-/
namespace TypedGraph

open Access

/-- Whether a record that is put is told to be a stored one: by its identity if it has one, or
else by its id. -/
inductive RecordBase.IsKeyedTo (r old : RecordBase) : Prop where
  | byIdentity (compositeId dataSourceId : String)
    (given : r.hasIdentity compositeId dataSourceId)
    (stored : old.hasIdentity compositeId dataSourceId)
  | byId (id : String) (unnamed : r.compositeId = none ∨ r.dataSourceId = none)
    (given : r.id = some id) (stored : old.id = some id)

namespace IsRegister

variable {α : Type} {base : α → RecordBase} {t : Table α} {a : α} {r : RecordBase}

/-- A record takes the place of the stored one that it is keyed to. -/
theorem replaced?_eq_some (h : IsRegister base t) :
    Graph.replaced? base t r = some a ↔ (∃ id, t.get? id = some a) ∧ r.IsKeyedTo (base a) := by
  unfold Graph.replaced?
  split
  · rename_i c d hc hd
    rw [h.byIdentity?_eq_some, and_congr_right_iff]
    intro _
    constructor
    · intro hstored
      exact .byIdentity c d (RecordBase.hasIdentity_iff.2 ⟨hc, hd⟩) hstored
    · rintro (⟨c', d', hgiven, hstored⟩ | ⟨-, hnone | hnone, -, -⟩)
      · obtain ⟨hc', hd'⟩ := RecordBase.hasIdentity_iff.1 hgiven
        cases hc.symm.trans hc'
        cases hd.symm.trans hd'
        exact hstored
      · simp [hc] at hnone
      · simp [hd] at hnone
  · rename_i hunnamed
    rw [Option.bind_eq_some_iff]
    constructor
    · rintro ⟨id, hid, hget⟩
      refine ⟨⟨id, hget⟩, .byId id ?_ hid (h.id_eq hget)⟩
      cases hc : r.compositeId with
      | none => exact .inl rfl
      | some c =>
        cases hd : r.dataSourceId with
        | none => exact .inr rfl
        | some d => exact absurd hd (hunnamed c d hc)
    · rintro ⟨⟨id, hget⟩, ⟨c, d, hgiven, -⟩ | ⟨id', -, hid', hstored⟩⟩
      · obtain ⟨hc, hd⟩ := RecordBase.hasIdentity_iff.1 hgiven
        exact absurd hd (hunnamed c d hc)
      · have hsame : id = id' := Option.some.inj ((h.id_eq hget).symm.trans hstored)
        exact ⟨id', hid', hsame ▸ hget⟩

theorem replaced?_eq_none (h : IsRegister base t) :
    Graph.replaced? base t r = none ↔
      ∀ id a, t.get? id = some a → ¬ r.IsKeyedTo (base a) := by
  rw [Option.eq_none_iff_forall_ne_some]
  constructor
  · intro hnone id a hget hkeyed
    exact hnone a (h.replaced?_eq_some.2 ⟨⟨id, hget⟩, hkeyed⟩)
  · intro hnew a hreplaced
    obtain ⟨⟨id, hget⟩, hkeyed⟩ := h.replaced?_eq_some.1 hreplaced
    exact hnew id a hget hkeyed

end IsRegister

/-- One of the two kinds of records of a graph: what it has in common with the other kind, the
table in which it is kept, and the call that puts it. -/
structure Records (α : Type) where
  base : α → RecordBase
  withBase : α → RecordBase → α
  table : Graph → Table α
  put : List α → Access Transaction StorageError (List α)

namespace Records

variable [Supply]

def nodes : Records Node where
  base := Node.toRecordBase
  withBase n r := { n with toRecordBase := r }
  table := Graph.nodes
  put := Transaction.putNodes {}

def edges : Records Edge where
  base := Edge.toRecordBase
  withBase x r := { x with toRecordBase := r }
  table := Graph.edges
  put := Transaction.putEdges {}

variable {α : Type} (k : Records α) (t : Transaction)

/-- The transaction after a call that puts records, whether it succeeds or not. -/
def after (batch : List α) : Transaction := ((k.put batch).run.run t).2

/-- The table after a call that puts records. -/
def tableAfter (batch : List α) : Table α := k.table (k.after t batch).graph

/-- A record in the place of a stored one: with the id and the time of creation of that one. -/
def inPlaceOf (a old : α) : α :=
  k.withBase a { k.base a with id := (k.base old).id, createdAt := (k.base old).createdAt }

/-- Whether a record that is put leaves every record of a table as it is, or takes the place of
one that it is keyed to. -/
def ReplacesKeyed (before after : Table α) (a : α) : Prop :=
  ∀ id old, before.get? id = some old →
    after.get? id = some old ∨
      (k.base a).IsKeyedTo (k.base old) ∧ after.get? id = some (k.inPlaceOf a old)

/-- Whether the records of a batch, one after the other, replace only what they are keyed to. So
a record that was stored before is as it was after the whole batch, or one of the batch was keyed
to it, and it has kept its id and its time of creation. -/
structure PutsInPlace (batch : List α) : Prop where
  each : ∀ front a back, batch = front ++ a :: back →
    k.ReplacesKeyed (k.tableAfter t front) (k.tableAfter t (front ++ [a])) a
  whole : ∀ id old, (k.table t.graph).get? id = some old →
    ∃ new, (k.tableAfter t batch).get? id = some new ∧
      (new = old ∨ (∃ a ∈ batch, (k.base a).IsKeyedTo (k.base old)) ∧
        (k.base new).id = (k.base old).id ∧ (k.base new).createdAt = (k.base old).createdAt)

/-- Whether a record is put in the place of a stored one although it is keyed to none: the id
that it has, or else the one that is drawn for it, is that of another record. -/
structure Displaces (a old : α) : Prop where
  isNew : ∀ id b, (k.table t.graph).get? id = some b → ¬ (k.base a).IsKeyedTo (k.base b)
  taken : (k.table t.graph).get? ((k.base a).id.getD (Supply.drawnId (t.drawn.ids + 1))) = some old
  differs : old ≠ k.withBase a
    { k.base a with
      id := (k.base old).id
      createdAt := some ((k.base a).createdAt.getD (Supply.reading (t.drawn.readings + 1))) }

/-- Whether no record of a batch, up to the first that is refused, displaces another one. -/
def IsOrderly (batch : List α) : Prop :=
  ∀ front a back, batch = front ++ a :: back → ((k.put (front ++ [a])).run.run t).1.isOk →
    ∀ old, ¬ k.Displaces (k.after t front) a old

/-- A record as it is stored: in the place of the one that it is keyed to, or with an id of its
own. -/
def placed (a : α) : α :=
  k.withBase a (Transaction.stamped t.drawn
    ((Graph.replaced? k.base (k.table t.graph) (k.base a)).map k.base) (k.base a)).1

/-- Whether calls put the records of a batch one after the other until one is refused. -/
structure PutsInTurn : Prop where
  base_withBase : ∀ a r, k.base (k.withBase a r) = r
  isRegister : ∀ t batch, t.graph.IsSound → IsRegister k.base (k.tableAfter t batch)
  nil : ∀ t, k.tableAfter t [] = k.table t.graph
  concat : ∀ t front a,
    ((k.put (front ++ [a])).run.run t).1.isOk = false ∧
      k.tableAfter t (front ++ [a]) = k.tableAfter t front ∨
    ((k.put (front ++ [a])).run.run t).1.isOk ∧
      k.tableAfter t (front ++ [a]) =
        (k.tableAfter t front).insert ((k.base (k.placed (k.after t front) a)).id.getD "")
          (k.placed (k.after t front) a)

variable {k : Records α} {t : Transaction} {a old : α} {batch : List α}

/-! ## One record -/

/-- A record that is keyed to a stored one displaces nothing. -/
theorem not_displaces_of_replaced (h : IsRegister k.base (k.table t.graph))
    (hreplaced : (Graph.replaced? k.base (k.table t.graph) (k.base a)).isSome) :
    ¬ k.Displaces t a old := by
  intro hdisplaces
  have hnone := h.replaced?_eq_none.2 hdisplaces.isNew
  simp [hnone] at hreplaced

/-- A record that is stored replaces only what it is keyed to if and only if it displaces
nothing. -/
theorem replacesKeyed_insert_iff (hbase : ∀ a r, k.base (k.withBase a r) = r)
    (h : IsRegister k.base (k.table t.graph)) (a : α) :
    k.ReplacesKeyed (k.table t.graph)
        ((k.table t.graph).insert ((k.base (k.placed t a)).id.getD "") (k.placed t a)) a ↔
      ∀ old, ¬ k.Displaces t a old := by
  cases hreplaced : Graph.replaced? k.base (k.table t.graph) (k.base a) with
  | some old =>
    obtain ⟨-, hkeyed⟩ := h.replaced?_eq_some.1 hreplaced
    obtain ⟨id, hget, hid⟩ := h.get?_of_replaced? hreplaced
    have hplaced : k.placed t a = k.inPlaceOf a old := by
      obtain ⟨time, htime⟩ := Option.isSome_iff_exists.1 (h.created hget)
      simp [placed, inPlaceOf, hreplaced, htime]
    have hplace : (k.base (k.placed t a)).id.getD "" = id := by
      simp [hplaced, inPlaceOf, hbase, hid]
    have hreplaces : k.ReplacesKeyed (k.table t.graph)
        ((k.table t.graph).insert ((k.base (k.placed t a)).id.getD "") (k.placed t a)) a := by
      intro id' old' hget'
      rw [hplace, hplaced, Table.get?_insert]
      by_cases hsame : id' = id
      · rw [hsame, hget] at hget'
        cases hget'
        exact .inr ⟨hkeyed, if_pos hsame⟩
      · rw [if_neg hsame]
        exact .inl hget'
    exact iff_of_true hreplaces fun _ => not_displaces_of_replaced h (by rw [hreplaced]; rfl)
  | none =>
    have hnew := h.replaced?_eq_none.1 hreplaced
    have hplaced : k.placed t a = k.withBase a { k.base a with
        id := some ((k.base a).id.getD (Supply.drawnId (t.drawn.ids + 1)))
        createdAt := some ((k.base a).createdAt.getD
          (Supply.reading (t.drawn.readings + 1))) } := by
      rw [placed, hreplaced]
      rfl
    have hplace : (k.base (k.placed t a)).id.getD "" =
        (k.base a).id.getD (Supply.drawnId (t.drawn.ids + 1)) := by
      simp [hplaced, hbase]
    rw [hplace]
    constructor
    · intro hreplaces old hdisplaces
      rcases hreplaces _ old hdisplaces.taken with hkept | ⟨hkeyed, -⟩
      · rw [Table.get?_insert, if_pos rfl, hplaced] at hkept
        apply hdisplaces.differs
        rw [h.id_eq hdisplaces.taken]
        exact (Option.some.inj hkept).symm
      · exact hnew _ old hdisplaces.taken hkeyed
    · intro hspares id old hget
      rw [Table.get?_insert]
      by_cases hsame : id = (k.base a).id.getD (Supply.drawnId (t.drawn.ids + 1))
      · rw [if_pos hsame, hplaced, ← hsame, ← h.id_eq hget]
        by_cases hdiffers : old = k.withBase a { k.base a with
            id := (k.base old).id
            createdAt := some ((k.base a).createdAt.getD
              (Supply.reading (t.drawn.readings + 1))) }
        · exact .inl (congrArg some hdiffers.symm)
        · exact absurd ⟨hnew, hsame ▸ hget, hdiffers⟩ (hspares old)
      · rw [if_neg hsame]
        exact .inl hget

/-! ## Batches -/

omit [Supply] in
/-- What each record of a batch leaves alone is left alone by the whole batch. -/
theorem PutsInPlace.of_each (hbase : ∀ a r, k.base (k.withBase a r) = r)
    (hnil : k.tableAfter t [] = k.table t.graph)
    (h : ∀ front a back, batch = front ++ a :: back →
      k.ReplacesKeyed (k.tableAfter t front) (k.tableAfter t (front ++ [a])) a) :
    k.PutsInPlace t batch := by
  refine ⟨h, fun id old hget => ?_⟩
  induction batch using List.reverseRecOn with
  | nil => exact ⟨old, hnil ▸ hget, .inl rfl⟩
  | append_singleton front a ih =>
    obtain ⟨new, hnew, hkept⟩ := ih fun front' a' back hsplit =>
      h front' a' (back ++ [a]) (by simp [hsplit])
    have hmore : (∃ b ∈ front, (k.base b).IsKeyedTo (k.base old)) →
        ∃ b ∈ front ++ [a], (k.base b).IsKeyedTo (k.base old) := by
      rintro ⟨b, hb, hkeyed⟩
      exact ⟨b, List.mem_append_left _ hb, hkeyed⟩
    rcases h front a [] rfl id new hnew with hsame | ⟨hkeyed, hplaced⟩
    · refine ⟨new, hsame, hkept.imp_right ?_⟩
      rintro ⟨hbatch, hstays⟩
      exact ⟨hmore hbatch, hstays⟩
    · have hid : (k.base (k.inPlaceOf a new)).id = (k.base new).id := by simp [inPlaceOf, hbase]
      have htime : (k.base (k.inPlaceOf a new)).createdAt = (k.base new).createdAt := by
        simp [inPlaceOf, hbase]
      refine ⟨k.inPlaceOf a new, hplaced, .inr ?_⟩
      rcases hkept with rfl | ⟨hbatch, hid', htime'⟩
      · exact ⟨⟨a, by simp, hkeyed⟩, hid, htime⟩
      · exact ⟨hmore hbatch, hid.trans hid', htime.trans htime'⟩

/-- A batch replaces only what its records are keyed to if and only if none of them displaces
another record. -/
theorem PutsInTurn.putsInPlace_iff (hk : k.PutsInTurn) (ht : t.graph.IsSound) (batch : List α) :
    k.PutsInPlace t batch ↔ k.IsOrderly t batch := by
  constructor
  · intro hputs front a back hsplit hok
    have heach := hputs.each front a back hsplit
    rcases hk.concat t front a with ⟨hrefused, -⟩ | ⟨-, hstored⟩
    · simp [hrefused] at hok
    · rw [hstored] at heach
      exact (replacesKeyed_insert_iff hk.base_withBase (hk.isRegister t front ht) a).1 heach
  · intro horderly
    refine .of_each hk.base_withBase (hk.nil t) fun front a back hsplit => ?_
    rcases hk.concat t front a with ⟨-, hsame⟩ | ⟨hok, hstored⟩
    · rw [hsame]
      exact fun _ _ hget => .inl hget
    · rw [hstored]
      exact (replacesKeyed_insert_iff hk.base_withBase (hk.isRegister t front ht) a).2
        (horderly front a back hsplit hok)

/-! ## Nodes and edges -/

theorem run_put_nodes (batch : List Node) (t : Transaction) :
    (nodes.put batch).run.run t =
      (.ok ((KeepsCalls.record .putNodes t).storedNodes batch),
        (KeepsCalls.record .putNodes t).withNodes batch) :=
  (run_call_of_notMem (by simp) _ _ t).trans (Transaction.run_mapM_putNode batch _)

theorem withNodes_concat (t : Transaction) (batch : List Node) (n : Node) :
    t.withNodes (batch ++ [n]) = (t.withNodes batch).withNode n := by
  induction batch generalizing t with
  | nil => rfl
  | cons m batch ih => exact ih (t.withNode m)

theorem putsInTurn_nodes : nodes.PutsInTurn where
  base_withBase _ _ := rfl
  isRegister t batch ht := by
    rw [tableAfter, after, run_put_nodes]
    exact (Transaction.isSound_withNodes (t := KeepsCalls.record .putNodes t) ht batch).nodes
  nil t := by
    rw [tableAfter, after, run_put_nodes]
    rfl
  concat t front n := by
    refine .inr ?_
    simp only [tableAfter, after, run_put_nodes, withNodes_concat]
    exact ⟨rfl, rfl⟩

theorem run_put_edges (batch : List Edge) (t : Transaction) :
    (edges.put batch).run.run t =
      (batch.mapM Transaction.putEdge).run.run (KeepsCalls.record .putEdges t) := by
  refine (run_call_of_notMem (by simp) _ _ t).trans ?_
  rw [if_neg (by decide)]

/-- An edge is refused and the graph stays as it is, or it is stored. -/
theorem run_putEdge_cases (x : Edge) (t : Transaction) :
    (∃ e t', (Transaction.putEdge x).run.run t = (.error e, t') ∧ t'.graph = t.graph) ∨
      (Transaction.putEdge x).run.run t = (.ok (t.storedEdge x), t.withEdge x) := by
  cases hjoined : Transaction.joinedNodes t.graph x with
  | error cause => exact .inl ⟨cause, t, Transaction.run_putEdge_of_unusable hjoined, rfl⟩
  | ok ids =>
    cases hobstacle : t.obstacle? x with
    | some y => exact .inl ⟨_, _, Transaction.run_putEdge_of_obstacle hjoined hobstacle, rfl⟩
    | none => exact .inr (Transaction.run_putEdge_of_free hjoined hobstacle)

theorem putsInTurn_edges : edges.PutsInTurn where
  base_withBase _ _ := rfl
  isRegister t batch ht := by
    have hkeeps : Keeps Graph.IsSound (edges.put batch) :=
      Transaction.keeps_putEdges (fun _ x _ _ _ h => Transaction.isSound_withEdge h x) batch
    exact (hkeeps t ht).edges
  nil t := by
    rw [tableAfter, after, run_put_edges]
    rfl
  concat t front x := by
    simp only [tableAfter, after, run_put_edges, List.mapM_append]
    rcases hfront : (front.mapM Transaction.putEdge).run.run (KeepsCalls.record .putEdges t) with
      ⟨e | stored, u⟩
    · rw [run_bind_of_error hfront]
      exact .inl ⟨rfl, rfl⟩
    · rw [run_bind_of_ok hfront, List.mapM_cons]
      rcases run_putEdge_cases x u with ⟨e, u', hx, hgraph⟩ | hx
      · rw [run_bind_of_error (run_bind_of_error hx _)]
        exact .inl ⟨rfl, congrArg Graph.edges hgraph⟩
      · refine .inr ?_
        rw [run_bind_of_ok (run_bind_of_ok hx _)]
        exact ⟨rfl, rfl⟩

end Records

/-- In every transaction that is reached, a batch of nodes or edges replaces only what its
records are keyed to if and only if none of them is put in the place of another record. Edges
stay as they are when nodes are put, and nodes when edges are put. -/
theorem Transaction.upserts_iff_isOrderly [Supply] [PatternEngine] {t : Transaction}
    (h : t.IsReached) :
    (∀ nodes, (Records.nodes.PutsInPlace t nodes ↔ Records.nodes.IsOrderly t nodes) ∧
      (Records.nodes.after t nodes).graph.edges = t.graph.edges) ∧
    ∀ edges, (Records.edges.PutsInPlace t edges ↔ Records.edges.IsOrderly t edges) ∧
      (Records.edges.after t edges).graph.nodes = t.graph.nodes := by
  constructor
  · intro nodes
    refine ⟨Records.putsInTurn_nodes.putsInPlace_iff h.isSound nodes, ?_⟩
    rw [Records.after, Records.run_put_nodes, withNodes_edges]
    rfl
  · intro edges
    have hkeeps : Keeps (fun g => g.nodes = t.graph.nodes) (Records.edges.put edges) :=
      keeps_putEdges (fun _ _ _ _ _ hnodes => hnodes) edges
    exact ⟨Records.putsInTurn_edges.putsInPlace_iff h.isSound edges, hkeeps t rfl⟩

namespace Sample

/-- A transaction with the stop that follows itself. -/
def ridden : Transaction :=
  ⟨(GraphStore.after {} steps).committed, (GraphStore.after {} steps).drawn, []⟩

/-- The stop again, by its identity and then by its id alone. -/
def stopsAgain : List Node :=
  [{ containerId := "c", metatypeId := "stop", dataSourceId := some "d"
     compositeId := some "c+d+name+b", properties := [("zone", .string "A")] },
   { id := some (countedId 1), containerId := "c", metatypeId := "stop" }]

/-- The edge from the stop to itself again, by its identity. -/
def edgesAgain : List Edge :=
  let atStop : EdgeEnd := { nodeId := some (countedId 1) }
  [{ containerId := "c", pairId := "next", dataSourceId := some "d"
     compositeId := some "c+d+name+b", origin := atStop, destination := atStop }]

/-- A stop with an identity of its own under the id of the stop `a`. -/
def usurper : Node :=
  { id := some "a", containerId := "c", metatypeId := "stop", dataSourceId := some "d"
    compositeId := some "c+d+name+b" }

end Sample

theorem Transaction.upserts_iff_isOrderly_sample :
    Sample.ridden.IsReached ∧
      Records.nodes.PutsInPlace Sample.ridden Sample.stopsAgain ∧
      Records.edges.PutsInPlace Sample.ridden Sample.edgesAgain := by
  have hreached : Sample.ridden.IsReached := .begun Sample.steps []
  have hsound := hreached.isSound
  obtain ⟨hnodes, hedges⟩ := upserts_iff_isOrderly hreached
  refine ⟨hreached, (hnodes _).1.2 ?_, (hedges _).1.2 ?_⟩
  · intro front n back hsplit _ old
    apply Records.not_displaces_of_replaced (Records.putsInTurn_nodes.isRegister _ front hsound)
    rcases front with _ | ⟨m, _ | ⟨m', front⟩⟩
    · cases hsplit
      decide +kernel
    · cases hsplit
      decide +kernel
    · simp [Sample.stopsAgain] at hsplit
  · intro front x back hsplit _ old
    apply Records.not_displaces_of_replaced (Records.putsInTurn_edges.isRegister _ front hsound)
    rcases front with _ | ⟨y, front⟩
    · cases hsplit
      decide +kernel
    · simp [Sample.edgesAgain] at hsplit

/-- A record with a new identity and an id that is taken replaces one that it is not keyed to. -/
theorem Transaction.not_putsInPlace :
    ¬ ∀ t : Transaction, t.IsReached → (∀ nodes, Records.nodes.PutsInPlace t nodes) ∧
      ∀ edges, Records.edges.PutsInPlace t edges := by
  intro h
  have hputs := (h _ (.begun [] [])).1 [Sample.node "a", Sample.usurper]
  have hstored : (Records.nodes.tableAfter ⟨{}, {}, []⟩ [Sample.node "a"]).get? "a" =
      some (Sample.node "a") := by decide +kernel
  rcases hputs.each [Sample.node "a"] Sample.usurper [] rfl "a" _ hstored with hkept | ⟨hkeyed, -⟩
  · revert hkept
    decide +kernel
  · cases hkeyed with
    | byIdentity c d _ hstored =>
      simp [RecordBase.hasIdentity, Records.nodes, Sample.node] at hstored
    | byId id hunnamed => simp [Records.nodes, Sample.usurper] at hunnamed

end TypedGraph
