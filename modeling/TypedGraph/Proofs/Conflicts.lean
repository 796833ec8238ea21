import TypedGraph.Proofs.Attempts

/-!
# Conflicts between edges

Two edges of a pair are in conflict if the pair does not admit both. An edge that is
permitted is in conflict with no live edge but the one whose place it takes
(`Ingest.id_of_conflicts`), and so the store never refuses it.
-/
namespace TypedGraph

/-! ## Ontologies by their ids -/

/-- Whether every record of a table stands under its own id. -/
def Table.IsKeyed {α : Type} (id : α → Option String) (t : Table α) : Prop :=
  ∀ key a, t.get? key = some a → id a = some key

theorem Table.IsKeyed.insertById {α : Type} {id : α → Option String} {t : Table α}
    (h : t.IsKeyed id) (a : α) : (OntologyStore.insertById t (id a) a).IsKeyed id := by
  intro key b hb
  rw [OntologyStore.get?_insertById] at hb
  split at hb
  · cases hb
    assumption
  · exact h key b hb

namespace OntologyStore

/-- An ontology whose records stand under their own ids. -/
structure IsKeyed (o : OntologyStore) : Prop where
  metatypes : o.metatypes.IsKeyed KeyedType.id
  relationships : o.relationships.IsKeyed KeyedType.id
  pairs : o.pairs.IsKeyed RelationshipPair.id

variable {o : OntologyStore}

theorem isKeyed_empty : IsKeyed {} := ⟨nofun, nofun, nofun⟩

theorem IsKeyed.insertMetatype (h : o.IsKeyed) (m : Metatype) : (o.insertMetatype m).IsKeyed :=
  { h with metatypes := h.metatypes.insertById m }

theorem IsKeyed.insertRelationship (h : o.IsKeyed) (r : Relationship) :
    (o.insertRelationship r).IsKeyed :=
  { h with relationships := h.relationships.insertById r }

theorem IsKeyed.insertPair (h : o.IsKeyed) (p : RelationshipPair) : (o.insertPair p).IsKeyed :=
  { h with pairs := h.pairs.insertById p }

theorem isKeyed_foldl {α : Type} {f : OntologyStore → α → OntologyStore}
    (hf : ∀ o a, IsKeyed o → (f o a).IsKeyed) (h : o.IsKeyed) (as : List α) :
    (as.foldl f o).IsKeyed := by
  induction as generalizing o with
  | nil => exact h
  | cons a as ih => exact ih (hf o a h)

/-- The store of a snapshot is keyed, whatever the snapshot holds. -/
theorem isKeyed_ofSnapshot (containerId : String) (snapshot : OntologySnapshot) :
    (ofSnapshot containerId snapshot).IsKeyed :=
  isKeyed_foldl (fun _ _ h => h.insertPair _)
    (isKeyed_foldl (fun _ _ h => h.insertRelationship _)
      (isKeyed_foldl (fun _ _ h => h.insertMetatype _) isKeyed_empty _) _) _

end OntologyStore

/-! ## Conflicts -/

theorem Graph.mem_liveEdges {g : Graph} {x : Edge} :
    x ∈ g.liveEdges ↔ x ∈ g.edges.values ∧ x.archived = false := by
  simp [liveEdges]

/-- An edge without a composite identity replaces the one of its id. -/
theorem Graph.replacedId_of_anonymous {g : Graph} {x : Edge}
    (h : ∀ c d, x.compositeId = some c → x.dataSourceId = some d → False) :
    g.replacedId x = x.id := by
  unfold Graph.replacedId
  split
  · exact (h _ _ ‹_› ‹_›).elim
  · simp

namespace RelationshipPair

/-- Whether a pair does not admit two edges: they join the same nodes, or share a node at
which its cardinality admits one edge only. -/
def Conflicts (p : RelationshipPair) (x y : Edge) : Prop :=
  x.origin.nodeId = y.origin.nodeId ∧ x.destination.nodeId = y.destination.nodeId ∨
    p.cardinality.oneFromOrigin ∧ x.origin.nodeId = y.origin.nodeId ∨
    p.cardinality.oneIntoDestination ∧ x.destination.nodeId = y.destination.nodeId

variable {p : RelationshipPair} {x y : Edge}

theorem Conflicts.symm (h : p.Conflicts x y) : p.Conflicts y x := by
  rcases h with ⟨ho, hd⟩ | ⟨hc, ho⟩ | ⟨hc, hd⟩
  · exact .inl ⟨ho.symm, hd.symm⟩
  · exact .inr (.inl ⟨hc, ho.symm⟩)
  · exact .inr (.inr ⟨hc, hd.symm⟩)

theorem obstructs_iff {originId destinationId : String} (ho : x.origin.nodeId = some originId)
    (hd : x.destination.nodeId = some destinationId) :
    p.Obstructs originId destinationId y ↔ p.Conflicts x y := by
  unfold Obstructs Conflicts
  rw [ho, hd, eq_comm (a := some originId), eq_comm (a := some destinationId)]

end RelationshipPair

namespace Transaction

variable {t : Transaction} {x : Edge}

variable [Supply]

theorem storedEdge_id_of_some {old : Edge}
    (h : Graph.replaced? Edge.toRecordBase t.graph.edges x.toRecordBase = some old) :
    (t.storedEdge x).id = old.id := by
  simp [storedEdge, edgeStamp, h]

theorem storedEdge_id_of_none {id : String}
    (h : Graph.replaced? Edge.toRecordBase t.graph.edges x.toRecordBase = none)
    (hid : x.id = some id) : (t.storedEdge x).id = some id := by
  simp [storedEdge, edgeStamp, h, stamped, hid]

/-- The edge that the check leaves out of account is the one that the write replaces, if
there is one; else it has the id that the edge is written with. -/
theorem replacedId_eq (h : IsRegister Edge.toRecordBase t.graph.edges) (x : Edge) :
    t.graph.replacedId x = none ∨ t.graph.replacedId x = (t.storedEdge x).id := by
  cases hold : Graph.replaced? Edge.toRecordBase t.graph.edges x.toRecordBase with
  | none =>
    have hreplaced : t.graph.replacedId x = x.id := by
      unfold Graph.replacedId
      unfold Graph.replaced? at hold
      split <;> simp_all [Graph.edgeByComposite?]
    rw [hreplaced]
    cases hid : x.id with
    | none => exact .inl rfl
    | some id => exact .inr (storedEdge_id_of_none hold hid).symm
  | some old =>
    obtain ⟨id, hget, hid⟩ := h.get?_of_replaced? hold
    have hreplaced : t.graph.replacedId x = some id := by
      have hold' := hold
      unfold Graph.replaced? at hold'
      split at hold'
      · simp_all [Graph.replacedId, Graph.edgeByComposite?]
      · obtain ⟨id', hid', hget'⟩ := Option.bind_eq_some_iff.1 hold'
        have heq : some id' = some id := by rw [← h.id_eq hget', hid]
        rw [Graph.replacedId_of_anonymous ‹_›, hid', heq]
    rw [storedEdge_id_of_some hold, hid]
    exact .inr hreplaced

end Transaction

namespace Ingest

open Transaction

variable {a : Attempt} {t : Transaction} {y : Edge}

variable [Supply]

/-- What is in conflict with a permitted edge has the id that the edge is written with. -/
theorem id_of_conflicts (h : IsRegister Edge.toRecordBase t.graph.edges)
    (hpermitted : a.IsPermitted t.graph) (hpair : a.pair.id = some a.edge.pairId)
    (hy : y ∈ t.graph.liveEdges) (hpairId : y.pairId = a.edge.pairId)
    (hconflicts : a.pair.Conflicts a.joined y) : y.id = (t.storedEdge a.joined).id := by
  obtain ⟨originId, destinationId, hids, hall⟩ := hpermitted
  obtain ⟨ho, hd, -, -⟩ := Connection.checkNodes_ok hids
  have hobstructs : a.pair.Obstructs originId destinationId y :=
    (RelationshipPair.obstructs_iff (x := a.joined) ho hd).2 hconflicts
  obtain ⟨id, hreplaced, hid⟩ := hall y hy (by rw [hpair, hpairId]; rfl) hobstructs
  rcases replacedId_eq h a.joined with hnone | heq
  · rw [hnone] at hreplaced
    contradiction
  · rw [← heq, hreplaced, hid]

/-- Nothing is in the way of a permitted edge. -/
theorem obstacle?_eq_none (h : IsRegister Edge.toRecordBase t.graph.edges)
    (hpermitted : a.IsPermitted t.graph) (hpair : a.pair.id = some a.edge.pairId) :
    t.obstacle? a.joined = none := by
  unfold obstacle?
  split
  · rfl
  · refine List.find?_eq_none.2 fun y hy hclash => ?_
    simp only [Bool.and_eq_true, bne_iff_ne, beq_iff_eq] at hclash
    obtain ⟨⟨⟨hid, hpairId⟩, ho⟩, hd⟩ := hclash
    exact hid (id_of_conflicts h hpermitted hpair hy hpairId (.inl ⟨ho.symm, hd.symm⟩))

end Ingest

end TypedGraph
