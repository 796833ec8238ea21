import TypedGraph.Graph.Supply
import TypedGraph.Proofs.Writing

/-!
# Writing nodes twice

A record with an identity keeps the id and the time of creation that its identity was
given first, however often it is written. So writing the same nodes once more stores the
same records in the same order, and leaves the table as it is
(`Transaction.nodes_withNodes_twice`). Ids that are drawn have to be fresh.
-/
namespace TypedGraph

/-! ## Setting keys twice -/

namespace Table

variable {α : Type}

/-- Sets the values of keys one after the other. -/
def insertAll (t : Table α) (rows : List (String × α)) : Table α :=
  rows.foldl (fun t row => t.insert row.1 row.2) t

theorem isOrdered_insertAll {t : Table α} (h : t.IsOrdered) (rows : List (String × α)) :
    (t.insertAll rows).IsOrdered := by
  induction rows generalizing t with
  | nil => exact h
  | cons row rows ih => exact ih (isOrdered_insert h row.1 row.2)

/-- A key has the value that was set last, or what it had before if none was set. -/
theorem get?_insertAll (t : Table α) (rows : List (String × α)) (key : String) :
    (t.insertAll rows).get? key =
      ((rows.filter (·.1 == key)).getLast?.map (·.2)).or (t.get? key) := by
  induction rows generalizing t with
  | nil => rfl
  | cons row rows ih =>
    rw [show t.insertAll (row :: rows) = (t.insert row.1 row.2).insertAll rows from rfl, ih,
      get?_insert, List.filter_cons]
    by_cases h : row.1 = key
    · rw [if_pos h.symm, if_pos (by simpa using h), List.getLast?_cons]
      cases (rows.filter (·.1 == key)).getLast? <;> rfl
    · rw [if_neg fun h' => h h'.symm, if_neg (by simpa using h)]

theorem insertAll_insertAll {t : Table α} (h : t.IsOrdered) (rows : List (String × α)) :
    (t.insertAll rows).insertAll rows = t.insertAll rows := by
  have hordered := isOrdered_insertAll h rows
  refine IsOrdered.ext (isOrdered_insertAll hordered rows) hordered fun key => ?_
  rw [get?_insertAll, get?_insertAll]
  cases (rows.filter (·.1 == key)).getLast? <;> simp

end Table

/-! ## Records with an identity -/

/-- A record without an id that has an identity in its data source. -/
structure RecordBase.IsNamed (r : RecordBase) : Prop where
  id : r.id = none
  identity : ∃ compositeId dataSourceId, r.hasIdentity compositeId dataSourceId

variable [Supply]

/-- Whether no id that is drawn from now on is a key of a table. -/
def Transaction.Fresh {α : Type} (t : Table α) (drawn : Drawn) : Prop :=
  ∀ n, drawn.ids < n → t.get? (Supply.drawnId n) = none

theorem Transaction.Fresh.mono {α : Type} {t : Table α} {drawn drawn' : Drawn} (h : Fresh t drawn)
    (hdrawn : drawn.ids ≤ drawn'.ids) : Fresh t drawn' :=
  fun n hn => h n (by omega)

/-- Ids stay fresh while all keys are ids that were drawn before. -/
theorem Transaction.fresh_of_drawn {α : Type} {t : Table α} (drawn : Drawn)
    (h : ∀ key ∈ t.keys, ∃ n ≤ drawn.ids, key = Supply.drawnId n) : Fresh t drawn := by
  intro n hn
  refine Table.get?_eq_none_iff.2 fun hkey => ?_
  obtain ⟨m, hm, heq⟩ := h _ hkey
  have hmn := Supply.drawnId_inj heq
  omega

theorem Transaction.stamped_ids_le (drawn : Drawn) (replaced : Option RecordBase) (r : RecordBase) :
    drawn.ids ≤ (stamped drawn replaced r).2.ids := by
  cases replaced with
  | some old => exact Nat.le_refl _
  | none =>
    dsimp only [stamped]
    split <;> omega

namespace IsRegister

open Transaction

variable {α : Type} {base : α → RecordBase} {t : Table α} {a : α} {r : RecordBase} {drawn : Drawn}

/-- A record without an id is written under the id of the record that it replaces, with the
time of creation of that one, or else under an id that is drawn. -/
theorem stamped_cases (h : IsRegister base t) (hr : r.id = none) (drawn : Drawn) :
    (∃ id old, Graph.replaced? base t r = some old ∧ t.get? id = some old ∧
      stamped drawn ((Graph.replaced? base t r).map base) r =
        ({ r with id := some id, createdAt := (base old).createdAt }, drawn)) ∨
    Graph.replaced? base t r = none ∧
      stamped drawn ((Graph.replaced? base t r).map base) r =
        ({ r with
            id := some (Supply.drawnId (drawn.ids + 1))
            createdAt := some (r.createdAt.getD (Supply.reading (drawn.readings + 1))) },
          { ids := drawn.ids + 1
            readings := if r.createdAt.isSome then drawn.readings else drawn.readings + 1 }) := by
  cases hold : Graph.replaced? base t r with
  | none =>
    refine .inr ⟨rfl, ?_⟩
    simp [stamped, hr]
  | some old =>
    obtain ⟨id, hget, hid⟩ := h.get?_of_replaced? hold
    obtain ⟨at', hat⟩ := Option.isSome_iff_exists.1 (h.created hget)
    refine .inl ⟨id, old, rfl, hget, ?_⟩
    simp [hid, hat]

/-- Ids stay fresh when a record is written. -/
theorem fresh_insert (h : IsRegister base t) (hr : r.id = none) (hfresh : Fresh t drawn)
    (ha : base a = (stamped drawn ((Graph.replaced? base t r).map base) r).1) :
    Fresh (t.insert ((base a).id.getD "") a)
      (stamped drawn ((Graph.replaced? base t r).map base) r).2 := by
  intro n hn
  rw [Table.get?_insert, ha]
  rcases h.stamped_cases hr drawn with ⟨id, old, -, hget, heq⟩ | ⟨-, heq⟩
  · rw [heq] at hn ⊢
    have hnone := hfresh n hn
    rw [if_neg, hnone]
    rintro rfl
    rw [hget] at hnone
    contradiction
  · rw [heq] at hn ⊢
    dsimp only at hn
    rw [if_neg, hfresh n (by omega)]
    intro hid
    have := Supply.drawnId_inj hid
    omega

/-- The record of an identity keeps its id and its time of creation when another one is
written. -/
theorem byIdentity?_insert (h : IsRegister base t) (hr : r.id = none) (hfresh : Fresh t drawn)
    (ha : base a = (stamped drawn ((Graph.replaced? base t r).map base) r).1)
    {compositeId dataSourceId : String} {b : α}
    (hb : Graph.byIdentity? base t compositeId dataSourceId = some b) :
    ∃ b', Graph.byIdentity? base (t.insert ((base a).id.getD "") a) compositeId dataSourceId =
      some b' ∧ (base b').id = (base b).id ∧ (base b').createdAt = (base b).createdAt := by
  have hnew := h.insert_stamped ha
  obtain ⟨⟨key, hget⟩, hidentity⟩ := h.byIdentity?_eq_some.1 hb
  have hother (hne : key ≠ (base a).id.getD "") :
      Graph.byIdentity? base (t.insert ((base a).id.getD "") a) compositeId dataSourceId =
        some b := by
    refine hnew.byIdentity?_eq_some.2 ⟨⟨key, ?_⟩, hidentity⟩
    rw [Table.get?_insert, if_neg hne, hget]
  rcases h.stamped_cases hr drawn with ⟨id, old, hold, holdget, heq⟩ | ⟨-, heq⟩
  · rw [heq] at ha
    have hkey : (base a).id.getD "" = id := by simp [ha]
    by_cases hne : key = id
    · subst hne
      obtain ⟨c, d, holdc, hrc⟩ := identity_of_replaced? hr hold
      rw [hget] at holdget
      cases holdget
      -- the record in question is the one that is replaced, so that it has the same identity
      obtain ⟨hbc, hbd⟩ := RecordBase.hasIdentity_iff.1 hidentity
      obtain ⟨hbc', hbd'⟩ := RecordBase.hasIdentity_iff.1 holdc
      rw [hbc'] at hbc
      rw [hbd'] at hbd
      cases hbc
      cases hbd
      refine ⟨a, hnew.byIdentity?_eq_some.2 ⟨⟨key, ?_⟩, ?_⟩, ?_, ?_⟩
      · rw [hkey, Table.get?_insert, if_pos rfl]
      · rw [ha]
        exact hrc
      · rw [ha, h.id_eq hget]
      · rw [ha]
    · exact ⟨b, hother (hkey ▸ hne), rfl, rfl⟩
  · rw [heq] at ha
    have hkey : (base a).id.getD "" = Supply.drawnId (drawn.ids + 1) := by simp [ha]
    refine ⟨b, hother ?_, rfl, rfl⟩
    rw [hkey]
    rintro rfl
    rw [hfresh _ (by omega)] at hget
    contradiction

/-- The record of its identity is the one that was written last. -/
theorem byIdentity?_insert_self (h : IsRegister base t) {compositeId dataSourceId : String}
    (hr : r.hasIdentity compositeId dataSourceId)
    (ha : base a = (stamped drawn ((Graph.replaced? base t r).map base) r).1) :
    Graph.byIdentity? base (t.insert ((base a).id.getD "") a) compositeId dataSourceId =
      some a := by
  refine (h.insert_stamped ha).byIdentity?_eq_some.2 ⟨⟨(base a).id.getD "", ?_⟩, ?_⟩
  · rw [Table.get?_insert, if_pos rfl]
  · rw [ha, RecordBase.hasIdentity_congr stamped_compositeId stamped_dataSourceId]
    exact hr

end IsRegister

/-! ## Nodes -/

namespace Transaction

/-- A node with the id and the time of creation that its identity has in a table. -/
def renewed (nodes : Table Node) (n : Node) : Node :=
  match Graph.replaced? Node.toRecordBase nodes n.toRecordBase with
  | some m => { n with id := m.id, createdAt := m.createdAt }
  | none => n

variable {t : Transaction} {n : Node}

theorem fresh_withNode (h : t.graph.IsSound) (hn : n.id = none)
    (hfresh : Fresh t.graph.nodes t.drawn) :
    Fresh (t.withNode n).graph.nodes (t.withNode n).drawn :=
  h.nodes.fresh_insert (a := t.storedNode n) hn hfresh rfl

theorem fresh_withNodes (h : t.graph.IsSound) {nodes : List Node} (hnodes : ∀ n ∈ nodes, n.IsNamed)
    (hfresh : Fresh t.graph.nodes t.drawn) :
    Fresh (t.withNodes nodes).graph.nodes (t.withNodes nodes).drawn := by
  induction nodes generalizing t with
  | nil => exact hfresh
  | cons n nodes ih =>
    exact ih (isSound_withNode h n) (fun n hn => hnodes n (by simp [hn]))
      (fresh_withNode h (hnodes n (by simp)).id hfresh)

theorem ids_withNodes (nodes : List Node) (t : Transaction) :
    t.drawn.ids ≤ (t.withNodes nodes).drawn.ids := by
  induction nodes generalizing t with
  | nil => exact Nat.le_refl _
  | cons n nodes ih => exact Nat.le_trans (stamped_ids_le _ _ _) (ih (t.withNode n))

/-- A node keeps its id and its time of creation when others are written. -/
theorem replaced?_withNodes (h : t.graph.IsSound) {nodes : List Node}
    (hnodes : ∀ n ∈ nodes, n.IsNamed) (hfresh : Fresh t.graph.nodes t.drawn) (hn : n.IsNamed)
    {m : Node} (hm : Graph.replaced? Node.toRecordBase t.graph.nodes n.toRecordBase = some m) :
    ∃ m', Graph.replaced? Node.toRecordBase (t.withNodes nodes).graph.nodes n.toRecordBase =
      some m' ∧ m'.id = m.id ∧ m'.createdAt = m.createdAt := by
  obtain ⟨c, d, hidentity⟩ := hn.identity
  rw [IsRegister.replaced?_of_hasIdentity hidentity] at hm ⊢
  induction nodes generalizing t m with
  | nil => exact ⟨m, hm, rfl, rfl⟩
  | cons n' nodes ih =>
    have hn' := hnodes n' (by simp)
    obtain ⟨m', hm', hid, hcreated⟩ :=
      h.nodes.byIdentity?_insert (a := t.storedNode n') hn'.id hfresh rfl hm
    obtain ⟨m'', hm'', hid', hcreated'⟩ := ih (isSound_withNode h n')
      (fun n hn => hnodes n (by simp [hn])) (fresh_withNode h hn'.id hfresh) hm'
    exact ⟨m'', hm'', hid'.trans hid, hcreated'.trans hcreated⟩

theorem storedNode_eq (h : t.graph.IsSound) (hn : n.IsNamed) :
    t.storedNode n =
      { n with id := (t.storedNode n).id, createdAt := (t.storedNode n).createdAt } := by
  rcases h.nodes.stamped_cases hn.id t.drawn with ⟨id, old, -, -, heq⟩ | ⟨-, heq⟩
  · simp [storedNode, nodeStamp, heq]
  · simp [storedNode, nodeStamp, heq]

/-- A node is stored with the id and the time of creation that its identity has once other
nodes were written after it. -/
theorem renewed_withNodes (h : t.graph.IsSound) {nodes : List Node}
    (hnodes : ∀ n ∈ nodes, n.IsNamed) (hfresh : Fresh t.graph.nodes t.drawn) (hn : n.IsNamed) :
    (∃ m, Graph.replaced? Node.toRecordBase ((t.withNode n).withNodes nodes).graph.nodes
      n.toRecordBase = some m) ∧
    renewed ((t.withNode n).withNodes nodes).graph.nodes n = t.storedNode n := by
  obtain ⟨c, d, hidentity⟩ := hn.identity
  have hself : Graph.replaced? Node.toRecordBase (t.withNode n).graph.nodes n.toRecordBase =
      some (t.storedNode n) := by
    rw [IsRegister.replaced?_of_hasIdentity hidentity]
    exact h.nodes.byIdentity?_insert_self (a := t.storedNode n) hidentity rfl
  obtain ⟨m, hm, hid, hcreated⟩ := replaced?_withNodes (isSound_withNode h n) hnodes
    (fresh_withNode h hn.id hfresh) hn hself
  refine ⟨⟨m, hm⟩, ?_⟩
  rw [renewed, hm]
  dsimp only
  rw [hid, hcreated]
  exact (storedNode_eq h hn).symm

/-- Nodes are stored with the ids and the times of creation that their identities have in
the end. -/
theorem storedNodes_eq (h : t.graph.IsSound) {nodes : List Node} (hnodes : ∀ n ∈ nodes, n.IsNamed)
    (hfresh : Fresh t.graph.nodes t.drawn) :
    t.storedNodes nodes = nodes.map (renewed (t.withNodes nodes).graph.nodes) := by
  induction nodes generalizing t with
  | nil => rfl
  | cons n nodes ih =>
    have hn := hnodes n (by simp)
    have hrest : ∀ n ∈ nodes, n.IsNamed := fun n hn => hnodes n (by simp [hn])
    have htail := ih (isSound_withNode h n) hrest (fresh_withNode h hn.id hfresh)
    rw [storedNodes, htail, ← (renewed_withNodes h hrest hfresh hn).2]
    rfl

theorem exists_replaced?_withNodes (h : t.graph.IsSound) {nodes : List Node}
    (hnodes : ∀ n ∈ nodes, n.IsNamed) (hfresh : Fresh t.graph.nodes t.drawn) (hn : n ∈ nodes) :
    ∃ m, Graph.replaced? Node.toRecordBase (t.withNodes nodes).graph.nodes n.toRecordBase =
      some m := by
  induction nodes generalizing t with
  | nil => simp at hn
  | cons n' nodes ih =>
    have hn' := hnodes n' (by simp)
    have hrest : ∀ n ∈ nodes, n.IsNamed := fun n hn => hnodes n (by simp [hn])
    rcases List.mem_cons.1 hn with rfl | hn
    · exact (renewed_withNodes h hrest hfresh hn').1
    · exact ih (isSound_withNode h n') hrest (fresh_withNode h hn'.id hfresh) hn

/-- The table of nodes after nodes were written is the one before, with them set. -/
theorem nodes_withNodes (t : Transaction) (nodes : List Node) :
    (t.withNodes nodes).graph.nodes =
      t.graph.nodes.insertAll ((t.storedNodes nodes).map fun n => (n.id.getD "", n)) := by
  induction nodes generalizing t with
  | nil => rfl
  | cons n nodes ih => exact ih (t.withNode n)

/-- Writing the same nodes again leaves the table of nodes as it is. -/
theorem nodes_withNodes_twice (h : t.graph.IsSound) {nodes : List Node}
    (hnodes : ∀ n ∈ nodes, n.IsNamed) (hfresh : Fresh t.graph.nodes t.drawn) {t' : Transaction}
    (ht' : t'.graph.IsSound) (heq : t'.graph.nodes = (t.withNodes nodes).graph.nodes)
    (hdrawn : (t.withNodes nodes).drawn.ids ≤ t'.drawn.ids) :
    (t'.withNodes nodes).graph.nodes = t'.graph.nodes := by
  have hfresh' : Fresh t'.graph.nodes t'.drawn := by
    rw [heq]
    exact (fresh_withNodes h hnodes hfresh).mono hdrawn
  have hrenewed : ∀ n ∈ nodes,
      renewed (t'.withNodes nodes).graph.nodes n = renewed (t.withNodes nodes).graph.nodes n := by
    intro n hn
    obtain ⟨m, hm⟩ := exists_replaced?_withNodes h hnodes hfresh hn
    rw [← heq] at hm
    obtain ⟨m', hm', hid, hcreated⟩ := replaced?_withNodes ht' hnodes hfresh' (hnodes n hn) hm
    rw [renewed, hm', renewed, ← heq, hm]
    dsimp only
    rw [hid, hcreated]
  have hstored : t'.storedNodes nodes = t.storedNodes nodes := by
    rw [storedNodes_eq ht' hnodes hfresh', storedNodes_eq h hnodes hfresh]
    exact List.map_congr_left hrenewed
  rw [nodes_withNodes t', hstored, heq, nodes_withNodes t]
  exact Table.insertAll_insertAll h.nodes.ordered _

end Transaction

end TypedGraph
