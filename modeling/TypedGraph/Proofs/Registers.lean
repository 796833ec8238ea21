import TypedGraph.Graph.Transaction

/-!
# Registers

The tables of a graph are registers: every record stands under its id and has a time of
creation, and no two records have the same composite identity in the same data source.
Writing a record keeps a register, because the record takes the place of the one with
its identity, or else with its id (`IsRegister.insert_stamped`).
-/
namespace TypedGraph

namespace Table

variable {α : Type} {t : Table α} {a : α} {key : String}

theorem mem_of_get? (h : t.get? key = some a) : (key, a) ∈ t := by
  induction t with
  | nil => simp at h
  | cons row t ih =>
    rw [get?_cons] at h
    split at h
    · cases h
      simp_all
    · exact List.mem_cons_of_mem _ (ih h)

theorem IsOrdered.get?_of_mem (ht : t.IsOrdered) (h : (key, a) ∈ t) : t.get? key = some a := by
  induction t with
  | nil => simp at h
  | cons row t ih =>
    obtain ⟨hrow, ht⟩ := List.pairwise_cons.1 ht
    rw [get?_cons]
    rcases List.mem_cons.1 h with rfl | h
    · simp
    · have hlt : row.1 < key := hrow key (List.mem_map_of_mem h)
      rw [if_neg fun heq => String.lt_irrefl key (by rwa [← heq] at hlt)]
      exact ih ht h

theorem IsOrdered.mem_values_iff (ht : t.IsOrdered) :
    a ∈ t.values ↔ ∃ key, t.get? key = some a := by
  constructor
  · intro h
    obtain ⟨⟨key, a⟩, hrow, rfl⟩ := List.mem_map.1 h
    exact ⟨key, ht.get?_of_mem hrow⟩
  · rintro ⟨key, h⟩
    exact List.mem_map_of_mem (f := (·.2)) (mem_of_get? h)

/-- Setting a key to the value that it has changes nothing. -/
theorem IsOrdered.insert_self (ht : t.IsOrdered) (h : t.get? key = some a) :
    t.insert key a = t := by
  refine IsOrdered.ext (isOrdered_insert ht key a) ht fun other => ?_
  rw [get?_insert]
  split
  · simp_all
  · rfl

theorem mem_keys_iff : key ∈ t.keys ↔ ∃ a, t.get? key = some a := by
  rw [← Option.isSome_iff_exists, Option.isSome_iff_ne_none, ne_eq, get?_eq_none_iff,
    Decidable.not_not]

/-- What a key has after a setting is what was set, or what it had before. -/
theorem get?_insert_cases {t : Table α} {key other : String} {a b : α}
    (h : (t.insert key a).get? other = some b) :
    other = key ∧ b = a ∨ other ≠ key ∧ t.get? other = some b := by
  rw [get?_insert] at h
  by_cases heq : other = key
  · rw [if_pos heq] at h
    exact .inl ⟨heq, (Option.some.inj h).symm⟩
  · rw [if_neg heq] at h
    exact .inr ⟨heq, h⟩

theorem get?_map {β : Type} (f : α → β) (t : Table α) (key : String) :
    get? (t.map fun row => (row.1, f row.2)) key = (t.get? key).map f := by
  induction t with
  | nil => rfl
  | cons row t ih =>
    rw [List.map_cons, get?_cons, get?_cons, ih]
    split <;> rfl

theorem IsOrdered.map {β : Type} (ht : t.IsOrdered) (f : α → β) :
    IsOrdered (t.map fun row => (row.1, f row.2)) := by
  simpa [IsOrdered, keys, Function.comp_def] using ht

end Table

/-- A table of records that stand under their ids, were created at some time and are
told apart by their composite identities. -/
structure IsRegister {α : Type} (base : α → RecordBase) (t : Table α) : Prop where
  ordered : t.IsOrdered
  id_eq {id : String} {a : α} : t.get? id = some a → (base a).id = some id
  created {id : String} {a : α} : t.get? id = some a → (base a).createdAt.isSome
  unique {id id' compositeId dataSourceId : String} {a a' : α} :
    t.get? id = some a → t.get? id' = some a' →
    (base a).hasIdentity compositeId dataSourceId →
    (base a').hasIdentity compositeId dataSourceId → id = id'

namespace IsRegister

variable {α : Type} {base : α → RecordBase} {t : Table α} {a b : α} {id : String}

theorem nil : IsRegister base ([] : Table α) where
  ordered := .nil
  id_eq h := by simp at h
  created h := by simp at h
  unique h := by simp at h

theorem hasIdentity_of_byIdentity? {compositeId dataSourceId : String}
    (h : Graph.byIdentity? base t compositeId dataSourceId = some a) :
    (base a).hasIdentity compositeId dataSourceId :=
  List.find?_some (p := fun a => (base a).hasIdentity compositeId dataSourceId) h

theorem byIdentity?_eq_some (h : IsRegister base t) {compositeId dataSourceId : String} :
    Graph.byIdentity? base t compositeId dataSourceId = some a ↔
      (∃ id, t.get? id = some a) ∧ (base a).hasIdentity compositeId dataSourceId := by
  constructor
  · intro hfind
    exact ⟨h.ordered.mem_values_iff.1 (List.mem_of_find?_eq_some hfind),
      hasIdentity_of_byIdentity? hfind⟩
  · rintro ⟨⟨id, hid⟩, ha⟩
    cases hfind : Graph.byIdentity? base t compositeId dataSourceId with
    | none =>
      have := List.find?_eq_none.1 hfind a (h.ordered.mem_values_iff.2 ⟨id, hid⟩)
      contradiction
    | some b =>
      obtain ⟨id', hid'⟩ := h.ordered.mem_values_iff.1 (List.mem_of_find?_eq_some hfind)
      have heq := h.unique hid hid' ha (hasIdentity_of_byIdentity? hfind)
      rw [heq, hid'] at hid
      exact hid

theorem byIdentity?_eq_none (h : IsRegister base t) {compositeId dataSourceId : String} :
    Graph.byIdentity? base t compositeId dataSourceId = none ↔
      ∀ id a, t.get? id = some a → (base a).hasIdentity compositeId dataSourceId = false := by
  rw [Graph.byIdentity?, List.find?_eq_none]
  constructor
  · intro hnone id a ha
    simpa using hnone a (h.ordered.mem_values_iff.2 ⟨id, ha⟩)
  · intro hnone a ha
    obtain ⟨id, hid⟩ := h.ordered.mem_values_iff.1 ha
    simp [hnone id a hid]

end IsRegister

namespace RecordBase

theorem hasIdentity_iff {compositeId dataSourceId : String} {r : RecordBase} :
    r.hasIdentity compositeId dataSourceId ↔
      r.compositeId = some compositeId ∧ r.dataSourceId = some dataSourceId := by
  simp [hasIdentity]

/-- Two records have the same identity if they agree in what makes it up. -/
theorem hasIdentity_congr {r r' : RecordBase} (hc : r.compositeId = r'.compositeId)
    (hd : r.dataSourceId = r'.dataSourceId) (compositeId dataSourceId : String) :
    r.hasIdentity compositeId dataSourceId = r'.hasIdentity compositeId dataSourceId := by
  simp [hasIdentity, hc, hd]

end RecordBase

/-! ## Stamps -/

namespace Transaction

variable [Supply]

/-- A record with the id and the time of creation that it is written with, and how much is
drawn then. -/
def stamped (drawn : Drawn) (replaced : Option RecordBase) (r : RecordBase) : RecordBase × Drawn :=
  match replaced with
  | some old => ({ r with id := old.id, createdAt := old.createdAt <|> r.createdAt }, drawn)
  | none =>
    ({ r with
        id := some (r.id.getD (Supply.drawnId (drawn.ids + 1)))
        createdAt := some (r.createdAt.getD (Supply.reading (drawn.readings + 1))) },
      { ids := if r.id.isSome then drawn.ids else drawn.ids + 1
        readings := if r.createdAt.isSome then drawn.readings else drawn.readings + 1 })

variable {drawn : Drawn} {replaced : Option RecordBase} {r : RecordBase}

theorem run_stamp {ε : Type} (replaced : Option RecordBase) (r : RecordBase) (t : Transaction) :
    (stamp replaced r : Access Transaction ε RecordBase).run.run t =
      (.ok (stamped t.drawn replaced r).1, { t with drawn := (stamped t.drawn replaced r).2 }) := by
  cases replaced with
  | some old => rfl
  | none =>
    unfold stamp stamped
    cases r.id <;> cases r.createdAt <;> rfl

@[simp] theorem stamped_containerId : (stamped drawn replaced r).1.containerId = r.containerId := by
  unfold stamped
  split <;> rfl

@[simp] theorem stamped_properties : (stamped drawn replaced r).1.properties = r.properties := by
  unfold stamped
  split <;> rfl

@[simp] theorem stamped_compositeId : (stamped drawn replaced r).1.compositeId = r.compositeId := by
  unfold stamped
  split <;> rfl

@[simp] theorem stamped_dataSourceId :
    (stamped drawn replaced r).1.dataSourceId = r.dataSourceId := by
  unfold stamped
  split <;> rfl

@[simp] theorem stamped_archived : (stamped drawn replaced r).1.archived = r.archived := by
  unfold stamped
  split <;> rfl

@[simp] theorem stamped_some (old : RecordBase) : stamped drawn (some old) r =
    ({ r with id := old.id, createdAt := old.createdAt <|> r.createdAt }, drawn) := rfl

theorem stamped_none_id_isSome : (stamped drawn none r).1.id.isSome := rfl

theorem stamped_none_createdAt_isSome : (stamped drawn none r).1.createdAt.isSome := rfl

end Transaction

namespace IsRegister

open Transaction

variable {α : Type} {base : α → RecordBase} {t : Table α} {a : α} {id : String}

/-- The record whose place another one takes is stored under its own id. -/
theorem get?_of_replaced? (h : IsRegister base t) {r : RecordBase}
    (hr : Graph.replaced? base t r = some a) :
    ∃ id, t.get? id = some a ∧ (base a).id = some id := by
  have hstored : ∃ id, t.get? id = some a := by
    unfold Graph.replaced? at hr
    split at hr
    · exact (h.byIdentity?_eq_some.1 hr).1
    · obtain ⟨id, -, hid⟩ := Option.bind_eq_some_iff.1 hr
      exact ⟨id, hid⟩
  obtain ⟨id, hid⟩ := hstored
  exact ⟨id, hid, h.id_eq hid⟩

/-- A record with an identity takes the place of the one with that identity. -/
theorem replaced?_of_hasIdentity {compositeId dataSourceId : String} {r : RecordBase}
    (hr : r.hasIdentity compositeId dataSourceId) :
    Graph.replaced? base t r = Graph.byIdentity? base t compositeId dataSourceId := by
  obtain ⟨hc, hd⟩ := RecordBase.hasIdentity_iff.1 hr
  simp [Graph.replaced?, hc, hd]

/-- A record without an id takes the place of one that has the same identity. -/
theorem identity_of_replaced? {r : RecordBase} {old : α} (hr : r.id = none)
    (h : Graph.replaced? base t r = some old) :
    ∃ compositeId dataSourceId, (base old).hasIdentity compositeId dataSourceId ∧
      r.hasIdentity compositeId dataSourceId := by
  unfold Graph.replaced? at h
  split at h
  · rename_i c d hc hd
    exact ⟨c, d, hasIdentity_of_byIdentity? h, RecordBase.hasIdentity_iff.2 ⟨hc, hd⟩⟩
  · simp [hr] at h

/-- A record is stored with an id. -/
theorem stamped_id_isSome [Supply] (h : IsRegister base t) (drawn : Drawn) (r : RecordBase) :
    (Transaction.stamped drawn ((Graph.replaced? base t r).map base) r).1.id.isSome := by
  cases hold : Graph.replaced? base t r with
  | none => exact Transaction.stamped_none_id_isSome
  | some old =>
    obtain ⟨id, -, hid⟩ := h.get?_of_replaced? hold
    simp [hid]

/-- Storing a record under an id keeps a register if it is a record of that id with a
time of creation, and all others with its identity are stored under that id. -/
theorem insert (h : IsRegister base t) (hid : (base a).id = some id)
    (hcreated : (base a).createdAt.isSome)
    (hunique : ∀ compositeId dataSourceId id' b, (base a).hasIdentity compositeId dataSourceId →
      t.get? id' = some b → (base b).hasIdentity compositeId dataSourceId → id' = id) :
    IsRegister base (t.insert id a) where
  ordered := Table.isOrdered_insert h.ordered id a
  id_eq hb := by
    rw [Table.get?_insert] at hb
    split at hb
    · cases hb
      simp_all
    · exact h.id_eq hb
  created hb := by
    rw [Table.get?_insert] at hb
    split at hb
    · cases hb
      exact hcreated
    · exact h.created hb
  unique {id₁ id₂ c d a₁ a₂} h₁ h₂ ha₁ ha₂ := by
    rw [Table.get?_insert] at h₁ h₂
    split at h₁ <;> split at h₂
    · simp_all
    · cases h₁
      have := hunique c d id₂ a₂ ha₁ h₂ ha₂
      simp_all
    · cases h₂
      have := hunique c d id₁ a₁ ha₂ h₁ ha₁
      simp_all
    · exact h.unique h₁ h₂ ha₁ ha₂

/-- Storing a record in the place of the one that it replaces keeps a register. -/
theorem insert_stamped [Supply] (h : IsRegister base t) {r : RecordBase} {drawn : Drawn}
    (ha : base a = (stamped drawn ((Graph.replaced? base t r).map base) r).1) :
    IsRegister base (t.insert ((base a).id.getD "") a) := by
  have hidentity (c d : String) : (base a).hasIdentity c d = r.hasIdentity c d :=
    RecordBase.hasIdentity_congr (by simp [ha]) (by simp [ha]) c d
  cases hr : Graph.replaced? base t r with
  | some old =>
    obtain ⟨id, hold, hid⟩ := h.get?_of_replaced? hr
    have hcreated := h.created hold
    simp only [hr, Option.map_some, stamped_some, hid] at ha
    rw [ha]
    refine h.insert (by simp [ha]) ?_ fun c d id' b hc hb hbc => ?_
    · cases hat : (base old).createdAt <;> simp_all
    · rw [hidentity] at hc
      rw [replaced?_of_hasIdentity hc] at hr
      exact h.unique hb hold hbc (hasIdentity_of_byIdentity? hr)
  | none =>
    simp only [hr, Option.map_none] at ha
    have hsome : (base a).id.isSome := by
      rw [ha]
      exact stamped_none_id_isSome
    obtain ⟨id, hid⟩ := Option.isSome_iff_exists.1 hsome
    rw [hid]
    refine h.insert hid ?_ fun c d id' b hc hb hbc => ?_
    · rw [ha]
      exact stamped_none_createdAt_isSome
    · rw [hidentity] at hc
      rw [replaced?_of_hasIdentity hc] at hr
      have := h.byIdentity?_eq_none.1 hr id' b hb
      simp_all

/-- Changing a record keeps a register if it keeps its id, its time of creation and its
identity. -/
theorem insert_same (h : IsRegister base t) {b : α} (hb : t.get? id = some b)
    (hid : (base a).id = (base b).id) (hcreated : (base a).createdAt = (base b).createdAt)
    (hc : (base a).compositeId = (base b).compositeId)
    (hd : (base a).dataSourceId = (base b).dataSourceId) : IsRegister base (t.insert id a) := by
  refine h.insert (hid.trans (h.id_eq hb)) (hcreated ▸ h.created hb) fun c d id' b' ha hb' hbc => ?_
  rw [RecordBase.hasIdentity_congr hc hd] at ha
  exact h.unique hb' hb hbc ha

/-- Changing all records keeps a register if they keep their ids, their times of creation
and their identities. -/
theorem map (h : IsRegister base t) {f : α → α} (hid : ∀ a, (base (f a)).id = (base a).id)
    (hcreated : ∀ a, (base (f a)).createdAt = (base a).createdAt)
    (hc : ∀ a, (base (f a)).compositeId = (base a).compositeId)
    (hd : ∀ a, (base (f a)).dataSourceId = (base a).dataSourceId) :
    IsRegister base (t.map fun row => (row.1, f row.2)) where
  ordered := h.ordered.map f
  id_eq hb := by
    rw [Table.get?_map] at hb
    obtain ⟨a, ha, rfl⟩ := Option.map_eq_some_iff.1 hb
    rw [hid, h.id_eq ha]
  created hb := by
    rw [Table.get?_map] at hb
    obtain ⟨a, ha, rfl⟩ := Option.map_eq_some_iff.1 hb
    rw [hcreated]
    exact h.created ha
  unique h₁ h₂ ha₁ ha₂ := by
    rw [Table.get?_map] at h₁ h₂
    obtain ⟨a₁, hat₁, rfl⟩ := Option.map_eq_some_iff.1 h₁
    obtain ⟨a₂, hat₂, rfl⟩ := Option.map_eq_some_iff.1 h₂
    rw [RecordBase.hasIdentity_congr (hc _) (hd _)] at ha₁ ha₂
    exact h.unique hat₁ hat₂ ha₁ ha₂

end IsRegister

end TypedGraph
