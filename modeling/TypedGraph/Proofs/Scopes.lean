import Mathlib.Data.List.Induction
import TypedGraph.Ontology.Lookup
import TypedGraph.Proofs.Registers

/-!
# Containers in one ontology store

A store keeps the records of all containers, and a lookup made for one of them looks at the
records of this container only. What it answers is therefore told by the rows of the
container (`AnswersAlike.of_ownRows`). Only where several of its types have keys with one id,
the order in which the types are gone through tells which of the keys is found.

But the tables go by the ids of the records alone, so an insertion for another container takes
the place of a record with the same id. A container gets the same answers as from a store of its
own if no insertion takes the place of one of its records in this way, and it misses every live
record whose place is taken (`lookups_after`).
-/
namespace TypedGraph

/-! ## Rows of a table -/

namespace Table

variable {α : Type} {t : Table α}

/-- The rows whose values have a property. -/
def rowsWhere (t : Table α) (p : α → Bool) : Table α := t.filter fun row => p row.2

theorem IsOrdered.rowsWhere (ht : t.IsOrdered) (p : α → Bool) : (t.rowsWhere p).IsOrdered :=
  ht.sublist (List.filter_sublist.map _)

theorem IsOrdered.get?_rowsWhere (ht : t.IsOrdered) (p : α → Bool) (key : String) :
    (t.rowsWhere p).get? key = (t.get? key).filter p := by
  induction t with
  | nil => rfl
  | cons row t ih =>
    obtain ⟨hrow, htail⟩ := List.pairwise_cons.1 ht
    have hrest := ih htail
    simp only [Table.rowsWhere] at hrest
    simp only [Table.rowsWhere, List.filter_cons, get?_cons]
    by_cases heq : key = row.1
    · -- The row is the only one of its key, so nothing is found if it is left out.
      have hnone : get? t key = none := by
        rw [get?_eq_none_iff, heq]
        intro hmem
        exact String.lt_irrefl _ (hrow _ hmem)
      by_cases hp : p row.2 = true
      · simp [hp, get?_cons, heq, Option.filter_some]
      · simp [hp, ← heq, hrest, hnone, Option.filter_some]
    · by_cases hp : p row.2 = true
      · simp [hp, get?_cons, heq, hrest]
      · simp [hp, heq, hrest]

theorem values_rowsWhere (t : Table α) (p : α → Bool) :
    (t.rowsWhere p).values = t.values.filter p := by
  simp [rowsWhere, values, List.filter_map, Function.comp_def]

/-- Ordered tables have the same rows of a property if their keys have the same values of it. -/
theorem IsOrdered.rowsWhere_eq {u : Table α} (ht : t.IsOrdered) (hu : u.IsOrdered) (p : α → Bool)
    (h : ∀ key, (t.get? key).filter p = (u.get? key).filter p) :
    t.rowsWhere p = u.rowsWhere p := by
  apply IsOrdered.ext (ht.rowsWhere p) (hu.rowsWhere p)
  intro key
  rw [ht.get?_rowsWhere, hu.get?_rowsWhere, h key]

end Table

namespace OntologyStore

variable {container : String}

/-- The types of a container. -/
def ownTypes (container : String) (types : Table KeyedType) : Table KeyedType :=
  types.rowsWhere fun t => t.containerId == container

/-- The pairs of a container. -/
def ownPairs (container : String) (pairs : Table RelationshipPair) : Table RelationshipPair :=
  pairs.rowsWhere fun p => p.containerId == container

/-! ## Keys by id -/

/-- Whether a lookup by the id of a key may end with a result. It goes through the types of the
container in some order, and finds the first key with the id. -/
def MayFind (types : Table KeyedType) (container keyId : String) (found : Option PropertyKey) :
    Prop :=
  ∃ order : List KeyedType, order.Perm (ownTypes container types).values ∧
    (order.flatMap KeyedType.keys).find? (fun k => k.id == some keyId) = found

/-- Whether at most one type of a container has keys with an id. -/
def HasOneHolder (types : Table KeyedType) (container keyId : String) : Prop :=
  (ownTypes container types).values.countP
    (fun t => (t.keys.find? fun k => k.id == some keyId).isSome) ≤ 1

instance (types : Table KeyedType) (container keyId : String) :
    Decidable (HasOneHolder types container keyId) := inferInstanceAs (Decidable (_ ≤ _))

/-- The order of a list does not matter to a search if at most one element has a result. -/
theorem findSome?_eq_of_perm {α β : Type} {l l' : List α} {f : α → Option β} (h : l.Perm l')
    (hone : l'.countP (fun a => (f a).isSome) ≤ 1) : l.findSome? f = l'.findSome? f := by
  rw [← List.head?_filterMap, ← List.head?_filterMap]
  have hresults := h.filterMap f
  rw [← List.length_filterMap_eq_countP] at hone
  cases hl : l'.filterMap f with
  | nil =>
    rw [hl] at hresults
    rw [hresults.eq_nil]
  | cons b rest =>
    rw [hl] at hresults hone
    obtain rfl : rest = [] := by simpa using hone
    rw [List.perm_singleton.1 hresults]

theorem key?_eq_find? (types : Table KeyedType) (container keyId : String) :
    key? types container keyId =
      ((ownTypes container types).values.flatMap KeyedType.keys).find?
        fun k => k.id == some keyId := by
  rw [key?, ownTypes, Table.values_rowsWhere]

/-- The types may be gone through in the order of their ids. -/
theorem mayFind_key? (types : Table KeyedType) (container keyId : String) :
    MayFind types container keyId (key? types container keyId) :=
  ⟨_, .refl _, (key?_eq_find? types container keyId).symm⟩

/-- If at most one type has keys with an id, then what is found does not depend on the order. -/
theorem MayFind.eq_key? {types : Table KeyedType} {keyId : String} {found : Option PropertyKey}
    (h : MayFind types container keyId found) (hone : HasOneHolder types container keyId) :
    found = key? types container keyId := by
  obtain ⟨order, horder, rfl⟩ := h
  rw [key?_eq_find?, List.find?_flatMap, List.find?_flatMap]
  exact findSome?_eq_of_perm horder hone

/-! ## What a lookup depends on -/

/-- Whether lookups by the ids of keys are alike in the types of two stores: they may have the
same results, and they have the same result if at most one type has keys with the id. -/
structure KeysAlike (container : String) (types types' : Table KeyedType) : Prop where
  mayFind : ∀ keyId found,
    MayFind types container keyId found ↔ MayFind types' container keyId found
  same : ∀ keyId, HasOneHolder types container keyId → ∀ found found',
    MayFind types container keyId found → MayFind types' container keyId found' → found = found'

/-- Whether every lookup for a container has the same answer in two stores. Where several types
have keys with one id, it is the possible answers that are the same. -/
structure AnswersAlike (container : String) (s s' : OntologyStore) : Prop where
  metatype : ∀ id, s.metatype? container id = s'.metatype? container id
  metatypeByName : ∀ name, s.metatypeByName? container name = s'.metatypeByName? container name
  metatypeKeys : ∀ id, s.metatypeKeys? container id = s'.metatypeKeys? container id
  metatypeKey : KeysAlike container s.metatypes s'.metatypes
  pair : ∀ id, s.pair? container id = s'.pair? container id
  relationshipKeys : ∀ id, s.relationshipKeys? container id = s'.relationshipKeys? container id
  relationshipKey : KeysAlike container s.relationships s'.relationships

/-- The tables of a store are in the order of their keys. -/
structure IsOrdered (s : OntologyStore) : Prop where
  metatypes : s.metatypes.IsOrdered
  relationships : s.relationships.IsOrdered
  pairs : s.pairs.IsOrdered

theorem liveType?_ownTypes {types : Table KeyedType} (ht : types.IsOrdered) (id : String) :
    liveType? (ownTypes container types) container id = liveType? types container id := by
  rw [liveType?, liveType?, ownTypes, ht.get?_rowsWhere, Option.filter_filter]
  congr 1
  funext t
  cases t.containerId == container <;> simp

/-- A name is looked up among the metatypes of the container. -/
theorem metatypeByName?_eq_find? (s : OntologyStore) (name : String) :
    s.metatypeByName? container name =
      (ownTypes container s.metatypes).values.find? fun m => !m.archived && m.name == name := by
  rw [metatypeByName?, ownTypes, Table.values_rowsWhere, List.find?_filter]
  congr 1
  funext m
  rw [Bool.eq_iff_iff]
  simp [and_assoc]

theorem pair?_eq_get? {s : OntologyStore} (hs : s.pairs.IsOrdered) (id : String) :
    s.pair? container id =
      ((ownPairs container s.pairs).get? id).filter fun p => !p.archived := by
  rw [pair?, ownPairs, hs.get?_rowsWhere, Option.filter_filter]

theorem keysAlike_of_ownTypes {types types' : Table KeyedType}
    (h : ownTypes container types = ownTypes container types') :
    KeysAlike container types types' := by
  have hmayFind (keyId : String) (found : Option PropertyKey) :
      MayFind types container keyId found ↔ MayFind types' container keyId found := by
    rw [MayFind, MayFind, h]
  refine ⟨hmayFind, fun keyId hone found found' hfound hfound' => ?_⟩
  rw [hfound.eq_key? hone, ((hmayFind keyId found').2 hfound').eq_key? hone]

/-- Stores answer a container alike if they keep the same rows for it. -/
theorem AnswersAlike.of_ownRows {s s' : OntologyStore} (hs : s.IsOrdered) (hs' : s'.IsOrdered)
    (hmetatypes : ownTypes container s.metatypes = ownTypes container s'.metatypes)
    (hrelationships : ownTypes container s.relationships = ownTypes container s'.relationships)
    (hpairs : ownPairs container s.pairs = ownPairs container s'.pairs) :
    AnswersAlike container s s' := by
  have hmetatype (id : String) : s.metatype? container id = s'.metatype? container id := by
    rw [metatype?, metatype?, ← liveType?_ownTypes hs.metatypes, hmetatypes,
      liveType?_ownTypes hs'.metatypes]
  have hrelationship (id : String) :
      liveType? s.relationships container id = liveType? s'.relationships container id := by
    rw [← liveType?_ownTypes hs.relationships, hrelationships,
      liveType?_ownTypes hs'.relationships]
  constructor
  case metatype => exact hmetatype
  case metatypeByName =>
    intro name
    rw [metatypeByName?_eq_find?, metatypeByName?_eq_find?, hmetatypes]
  case metatypeKeys =>
    intro id
    rw [metatypeKeys?, metatypeKeys?, hmetatype id]
  case metatypeKey => exact keysAlike_of_ownTypes hmetatypes
  case pair =>
    intro id
    rw [pair?_eq_get? hs.pairs, pair?_eq_get? hs'.pairs, hpairs]
  case relationshipKeys =>
    intro id
    rw [relationshipKeys?, relationshipKeys?, hrelationship id]
  case relationshipKey => exact keysAlike_of_ownTypes hrelationships

/-! ## Histories of insertions -/

/-- An insertion of a record. -/
inductive Insertion where
  | metatype (m : Metatype)
  | relationship (r : Relationship)
  | pair (p : RelationshipPair)
deriving DecidableEq, Repr

/-- A place of a store: an id in one of its tables. -/
inductive Slot where
  | metatype (id : String)
  | relationship (id : String)
  | pair (id : String)
deriving DecidableEq, Repr

namespace Insertion

def containerId : Insertion → String
  | metatype m => m.containerId
  | relationship r => r.containerId
  | pair p => p.containerId

def isLive : Insertion → Bool
  | metatype m => !m.archived
  | relationship r => !r.archived
  | pair p => !p.archived

/-- The place that the record takes, if it has an id. -/
def slot? : Insertion → Option Slot
  | metatype m => m.id.map .metatype
  | relationship r => r.id.map .relationship
  | pair p => p.id.map .pair

end Insertion

def insert (s : OntologyStore) : Insertion → OntologyStore
  | .metatype m => s.insertMetatype m
  | .relationship r => s.insertRelationship r
  | .pair p => s.insertPair p

/-- The store that a history of insertions leaves. -/
def after (history : List Insertion) : OntologyStore := history.foldl insert {}

/-- The insertions of the records of a container. -/
def own (container : String) (history : List Insertion) : List Insertion :=
  history.filter fun x => x.containerId == container

/-- The last insertion at a place. -/
def lastAt? (history : List Insertion) (slot : Slot) : Option Insertion :=
  history.reverse.find? fun x => x.slot? == some slot

/-- The record at a place, as the insertion of it. -/
def recordAt? (s : OntologyStore) : Slot → Option Insertion
  | .metatype id => (s.metatypes.get? id).map .metatype
  | .relationship id => (s.relationships.get? id).map .relationship
  | .pair id => (s.pairs.get? id).map .pair

/-- No insertion takes the place of a record of the container for another container. -/
def Spares (container : String) (history : List Insertion) : Prop :=
  ∀ slot x, lastAt? (own container history) slot = some x → lastAt? history slot = some x

variable {history : List Insertion} {slot : Slot} {x : Insertion}

theorem mem_of_lastAt? (h : lastAt? history slot = some x) :
    x ∈ history ∧ x.slot? = some slot := by
  have hmem := List.mem_of_find?_eq_some h
  have hslot := List.find?_some h
  exact ⟨by simpa using hmem, by simpa using hslot⟩

/-- It is enough to look at the places of the own records. -/
theorem spares_iff :
    Spares container history ↔
      ∀ x ∈ own container history, ∀ slot ∈ x.slot?,
        lastAt? (own container history) slot = some x → lastAt? history slot = some x := by
  constructor
  · intro h x _ slot _ hown
    exact h slot x hown
  · intro h slot x hown
    obtain ⟨hmem, hslot⟩ := mem_of_lastAt? hown
    exact h x hmem slot hslot hown

instance (container : String) (history : List Insertion) : Decidable (Spares container history) :=
  decidable_of_iff _ spares_iff.symm

@[simp] theorem after_append_singleton (history : List Insertion) (x : Insertion) :
    after (history ++ [x]) = (after history).insert x := by
  simp [after]

theorem lastAt?_append_singleton (history : List Insertion) (x : Insertion) (slot : Slot) :
    lastAt? (history ++ [x]) slot =
      if x.slot? = some slot then some x else lastAt? history slot := by
  simp only [lastAt?, List.reverse_append, List.reverse_singleton, List.singleton_append]
  by_cases h : x.slot? = some slot
  · simp [h]
  · rw [if_neg h, List.find?_cons_of_neg (by simpa using h)]

/-- An insertion fills its place and leaves all other places. -/
theorem recordAt?_insert (s : OntologyStore) (x : Insertion) (slot : Slot) :
    (s.insert x).recordAt? slot = if x.slot? = some slot then some x else s.recordAt? slot := by
  cases x <;> cases slot <;>
    simp [insert, insertMetatype, insertRelationship, insertPair, recordAt?, Insertion.slot?,
      get?_insertById] <;>
    split <;> simp

/-- A place holds the record of the last insertion there. -/
theorem recordAt?_after (history : List Insertion) (slot : Slot) :
    (after history).recordAt? slot = lastAt? history slot := by
  induction history using List.reverseRecOn with
  | nil => cases slot <;> rfl
  | append_singleton history x ih =>
    rw [after_append_singleton, recordAt?_insert, lastAt?_append_singleton, ih]

theorem isOrdered_insertById {α : Type} {t : Table α} (ht : t.IsOrdered) (id : Option String)
    (a : α) : (insertById t id a).IsOrdered := by
  cases id with
  | none => exact ht
  | some id => exact Table.isOrdered_insert ht id a

theorem IsOrdered.insert {s : OntologyStore} (hs : s.IsOrdered) (x : Insertion) :
    (s.insert x).IsOrdered := by
  cases x with
  | metatype m => exact { hs with metatypes := isOrdered_insertById hs.metatypes m.id m }
  | relationship r =>
    exact { hs with relationships := isOrdered_insertById hs.relationships r.id r }
  | pair p => exact { hs with pairs := isOrdered_insertById hs.pairs p.id p }

theorem isOrdered_after (history : List Insertion) : (after history).IsOrdered := by
  induction history using List.reverseRecOn with
  | nil => exact ⟨.nil, .nil, .nil⟩
  | append_singleton history x ih =>
    rw [after_append_singleton]
    exact ih.insert x

/-! ## Own records -/

/-- The last insertion at a place is the last one of its own container too. -/
theorem lastAt?_own (h : lastAt? history slot = some x) (hx : x.containerId = container) :
    lastAt? (own container history) slot = some x := by
  induction history using List.reverseRecOn with
  | nil => simp [lastAt?] at h
  | append_singleton history y ih =>
    rw [lastAt?_append_singleton] at h
    by_cases hy : y.slot? = some slot
    · rw [if_pos hy] at h
      obtain rfl := Option.some.inj h
      simp [own, hx, lastAt?_append_singleton, hy]
    · rw [if_neg hy] at h
      have hrest := ih h
      by_cases hcontainer : y.containerId = container
      · simpa [own, hcontainer, lastAt?_append_singleton, hy] using hrest
      · simpa [own, hcontainer] using hrest

/-- If the records of a container are spared, they are where they would be on their own. -/
theorem Spares.filter_lastAt? (h : Spares container history) (slot : Slot) :
    (lastAt? history slot).filter (fun x => x.containerId == container) =
      lastAt? (own container history) slot := by
  cases hown : lastAt? (own container history) slot with
  | some x =>
    have hmem := (mem_of_lastAt? hown).1
    have hx := (List.mem_filter.1 hmem).2
    simpa [h slot x hown, Option.filter] using hx
  | none =>
    rw [Option.filter_eq_none_iff]
    intro x hx hcontainer
    have hsome := lastAt?_own hx (by simpa using hcontainer)
    rw [hown] at hsome
    cases hsome

/-- What the store of the own records has at a place belongs to the container. -/
theorem filter_lastAt?_own (slot : Slot) :
    (lastAt? (own container history) slot).filter (fun x => x.containerId == container) =
      lastAt? (own container history) slot := by
  cases h : lastAt? (own container history) slot with
  | none => rfl
  | some x =>
    have hmem := (mem_of_lastAt? h).1
    have hx := (List.mem_filter.1 hmem).2
    simp [Option.filter_some, hx]

theorem Spares.answersAlike (h : Spares container history) :
    AnswersAlike container (after history) (after (own container history)) := by
  have hsame (slot : Slot) :
      ((after history).recordAt? slot).filter (fun x => x.containerId == container) =
        ((after (own container history)).recordAt? slot).filter
          (fun x => x.containerId == container) := by
    rw [recordAt?_after, recordAt?_after, h.filter_lastAt?, filter_lastAt?_own]
  have hs := isOrdered_after history
  have hs' := isOrdered_after (own container history)
  apply AnswersAlike.of_ownRows hs hs'
  · apply hs.metatypes.rowsWhere_eq hs'.metatypes
    intro id
    have hid := hsame (.metatype id)
    simp only [recordAt?, Option.filter_map, Function.comp_def, Insertion.containerId] at hid
    exact (Option.map_inj_right fun _ _ => Insertion.metatype.inj).1 hid
  · apply hs.relationships.rowsWhere_eq hs'.relationships
    intro id
    have hid := hsame (.relationship id)
    simp only [recordAt?, Option.filter_map, Function.comp_def, Insertion.containerId] at hid
    exact (Option.map_inj_right fun _ _ => Insertion.relationship.inj).1 hid
  · apply hs.pairs.rowsWhere_eq hs'.pairs
    intro id
    have hid := hsame (.pair id)
    simp only [recordAt?, Option.filter_map, Function.comp_def, Insertion.containerId] at hid
    exact (Option.map_inj_right fun _ _ => Insertion.pair.inj).1 hid

/-! ## Records whose place is taken -/

/-- Whether a lookup by the id of a place finds a record for a container. -/
def finds (s : OntologyStore) (container : String) : Slot → Bool
  | .metatype id => (s.metatype? container id).isSome
  | .relationship id => (s.relationshipKeys? container id).isSome
  | .pair id => (s.pair? container id).isSome

/-- A lookup by id finds the record at its place, if it is live and of the container. -/
theorem finds_iff {s : OntologyStore} :
    s.finds container slot ↔
      ∃ x, s.recordAt? slot = some x ∧ x.containerId = container ∧ x.isLive := by
  cases slot with
  | metatype id =>
    cases h : s.metatypes.get? id <;>
      simp [finds, metatype?, liveType?, recordAt?, h, Insertion.containerId, Insertion.isLive,
        Option.filter]
  | relationship id =>
    cases h : s.relationships.get? id <;>
      simp [finds, relationshipKeys?, liveType?, recordAt?, h, Insertion.containerId,
        Insertion.isLive, Option.filter]
  | pair id =>
    cases h : s.pairs.get? id <;>
      simp [finds, pair?, recordAt?, h, Insertion.containerId, Insertion.isLive, Option.filter]

theorem AnswersAlike.finds_eq {s s' : OntologyStore} (h : AnswersAlike container s s')
    (slot : Slot) : s.finds container slot = s'.finds container slot := by
  cases slot with
  | metatype id => rw [finds, finds, h.metatype id]
  | relationship id => rw [finds, finds, h.relationshipKeys id]
  | pair id => rw [finds, finds, h.pair id]

/-- Where a container is answered as from a store of its own, its live records are in place. -/
theorem AnswersAlike.lastAt?_eq
    (h : AnswersAlike container (after history) (after (own container history)))
    (hlive : x.isLive) (hown : lastAt? (own container history) slot = some x) :
    lastAt? history slot = some x := by
  have hmem := (mem_of_lastAt? hown).1
  have hcontainer : x.containerId = container := by
    simpa using (List.mem_filter.1 hmem).2
  have hfinds : (after (own container history)).finds container slot := by
    rw [finds_iff, recordAt?_after]
    exact ⟨x, hown, hcontainer, hlive⟩
  rw [← h.finds_eq, finds_iff, recordAt?_after] at hfinds
  obtain ⟨y, hy, hycontainer, -⟩ := hfinds
  -- The record that is found is the last one of the container at this place, as `x` is.
  have hyown := lastAt?_own hy hycontainer
  rw [hown] at hyown
  rw [hy, ← hyown]

/-- A container is answered as from a store of its own records if no insertion for another
container takes the place of one of them, and only then if the records are live. -/
theorem lookups_after (container : String) (history : List Insertion) :
    (Spares container history →
      AnswersAlike container (after history) (after (own container history))) ∧
    (AnswersAlike container (after history) (after (own container history)) →
      ∀ slot x, x.isLive → lastAt? (own container history) slot = some x →
        lastAt? history slot = some x) := by
  constructor
  · intro hspares
    exact hspares.answersAlike
  · intro halike slot x hlive hown
    exact halike.lastAt?_eq hlive hown

/-- The stops of two containers under one id, with keys under one id too, and a stop and a pair
under another id. -/
def sharedIds : List Insertion :=
  [.metatype { id := some "stop", containerId := "c2", name := "Halt",
               keys := [{ id := some "k", name := "Height", propertyName := "height",
                          dataType := .number }] },
    .metatype { id := some "stop", containerId := "c1", name := "Stop",
                keys := [{ id := some "k", name := "Name", propertyName := "name",
                           dataType := .string }] },
    .metatype { id := some "next", containerId := "c2", name := "Next stop",
                keys := [{ id := some "k", name := "Line", propertyName := "line",
                           dataType := .string }] },
    .pair { id := some "next", containerId := "c1", name := "next", originMetatypeId := "stop",
            destinationMetatypeId := "stop", relationshipId := "r" }]

theorem lookups_after_sharedIds :
    Spares "c1" sharedIds ∧
      AnswersAlike "c1" (after sharedIds) (after (own "c1" sharedIds)) ∧
      lastAt? sharedIds (.pair "next") = lastAt? (own "c1" sharedIds) (.pair "next") ∧
      (∀ found, MayFind (after sharedIds).metatypes "c1" "k" found →
        found.map (·.propertyName) = some "name") := by
  have hspares : Spares "c1" sharedIds := by decide
  have halike := (lookups_after "c1" sharedIds).1 hspares
  have hlast := (lookups_after "c1" sharedIds).2 halike (.pair "next") _ rfl rfl
  refine ⟨hspares, halike, hlast, fun found hfound => ?_⟩
  have hone : HasOneHolder (after sharedIds).metatypes "c1" "k" := by decide
  rw [halike.metatypeKey.same "k" hone found _ hfound (mayFind_key? _ "c1" "k")]
  decide

/-- A container misses its record if another one inserts a record with the same id later. -/
theorem not_answersAlike_own :
    ¬ ∀ (container : String) (history : List Insertion),
      AnswersAlike container (after history) (after (own container history)) := by
  intro halike
  have hstop := (halike "c2" sharedIds).metatype "stop"
  revert hstop
  decide

end OntologyStore

end TypedGraph
