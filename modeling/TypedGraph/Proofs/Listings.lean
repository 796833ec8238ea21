import Mathlib.Data.List.Nodup
import Mathlib.Data.List.Pairwise
import TypedGraph.Proofs.Outcomes
import TypedGraph.Proofs.Scopes

/-!
# Listed keys and found keys

The keys of a type are listed, and a key is found by its id. A listing leaves out the keys that
are retired: those that are archived, and all keys of a type that is archived. A key is found
nevertheless, so that the two agree on a container exactly if none of its keys is retired
(`OntologyStore.keysAgree_iff`). Then transformations take values to listed keys only.
-/
namespace TypedGraph

/-- Two members of a list from which the same is taken are one, if nothing is taken twice. -/
theorem eq_of_nodup_filterMap {α β : Type} {f : α → Option β} {l : List α}
    (h : (l.filterMap f).Nodup) {a a' : α} {b : β} (ha : a ∈ l) (ha' : a' ∈ l)
    (hb : f a = some b) (hb' : f a' = some b) : a = a' := by
  by_contra hne
  have hpairs : l.Pairwise fun x y => ∀ c, f x = some c → ∀ d, f y = some d → c ≠ d := by
    simpa [List.Nodup, List.pairwise_filterMap] using h
  have hsymm : Std.Symm fun x y => ∀ c, f x = some c → ∀ d, f y = some d → c ≠ d :=
    ⟨fun x y hxy c hc d hd => (hxy d hd c hc).symm⟩
  exact hpairs.forall ha ha' hne b hb b hb' rfl

namespace OntologyStore

/-- A key of a type of a container, be they archived or not. -/
structure HasKey (types : Table KeyedType) (container typeId : String) (type : KeyedType)
    (key : PropertyKey) : Prop where
  stored : types.get? typeId = some type
  container : type.containerId = container
  declared : key ∈ type.keys

/-- Whether a key of a container is archived, or belongs to a type that is archived. -/
def IsRetired (types : Table KeyedType) (container : String) (key : PropertyKey) : Prop :=
  ∃ typeId type, HasKey types container typeId type key ∧ (type.archived ∨ key.archived)

/-- Whether a listing of the keys of types has a key with an id. -/
def Lists (keys? : String → Option (List PropertyKey)) (keyId : String) (key : PropertyKey) :
    Prop :=
  ∃ typeId keys, keys? typeId = some keys ∧ key ∈ keys ∧ key.id = some keyId

/-- The ids of the keys of types. -/
def keyIdsOf (types : Table KeyedType) : List String :=
  types.values.flatMap fun type => type.keys.filterMap PropertyKey.id

/-- Whether no two keys of a store have the same id. -/
def KeysDiffer (s : OntologyStore) : Prop :=
  (keyIdsOf s.metatypes ++ keyIdsOf s.relationships).Nodup

/-- Whether a key of a container is found by an id exactly if it is listed with this id. -/
structure KeysAgree (container : String) (s : OntologyStore) : Prop where
  metatypes : ∀ keyId key, s.metatypeKey? container keyId = some key ↔
    Lists (s.metatypeKeys? container) keyId key
  relationships : ∀ keyId key, s.relationshipKey? container keyId = some key ↔
    Lists (s.relationshipKeys? container) keyId key

/-- Whether no key of a container that has an id is retired. -/
structure RetiresNone (container : String) (s : OntologyStore) : Prop where
  metatypes : ∀ key, key.id.isSome → ¬ IsRetired s.metatypes container key
  relationships : ∀ key, key.id.isSome → ¬ IsRetired s.relationships container key

section Types

variable {types : Table KeyedType} {container container' typeId typeId' keyId : String}
  {type type' : KeyedType} {key key' : PropertyKey}

/-- A key with an id is declared once, by one type. -/
theorem HasKey.unique (hordered : types.IsOrdered) (hdiffer : (keyIdsOf types).Nodup)
    (h : HasKey types container typeId type key) (h' : HasKey types container' typeId' type' key')
    (hid : key.id = some keyId) (hid' : key'.id = some keyId) :
    typeId = typeId' ∧ key = key' := by
  obtain ⟨hown, hapart⟩ := List.nodup_flatMap.1 hdiffer
  have hmem : keyId ∈ type.keys.filterMap PropertyKey.id :=
    List.mem_filterMap.2 ⟨key, h.declared, hid⟩
  have hmem' : keyId ∈ type'.keys.filterMap PropertyKey.id :=
    List.mem_filterMap.2 ⟨key', h'.declared, hid'⟩
  have hsame : typeId = typeId' := by
    by_contra hne
    rw [Table.values, List.pairwise_map] at hapart
    have hsymm : Std.Symm fun row row' : String × KeyedType => List.Disjoint
        (row.2.keys.filterMap PropertyKey.id) (row'.2.keys.filterMap PropertyKey.id) :=
      ⟨fun _ _ hd _ hmem hmem' => hd hmem' hmem⟩
    have hrows : (typeId, type) ≠ (typeId', type') := fun heq => hne (congrArg Prod.fst heq)
    exact hapart.forall (Table.mem_of_get? h.stored) (Table.mem_of_get? h'.stored) hrows hmem hmem'
  have htype : type = type' := by
    have hstored := h'.stored
    rw [← hsame, h.stored] at hstored
    exact Option.some.inj hstored
  refine ⟨hsame, ?_⟩
  have hvalue : type ∈ types.values := hordered.mem_values_iff.2 ⟨typeId, h.stored⟩
  exact eq_of_nodup_filterMap (hown type hvalue) h.declared (htype ▸ h'.declared) hid hid'

/-- A key is found by its id whether it is retired or not. -/
theorem key?_eq_some_iff (hordered : types.IsOrdered) (hdiffer : (keyIdsOf types).Nodup) :
    key? types container keyId = some key ↔
      key.id = some keyId ∧ ∃ typeId type, HasKey types container typeId type key := by
  have hmem (k : PropertyKey) :
      k ∈ (types.values.filter fun t => t.containerId == container).flatMap KeyedType.keys ↔
        ∃ typeId type, HasKey types container typeId type k := by
    simp only [List.mem_flatMap, List.mem_filter, beq_iff_eq, hordered.mem_values_iff]
    constructor
    · rintro ⟨type, ⟨⟨typeId, hstored⟩, hcontainer⟩, hdeclared⟩
      exact ⟨typeId, type, hstored, hcontainer, hdeclared⟩
    · rintro ⟨typeId, type, hstored, hcontainer, hdeclared⟩
      exact ⟨type, ⟨⟨typeId, hstored⟩, hcontainer⟩, hdeclared⟩
  rw [key?]
  constructor
  · intro hfind
    have hid := List.find?_some hfind
    exact ⟨by simpa using hid, (hmem key).1 (List.mem_of_find?_eq_some hfind)⟩
  · rintro ⟨hid, typeId, type, hkey⟩
    cases hfind : ((types.values.filter fun t => t.containerId == container).flatMap
        KeyedType.keys).find? fun k => k.id == some keyId with
    | none =>
      have hnone := List.find?_eq_none.1 hfind key ((hmem key).2 ⟨typeId, type, hkey⟩)
      simp [hid] at hnone
    | some key' =>
      obtain ⟨typeId', type', hkey'⟩ := (hmem key').1 (List.mem_of_find?_eq_some hfind)
      have hid' : key'.id = some keyId := by simpa using List.find?_some hfind
      rw [(hkey.unique hordered hdiffer hkey' hid hid').2]

/-- A key is listed if neither it nor its type is archived. -/
theorem lists_iff :
    Lists (fun typeId => (liveType? types container typeId).map KeyedType.liveKeys) keyId key ↔
      key.id = some keyId ∧ key.archived = false ∧
        ∃ typeId type, HasKey types container typeId type key ∧ type.archived = false := by
  simp only [Lists, liveType?, Option.map_eq_some_iff, Option.filter_eq_some_iff]
  constructor
  · rintro ⟨typeId, keys, ⟨type, ⟨hstored, hlive⟩, rfl⟩, hkey, hid⟩
    simp only [Bool.and_eq_true, beq_iff_eq, Bool.not_eq_true'] at hlive
    simp only [KeyedType.liveKeys, List.mem_filter, Bool.not_eq_true'] at hkey
    exact ⟨hid, hkey.2, typeId, type, ⟨hstored, hlive.1, hkey.1⟩, hlive.2⟩
  · rintro ⟨hid, harchived, typeId, type, hkey, hlive⟩
    refine ⟨typeId, _, ⟨type, ⟨hkey.stored, ?_⟩, rfl⟩, ?_, hid⟩
    · simp [hkey.container, hlive]
    · simp [KeyedType.liveKeys, hkey.declared, harchived]

/-- What is listed is what is found and not retired. -/
theorem lists_iff_key? (hordered : types.IsOrdered) (hdiffer : (keyIdsOf types).Nodup) :
    Lists (fun typeId => (liveType? types container typeId).map KeyedType.liveKeys) keyId key ↔
      key? types container keyId = some key ∧ ¬ IsRetired types container key := by
  rw [lists_iff, key?_eq_some_iff hordered hdiffer]
  constructor
  · rintro ⟨hid, harchived, typeId, type, hkey, hlive⟩
    refine ⟨⟨hid, typeId, type, hkey⟩, ?_⟩
    rintro ⟨typeId', type', hkey', hretired⟩
    have hsame := (hkey.unique hordered hdiffer hkey' hid hid).1
    have htype : some type = some type' := by rw [← hkey.stored, ← hkey'.stored, hsame]
    cases htype
    simp [hlive, harchived] at hretired
  · rintro ⟨⟨hid, typeId, type, hkey⟩, hnot⟩
    have htype : type.archived = false := by
      by_contra harchived
      exact hnot ⟨typeId, type, hkey, .inl (by simpa using harchived)⟩
    have harchived : key.archived = false := by
      by_contra harchived
      exact hnot ⟨typeId, type, hkey, .inr (by simpa using harchived)⟩
    exact ⟨hid, harchived, typeId, type, hkey, htype⟩

/-- Whether keys are retired can be told from the types one by one. -/
theorem forall_not_isRetired_iff (hordered : types.IsOrdered) :
    (∀ key, key.id.isSome → ¬ IsRetired types container key) ↔
      ∀ type ∈ types.values, type.containerId = container → ∀ key ∈ type.keys,
        key.id.isSome → type.archived = false ∧ key.archived = false := by
  constructor
  · intro hnone type hvalue hcontainer key hkey hsome
    obtain ⟨typeId, hstored⟩ := hordered.mem_values_iff.1 hvalue
    by_contra hnot
    have hretired : type.archived ∨ key.archived := by
      by_contra hneither
      exact hnot (by simpa using hneither)
    exact hnone key hsome ⟨typeId, type, ⟨hstored, hcontainer, hkey⟩, hretired⟩
  · rintro hlive key hsome ⟨typeId, type, hkey, hretired⟩
    have hvalue : type ∈ types.values := hordered.mem_values_iff.2 ⟨typeId, hkey.stored⟩
    have hfalse := hlive type hvalue hkey.container key hkey.declared hsome
    simp [hfalse.1, hfalse.2] at hretired

/-- Finding and listing agree exactly if no key that can be found is retired. -/
theorem agree_iff (hordered : types.IsOrdered) (hdiffer : (keyIdsOf types).Nodup)
    (container : String) :
    (∀ keyId key, key? types container keyId = some key ↔
        Lists (fun typeId => (liveType? types container typeId).map KeyedType.liveKeys) keyId key) ↔
      ∀ key, key.id.isSome → ¬ IsRetired types container key := by
  constructor
  · intro hagree key hsome hretired
    obtain ⟨keyId, hid⟩ := Option.isSome_iff_exists.1 hsome
    have ⟨typeId, type, hkey, _⟩ := hretired
    have hfound := (key?_eq_some_iff hordered hdiffer).2 ⟨hid, typeId, type, hkey⟩
    exact ((lists_iff_key? hordered hdiffer).1 ((hagree keyId key).1 hfound)).2 hretired
  · intro hnone keyId key
    rw [lists_iff_key? hordered hdiffer, iff_self_and]
    intro hfound
    have hid := ((key?_eq_some_iff hordered hdiffer).1 hfound).1
    exact hnone key (by simp [hid])

end Types

variable {s : OntologyStore} {container keyId : String} {key : PropertyKey}

theorem KeysDiffer.metatypes (h : s.KeysDiffer) : (keyIdsOf s.metatypes).Nodup :=
  (List.nodup_append.1 h).1

theorem KeysDiffer.relationships (h : s.KeysDiffer) : (keyIdsOf s.relationships).Nodup :=
  (List.nodup_append.1 h).2.1

instance (s : OntologyStore) : Decidable s.KeysDiffer :=
  inferInstanceAs (Decidable (List.Nodup _))

/-- Whether what a store lists for a container is what it finds and is not retired. -/
structure ListsUnlessRetired (container : String) (s : OntologyStore) : Prop where
  metatypes : ∀ keyId key, Lists (s.metatypeKeys? container) keyId key ↔
    s.metatypeKey? container keyId = some key ∧ ¬ IsRetired s.metatypes container key
  relationships : ∀ keyId key, Lists (s.relationshipKeys? container) keyId key ↔
    s.relationshipKey? container keyId = some key ∧ ¬ IsRetired s.relationships container key

theorem KeysDiffer.listsUnlessRetired (h : s.KeysDiffer) (hs : s.IsOrdered) (container : String) :
    ListsUnlessRetired container s where
  metatypes _ _ := lists_iff_key? hs.metatypes h.metatypes
  relationships _ _ := lists_iff_key? hs.relationships h.relationships

theorem KeysDiffer.keysAgree_iff_retiresNone (h : s.KeysDiffer) (hs : s.IsOrdered)
    (container : String) : KeysAgree container s ↔ RetiresNone container s := by
  have hmetatypes := agree_iff hs.metatypes h.metatypes container
  have hrelationships := agree_iff hs.relationships h.relationships container
  constructor
  · intro hagree
    exact ⟨hmetatypes.1 hagree.metatypes, hrelationships.1 hagree.relationships⟩
  · intro hnone
    exact ⟨hmetatypes.2 hnone.metatypes, hrelationships.2 hnone.relationships⟩

/-! ## Transformations -/

/-- The listing of the keys that records of a target may have. -/
def listing? (s : OntologyStore) (container : String) :
    Target → String → Option (List PropertyKey)
  | .node _ => s.metatypeKeys? container
  | .edge _ => s.relationshipKeys? container

/-- Whether every property of a record for a target is that of a listed key. -/
def HasListedOnly (s : OntologyStore) (container : String) (target : Target)
    (record : GraphRecord) : Prop :=
  ∀ name, (record.base.properties.get? name).isSome →
    ∃ keyId key, Lists (s.listing? container target) keyId key ∧ key.propertyName = name

/-- Where every key that is found is listed, data is taken to listed keys only. -/
theorem KeysAgree.hasListedOnly {t : Transformation} {target : Target} {staged : StagedData}
    {index : List Nat} {record : GraphRecord} (h : KeysAgree t.containerId s)
    (hrecord : t.generate s target staged index = .ok record) :
    s.HasListedOnly t.containerId target record := by
  intro name hname
  obtain ⟨keyId, key, hkey, hproperty⟩ := Transformation.key?_of_generate hrecord hname
  refine ⟨keyId, key, ?_, hproperty⟩
  cases target with
  | node metatypeId => exact (h.metatypes keyId key).1 hkey
  | edge pairId => exact (h.relationships keyId key).1 hkey

/-- Keys are found exactly if they are listed, in a store without retired keys and in no other
one. In such a store, transformations take data to listed keys only. -/
theorem keysAgree_iff (history : List Insertion) (hdiffer : (after history).KeysDiffer)
    (container : String) :
    (KeysAgree container (after history) ↔ RetiresNone container (after history)) ∧
      ListsUnlessRetired container (after history) ∧
      (RetiresNone container (after history) →
        ∀ (σ : Type) [KeepsCalls σ] (outage : Outage) (t : Transformation) (staged : StagedData)
          (calls left : σ) (output : TransformOutput), t.containerId = container →
          (t.apply { store := after history, outage } staged).run.run calls = (.ok output, left) →
          ∀ r ∈ output.records, ∃ target, t.checkedTarget = .ok target ∧
            (after history).HasListedOnly container target r.record) := by
  have hs := isOrdered_after history
  have hagree := hdiffer.keysAgree_iff_retiresNone hs container
  refine ⟨hagree, hdiffer.listsUnlessRetired hs container, ?_⟩
  intro hnone σ _ outage t staged calls left output hcontainer hrun r hr
  subst hcontainer
  obtain ⟨target, htarget, hrecord⟩ := Transformation.generate_of_mem_records hrun hr
  exact ⟨target, htarget, (hagree.2 hnone).hasListedOnly hrecord⟩

namespace Sample

/-- A stop with two keys, one of which is archived and has no id, and a stop of another
container with an archived key. -/
def retiredElsewhere : List Insertion :=
  [.metatype {
      id := some "stop", containerId := "c1", name := "Stop",
      keys := [{ id := some "k", name := "Color", propertyName := "color", dataType := .string },
        { name := "Note", propertyName := "note", dataType := .string, archived := true }] },
    .metatype {
      id := some "halt", containerId := "c2", name := "Halt",
      keys := [{ id := some "l", name := "Color", propertyName := "color", dataType := .string,
                 archived := true }] }]

/-- A rule that takes the color of a stop. -/
def colorRule (container : String) : Transformation :=
  { Transformation.toNode container "stop" with keys := [.toMetatype "color" "k"] }

end Sample

theorem keysAgree_iff_retiredElsewhere :
    (after Sample.retiredElsewhere).KeysDiffer ∧
      KeysAgree "c1" (after Sample.retiredElsewhere) ∧
      ¬ KeysAgree "c2" (after Sample.retiredElsewhere) ∧
      ∃ output left,
        ((Sample.colorRule "c1").apply { store := after Sample.retiredElsewhere }
          { dataSourceId := "d", data := .object [("color", .string "red")] }).run.run
            ([] : List Method) = (.ok output, left) ∧
        output.records.length = 1 ∧
        ∀ r ∈ output.records,
          (after Sample.retiredElsewhere).HasListedOnly "c1" (.node "stop") r.record := by
  have hdiffer : (after Sample.retiredElsewhere).KeysDiffer := by decide
  have hs := isOrdered_after Sample.retiredElsewhere
  have hnone : RetiresNone "c1" (after Sample.retiredElsewhere) := by
    constructor
    · exact (forall_not_isRetired_iff hs.metatypes).2 (by decide)
    · exact (forall_not_isRetired_iff hs.relationships).2 (by decide)
  have hsome : ¬ RetiresNone "c2" (after Sample.retiredElsewhere) := by
    intro hnone
    have hlive := (forall_not_isRetired_iff hs.metatypes).1 hnone.metatypes
    revert hlive
    decide
  obtain ⟨hagree, -, hlisted⟩ := keysAgree_iff _ hdiffer "c1"
  obtain ⟨output, left, hrun, hlength⟩ : ∃ output left,
      ((Sample.colorRule "c1").apply { store := after Sample.retiredElsewhere }
        { dataSourceId := "d", data := .object [("color", .string "red")] }).run.run
          ([] : List Method) = (.ok output, left) ∧ output.records.length = 1 := ⟨_, _, rfl, rfl⟩
  have helsewhere := (keysAgree_iff _ hdiffer "c2").1
  refine ⟨hdiffer, hagree.2 hnone, fun h => hsome (helsewhere.1 h), output, left, hrun, hlength, ?_⟩
  intro r hr
  obtain ⟨target, htarget, hrecord⟩ := hlisted hnone _ {} _ _ [] left output rfl hrun r hr
  cases htarget
  exact hrecord

namespace Sample

/-- A stop whose only key is archived. -/
def retiredStop : List Insertion :=
  [.metatype {
      id := some "stop", containerId := "c1", name := "Stop",
      keys := [{ id := some "k", name := "Color", propertyName := "color", dataType := .string,
                 archived := true }] }]

end Sample

/-- An archived key is found, though it is not listed. -/
theorem not_keysAgree :
    ¬ ∀ (history : List Insertion) (container : String), (after history).KeysDiffer →
      KeysAgree container (after history) := by
  intro hclaim
  have hdiffer : (after Sample.retiredStop).KeysDiffer := by decide
  have hs := isOrdered_after Sample.retiredStop
  have hnone := (agree_iff hs.metatypes hdiffer.metatypes "c1").1
    (hclaim Sample.retiredStop "c1" hdiffer).metatypes
  have hlive := (forall_not_isRetired_iff hs.metatypes).1 hnone
  revert hlive
  decide

end OntologyStore

end TypedGraph
