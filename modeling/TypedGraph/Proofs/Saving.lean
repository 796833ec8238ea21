import TypedGraph.Mapping.Output
import TypedGraph.Proofs.Records

/-!
# Saved transformations

A transformation is saved as a document and read again. It is then without the constants and
the values of parameters that were `null` (`Transformation.IsBuilt.saves_codec`): they are
written, but what is written for them is read as no value at all. A transformation that does
not come to use such a value acts as before (`Transformation.actsAsSaved_of_isBuilt`); one
that does may act in another way (`Transformation.not_actsAsSaved`).
-/
namespace TypedGraph

open Codec TypedGraph.Field

/-! ## What programs build

The values that programs give to a transformation are canonical documents. -/

/-- The parameters that programs build. -/
inductive ConnectionParameter.IsBuilt : ConnectionParameter → Prop
  | ofValue (kind : ParameterKind) {value : Json} (h : value.IsCanonical) :
    IsBuilt { kind, value := some value }
  | ofPath (kind : ParameterKind) (path : String) : IsBuilt { kind, key := some path }
  | onProperty {p : ConnectionParameter} (h : IsBuilt p) (name : String) :
    IsBuilt { p with property := some name }

/-- The conditions that programs build. -/
inductive Condition.IsBuilt : Condition → Prop
  | simple (key : String) (operator : Operator) {value : Json} (h : value.IsCanonical) :
    IsBuilt (.simple key operator value)
  | andAlso {c part : Condition} (hc : IsBuilt c) (hpart : IsBuilt part) : IsBuilt (c.andAlso part)
  | orElse {c part : Condition} (hc : IsBuilt c) (hpart : IsBuilt part) : IsBuilt (c.orElse part)

/-- The key mappings that programs build. -/
inductive KeyMapping.IsBuilt : KeyMapping → Prop
  | toMetatype (path id : String) : IsBuilt (.toMetatype path id)
  | toRelationship (path id : String) : IsBuilt (.toRelationship path id)
  | constantToMetatype {value : Json} (h : value.IsCanonical) (id : String) :
    IsBuilt (.constantToMetatype value id)

/-- The transformations that programs build: one of three kinds, to which an id, a root
array, a unique key, key mappings and conditions are added. -/
inductive Transformation.IsBuilt : Transformation → Prop
  | toNode (containerId metatypeId : String) : IsBuilt (.toNode containerId metatypeId)
  | toEdge (containerId pairId originPath destinationPath : String) :
    IsBuilt (.toEdge containerId pairId originPath destinationPath)
  | toEdgeBetweenMatches (containerId pairId : String)
    {origins destinations : List ConnectionParameter}
    (horigins : ∀ p ∈ origins, p.IsBuilt) (hdestinations : ∀ p ∈ destinations, p.IsBuilt) :
    IsBuilt (.toEdgeBetweenMatches containerId pairId origins destinations)
  | withId {t : Transformation} (h : IsBuilt t) (id : String) : IsBuilt { t with id := some id }
  | withRootArray {t : Transformation} (h : IsBuilt t) (path : String) :
    IsBuilt { t with rootArray := some path }
  | withUniqueKey {t : Transformation} (h : IsBuilt t) (path : String) :
    IsBuilt { t with uniqueKey := some path }
  | withKey {t : Transformation} (h : IsBuilt t) {m : KeyMapping} (hm : m.IsBuilt) :
    IsBuilt { t with keys := t.keys ++ [m] }
  | withCondition {t : Transformation} (h : IsBuilt t) {c : Condition} (hc : c.IsBuilt) :
    IsBuilt { t with conditions := t.conditions ++ [c] }

/-! ## What is read again -/

/-- The value that is read where one was written: `null` counts as none. -/
def Json.unlessNull : Option Json → Option Json
  | some .null => none
  | value => value

theorem Json.unlessNull_eq_self {value : Option Json} (h : value ≠ some .null) :
    unlessNull value = value := by
  unfold unlessNull
  split
  · exact absurd rfl h
  · rfl

theorem Field.saves_optionalDocument {name : String} {value : Option Json}
    (h : ∀ j ∈ value, j.IsCanonical) :
    (optional name document).Saves value (Json.unlessNull value) := by
  cases value with
  | none => exact saves_optional_none
  | some j =>
    by_cases hnull : j = .null
    · subst hnull
      exact saves_optional_null rfl
    · rw [Json.unlessNull_eq_self (by simpa using hnull)]
      exact saves_optional_some (saves_document (h j rfl)) hnull

/-- A parameter as it is read again. -/
def ConnectionParameter.withoutNull (p : ConnectionParameter) : ConnectionParameter :=
  { p with value := Json.unlessNull p.value }

/-- A key mapping as it is read again. -/
def KeyMapping.withoutNull (m : KeyMapping) : KeyMapping :=
  { m with constant := Json.unlessNull m.constant }

/-- A rule for an end as it is read again. -/
def EndRule.withoutNulls (r : EndRule) : EndRule :=
  { r with parameters := r.parameters.map ConnectionParameter.withoutNull }

/-- A transformation as it is read again. -/
def Transformation.withoutNulls (t : Transformation) : Transformation :=
  { t with
    keys := t.keys.map KeyMapping.withoutNull
    origin := t.origin.withoutNulls
    destination := t.destination.withoutNulls }

theorem ConnectionParameter.IsBuilt.saves_codec {p : ConnectionParameter} (h : p.IsBuilt) :
    ConnectionParameter.codec.Saves p p.withoutNull := by
  have hvalue : ∀ j ∈ p.value, j.IsCanonical := by
    induction h with
    | ofValue kind h => simpa using h
    | ofPath kind path => simp
    | onProperty _ name ih => exact ih
  exact ConnectionParameter.saves_codec p (saves_optionalDocument hvalue)

theorem KeyMapping.IsBuilt.saves_codec {m : KeyMapping} (h : m.IsBuilt) :
    KeyMapping.codec.Saves m m.withoutNull := by
  have hconstant : ∀ j ∈ m.constant, j.IsCanonical := by
    cases h with
    | toMetatype path id => simp [KeyMapping.toMetatype]
    | toRelationship path id => simp [KeyMapping.toRelationship]
    | constantToMetatype h id => simpa [KeyMapping.constantToMetatype] using h
  exact KeyMapping.saves_codec m (saves_optionalDocument hconstant)

/-- Conditions keep their values: `null` is one that they can have. -/
theorem Condition.IsBuilt.saves_codec {c : Condition} (h : c.IsBuilt) :
    Condition.codec.Saves c c := by
  -- A part is joined with another connective, so what is shown of a condition by induction
  -- does not tell of its connective.
  suffices hfields : valueField.Saves c.value c.value ∧
      ∀ part ∈ c.parts, Condition.codec.Saves part part from
    Condition.saves_codec hfields.1 hfields.2
  induction h with
  | simple key operator h => exact ⟨saves_defaulted (saves_document h), by simp [Condition.simple]⟩
  | andAlso _ _ ihc ihpart =>
    refine ⟨ihc.1, fun part hpart => ?_⟩
    rcases List.mem_append.1 hpart with hpart | hpart
    · exact ihc.2 part hpart
    · obtain rfl := List.mem_singleton.1 hpart
      exact Condition.saves_codec ihpart.1 ihpart.2
  | orElse _ _ ihc ihpart =>
    refine ⟨ihc.1, fun part hpart => ?_⟩
    rcases List.mem_append.1 hpart with hpart | hpart
    · exact ihc.2 part hpart
    · obtain rfl := List.mem_singleton.1 hpart
      exact Condition.saves_codec ihpart.1 ihpart.2

namespace Transformation

variable {t : Transformation}

theorem IsBuilt.conditions (h : t.IsBuilt) : ∀ c ∈ t.conditions, c.IsBuilt := by
  induction h with
  | withCondition _ hc ih =>
    simp only [List.forall_mem_append, List.forall_mem_singleton]
    exact ⟨ih, hc⟩
  | toNode | toEdge | toEdgeBetweenMatches => exact nofun
  | withId _ _ ih | withRootArray _ _ ih | withUniqueKey _ _ ih | withKey _ _ ih => exact ih

theorem IsBuilt.keys (h : t.IsBuilt) : ∀ m ∈ t.keys, m.IsBuilt := by
  induction h with
  | withKey _ hm ih =>
    simp only [List.forall_mem_append, List.forall_mem_singleton]
    exact ⟨ih, hm⟩
  | toNode | toEdge | toEdgeBetweenMatches => exact nofun
  | withId _ _ ih | withRootArray _ _ ih | withUniqueKey _ _ ih | withCondition _ _ ih => exact ih

theorem IsBuilt.parameters (h : t.IsBuilt) (which : End) :
    ∀ p ∈ (t.side which).parameters, p.IsBuilt := by
  induction h with
  | toEdgeBetweenMatches _ _ horigins hdestinations =>
    cases which
    · exact horigins
    · exact hdestinations
  | toNode | toEdge => cases which <;> exact nofun
  | withId _ _ ih | withRootArray _ _ ih | withUniqueKey _ _ ih | withCondition _ _ ih
  | withKey _ _ ih => cases which <;> exact ih

theorem IsBuilt.saves_codec (h : t.IsBuilt) : codec.Saves t t.withoutNulls := by
  have hconditions : conditionsField.Saves t.conditions t.conditions :=
    saves_defaulted (saves_list (List.forall₂_same.2 fun c hc => (h.conditions c hc).saves_codec))
  have hkeys : keysField.Saves t.keys (t.keys.map KeyMapping.withoutNull) := by
    refine saves_defaulted (saves_list ?_)
    rw [List.forall₂_map_right_iff, List.forall₂_same]
    exact fun m hm => (h.keys m hm).saves_codec
  have hparameters (which : End) : (EndRule.parametersField which).Saves (t.side which).parameters
      ((t.side which).parameters.map ConnectionParameter.withoutNull) := by
    refine saves_listUnlessEmpty ?_
    rw [List.forall₂_map_right_iff, List.forall₂_same]
    exact fun p hp => (h.parameters which p hp).saves_codec
  exact Transformation.saves_codec t hconditions hkeys (hparameters .origin)
    (hparameters .destination)

/-! ## What a saved transformation does -/

/-- Whether a transformation acts, once it is saved and read again, as it did before: on every
payload, with every ontology, whatever it is counted in. -/
def ActsAsSaved (t : Transformation) : Prop :=
  ∃ saved, codec.read? (codec.write t) = some saved ∧
    ∀ (σ : Type) [KeepsCalls σ] (o : Ontology) (staged : StagedData),
      (saved.apply o staged : Access σ TransformError TransformOutput) = t.apply o staged

/-- Whether no constant `null` is taken to a property, and no end is told by a parameter with
the value `null`. Where there is a path, its value is used instead. -/
structure UsesNoNull (t : Transformation) : Prop where
  keys : ∀ target, t.target = .ok target → ∀ m ∈ t.keys, (relevantKeyId target m).isSome →
    m.path = none → m.constant ≠ some .null
  parameters : ∀ which, ∀ p ∈ (t.side which).parameters, p.key = none → p.value ≠ some .null

theorem relevantKeyId_withoutNull (target : Target) (m : KeyMapping) :
    relevantKeyId target m.withoutNull = relevantKeyId target m := rfl

theorem checkedTarget_withoutNulls (t : Transformation) :
    t.withoutNulls.checkedTarget = t.checkedTarget := by
  have hkeys (ms : List KeyMapping) :
      ((ms.map KeyMapping.withoutNull).forM fun m => discard m.destination) =
        (ms.forM fun m => discard m.destination : Except Malformation PUnit) := by
    rw [List.forM_eq_forM, List.forM_map]
    rfl
  simp only [checkedTarget, withoutNulls, hkeys]
  rfl

theorem keyIds_withoutNulls (t : Transformation) (target : Target) :
    t.withoutNulls.keyIds target = t.keyIds target := by
  simp only [keyIds, withoutNulls, List.filterMap_map]
  rfl

theorem fetchKeys_withoutNulls {σ : Type} [KeepsCalls σ] (t : Transformation) (o : Ontology)
    (target : Target) (ids : List String) :
    (fetchKeys o t.withoutNulls target ids : Access σ TransformError _) =
      fetchKeys o t target ids := by
  induction ids with
  | nil => rfl
  | cons id ids ih =>
    simp only [fetchKeys, ih]
    rfl

theorem extract_withoutNull {payload : Json} {index : List Nat} {m : KeyMapping}
    (h : m.path = none → m.constant ≠ some .null) :
    extract payload index m.withoutNull = extract payload index m := by
  obtain ⟨id, path, metatypeKeyId, relationshipKeyId, constant⟩ := m
  cases path with
  | some path => rfl
  | none => exact Json.unlessNull_eq_self (h rfl)

theorem draftProperties_withoutNull {target : Target} {keys : List (String × PropertyKey)}
    {payload : Json} {index : List Nat} {ms : List KeyMapping} (draft : PropertyDraft)
    (h : ∀ m ∈ ms, (relevantKeyId target m).isSome → m.path = none → m.constant ≠ some .null) :
    t.withoutNulls.draftProperties target keys payload index (ms.map KeyMapping.withoutNull) draft =
      t.draftProperties target keys payload index ms draft := by
  induction ms generalizing draft with
  | nil => rfl
  | cons m ms ih =>
    rw [List.forall_mem_cons] at h
    have hrest := fun draft => ih draft h.2
    have hconfig : t.withoutNulls.config = t.config := rfl
    simp only [List.map_cons, draftProperties, relevantKeyId_withoutNull, hrest, hconfig]
    cases hid : relevantKeyId target m with
    | none => rfl
    | some id => simp only [extract_withoutNull (h.1 (by simp [hid]))]

theorem fillParameters_withoutNull {payload : Json} {index : List Nat}
    {ps : List ConnectionParameter} (h : ∀ p ∈ ps, p.key = none → p.value ≠ some .null) :
    fillParameters payload index (ps.map ConnectionParameter.withoutNull) =
      fillParameters payload index ps := by
  simp only [fillParameters, List.map_map]
  refine List.map_congr_left fun p hp => ?_
  obtain ⟨kind, key, property, value⟩ := p
  cases key with
  | some path => rfl
  | none =>
    have hvalue := Json.unlessNull_eq_self (h _ hp rfl)
    simp only [Function.comp, ConnectionParameter.withoutNull] at hvalue ⊢
    rw [hvalue]

theorem side_withoutNulls (t : Transformation) (which : End) :
    t.withoutNulls.side which = (t.side which).withoutNulls := by
  cases which <;> rfl

theorem edgeEnd_withoutNulls (h : t.UsesNoNull) (staged : StagedData) (index : List Nat)
    (which : End) : t.withoutNulls.edgeEnd staged index which = t.edgeEnd staged index which := by
  have hsource : t.withoutNulls.effectiveDataSource staged = t.effectiveDataSource staged := rfl
  have hcontainer : t.withoutNulls.containerId = t.containerId := rfl
  simp only [edgeEnd, side_withoutNulls, EndRule.withoutNulls, hsource, hcontainer,
    fillParameters_withoutNull (h.parameters which)]

theorem produce_withoutNulls (h : t.UsesNoNull) {target : Target} (htarget : t.target = .ok target)
    (keys : List (String × PropertyKey)) (staged : StagedData) (index : List Nat) :
    t.withoutNulls.produce target keys staged index = t.produce target keys staged index := by
  have hdraft : t.withoutNulls.draftProperties target keys staged.data index
      t.withoutNulls.keys {} = t.draftProperties target keys staged.data index t.keys {} :=
    draftProperties_withoutNull {} (h.keys target htarget)
  have hbase (draft : PropertyDraft) :
      t.withoutNulls.recordBase staged index draft = t.recordBase staged index draft := rfl
  simp only [produce, hdraft, hbase, edgeEnd_withoutNulls h]

theorem target_of_checkedTarget {target : Target} (h : t.checkedTarget = .ok target) :
    t.target = .ok target := by
  unfold checkedTarget at h
  cases htarget : t.target with
  | error cause =>
    rw [htarget] at h
    cases h
  | ok found =>
    rw [htarget] at h
    cases hkeys : (t.keys.forM fun m => discard m.destination : Except Malformation PUnit) with
    | error cause =>
      rw [hkeys] at h
      cases h
    | ok _ =>
      rw [hkeys] at h
      cases h
      rfl

theorem apply_withoutNulls {σ : Type} [KeepsCalls σ] (h : t.UsesNoNull) (o : Ontology)
    (staged : StagedData) :
    (t.withoutNulls.apply o staged : Access σ TransformError TransformOutput) =
      t.apply o staged := by
  have hlevels : t.withoutNulls.rootLevels = t.rootLevels := rfl
  have haccepted : t.withoutNulls.accepted staged = t.accepted staged := rfl
  simp only [apply, checkedTarget_withoutNulls, hlevels, haccepted]
  cases hchecked : t.checkedTarget with
  | error cause =>
    have hthrow (next : Target → Access σ TransformError TransformOutput) :
        (Access.ofResult .malformed (.error cause) >>= next) = throw (.malformed cause) := rfl
    rw [hthrow, hthrow]
  | ok target =>
    have htarget := target_of_checkedTarget hchecked
    have hproduced (keys : List (String × PropertyKey)) (branches : List (List Nat)) :
        t.withoutNulls.produceAll target keys staged branches =
          t.produceAll target keys staged branches := by
      simp only [produceAll, produce_withoutNulls h htarget]
    simp only [Access.ofResult, pure_bind, fetchKeys_withoutNulls, keyIds_withoutNulls, hproduced]

/-- A transformation that programs build is read again without its nulls, and acts as before
if it uses none of them. -/
theorem actsAsSaved_of_isBuilt (h : t.IsBuilt) :
    codec.read? (codec.write t) = some t.withoutNulls ∧ (t.UsesNoNull → t.ActsAsSaved) := by
  have hread := h.saves_codec.read?_write
  exact ⟨hread, fun huses => ⟨_, hread, fun _ _ => apply_withoutNulls huses⟩⟩

namespace Sample

/-- An ontology of stops, which may have a note. -/
def stopOntology : Ontology where
  store := OntologyStore.insertMetatype {}
    { id := some "stop", containerId := "c1", name := "Stop",
      keys := [{ id := some "k", name := "note", propertyName := "note", dataType := .string }] }

/-- Makes one stop of every payload, with the same note. -/
def noteRule (note : Json) : Transformation :=
  { Transformation.toNode "c1" "stop" with keys := [] ++ [.constantToMetatype note "k"] }

theorem isBuilt_noteRule {note : Json} (h : note.IsCanonical) : (noteRule note).IsBuilt :=
  .withKey (.toNode "c1" "stop") (.constantToMetatype h "k")

/-- The properties of the nodes that a rule makes of a payload. -/
def properties (t : Transformation) : Option (List Entries) :=
  match ((t.apply stopOntology { dataSourceId := "d", data := .object [] }).run.run
    ([] : List Method)).1 with
  | .ok output => some (output.nodes.map (·.properties))
  | .error _ => none

end Sample

theorem actsAsSaved_of_isBuilt_noteRule :
    (Sample.noteRule (.string "open")).ActsAsSaved ∧
      Sample.properties (Sample.noteRule (.string "open")) = some [[("note", .string "open")]] := by
  have huses : (Sample.noteRule (.string "open")).UsesNoNull := by
    constructor
    · intro target _ m hm _ _
      simp only [Sample.noteRule, List.nil_append, List.mem_singleton] at hm
      subst hm
      decide
    · intro which
      cases which <;> exact nofun
  have hcanonical : (Json.string "open").IsCanonical := rfl
  exact ⟨(actsAsSaved_of_isBuilt (Sample.isBuilt_noteRule hcanonical)).2 huses, by decide⟩

/-- The note `null` of a stop is lost when the rule is saved. -/
theorem not_actsAsSaved : ¬ ∀ t : Transformation, t.IsBuilt → t.ActsAsSaved := by
  intro hclaim
  have hbuilt : (Sample.noteRule .null).IsBuilt := Sample.isBuilt_noteRule rfl
  obtain ⟨saved, hread, hsame⟩ := hclaim _ hbuilt
  have hsaved : saved = (Sample.noteRule .null).withoutNulls :=
    Option.some.inj (hread.symm.trans hbuilt.saves_codec.read?_write)
  have hproperties : Sample.properties saved = Sample.properties (Sample.noteRule .null) := by
    simp only [Sample.properties, hsame]
  have hbefore : Sample.properties (Sample.noteRule .null) = some [[("note", .null)]] := by decide
  have hafter : Sample.properties (Sample.noteRule .null).withoutNulls = some [[]] := by decide
  rw [hsaved, hbefore, hafter] at hproperties
  exact absurd hproperties (by decide)

end Transformation

end TypedGraph
