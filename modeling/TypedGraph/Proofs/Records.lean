import TypedGraph.Ingest.Report
import TypedGraph.Mapping.Basic
import TypedGraph.Ontology.Basic
import TypedGraph.Proofs.Codecs
import TypedGraph.Proofs.Instants

/-!
# Records in documents

Reading brings a document into a canonical form: what is written for a value that was read
is read as the same value again. It is so for the records of every kind
(`Codec.isCanonicalising_records`), because the codec of each one is faithful.

A record that was not read but made in a program can hold what no document says. Its codec
is then described by what it saves: `Transformation.saves_codec` reduces a transformation to
its conditions, key mappings and parameters.
-/
namespace TypedGraph

open Codec TypedGraph.Field

variable {e : Entries}

/-! ## Fields of common kinds -/

namespace Field

variable {α : Type} {name : String} {c : Codec α}

theorem saves_optionalText (s : Option String) : (optional name text).Saves s s := by
  cases s with
  | none => exact saves_optional_none
  | some s => exact saves_optional_some (saves_text s) nofun

theorem isFaithful_optionalText : (optional name text).IsFaithful :=
  fun _ _ _ => saves_optionalText _

theorem saves_defaultedText {default : String} (s : String) :
    (defaulted name text default).Saves s s :=
  saves_defaulted (saves_text s)

theorem isFaithful_defaultedText {default : String} :
    (defaulted name text default).IsFaithful :=
  fun _ _ _ => saves_defaultedText _

theorem saves_defaultedBool {default : Bool} (b : Bool) :
    (defaulted name bool default).Saves b b :=
  saves_defaulted (saves_bool b)

theorem isFaithful_defaultedBool {default : Bool} : (defaulted name bool default).IsFaithful :=
  fun _ _ _ => saves_defaultedBool _

theorem isFaithful_documentOr : (defaulted name document .null).IsFaithful :=
  isFaithful_defaulted isFaithful_document (saves_document rfl)

theorem isFaithful_defaultedList (h : c.IsFaithful) : (defaulted name (list c) []).IsFaithful :=
  isFaithful_defaulted (isFaithful_list h) (saves_list .nil)

theorem saves_listUnlessEmpty {as bs : List α} (h : List.Forall₂ c.Saves as bs) :
    (unlessVoid name (list c) [] List.isEmpty).Saves as bs := by
  cases h with
  | nil => exact saves_unlessVoid (saves_list .nil) fun _ => rfl
  | cons hab hrest =>
    have hsaves := saves_list (.cons hab hrest)
    exact ⟨.inr ⟨_, hsaves.canonical, rfl⟩, fun e he => by
      simp only [unlessVoid, List.isEmpty_cons, Bool.false_eq_true, if_false,
        List.lookup_cons, beq_self_eq_true] at he ⊢
      rw [he]
      exact hsaves.read?_write⟩

theorem isFaithful_listUnlessEmpty (h : c.IsFaithful) :
    (unlessVoid name (list c) [] List.isEmpty).IsFaithful :=
  isFaithful_unlessVoid (isFaithful_list h) (saves_list .nil) fun _ => List.isEmpty_iff.1

end Field

/-- An instant that is read can be written, and is then read again. -/
theorem Timestamp.isFaithful_codec : Timestamp.codec.IsFaithful where
  saves h := by
    obtain ⟨t, ht, rfl⟩ := Option.map_eq_some_iff.1 h
    obtain ⟨s, -, hs⟩ := Option.bind_eq_some_iff.1 ht
    have hread : Calendar.loose? (t.render .fitting).toList = some t :=
      Calendar.loose?_render (Calendar.isWritable_of_loose? hs)
    exact ⟨rfl, by simp [Timestamp.codec, Timestamp.text, Json.string?, Calendar.timestamp?, hread]⟩
  eq_null _ h := by simp [Timestamp.codec] at h

theorem Field.isFaithful_timestamp {name : String} :
    (optional name Timestamp.codec).IsFaithful :=
  isFaithful_optional Timestamp.isFaithful_codec

/-! ## Ontologies -/

theorem DataType.isFaithful_codec : DataType.codec.IsFaithful where
  saves {_ t} _ := by cases t <;> exact ⟨rfl, rfl⟩
  eq_null _ h := by simp [DataType.codec] at h

theorem KeyValidation.isFaithful_codec : KeyValidation.codec.IsFaithful := by
  refine isFaithful_record fun e v h => ?_
  simp only [↓bind_eq_some_iff, Option.pure_def, Option.some.injEq] at h
  obtain ⟨regex, hregex, min, hmin, max, hmax, rfl⟩ := h
  exact saves_record (by decide) (.refl _) (by simp) <|
    .field (isFaithful_optionalText hregex) <|
    .field (isFaithful_optional isFaithful_binary hmin) <|
    .field (isFaithful_optional isFaithful_binary hmax) .pure

theorem PropertyKey.isFaithful_codec : PropertyKey.codec.IsFaithful := by
  refine isFaithful_record fun e k h => ?_
  simp only [↓bind_eq_some_iff, Option.pure_def, Option.some.injEq] at h
  obtain ⟨id, hid, name, hname, property, hproperty, description, hdescription, type, htype,
    required, hrequired, options, hoptions, default, hdefault, validation, hvalidation,
    archived, harchived, rfl⟩ := h
  exact saves_record (by decide) (.refl _) (by simp) <|
    .field (isFaithful_optionalText hid) <|
    .field (isFaithful_required isFaithful_text hname) <|
    .field (isFaithful_required isFaithful_text hproperty) <|
    .field (isFaithful_defaultedText hdescription) <|
    .field (isFaithful_required DataType.isFaithful_codec htype) <|
    .field (isFaithful_defaultedBool hrequired) <|
    .field (isFaithful_optional (isFaithful_list isFaithful_text) hoptions) <|
    .field (isFaithful_optional isFaithful_document hdefault) <|
    .field (isFaithful_optional KeyValidation.isFaithful_codec hvalidation) <|
    .field (isFaithful_defaultedBool harchived) .pure

theorem KeyedType.isFaithful_codec : KeyedType.codec.IsFaithful := by
  refine isFaithful_record fun e t h => ?_
  simp only [↓bind_eq_some_iff, Option.pure_def, Option.some.injEq] at h
  obtain ⟨id, hid, container, hcontainer, name, hname, description, hdescription, keys, hkeys,
    archived, harchived, rfl⟩ := h
  exact saves_record (by decide) (.refl _) (by simp) <|
    .field (isFaithful_optionalText hid) <|
    .field (isFaithful_defaultedText hcontainer) <|
    .field (isFaithful_required isFaithful_text hname) <|
    .field (isFaithful_defaultedText hdescription) <|
    .field (isFaithful_defaultedList PropertyKey.isFaithful_codec hkeys) <|
    .field (isFaithful_defaultedBool harchived) .pure

theorem Cardinality.isFaithful_codec : Cardinality.codec.IsFaithful := isFaithful_words (by decide)

theorem Cardinality.saves_codec (c : Cardinality) : Cardinality.codec.Saves c c :=
  saves_words (by decide) (n := c.text) (by cases c <;> decide)

theorem RelationshipPair.isFaithful_codec : RelationshipPair.codec.IsFaithful := by
  refine isFaithful_record fun e p h => ?_
  simp only [↓bind_eq_some_iff, Option.pure_def, Option.some.injEq] at h
  obtain ⟨id, hid, container, hcontainer, name, hname, description, hdescription, origin,
    horigin, destination, hdestination, relationship, hrelationship, cardinality, hcardinality,
    archived, harchived, rfl⟩ := h
  exact saves_record (by decide) (.refl _) (by simp) <|
    .field (isFaithful_optionalText hid) <|
    .field (isFaithful_defaultedText hcontainer) <|
    .field (isFaithful_required isFaithful_text hname) <|
    .field (isFaithful_defaultedText hdescription) <|
    .field (isFaithful_required isFaithful_text horigin) <|
    .field (isFaithful_required isFaithful_text hdestination) <|
    .field (isFaithful_required isFaithful_text hrelationship) <|
    .field (isFaithful_defaulted Cardinality.isFaithful_codec (Cardinality.saves_codec _)
      hcardinality) <|
    .field (isFaithful_defaultedBool harchived) .pure

theorem OntologySnapshot.isFaithful_codec : OntologySnapshot.codec.IsFaithful := by
  refine isFaithful_record fun e o h => ?_
  simp only [↓bind_eq_some_iff, Option.pure_def, Option.some.injEq] at h
  obtain ⟨metatypes, hmetatypes, relationships, hrelationships, pairs, hpairs, rfl⟩ := h
  exact saves_record (by decide) (.refl _) (by simp) <|
    .field (isFaithful_defaultedList KeyedType.isFaithful_codec hmetatypes) <|
    .field (isFaithful_defaultedList KeyedType.isFaithful_codec hrelationships) <|
    .field (isFaithful_defaultedList RelationshipPair.isFaithful_codec hpairs) .pure

/-! ## Records of the graph -/

theorem Conversion.isFaithful_codec : Conversion.codec.IsFaithful := by
  refine isFaithful_record fun e c h => ?_
  simp only [↓bind_eq_some_iff, Option.pure_def, Option.some.injEq] at h
  obtain ⟨given, hgiven, converted, hconverted, error, herror, rfl⟩ := h
  exact saves_record (by decide) (.refl _) (by simp) <|
    .field (isFaithful_required isFaithful_document hgiven) <|
    .field (isFaithful_optional isFaithful_document hconverted) <|
    .field (isFaithful_optionalText herror) .pure

theorem Field.isFaithful_conversions {name : String} :
    (unlessVoid name (table Conversion.codec) [] List.isEmpty).IsFaithful :=
  isFaithful_unlessVoid (isFaithful_table Conversion.isFaithful_codec)
    (saves_table (Table.isOrdered_ofList []) (by simp)) fun _ => List.isEmpty_iff.1

theorem ConversionLog.isFaithful_codec : ConversionLog.codec.IsFaithful := by
  refine isFaithful_record fun e log h => ?_
  simp only [↓bind_eq_some_iff, Option.pure_def, Option.some.injEq] at h
  obtain ⟨done, hdone, failed, hfailed, rfl⟩ := h
  exact saves_record (by decide) (.refl _) (by simp) <|
    .field (isFaithful_conversions hdone) <|
    .field (isFaithful_conversions hfailed) .pure

namespace ConnectionParameter

theorem saves_codec (p : ConnectionParameter) {value : Option Json}
    (h : valueField.Saves p.value value) : codec.Saves p { p with value } := by
  have hkind : kindField.Saves p.kind p.kind :=
    saves_required (isFaithful_words (by decide) |>.saves (j := ParameterKind.codec.write p.kind)
      (by cases p.kind <;> rfl))
  exact saves_record (by decide) (.refl _) (by simp) <|
    .field hkind <|
    .field (saves_optionalText p.key) <|
    .field (saves_optionalText p.property) <|
    .field h .pure

theorem isFaithful_codec : codec.IsFaithful := by
  refine isFaithful_record fun e p h => ?_
  simp only [↓bind_eq_some_iff, Option.pure_def, Option.some.injEq] at h
  obtain ⟨kind, -, key, -, property, -, value, hvalue, rfl⟩ := h
  exact saves_codec _ (isFaithful_optional isFaithful_document hvalue)

end ConnectionParameter

namespace EdgeEnd

def rows (which : End) (x : EdgeEnd) : List FieldRows :=
  [((nodeIdField which).name, (nodeIdField which).write x.nodeId),
    ((externalIdField which).name, (externalIdField which).write x.externalId),
    ((compositeIdField which).name, (compositeIdField which).write x.compositeId),
    ((metatypeIdField which).name, (metatypeIdField which).write x.metatypeId),
    ((dataSourceIdField which).name, (dataSourceIdField which).write x.dataSourceId),
    ((parametersField which).name, (parametersField which).write x.parameters)]

theorem write_eq (which : End) (x : EdgeEnd) : write which x = (rows which x).flatMap (·.2) := by
  simp [write, rows]

theorem restores_read? {which : End} {x : EdgeEnd} (h : read? which e = some x) :
    Restores (read? which) (rows which x) x := by
  simp only [read?, ↓bind_eq_some_iff, Option.pure_def, Option.some.injEq] at h
  obtain ⟨nodeId, hnode, externalId, hexternal, compositeId, hcomposite, metatypeId, hmetatype,
    dataSourceId, hsource, parameters, hparameters, rfl⟩ := h
  exact
    .field (isFaithful_optionalText hnode) <|
    .field (isFaithful_optionalText hexternal) <|
    .field (isFaithful_optionalText hcomposite) <|
    .field (isFaithful_optionalText hmetatype) <|
    .field (isFaithful_optionalText hsource) <|
    .field (isFaithful_listUnlessEmpty ConnectionParameter.isFaithful_codec hparameters) .pure

end EdgeEnd

namespace RecordBase

def rows (r : RecordBase) : List FieldRows :=
  [(idField.name, idField.write r.id),
    (containerIdField.name, containerIdField.write r.containerId),
    (graphIdField.name, graphIdField.write r.graphId),
    (propertiesField.name, propertiesField.write r.properties),
    (externalIdField.name, externalIdField.write r.externalId),
    (dataSourceIdField.name, dataSourceIdField.write r.dataSourceId),
    (transformationIdField.name, transformationIdField.write r.transformationId),
    (compositeIdField.name, compositeIdField.write r.compositeId),
    (importIdField.name, importIdField.write r.importId),
    (stagingIdField.name, stagingIdField.write r.stagingId),
    (archivedField.name, archivedField.write r.archived),
    (logField.name, logField.write r.log),
    (createdAtField.name, createdAtField.write r.createdAt)]

theorem write_eq (r : RecordBase) : r.write = r.rows.flatMap (·.2) := by
  simp [write, rows]

theorem isFaithful_propertiesField : propertiesField.IsFaithful := by
  have hempty : entries.Saves [] [] := ⟨rfl, rfl⟩
  unfold propertiesField
  exact isFaithful_defaulted isFaithful_entries hempty

theorem isFaithful_logField : logField.IsFaithful := by
  have hempty : ConversionLog.codec.Saves {} {} := ⟨rfl, rfl⟩
  unfold logField
  refine isFaithful_unlessVoid ConversionLog.isFaithful_codec hempty fun log h => ?_
  obtain ⟨hdone, hfailed⟩ : log.done = [] ∧ log.failed = [] := by
    simpa [ConversionLog.isEmpty, List.isEmpty_iff] using h
  cases log
  simp_all

theorem restores_read? {r : RecordBase} (h : read? e = some r) : Restores read? r.rows r := by
  simp only [read?, ↓bind_eq_some_iff, Option.pure_def, Option.some.injEq] at h
  obtain ⟨id, hid, containerId, hcontainer, graphId, hgraph, properties, hproperties, externalId,
    hexternal, dataSourceId, hsource, transformationId, htransformation, compositeId, hcomposite,
    importId, himport, stagingId, hstaging, archived, harchived, log, hlog, createdAt, hcreated,
    rfl⟩ := h
  exact
    .field (isFaithful_optionalText hid) <|
    .field (isFaithful_required isFaithful_text hcontainer) <|
    .field (isFaithful_optionalText hgraph) <|
    .field (isFaithful_propertiesField hproperties) <|
    .field (isFaithful_optionalText hexternal) <|
    .field (isFaithful_optionalText hsource) <|
    .field (isFaithful_optionalText htransformation) <|
    .field (isFaithful_optionalText hcomposite) <|
    .field (isFaithful_optionalText himport) <|
    .field (isFaithful_optionalText hstaging) <|
    .field (isFaithful_defaultedBool harchived) <|
    .field (isFaithful_logField hlog) <|
    .field (isFaithful_timestamp hcreated) .pure

end RecordBase

namespace Node

def rows (n : Node) : List FieldRows :=
  n.toRecordBase.rows ++ [(metatypeIdField.name, metatypeIdField.write n.metatypeId)]

theorem rows_names (n : Node) :
    (n.rows.map (·.1)).Perm (metatypeIdField.name :: RecordBase.fieldNames) := by
  rw [rows, List.map_append]
  exact List.perm_append_singleton ..

def read? (e : Entries) : Option Node := do
  return { toRecordBase := ← RecordBase.read? e, metatypeId := ← metatypeIdField.read? e }

theorem codec_eq : codec = record (metatypeIdField.name :: RecordBase.fieldNames) read?
    (fun n => n.rows.flatMap (·.2)) := by
  have hwrite (n : Node) : n.toRecordBase.write ++ metatypeIdField.write n.metatypeId =
      n.rows.flatMap (·.2) := by
    simp [rows, RecordBase.write_eq]
  simp only [codec, hwrite]
  rfl

theorem restores_read? {n : Node} (h : read? e = some n) : Restores read? n.rows n := by
  simp only [read?, ↓bind_eq_some_iff, Option.pure_def, Option.some.injEq] at h
  obtain ⟨base, hbase, metatypeId, hmetatype, rfl⟩ := h
  exact
    .bind (RecordBase.restores_read? hbase) <|
    .field (isFaithful_required isFaithful_text hmetatype) .pure

theorem isFaithful_codec : codec.IsFaithful := by
  rw [codec_eq]
  exact isFaithful_record fun _ n h =>
    saves_record (by decide) n.rows_names rfl (restores_read? h)

end Node

namespace Edge

def rows (x : Edge) : List FieldRows :=
  x.toRecordBase.rows ++ (pairIdField.name, pairIdField.write x.pairId) ::
    (EdgeEnd.rows .origin x.origin ++ (EdgeEnd.rows .destination x.destination ++ []))

def fieldNames : List String :=
  pairIdField.name :: RecordBase.fieldNames ++ EdgeEnd.fieldNames .origin ++
    EdgeEnd.fieldNames .destination

theorem rows_names (x : Edge) : (x.rows.map (·.1)).Perm fieldNames := by
  simp only [rows, fieldNames, List.map_append, List.map_cons, List.append_nil,
    List.cons_append, List.append_assoc]
  exact List.perm_middle

def read? (e : Entries) : Option Edge := do
  return {
    toRecordBase := ← RecordBase.read? e
    pairId := ← pairIdField.read? e
    origin := ← EdgeEnd.read? .origin e
    destination := ← EdgeEnd.read? .destination e }

theorem codec_eq : codec = record fieldNames read? (fun x => x.rows.flatMap (·.2)) := by
  have hwrite (x : Edge) : x.toRecordBase.write ++ pairIdField.write x.pairId ++
      EdgeEnd.write .origin x.origin ++ EdgeEnd.write .destination x.destination =
      x.rows.flatMap (·.2) := by
    simp [rows, RecordBase.write_eq, EdgeEnd.write_eq]
  simp only [codec, hwrite]
  rfl

theorem restores_read? {x : Edge} (h : read? e = some x) : Restores read? x.rows x := by
  simp only [read?, ↓bind_eq_some_iff, Option.pure_def, Option.some.injEq] at h
  obtain ⟨base, hbase, pairId, hpair, origin, horigin, destination, hdestination, rfl⟩ := h
  exact
    .bind (RecordBase.restores_read? hbase) <|
    .field (isFaithful_required isFaithful_text hpair) <|
    .bind (EdgeEnd.restores_read? horigin) <|
    .bind (EdgeEnd.restores_read? hdestination) .pure

theorem isFaithful_codec : codec.IsFaithful := by
  rw [codec_eq]
  exact isFaithful_record fun _ x h =>
    saves_record (by decide) x.rows_names rfl (restores_read? h)

end Edge

namespace GraphRecord

section Kind

variable {α : Type} {names : List String} {read? : Entries → Option α} {rows : α → List FieldRows}
  {a : α}

/-- A record is read again from its document with a further field for its kind. -/
theorem saves_kind (kind : String)
    (hsaves : (record names read? fun a => (rows a).flatMap (·.2)).Saves a a)
    (hnames : ((rows a).map (·.1)).Perm names) (h : Restores read? (rows a) a)
    (hkind : "kind" ∉ names) :
    ∃ entries : Entries,
      (record names read? fun a => (rows a).flatMap (·.2)).write a = .object entries ∧
      (Json.object (Table.insert entries "kind" (.string kind))).IsCanonical ∧
      (record names read? fun a => (rows a).flatMap (·.2)).read?
        (.object (Table.erase (Table.insert entries "kind" (.string kind)) "kind")) = some a := by
  have hordered := Table.isOrdered_ofList ((rows a).flatMap (·.2))
  have hfresh : Table.get? (Table.ofList ((rows a).flatMap (·.2))) "kind" = none := by
    refine Table.get?_ofList_eq_none fun hmem => hkind ?_
    obtain ⟨row, hrow, hname⟩ := List.mem_map.1 hmem
    have hfield : row.1 ∈ names := mem_names_of_mem_rows hnames h hrow
    rwa [hname] at hfield
  refine ⟨_, rfl, ?_, ?_⟩
  · refine Json.isCanonical_object (Table.isOrdered_insert hordered ..) fun row hrow => ?_
    rcases Table.mem_insert hrow with rfl | hrow
    · rfl
    · exact hsaves.canonical.of_mem_entries hrow
  · have hsame : Table.erase (Table.insert (Table.ofList ((rows a).flatMap (·.2))) "kind"
        (.string kind)) "kind" = Table.ofList ((rows a).flatMap (·.2)) := by
      refine Table.IsOrdered.ext (Table.isOrdered_erase (Table.isOrdered_insert hordered ..) _)
        hordered fun name => ?_
      rw [Table.get?_erase, Table.get?_insert]
      by_cases hname : name = "kind"
      · simp [hname, hfresh]
      · simp [hname]
    rw [hsame]
    exact hsaves.read?_write

end Kind

theorem isFaithful_codec : codec.IsFaithful where
  saves {j r} h := by
    simp only [codec] at h
    split at h
    · split at h
      · obtain ⟨n, hn, rfl⟩ := Option.map_eq_some_iff.1 h
        have hsaves := Node.isFaithful_codec.saves hn
        rw [Node.codec_eq] at hn hsaves
        obtain ⟨e, -, hfields⟩ := exists_of_record_read? hn
        obtain ⟨entries, hwrite, hcanonical, hread⟩ :=
          saves_kind "node" hsaves n.rows_names (Node.restores_read? hfields) (by decide)
        rw [← Node.codec_eq] at hwrite hread
        exact ⟨by simpa [codec, hwrite], by simp [codec, hwrite, Table.get?_insert, hread]⟩
      · obtain ⟨x, hx, rfl⟩ := Option.map_eq_some_iff.1 h
        have hsaves := Edge.isFaithful_codec.saves hx
        rw [Edge.codec_eq] at hx hsaves
        obtain ⟨e, -, hfields⟩ := exists_of_record_read? hx
        obtain ⟨entries, hwrite, hcanonical, hread⟩ :=
          saves_kind "edge" hsaves x.rows_names (Edge.restores_read? hfields) (by decide)
        rw [← Edge.codec_eq] at hwrite hread
        exact ⟨by simpa [codec, hwrite], by simp [codec, hwrite, Table.get?_insert, hread]⟩
      · cases h
    · cases h
  eq_null {_ r} _ hnull := by
    cases r <;> simp [codec, Node.codec, Edge.codec, record, Json.ofFields] at hnull

end GraphRecord

/-! ## Mappings -/

theorem ShapeOptions.isFaithful_codec : ShapeOptions.codec.IsFaithful := by
  refine isFaithful_record fun e o h => ?_
  simp only [↓bind_eq_some_iff, Option.pure_def, Option.some.injEq] at h
  obtain ⟨stop, hstop, value, hvalue, rfl⟩ := h
  exact saves_record (by decide) (.refl _) (by simp) <|
    .field (isFaithful_defaultedList isFaithful_text hstop) <|
    .field (isFaithful_defaultedList isFaithful_text hvalue) .pure

theorem ErrorAction.isFaithful_codec : ErrorAction.codec.IsFaithful := isFaithful_words (by decide)

theorem ErrorAction.saves_codec (a : ErrorAction) : ErrorAction.codec.Saves a a :=
  isFaithful_codec.saves (j := ErrorAction.codec.write a) (by cases a <;> rfl)

theorem TransformationConfig.saves_codec (c : TransformationConfig) :
    TransformationConfig.codec.Saves c c :=
  saves_record (by decide) (.refl _) (by simp) <|
    .field (saves_defaulted (ErrorAction.saves_codec c.onMissing)) <|
    .field (saves_defaulted (ErrorAction.saves_codec c.onConversionError)) <|
    .field (saves_defaultedBool c.convertValues) .pure

theorem TransformationConfig.isFaithful_codec : TransformationConfig.codec.IsFaithful :=
  ⟨fun _ => saves_codec _, nofun⟩

namespace KeyMapping

theorem saves_codec (m : KeyMapping) {constant : Option Json}
    (h : constantField.Saves m.constant constant) : codec.Saves m { m with constant } :=
  saves_record (by decide) (.refl _) (by simp) <|
    .field (saves_optionalText m.id) <|
    .field (saves_optionalText m.path) <|
    .field (saves_optionalText m.metatypeKeyId) <|
    .field (saves_optionalText m.relationshipKeyId) <|
    .field h .pure

theorem isFaithful_codec : codec.IsFaithful := by
  refine isFaithful_record fun e m h => ?_
  simp only [↓bind_eq_some_iff, Option.pure_def, Option.some.injEq] at h
  obtain ⟨id, -, path, -, metatypeKeyId, -, relationshipKeyId, -, constant, hconstant, rfl⟩ := h
  exact saves_codec _ (isFaithful_optional isFaithful_document hconstant)

end KeyMapping

namespace EndRule

def rows (which : End) (r : EndRule) : List FieldRows :=
  [((pathField which).name, (pathField which).write r.path),
    ((metatypeIdField which).name, (metatypeIdField which).write r.metatypeId),
    ((dataSourceIdField which).name, (dataSourceIdField which).write r.dataSourceId),
    ((parametersField which).name, (parametersField which).write r.parameters)]

theorem write_eq (which : End) (r : EndRule) : write which r = (rows which r).flatMap (·.2) := by
  simp [write, rows]

theorem restores {which : End} (r : EndRule) {parameters : List ConnectionParameter}
    (h : (parametersField which).Saves r.parameters parameters) :
    Restores (read? which) (rows which r) { r with parameters } :=
  .field (saves_optionalText r.path) <|
  .field (saves_optionalText r.metatypeId) <|
  .field (saves_optionalText r.dataSourceId) <|
  .field h .pure

end EndRule

namespace Condition

theorem saves_operator (o : Operator) : Operator.codec.Saves o o :=
  isFaithful_words (by decide) |>.saves (j := Operator.codec.write o) (by cases o <;> rfl)

theorem saves_connective (c : Connective) : Connective.codec.Saves c c :=
  isFaithful_words (by decide) |>.saves (j := Connective.codec.write c) (by cases c <;> rfl)

/-- The parts of a condition as a field. -/
def partsField : Field (List Condition) := unlessVoid partsName (list codec) [] List.isEmpty

theorem readItems?_eq (items : List Json) : readItems? items = items.mapM read? := by
  induction items with
  | nil => rfl
  | cons item items ih => simp [readItems?, ih]

theorem readParts?_eq (e : Entries) : readParts? e = partsField.read? e := by
  induction e with
  | nil => rfl
  | cons row e ih =>
    simp only [partsField, unlessVoid] at ih
    simp only [readParts?, partsField, unlessVoid, Table.get?_cons]
    by_cases hname : row.1 = partsName
    · cases row.2 <;> simp [hname, readList?, list, readItems?_eq, codec]
    · simp [hname, Ne.symm hname, ih]

theorem writeItems_eq (parts : List Condition) : writeItems parts = parts.map write := by
  induction parts with
  | nil => rfl
  | cons part parts ih => simp [writeItems, ih]

theorem writeParts_eq (parts : List Condition) : writeParts parts = partsField.write parts := by
  cases parts with
  | nil => rfl
  | cons part parts => simp [writeParts, partsField, unlessVoid, list, writeItems_eq, codec]

theorem codec_eq : codec =
    record [connectiveField.name, keyField.name, operatorField.name, valueField.name,
        partsField.name]
      (fun e => do
        return {
          connective := ← connectiveField.read? e
          key := ← keyField.read? e
          operator := ← operatorField.read? e
          value := ← valueField.read? e
          parts := ← partsField.read? e })
      (fun c => connectiveField.write c.connective ++ keyField.write c.key ++
        operatorField.write c.operator ++ valueField.write c.value ++
        partsField.write c.parts) := by
  rw [codec, record]
  congr 1
  · funext j
    cases j <;> simp [read?, readParts?_eq]
    rfl
  · funext c
    cases c
    rw [write, writeParts_eq]

theorem saves_codec {c : Condition} (hvalue : valueField.Saves c.value c.value)
    (hparts : ∀ part ∈ c.parts, codec.Saves part part) : codec.Saves c c := by
  obtain ⟨connective, key, operator, value, parts⟩ := c
  have hconnective : connectiveField.Saves connective connective := by
    cases connective with
    | none => exact saves_optional_none
    | some connective => exact saves_optional_some (saves_connective connective) nofun
  rw [codec_eq]
  exact saves_record (by decide) (.refl _) (by simp) <|
    .field hconnective <|
    .field (saves_required (saves_text key)) <|
    .field (saves_required (saves_operator operator)) <|
    .field hvalue <|
    .field (saves_listUnlessEmpty (List.forall₂_same.2 hparts)) .pure

/-- The parts of a condition are read from smaller documents than the condition. -/
theorem exists_read?_of_mem_parts {entries : Entries} {parts : List Condition}
    (h : partsField.read? entries = some parts) {part : Condition} (hpart : part ∈ parts) :
    ∃ j, read? j = some part ∧ sizeOf j < sizeOf (Json.object entries) := by
  simp only [partsField, unlessVoid] at h
  split at h
  · obtain rfl := Option.some.inj h
    simp at hpart
  · rename_i items hget
    have hentry := List.sizeOf_lt_of_mem (Table.mem_of_get? hget)
    simp only [list] at h
    split at h
    · obtain ⟨j, hj, hread⟩ := exists_of_mem_of_mapM h hpart
      have hitem := List.sizeOf_lt_of_mem hj
      refine ⟨j, hread, ?_⟩
      simp only [Prod.mk.sizeOf_spec, Json.array.sizeOf_spec, Json.object.sizeOf_spec] at *
      omega
    · cases h

/-- A condition that was read is saved, by induction on the document: its parts are read from
smaller ones. -/
theorem saves_of_read? (j : Json) {c : Condition} (h : read? j = some c) : codec.Saves c c := by
  have hread : codec.read? j = some c := h
  rw [codec_eq] at hread
  obtain ⟨entries, hj, hfields⟩ := exists_of_record_read? hread
  simp only [↓bind_eq_some_iff, Option.pure_def, Option.some.injEq] at hfields
  obtain ⟨connective, -, key, -, operator, -, value, hvalue, parts, hparts, rfl⟩ := hfields
  refine saves_codec (isFaithful_documentOr hvalue) fun part hpart => ?_
  obtain ⟨item, hitem, hsize⟩ := exists_read?_of_mem_parts hparts hpart
  exact saves_of_read? item hitem
termination_by sizeOf j
decreasing_by rwa [hj]

theorem isFaithful_codec : codec.IsFaithful where
  saves h := saves_of_read? _ h
  eq_null {_ c} _ hnull := by
    rw [codec_eq] at hnull
    simp [record, Json.ofFields] at hnull

end Condition

namespace Transformation

def rows (t : Transformation) : List FieldRows :=
  (idField.name, idField.write t.id) ::
  (nameField.name, nameField.write t.name) ::
  (mappingIdField.name, mappingIdField.write t.mappingId) ::
  (containerIdField.name, containerIdField.write t.containerId) ::
  (dataSourceIdField.name, dataSourceIdField.write t.dataSourceId) ::
  (conditionsField.name, conditionsField.write t.conditions) ::
  (keysField.name, keysField.write t.keys) ::
  (metatypeIdField.name, metatypeIdField.write t.metatypeId) ::
  (pairIdField.name, pairIdField.write t.pairId) ::
  (EndRule.rows .origin t.origin ++ (EndRule.rows .destination t.destination ++
  [(rootArrayField.name, rootArrayField.write t.rootArray),
    (uniqueKeyField.name, uniqueKeyField.write t.uniqueKey),
    (configField.name, configField.write t.config),
    (archivedField.name, archivedField.write t.archived)]))

theorem rows_names (t : Transformation) : t.rows.map (·.1) = fieldNames := rfl

/-- A transformation is saved as its conditions, key mappings and parameters are. -/
theorem saves_codec (t : Transformation) {conditions : List Condition} {keys : List KeyMapping}
    {origins destinations : List ConnectionParameter}
    (hconditions : conditionsField.Saves t.conditions conditions)
    (hkeys : keysField.Saves t.keys keys)
    (horigins : (EndRule.parametersField .origin).Saves t.origin.parameters origins)
    (hdestinations :
      (EndRule.parametersField .destination).Saves t.destination.parameters destinations) :
    codec.Saves t
      { t with
        conditions, keys
        origin := { t.origin with parameters := origins }
        destination := { t.destination with parameters := destinations } } := by
  refine saves_record (by decide) (.of_eq (rows_names t)) (by simp [rows, EndRule.write_eq]) ?_
  exact
    .field (saves_optionalText t.id) <|
    .field (saves_optionalText t.name) <|
    .field (saves_optionalText t.mappingId) <|
    .field (saves_defaultedText t.containerId) <|
    .field (saves_optionalText t.dataSourceId) <|
    .field hconditions <|
    .field hkeys <|
    .field (saves_optionalText t.metatypeId) <|
    .field (saves_optionalText t.pairId) <|
    .bind (EndRule.restores t.origin horigins) <|
    .bind (EndRule.restores t.destination hdestinations) <|
    .field (saves_optionalText t.rootArray) <|
    .field (saves_optionalText t.uniqueKey) <|
    .field (saves_defaulted (TransformationConfig.saves_codec t.config)) <|
    .field (saves_defaultedBool t.archived) .pure

theorem saves_parameters_of_read? {which : End} {r : EndRule}
    (h : EndRule.read? which e = some r) :
    (EndRule.parametersField which).Saves r.parameters r.parameters := by
  simp only [EndRule.read?, ↓bind_eq_some_iff, Option.pure_def, Option.some.injEq] at h
  obtain ⟨path, -, metatypeId, -, dataSourceId, -, parameters, hparameters, rfl⟩ := h
  exact isFaithful_listUnlessEmpty ConnectionParameter.isFaithful_codec hparameters

theorem isFaithful_codec : codec.IsFaithful := by
  refine isFaithful_record fun e t h => ?_
  simp only [↓bind_eq_some_iff, Option.pure_def, Option.some.injEq] at h
  obtain ⟨id, -, name, -, mappingId, -, containerId, -, dataSourceId, -, conditions, hconditions,
    keys, hkeys, metatypeId, -, pairId, -, origin, horigin, destination, hdestination, rootArray, -,
    uniqueKey, -, config, -, archived, -, rfl⟩ := h
  exact saves_codec _ (isFaithful_defaultedList Condition.isFaithful_codec hconditions)
    (isFaithful_defaultedList KeyMapping.isFaithful_codec hkeys)
    (saves_parameters_of_read? horigin) (saves_parameters_of_read? hdestination)

end Transformation

theorem TypeMapping.isFaithful_codec : TypeMapping.codec.IsFaithful := by
  refine isFaithful_record fun e m h => ?_
  simp only [↓bind_eq_some_iff, Option.pure_def, Option.some.injEq] at h
  obtain ⟨id, hid, container, hcontainer, source, hsource, sample, hsample, active, hactive,
    shape, hshape, options, hoptions, transformations, htransformations, created, hcreated, rfl⟩
    := h
  exact saves_record (by decide) (.refl _) (by simp) <|
    .field (isFaithful_optionalText hid) <|
    .field (isFaithful_defaultedText hcontainer) <|
    .field (isFaithful_defaultedText hsource) <|
    .field (isFaithful_documentOr hsample) <|
    .field (isFaithful_defaultedBool hactive) <|
    .field (isFaithful_defaultedText hshape) <|
    .field (isFaithful_optional ShapeOptions.isFaithful_codec hoptions) <|
    .field (isFaithful_defaultedList Transformation.isFaithful_codec htransformations) <|
    .field (isFaithful_timestamp hcreated) .pure

theorem StagedData.isFaithful_codec : StagedData.codec.IsFaithful := by
  refine isFaithful_record fun e d h => ?_
  simp only [↓bind_eq_some_iff, Option.pure_def, Option.some.injEq] at h
  obtain ⟨id, hid, source, hsource, importId, himportId, data, hdata, created, hcreated, rfl⟩ :=
    h
  exact saves_record (by decide) (.refl _) (by simp) <|
    .field (isFaithful_optionalText hid) <|
    .field (isFaithful_required isFaithful_text hsource) <|
    .field (isFaithful_optionalText himportId) <|
    .field (isFaithful_required isFaithful_document hdata) <|
    .field (isFaithful_timestamp hcreated) .pure

theorem IngestConfig.isFaithful_codec : IngestConfig.codec.IsFaithful := by
  refine isFaithful_record fun e c h => ?_
  simp only [↓bind_eq_some_iff, Option.pure_def, Option.some.injEq] at h
  obtain ⟨active, hactive, shape, hshape, validate, hvalidate, timeout, htimeout, rfl⟩ := h
  exact saves_record (by decide) (.refl _) (by simp) <|
    .field (isFaithful_defaultedBool hactive) <|
    .field (isFaithful_defaultedBool hshape) <|
    .field (isFaithful_defaultedBool hvalidate) <|
    .field (isFaithful_nullable isFaithful_word htimeout) .pure

/-! ## Canonical forms -/

/-- Whether what is written for a value that was read is read as the same value again. -/
def Codec.IsCanonicalising {α : Type} (c : Codec α) : Prop :=
  ∀ d x, c.read? d = some x → c.read? (c.write x) = some x

theorem Codec.IsFaithful.isCanonicalising {α : Type} {c : Codec α} (h : c.IsFaithful) :
    c.IsCanonicalising :=
  fun _ _ hread => (h.saves hread).read?_write

/-- Reading brings the documents of every kind of record into a canonical form. -/
theorem Codec.isCanonicalising_records :
    Condition.codec.IsCanonicalising ∧
    KeyMapping.codec.IsCanonicalising ∧
    Transformation.codec.IsCanonicalising ∧
    TypeMapping.codec.IsCanonicalising ∧
    StagedData.codec.IsCanonicalising ∧
    TransformationConfig.codec.IsCanonicalising ∧
    ShapeOptions.codec.IsCanonicalising ∧
    PropertyKey.codec.IsCanonicalising ∧
    Codec.IsCanonicalising (KeyedType.codec : Codec Metatype) ∧
    Codec.IsCanonicalising (KeyedType.codec : Codec Relationship) ∧
    RelationshipPair.codec.IsCanonicalising ∧
    OntologySnapshot.codec.IsCanonicalising ∧
    Node.codec.IsCanonicalising ∧
    Edge.codec.IsCanonicalising ∧
    GraphRecord.codec.IsCanonicalising ∧
    ConnectionParameter.codec.IsCanonicalising ∧
    Conversion.codec.IsCanonicalising ∧
    ConversionLog.codec.IsCanonicalising ∧
    IngestConfig.codec.IsCanonicalising :=
  ⟨Condition.isFaithful_codec.isCanonicalising,
    KeyMapping.isFaithful_codec.isCanonicalising,
    Transformation.isFaithful_codec.isCanonicalising,
    TypeMapping.isFaithful_codec.isCanonicalising,
    StagedData.isFaithful_codec.isCanonicalising,
    TransformationConfig.isFaithful_codec.isCanonicalising,
    ShapeOptions.isFaithful_codec.isCanonicalising,
    PropertyKey.isFaithful_codec.isCanonicalising,
    KeyedType.isFaithful_codec.isCanonicalising,
    KeyedType.isFaithful_codec.isCanonicalising,
    RelationshipPair.isFaithful_codec.isCanonicalising,
    OntologySnapshot.isFaithful_codec.isCanonicalising,
    Node.isFaithful_codec.isCanonicalising,
    Edge.isFaithful_codec.isCanonicalising,
    GraphRecord.isFaithful_codec.isCanonicalising,
    ConnectionParameter.isFaithful_codec.isCanonicalising,
    Conversion.isFaithful_codec.isCanonicalising,
    ConversionLog.isFaithful_codec.isCanonicalising,
    IngestConfig.isFaithful_codec.isCanonicalising⟩

end TypedGraph
