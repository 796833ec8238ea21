import TypedGraph.Proofs.Outages

/-!
# What comes before the transaction

The records that a mapping produces are new: they have no id, are not archived and know
their data source. Errors of transformations and schemas are those of the records, and
only an outage of the ontology ends the preparation. It does not look at the graph, so
that the same mapping prepares the same records for every graph (`Ingest.answers_start`).
-/
namespace TypedGraph

open Access

/-- A record that was produced from a payload, and is not written yet. -/
structure RecordBase.IsNew (r : RecordBase) : Prop where
  id : r.id = none
  archived : r.archived = false
  dataSource : r.dataSourceId.isSome

namespace GraphRecord

def base : GraphRecord → RecordBase
  | node n => n.toRecordBase
  | edge x => x.toRecordBase

end GraphRecord

/-- Whether an error of a transformation is not an outage of the ontology. -/
def TransformError.IsOwn (e : TransformError) : Prop := ∀ reason, e ≠ .ontology (.backend reason)

theorem RecordError.isOwn_transform {e : TransformError} (h : e.IsOwn) :
    RecordError.IsOwn (.transform e) := by
  unfold RecordError.IsOwn
  split <;> simp_all [TransformError.IsOwn]

namespace Transformation

variable {config : TransformationConfig} {t : Transformation} {target : Target}
  {keys : List (String × PropertyKey)} {staged : StagedData} {index : List Nat}

theorem isOwn_of_setConverted {key : PropertyKey} {value : Json} {draft : PropertyDraft}
    {e : TransformError} (h : setConverted config key value draft = .error e) : e.IsOwn := by
  unfold setConverted at h
  dsimp only at h
  split at h
  · contradiction
  split at h
  · contradiction
  split at h
  · cases h
    simp [TransformError.IsOwn]
  · contradiction

theorem isOwn_of_setProperty {key : PropertyKey} {extracted : Option Json} {draft : PropertyDraft}
    {e : TransformError} (h : setProperty config key extracted draft = .error e) : e.IsOwn := by
  unfold setProperty at h
  split at h
  · split at h
    · cases h
      simp [TransformError.IsOwn]
    · contradiction
  · split at h
    · exact isOwn_of_setConverted h
    · contradiction

theorem isOwn_of_draftProperties {payload : Json} {mappings : List KeyMapping}
    {draft : PropertyDraft} {e : TransformError}
    (h : t.draftProperties target keys payload index mappings draft = .error e) : e.IsOwn := by
  induction mappings generalizing draft with
  | nil => contradiction
  | cons m mappings ih =>
    simp only [draftProperties] at h
    split at h
    · exact ih h
    split at h
    · cases h
      simp [TransformError.IsOwn]
    · rename_i key _
      cases hset : setProperty t.config key (extract payload index m) draft with
      | error e' =>
        rw [hset] at h
        cases h
        exact isOwn_of_setProperty hset
      | ok draft' =>
        rw [hset] at h
        exact ih h

theorem isNew_recordBase (t : Transformation) (staged : StagedData) (index : List Nat)
    (draft : PropertyDraft) : (t.recordBase staged index draft).IsNew :=
  ⟨rfl, rfl, rfl⟩

/-- A record is made of what a draft of its properties leaves open. -/
theorem eq_of_produce {record : GraphRecord}
    (h : t.produce target keys staged index = .ok record) :
    ∃ draft, record = match target with
      | .node metatypeId => .node { toRecordBase := t.recordBase staged index draft, metatypeId }
      | .edge pairId => .edge {
          toRecordBase := t.recordBase staged index draft
          pairId
          origin := t.edgeEnd staged index .origin
          destination := t.edgeEnd staged index .destination } := by
  unfold produce at h
  cases hd : t.draftProperties target keys staged.data index t.keys {} with
  | error e =>
    rw [hd] at h
    contradiction
  | ok draft =>
    rw [hd] at h
    cases target <;> cases h <;> exact ⟨draft, rfl⟩

theorem isNew_of_produce {record : GraphRecord}
    (h : t.produce target keys staged index = .ok record) : record.base.IsNew := by
  obtain ⟨draft, rfl⟩ := eq_of_produce h
  cases target <;> exact isNew_recordBase t staged index draft

theorem isOwn_of_produce {e : TransformError}
    (h : t.produce target keys staged index = .error e) : e.IsOwn := by
  unfold produce at h
  cases hd : t.draftProperties target keys staged.data index t.keys {} with
  | error e' =>
    rw [hd] at h
    cases h
    exact isOwn_of_draftProperties hd
  | ok draft =>
    rw [hd] at h
    cases target <;> contradiction

end Transformation

/-- What a transformation may have produced: new records and errors of their own. -/
structure TransformOutput.IsSound (o : TransformOutput) : Prop where
  records : ∀ r ∈ o.records, r.record.base.IsNew
  errors : ∀ e ∈ o.errors, e.error.IsOwn

namespace Transformation

variable {t : Transformation} {target : Target} {keys : List (String × PropertyKey)}
  {staged : StagedData}

/-- Every record is the one that its branch produces. -/
theorem produce_of_mem_records {branches : List (List Nat)} {r : BranchRecord}
    (hr : r ∈ (t.produceAll target keys staged branches).records) :
    t.produce target keys staged r.index = .ok r.record := by
  obtain ⟨⟨index, result⟩, hmem, hrecord⟩ := List.mem_filterMap.1 hr
  obtain ⟨index', _, heq⟩ := List.mem_map.1 hmem
  cases heq
  split at hrecord
  · rename_i hproduce
    cases hrecord
    injection hproduce with hindex hrecord
    rw [← hindex, hrecord]
  · contradiction

theorem isSound_produceAll (branches : List (List Nat)) :
    (t.produceAll target keys staged branches).IsSound := by
  constructor
  · intro r hr
    exact isNew_of_produce (produce_of_mem_records hr)
  · intro e he
    obtain ⟨⟨index, result⟩, hmem, herror⟩ := List.mem_filterMap.1 he
    obtain ⟨index', _, heq⟩ := List.mem_map.1 hmem
    cases heq
    split at herror
    · contradiction
    · rename_i hproduce
      cases herror
      exact isOwn_of_produce (by injection hproduce)

end Transformation

theorem Expansion.isOwn_of_mem_errors {payload : Json} {levels : List String} {index : List Nat}
    {e : BranchError} (h : e ∈ (below payload levels index).errors) : e.error.IsOwn := by
  induction levels generalizing index with
  | nil => simp [below] at h
  | cons path levels ih =>
    simp only [below] at h
    split at h
    · simp only [List.mem_flatMap, List.mem_map] at h
      obtain ⟨_, ⟨i, _, rfl⟩, h⟩ := h
      exact ih h
    · rw [List.mem_singleton.1 h]
      simp [TransformError.IsOwn]

section Answers

variable {σ : Type} [KeepsCalls σ] {P : σ → Prop} {s : IngestSetting}

namespace Transformation

variable {t : Transformation} {target : Target} {staged : StagedData}

theorem answers_lookUpKey (hP : ∀ m t, P t → P (KeepsCalls.record m t)) (id : String) :
    Answers P s.IsOut OntologyError.Tells (lookUpKey s.ontology t target id) fun r =>
      (∃ key, r = .ok key) ∨ ∃ kind id, r = .error (.notFound kind id) := by
  unfold lookUpKey
  cases target with
  | node metatypeId =>
    refine (Ontology.answers_lookUp rfl (hP _)).mono fun r hr => ?_
    rcases hr with ⟨key, -, rfl⟩ | ⟨-, rfl⟩
    · exact .inl ⟨key, rfl⟩
    · exact .inr ⟨_, _, rfl⟩
  | edge pairId =>
    refine (Ontology.answers_lookUp rfl (hP _)).mono fun r hr => ?_
    rcases hr with ⟨key, -, rfl⟩ | ⟨-, rfl⟩
    · exact .inl ⟨key, rfl⟩
    · exact .inr ⟨_, _, rfl⟩

/-- Looking up keys fails in an outage of the ontology only. -/
theorem answers_fetchKeys (hP : ∀ m t, P t → P (KeepsCalls.record m t)) (ids : List String) :
    Answers P s.IsOut TransformError.Tells (fetchKeys s.ontology t target ids) fun r =>
      ∃ keys, r = .ok keys := by
  induction ids with
  | nil => exact .pure ⟨_, rfl⟩
  | cons id ids ih =>
    refine (answers_lookUpKey hP id).outcome_bind (fun r hr => ?_) fun m e _ he => ?_
    · rcases hr with ⟨key, rfl⟩ | ⟨kind, id, rfl⟩
      · exact ih.bind (fun keys _ => .pure ⟨_, rfl⟩) fun e he => he.elim fun _ h => by cases h
      · exact ih
    · obtain ⟨hm, rfl⟩ := he
      exact ⟨_, rfl, hm, rfl⟩

theorem answers_apply (hP : ∀ m t, P t → P (KeepsCalls.record m t)) :
    Answers P s.IsOut TransformError.Tells (t.apply s.ontology staged) fun r =>
      (∃ output : TransformOutput, r = .ok output ∧ output.IsSound) ∨
        ∃ e : TransformError, r = .error e ∧ e.IsOwn := by
  have hexpansion : ∀ e ∈ (Expansion.ofLevels staged.data t.rootLevels).errors, e.error.IsOwn :=
    fun e he => Expansion.isOwn_of_mem_errors he
  refine Answers.bind (R := fun r => r = t.checkedTarget.mapError .malformed) (.ofResult rfl)
    (fun target _ => ?_) fun e he => .inr ⟨e, rfl, ?_⟩
  · dsimp only
    split
    · exact .pure (.inl ⟨_, rfl, by simp, hexpansion⟩)
    · refine (answers_fetchKeys hP _).bind (fun keys _ => .pure (.inl ⟨_, rfl, ?_⟩))
        fun e he => he.elim fun _ h => by cases h
      have hsound : (t.produceAll target keys staged
          (t.accepted staged (Expansion.ofLevels staged.data t.rootLevels).branches)).IsSound :=
        isSound_produceAll _
      refine ⟨hsound.records, fun e he => ?_⟩
      rcases List.mem_append.1 he with he | he
      · exact hexpansion e he
      · exact hsound.errors e he
  · cases h : t.checkedTarget <;> rw [h] at he <;> cases he
    simp [TransformError.IsOwn]

end Transformation

end Answers

/-! ## Memos -/

/-- Whether every answer that a memo keeps is as `R` says. -/
def Memo.Holds {α : Type} (R : String → α → Prop) (memo : Memo α) : Prop :=
  ∀ id a, memo.answers.lookup id = some a → R id a

namespace Memo

variable {σ ε α : Type} [KeepsCalls σ] {P : σ → Prop} {out : Method → Prop}
  {tells : Method → ε → Prop} {R : String → α → Prop} {memo : Memo α} {id : String}

theorem holds_empty : Holds R ({} : Memo α) := by
  intro id a h
  simp at h

theorem Holds.keep (h : memo.Holds R) {a : α} (ha : R id a) : (memo.keep id a).Holds R := by
  unfold Memo.keep
  intro id' a' h'
  by_cases heq : id' = id
  · subst heq
    rw [List.lookup_cons_self] at h'
    cases h'
    exact ha
  · rw [List.lookup_cons, beq_false_of_ne heq] at h'
    exact h id' a' h'

/-- A memo answers as the question does, from what it keeps or by asking. -/
theorem answers_answer {question : Access σ ε α} (h : memo.Holds R)
    (hquestion : Answers P out tells question fun r => ∃ a, r = .ok a ∧ R id a) :
    Answers P out tells (memo.answer id question) fun r =>
      ∃ ans, r = .ok ans ∧ R id ans.1 ∧ ans.2.Holds R := by
  unfold answer
  cases hlookup : memo.answers.lookup id with
  | some a => exact .pure ⟨_, rfl, h id a hlookup, h⟩
  | none => exact hquestion.bind_ok fun a ha => .pure ⟨_, rfl, ha, h.keep ha⟩

end Memo

/-- The error of a record that asks for something that the ontology does not have. -/
abbrev RecordError.missing (kind : OntologyRecord) (id : String) : RecordError :=
  .ontology (.notFound kind id)

namespace Ingest

/-- What is answered for an id for which the ontology has something, or nothing. -/
def answerFor {α β : Type} (kind : OntologyRecord) (read : β → Except RecordError α)
    (asked : String × Option β) : Except RecordError α :=
  match asked.2 with
  | some b => read b
  | none => .error (.missing kind asked.1)

/-- The schema of keys that the ontology has. -/
def readSchema [PatternEngine] (keys : List PropertyKey) : Except RecordError CompiledSchema :=
  (CompiledSchema.compile keys).mapError .schema

/-- Whether an answer that fails does so with an error of the record, which is none of its
ends. -/
def FailsOwn {α : Type} (_ : String) (answer : Except RecordError α) : Prop :=
  ∀ e, answer = .error e → e.IsOwn ∧ ∀ which, ¬ e.IsUnresolved which

section Answers

variable {σ : Type} [KeepsCalls σ] {P : σ → Prop} {s : IngestSetting} {staged : StagedData}

theorem answers_askOntology_eq {α : Type} {question : Access σ OntologyError α} {found : Option α}
    {kind : OntologyRecord} {id : String}
    (hquestion : Answers P s.IsOut OntologyError.Tells question fun r =>
      (∃ a, found = some a ∧ r = .ok a) ∨ found = none ∧ r = .error (.notFound kind id)) :
    Answers P s.IsOut IngestError.Tells (askOntology question)
      (· = .ok (answerFor kind .ok (id, found))) := by
  refine hquestion.outcome_bind (fun r hr => ?_) fun m e _ he => ?_
  · rcases hr with ⟨a, rfl, rfl⟩ | ⟨rfl, rfl⟩
    · exact .pure rfl
    · exact .pure rfl
  · have htells := IngestError.Tells.ofOntology he
    obtain ⟨-, rfl⟩ := he
    exact ⟨_, rfl, htells⟩

theorem answers_askOntology {α : Type} {question : Access σ OntologyError α} {found : Option α}
    {kind : OntologyRecord} (id : String)
    (hquestion : Answers P s.IsOut OntologyError.Tells question fun r =>
      (∃ a, found = some a ∧ r = .ok a) ∨ found = none ∧ r = .error (.notFound kind id)) :
    Answers P s.IsOut IngestError.Tells (askOntology question) fun r =>
      ∃ answer : Except RecordError α, r = .ok answer ∧ (∀ a, answer = .ok a → found = some a) ∧
        FailsOwn id answer := by
  refine (answers_askOntology_eq hquestion).mono fun r hr => ⟨_, hr, ?_⟩
  cases found with
  | some a => exact ⟨fun _ h => by cases h; rfl, nofun⟩
  | none => exact ⟨nofun, fun e h => by cases h; exact ⟨trivial, fun _ h => h⟩⟩

variable [PatternEngine]

theorem answers_askSchema_eq {question : Access σ OntologyError (List PropertyKey)}
    {found : Option (List PropertyKey)} {kind : OntologyRecord} {id : String}
    (hquestion : Answers P s.IsOut OntologyError.Tells question fun r =>
      (∃ a, found = some a ∧ r = .ok a) ∨ found = none ∧ r = .error (.notFound kind id)) :
    Answers P s.IsOut IngestError.Tells (askSchema question)
      (· = .ok (answerFor kind readSchema (id, found))) := by
  refine (answers_askOntology_eq hquestion).bind (fun answer hanswer => ?_) nofun
  cases hanswer
  cases found with
  | none => exact .pure rfl
  | some keys => exact .pure rfl

theorem answers_askSchema {question : Access σ OntologyError (List PropertyKey)}
    {found : Option (List PropertyKey)} {kind : OntologyRecord} {id : String}
    (hquestion : Answers P s.IsOut OntologyError.Tells question fun r =>
      (∃ a, found = some a ∧ r = .ok a) ∨ found = none ∧ r = .error (.notFound kind id)) :
    Answers P s.IsOut IngestError.Tells (askSchema question) fun r =>
      ∃ schema : Except RecordError CompiledSchema, r = .ok schema ∧ FailsOwn id schema := by
  refine (answers_askSchema_eq hquestion).mono fun r hr => ⟨_, hr, fun e he => ?_⟩
  cases found with
  | none =>
    cases he
    exact ⟨trivial, fun _ h => h⟩
  | some keys =>
    change (CompiledSchema.compile keys).mapError RecordError.schema = .error e at he
    cases hc : CompiledSchema.compile keys <;> rw [hc] at he <;> cases he
    exact ⟨trivial, fun _ h => h⟩

end Answers

/-- How the check of a record with a schema ends: the schema itself is an error, or it refuses
the properties, or it admits them with others that it returns. -/
inductive Checked {α : Type} (put : RecordBase → α) (r : RecordBase) :
    Except RecordError CompiledSchema → Except RecordError α → Prop
  | failed (e : RecordError) : Checked put r (.error e) (.error e)
  | refused (schema : CompiledSchema) (cause : SchemaError) :
      Checked put r (.ok schema) (.error (.schema cause))
  | admitted {schema : CompiledSchema} {properties : Entries}
      (applied : schema.apply (.object r.properties) = .ok properties) :
      Checked put r (.ok schema) (.ok (put { r with properties }))

theorem checked_checkProperties {α : Type} (put : RecordBase → α)
    (schema : Except RecordError CompiledSchema) (r : RecordBase) :
    Checked put r schema ((checkProperties schema r).map put) := by
  cases schema with
  | error e => exact .failed e
  | ok schema =>
    have hcheck : checkProperties (.ok schema) r =
        ((schema.apply (.object r.properties)).mapError RecordError.schema >>= fun properties =>
          pure { r with properties }) := rfl
    rw [hcheck]
    cases happly : schema.apply (.object r.properties) with
    | error cause => exact .refused schema cause
    | ok properties => exact .admitted happly

/-- A schema changes no more of a record than its properties. -/
theorem eq_of_checkProperties {α : Type} {put : RecordBase → α}
    {schema : Except RecordError CompiledSchema} {r : RecordBase} {a : α}
    (h : (checkProperties schema r).map put = .ok a) :
    ∃ properties, a = put { r with properties } := by
  have hchecked := checked_checkProperties put schema r
  rw [h] at hchecked
  cases hchecked with
  | admitted => exact ⟨_, rfl⟩

/-- A schema changes no more of a record than its properties, or refuses it. -/
theorem checkProperties_spec {α : Type} (put : RecordBase → α) {id : String}
    {schema : Except RecordError CompiledSchema} (hschema : FailsOwn id schema) (r : RecordBase) :
    (∀ a, (checkProperties schema r).map put = .ok a →
      ∃ properties, a = put { r with properties }) ∧
      FailsOwn id ((checkProperties schema r).map put) := by
  refine ⟨fun a h => eq_of_checkProperties h, fun e h => ?_⟩
  have hchecked := checked_checkProperties put schema r
  rw [h] at hchecked
  cases hchecked with
  | failed => exact hschema e rfl
  | refused => exact ⟨trivial, fun _ h => h⟩

end Ingest

/-! ## Nodes and edges of a mapping -/

/-- What transformations may have produced: new records and failures of their own. -/
structure Produced.IsSound (p : Produced) : Prop where
  nodes : ∀ n ∈ p.nodes, n.record.IsNew
  edges : ∀ x ∈ p.edges, x.record.IsNew
  failures : ∀ f ∈ p.failures, f.error.IsOwn

namespace Produced

variable {p q : Produced}

theorem isSound_empty : IsSound {} := ⟨by simp, by simp, by simp⟩

theorem IsSound.append (hp : p.IsSound) (hq : q.IsSound) : (p.append q).IsSound where
  nodes n hn := (List.mem_append.1 hn).elim (hp.nodes n) (hq.nodes n)
  edges x hx := (List.mem_append.1 hx).elim (hp.edges x) (hq.edges x)
  failures f hf := (List.mem_append.1 hf).elim (hp.failures f) (hq.failures f)

/-- The nodes of an output are among its records. -/
theorem record_of_mem_nodes {transformationId : Option String} {output : TransformOutput}
    {n : Pending Node} (hn : n ∈ (ofOutput transformationId output).nodes) :
    ∃ r ∈ output.records, r.record.base = n.record.toRecordBase := by
  obtain ⟨⟨index, record⟩, hr, hn⟩ := List.mem_filterMap.1 hn
  refine ⟨_, hr, ?_⟩
  cases record <;> cases hn
  rfl

theorem record_of_mem_edges {transformationId : Option String} {output : TransformOutput}
    {x : Pending Edge} (hx : x ∈ (ofOutput transformationId output).edges) :
    ∃ r ∈ output.records, r.record.base = x.record.toRecordBase := by
  obtain ⟨⟨index, record⟩, hr, hx⟩ := List.mem_filterMap.1 hx
  refine ⟨_, hr, ?_⟩
  cases record <;> cases hx
  rfl

theorem isSound_ofOutput {transformationId : Option String} {output : TransformOutput}
    (h : output.IsSound) : (ofOutput transformationId output).IsSound := by
  refine ⟨fun n hn => ?_, fun x hx => ?_, fun f hf => ?_⟩
  · obtain ⟨r, hr, hbase⟩ := record_of_mem_nodes hn
    exact hbase ▸ h.records r hr
  · obtain ⟨r, hr, hbase⟩ := record_of_mem_edges hx
    exact hbase ▸ h.records r hr
  · obtain ⟨e, he, rfl⟩ := List.mem_map.1 hf
    exact RecordError.isOwn_transform (h.errors e he)

end Produced

namespace Ingest

/-- What is prepared from what was produced: nodes with other properties at most, the
edges, and failures of records. -/
structure PreparedFrom (produced : Produced) (prepared : Prepared) : Prop where
  nodes : ∀ n ∈ prepared.nodes, ∃ p ∈ produced.nodes, ∃ properties, n = { p.record with properties }
  edges : prepared.edges = produced.edges
  failures : ∀ f ∈ prepared.failures, f.error.IsOwn

section Answers

variable {σ : Type} [KeepsCalls σ] {P : σ → Prop} {s : IngestSetting} {staged : StagedData}

/-- Only an outage of the ontology keeps a mapping from producing records. -/
theorem answers_produce (hP : ∀ m t, P t → P (KeepsCalls.record m t)) (ts : List Transformation) :
    Answers P s.IsOut IngestError.Tells (produce s.ontology staged ts) fun r =>
      ∃ produced : Produced, r = .ok produced ∧ produced.IsSound := by
  induction ts with
  | nil => exact .pure ⟨_, rfl, Produced.isSound_empty⟩
  | cons t ts ih =>
    refine (Transformation.answers_apply hP).outcome_bind (fun r hr => ?_) fun m e _ he => ?_
    · have hrest (produced : Produced) (h : produced.IsSound) :
          Answers P s.IsOut IngestError.Tells (do
            return produced.append (← produce s.ontology staged ts) : Access σ IngestError Produced)
            fun r => ∃ produced : Produced, r = .ok produced ∧ produced.IsSound :=
        ih.bind_ok fun rest hrest => .pure ⟨_, rfl, h.append hrest⟩
      rcases hr with ⟨output, rfl, h⟩ | ⟨e, rfl, h⟩
      · exact hrest _ (Produced.isSound_ofOutput h)
      · dsimp only
        split
        · contradiction
        · rename_i reason heq
          cases heq
          exact absurd rfl (h reason)
        · rename_i e' _ heq
          cases heq
          exact hrest _ ⟨by simp, by simp, by simpa using RecordError.isOwn_transform h⟩
    · have htells : IngestError.Tells m (.ontology (.backend m.unavailable)) :=
        IngestError.Tells.ofOntology ⟨he.1, rfl⟩
      obtain ⟨-, rfl⟩ := he
      exact ⟨_, rfl, htells⟩

variable [PatternEngine]

/-- The schema of a node is applied: it changes the properties, or the node is refused. -/
theorem answers_validateNode (hP : ∀ m t, P t → P (KeepsCalls.record m t)) {memo : SchemaMemo}
    (hmemo : memo.Holds FailsOwn) (n : Node) :
    Answers P s.IsOut IngestError.Tells (validateNode s memo n) fun r =>
      ∃ ans, r = .ok ans ∧ ans.2.Holds FailsOwn ∧
        (∀ n', ans.1 = .ok n' → ∃ properties, n' = { n with properties }) ∧
        ∀ e, ans.1 = .error e → e.IsOwn := by
  unfold validateNode
  split
  · exact .pure ⟨_, rfl, hmemo, fun n' h => ⟨n.properties, by cases h; rfl⟩, nofun⟩
  refine (Memo.answers_answer hmemo (answers_askSchema
    (Ontology.answers_lookUp rfl (hP _)))).bind_ok fun ans ⟨hschema, hmemo'⟩ => ?_
  obtain ⟨hok, hfails⟩ := checkProperties_spec (fun base => { n with toRecordBase := base })
    hschema n.toRecordBase
  exact .pure ⟨_, rfl, hmemo', hok, fun e he => (hfails e he).1⟩

theorem answers_validateNodes (hP : ∀ m t, P t → P (KeepsCalls.record m t)) {memo : SchemaMemo}
    (hmemo : memo.Holds FailsOwn) (ps : List (Pending Node)) :
    Answers P s.IsOut IngestError.Tells (validateNodes s memo ps) fun r =>
      ∃ ans, r = .ok ans ∧
        (∀ n ∈ ans.1, ∃ p ∈ ps, ∃ properties, n = { p.record with properties }) ∧
        ∀ f ∈ ans.2, f.error.IsOwn := by
  induction ps generalizing memo with
  | nil => exact .pure ⟨_, rfl, by simp, by simp⟩
  | cons p ps ih =>
    refine (answers_validateNode hP hmemo p.record).bind_ok fun (result, memo') h => ?_
    obtain ⟨hmemo', hok, herror⟩ := h
    refine (ih hmemo').bind_ok fun (nodes, failures) h => ?_
    obtain ⟨hnodes, hfailures⟩ := h
    have hold : ∀ n ∈ nodes, ∃ q ∈ p :: ps, ∃ properties, n = { q.record with properties } := by
      intro n hn
      obtain ⟨q, hq, hn⟩ := hnodes n hn
      exact ⟨q, List.mem_cons_of_mem _ hq, hn⟩
    cases result with
    | ok n =>
      refine .pure ⟨_, rfl, fun n' hn' => ?_, hfailures⟩
      rcases List.mem_cons.1 hn' with rfl | hn'
      · exact ⟨p, by simp, hok _ rfl⟩
      · exact hold n' hn'
    | error e =>
      refine .pure ⟨_, rfl, hold, fun f hf => ?_⟩
      rcases List.mem_cons.1 hf with rfl | hf
      · exact herror e rfl
      · exact hfailures f hf

end Answers

/-! ## The whole preparation -/

variable {s : IngestSetting} {mapping : TypeMapping} {staged : StagedData}

/-- What the transformations of a mapping produce from a payload. -/
def production (s : IngestSetting) (mapping : TypeMapping) (staged : StagedData) :
    Except IngestError Produced :=
  ((produce s.ontology staged mapping.liveTransformations :
    Access Transaction IngestError Produced).run.run {}).1

/-- How a preparation ends that no outage ends: it has prepared what the mapping produces,
or the mapping does not pass the checks. -/
def Starts (s : IngestSetting) (mapping : TypeMapping) (staged : StagedData)
    (r : Except IngestError Prepared) : Prop :=
  (∃ produced prepared, r = .ok prepared ∧ checkMapping s.config mapping staged = .ok () ∧
    production s mapping staged = .ok produced ∧ produced.IsSound ∧
    PreparedFrom produced prepared) ∨
  ∃ e, r = .error e ∧ checkMapping s.config mapping staged = .error e

variable [PatternEngine]

theorem answers_prepare :
    Answers (fun _ : Transaction => True) s.IsOut IngestError.Tells (prepare s mapping staged)
      (Starts s mapping staged) := by
  unfold Starts
  cases hcheck : checkMapping s.config mapping staged with
  | error e =>
    refine Answers.bind (R := fun r => r = .error e) (.ofResult (by rw [hcheck]; rfl))
      (fun _ h => by contradiction) fun e' he => .inr ⟨e', rfl, ?_⟩
    cases he
    rfl
  | ok u =>
    refine Answers.bind (R := fun r => r = .ok u) (.ofResult (by rw [hcheck]; rfl))
      (fun _ _ => ?_) fun e' he => by contradiction
    refine (answers_produce (fun _ _ _ => trivial) mapping.liveTransformations).with_runs.bind
      (fun produced h => ?_) fun e he => ?_
    · obtain ⟨⟨_, heq, hsound⟩, hruns⟩ := h
      cases heq
      have hproduction : production s mapping staged = .ok produced := (hruns {} trivial).1
      refine (answers_validateNodes (fun _ _ _ => trivial) Memo.holds_empty
        produced.nodes).bind_ok fun (nodes, failures) ⟨hnodes, hfailures⟩ => ?_
      refine .pure (.inl ⟨produced, _, rfl, rfl, hproduction, hsound, hnodes, rfl, ?_⟩)
      intro f hf
      exact (List.mem_append.1 hf).elim (hsound.failures f) (hfailures f)
    · obtain ⟨⟨_, he, -⟩, -⟩ := he
      contradiction

/-- The preparation succeeds exactly if the mapping passes the checks, unless there is
an outage. -/
theorem answers_start :
    Answers (fun _ : Transaction => True) s.IsOut IngestError.Tells (start s mapping staged)
      (Starts s mapping staged) := by
  refine answers_prepare.bind (fun prepared h => ?_) fun e he => he
  refine Answers.call ?_ (fun _ _ => trivial) ?_ (.pure h)
  · rfl
  · rfl

end Ingest

end TypedGraph
