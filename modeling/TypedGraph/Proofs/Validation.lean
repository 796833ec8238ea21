import TypedGraph.Proofs.Plans
import TypedGraph.Proofs.Schemas

/-!
# What validation lets through

The records that an ingest has validated are as their schemas return them. An ingest asks
for the schema of a metatype or a relationship once and keeps it by the id alone, which is
enough where all records belong to one container: what the memos keep is then the schema
that the ontology has for that container. Applying it to the properties that it returned
returns them again (`CompiledSchema.apply_again`).
-/
namespace TypedGraph

open Access

namespace OntologyStore

variable [PatternEngine]

/-- Whether a node has a metatype, and its properties are what the metatype returns for
them. -/
def AdmitsNode (o : OntologyStore) (n : Node) : Prop :=
  ∃ m, o.metatype? n.containerId n.metatypeId = some m ∧
    m.validateProperties (.object n.properties) = .ok n.properties

/-- Whether an edge has a pair, and its properties are what the keys of the relationship of
the pair return for them. -/
def AdmitsEdge (o : OntologyStore) (x : Edge) : Prop :=
  ∃ p keys, o.pair? x.containerId x.pairId = some p ∧
    o.relationshipKeys? x.containerId p.relationshipId = some keys ∧
    validate keys (.object x.properties) = .ok x.properties

variable {o : OntologyStore} {n n' : Node} {x x' : Edge}

theorem AdmitsNode.congr (h : o.AdmitsNode n) (hcontainer : n'.containerId = n.containerId)
    (hmetatype : n'.metatypeId = n.metatypeId) (hproperties : n'.properties = n.properties) :
    o.AdmitsNode n' := by
  unfold AdmitsNode
  rw [hcontainer, hmetatype, hproperties]
  exact h

theorem AdmitsEdge.congr (h : o.AdmitsEdge x) (hcontainer : x'.containerId = x.containerId)
    (hpair : x'.pairId = x.pairId) (hproperties : x'.properties = x.properties) :
    o.AdmitsEdge x' := by
  unfold AdmitsEdge
  rw [hcontainer, hpair, hproperties]
  exact h

end OntologyStore

/-- What keys return they return for itself. -/
theorem validate_again [PatternEngine] {keys : List PropertyKey} {p q : Entries}
    (h : validate keys (.object p) = .ok q) : validate keys (.object q) = .ok q := by
  unfold validate at h ⊢
  cases hcompile : CompiledSchema.compile keys with
  | error e =>
    rw [hcompile] at h
    contradiction
  | ok schema =>
    rw [hcompile] at h
    exact CompiledSchema.apply_again h

/-! ## Answers of the ontology -/

section Answers

variable {σ : Type}

namespace Ingest

variable [PatternEngine]

/-- Whether an answer, if it is a schema, is the one of keys that were found. -/
def IsSchemaOf (found : Option (List PropertyKey)) (answer : Except RecordError CompiledSchema) :
    Prop :=
  ∀ schema, answer = .ok schema →
    ∃ keys, found = some keys ∧ CompiledSchema.compile keys = .ok schema

omit [PatternEngine] in
theorem returns_askOntology {α : Type} {question : Access σ OntologyError α} {R : α → Prop}
    (h : Returns question R) :
    Returns (askOntology question) fun answer => ∀ a, answer = .ok a → R a := by
  refine h.outcome.bind fun r hr => ?_
  cases r with
  | ok a =>
    refine .pure fun b hb => hr b ?_
    cases hb
    rfl
  | error cause =>
    cases cause with
    | notFound kind id => exact .pure nofun
    | backend reason => exact .throw

theorem returns_askSchema {question : Access σ OntologyError (List PropertyKey)}
    {found : Option (List PropertyKey)} (h : Returns question fun keys => found = some keys) :
    Returns (askSchema question) (IsSchemaOf found) := by
  refine (returns_askOntology h).bind fun answer hanswer => ?_
  cases answer with
  | error e => exact .pure nofun
  | ok keys =>
    refine .pure fun schema hschema => ⟨keys, hanswer keys rfl, ?_⟩
    cases hcompile : CompiledSchema.compile keys with
    | error e =>
      rw [hcompile] at hschema
      contradiction
    | ok schema' =>
      rw [hcompile] at hschema
      cases hschema
      rfl

/-- A record that a schema admits has the properties that its keys return for them. -/
theorem checkProperties_ok {α : Type} {put : RecordBase → α} {found : Option (List PropertyKey)}
    {answer : Except RecordError CompiledSchema} (hanswer : IsSchemaOf found answer)
    {r : RecordBase} {a : α} (h : (checkProperties answer r).map put = .ok a) :
    ∃ keys properties, found = some keys ∧ a = put { r with properties } ∧
      validate keys (.object properties) = .ok properties := by
  have hchecked := checked_checkProperties put answer r
  rw [h] at hchecked
  cases hchecked with
  | @admitted schema properties applied =>
    obtain ⟨keys, hfound, hcompile⟩ := hanswer schema rfl
    refine ⟨keys, properties, hfound, rfl, validate_again (p := r.properties) ?_⟩
    unfold validate
    rw [hcompile]
    exact applied

end Ingest

theorem Memo.returns_answer {ε α : Type} {R : String → α → Prop} {memo : Memo α} {id : String}
    {question : Access σ ε α} (h : memo.Holds R) (hquestion : Returns question (R id)) :
    Returns (memo.answer id question) fun ans => R id ans.1 ∧ ans.2.Holds R := by
  unfold answer
  cases hlookup : memo.answers.lookup id with
  | some a => exact .pure ⟨h id a hlookup, h⟩
  | none => exact hquestion.bind fun a ha => .pure ⟨ha, h.keep ha⟩

/-! ## Nodes -/

variable [KeepsCalls σ]

theorem Ontology.returns_lookUp {α : Type} {o : Ontology} {m : Method} {kind : OntologyRecord}
    {id : String} {found : Option α} :
    Returns (o.lookUp m kind id found : Access σ OntologyError α) fun a => found = some a := by
  refine Returns.call ?_
  cases found with
  | none => exact .throw
  | some a => exact .pure rfl

namespace Transformation

variable {t : Transformation}

theorem containerId_of_produce {target : Target} {keys : List (String × PropertyKey)}
    {staged : StagedData} {index : List Nat} {record : GraphRecord}
    (h : t.produce target keys staged index = .ok record) :
    record.base.containerId = t.containerId := by
  obtain ⟨draft, rfl⟩ := eq_of_produce h
  cases target <;> rfl

theorem returns_apply (o : Ontology) (staged : StagedData) :
    Returns (t.apply o staged : Access σ TransformError TransformOutput) fun output =>
      ∀ r ∈ output.records, r.record.base.containerId = t.containerId := by
  unfold apply
  refine Returns.after fun target => ?_
  dsimp only
  split
  · exact .pure (by simp)
  · exact Returns.after fun keys =>
      .pure fun r hr => containerId_of_produce (produce_of_mem_records hr)

end Transformation

/-- Whether all records that were produced belong to a container. -/
structure Produced.BelongsTo (c : String) (p : Produced) : Prop where
  nodes : ∀ n ∈ p.nodes, n.record.containerId = c
  edges : ∀ x ∈ p.edges, x.record.containerId = c

namespace Produced

variable {c : String} {p q : Produced}

theorem BelongsTo.append (hp : p.BelongsTo c) (hq : q.BelongsTo c) : (p.append q).BelongsTo c where
  nodes n hn := (List.mem_append.1 hn).elim (hp.nodes n) (hq.nodes n)
  edges x hx := (List.mem_append.1 hx).elim (hp.edges x) (hq.edges x)

theorem belongsTo_ofOutput {transformationId : Option String} {output : TransformOutput}
    (h : ∀ r ∈ output.records, r.record.base.containerId = c) :
    (ofOutput transformationId output).BelongsTo c := by
  constructor
  · intro n hn
    obtain ⟨r, hr, hbase⟩ := record_of_mem_nodes hn
    rw [← h r hr, hbase]
  · intro x hx
    obtain ⟨r, hr, hbase⟩ := record_of_mem_edges hx
    rw [← h r hr, hbase]

end Produced

namespace Ingest

variable {s : IngestSetting} {mapping : TypeMapping} {staged : StagedData} {c : String}

theorem returns_produce {ts : List Transformation} (hts : ∀ t ∈ ts, t.containerId = c) :
    Returns (produce s.ontology staged ts : Access σ IngestError Produced) (·.BelongsTo c) := by
  induction ts with
  | nil => exact .pure ⟨by simp, by simp⟩
  | cons t ts ih =>
    have hrest := ih fun t ht => hts t (by simp [ht])
    have happend (produced : Produced) (h : produced.BelongsTo c) :
        Returns (do return produced.append (← produce s.ontology staged ts) :
          Access σ IngestError Produced) (·.BelongsTo c) :=
      hrest.bind fun rest hrest => .pure (h.append hrest)
    refine (Transformation.returns_apply s.ontology staged).outcome.bind fun r hr => ?_
    cases r with
    | ok output =>
      refine happend _ (Produced.belongsTo_ofOutput fun r hrecord => ?_)
      rw [hr output rfl r hrecord, hts t (by simp)]
    | error e =>
      dsimp only
      split
      · contradiction
      · exact .throw
      · exact happend _ ⟨by simp, by simp⟩

variable [PatternEngine]

/-- What the memo of the metatypes of a container keeps. -/
def NodeSchemas (o : OntologyStore) (c : String) : SchemaMemo → Prop :=
  Memo.Holds fun id => IsSchemaOf (o.metatypeKeys? c id)

theorem returns_validateNode (hvalidated : s.config.validateProperties = true)
    {memo : SchemaMemo} (hmemo : NodeSchemas s.ontology.store c memo) {n : Node}
    (hn : n.containerId = c) :
    Returns (validateNode s memo n : Access σ IngestError _) fun ans =>
      (∀ n', ans.1 = .ok n' → s.ontology.store.AdmitsNode n') ∧
        NodeSchemas s.ontology.store c ans.2 := by
  -- The memo goes by the metatype alone, so the container of the node has to be its own.
  subst hn
  unfold validateNode
  rw [hvalidated]
  refine (Memo.returns_answer hmemo (returns_askSchema Ontology.returns_lookUp)).bind
    fun (answer, memo') ⟨hanswer, hmemo'⟩ => .pure ⟨fun n' hn' => ?_, hmemo'⟩
  obtain ⟨keys, properties, hkeys, rfl, hvalid⟩ := checkProperties_ok hanswer hn'
  obtain ⟨m, hm, rfl⟩ := Option.map_eq_some_iff.1 hkeys
  exact ⟨m, hm, hvalid⟩

theorem returns_validateNodes (hvalidated : s.config.validateProperties = true)
    {memo : SchemaMemo} (hmemo : NodeSchemas s.ontology.store c memo) {ps : List (Pending Node)}
    (hps : ∀ p ∈ ps, p.record.containerId = c) :
    Returns (validateNodes s memo ps : Access σ IngestError _) fun ans =>
      ∀ n ∈ ans.1, s.ontology.store.AdmitsNode n := by
  induction ps generalizing memo with
  | nil => exact .pure (by simp)
  | cons p ps ih =>
    refine (returns_validateNode hvalidated hmemo (hps p (by simp))).bind
      fun (result, memo') ⟨hresult, hmemo'⟩ => ?_
    refine (ih hmemo' fun p hp => hps p (by simp [hp])).bind fun (nodes, failures) hnodes => ?_
    cases result with
    | error e => exact .pure hnodes
    | ok n =>
      refine .pure fun n' hn' => ?_
      rcases List.mem_cons.1 hn' with rfl | hn'
      · exact hresult _ rfl
      · exact hnodes n' hn'

/-- What is prepared with validation for one container: nodes that the ontology admits, and
edges of that container. -/
theorem returns_start (hvalidated : s.config.validateProperties = true)
    (hmapping : ∀ t ∈ mapping.liveTransformations, t.containerId = c) :
    Returns (start s mapping staged : Access σ IngestError Prepared) fun prepared =>
      (∀ n ∈ prepared.nodes, s.ontology.store.AdmitsNode n) ∧
        ∀ p ∈ prepared.edges, p.record.containerId = c := by
  have hprepare : Returns (prepare s mapping staged : Access σ IngestError Prepared)
      fun prepared => (∀ n ∈ prepared.nodes, s.ontology.store.AdmitsNode n) ∧
        ∀ p ∈ prepared.edges, p.record.containerId = c := by
    refine Returns.after fun _ => (returns_produce hmapping).bind fun produced hproduced => ?_
    refine (returns_validateNodes hvalidated Memo.holds_empty hproduced.nodes).bind
      fun (nodes, failures) hnodes => ?_
    exact .pure ⟨hnodes, hproduced.edges⟩
  exact hprepare.bind fun prepared h => Returns.call (.pure h)

end Ingest

end Answers

/-! ## Edges -/

namespace Ingest

variable {s : IngestSetting} {c : String}

variable [PatternEngine]

/-- What the memos of the pairs and relationships of a container keep. -/
structure EdgeAnswers (o : OntologyStore) (c : String) (memo : EdgeMemo) : Prop where
  pairs : memo.pairs.Holds fun id answer => ∀ p, answer = .ok p → o.pair? c id = some p
  schemas : memo.schemas.Holds fun id => IsSchemaOf (o.relationshipKeys? c id)

theorem edgeAnswers_empty (o : OntologyStore) (c : String) : EdgeAnswers o c {} :=
  ⟨Memo.holds_empty, Memo.holds_empty⟩

theorem returns_validateEdge (hvalidated : s.config.validateProperties = true)
    {memo : SchemaMemo}
    (hmemo : memo.Holds fun id => IsSchemaOf (s.ontology.store.relationshipKeys? c id))
    {pair : RelationshipPair} {edge : Edge} (hedge : edge.containerId = c)
    (hpair : s.ontology.store.pair? c edge.pairId = some pair) :
    Returns (validateEdge s memo pair edge) fun ans =>
      (∀ x, ans.1 = .ok x → s.ontology.store.AdmitsEdge x) ∧
        ans.2.Holds fun id => IsSchemaOf (s.ontology.store.relationshipKeys? c id) := by
  subst hedge
  unfold validateEdge
  rw [hvalidated]
  refine (Memo.returns_answer hmemo (returns_askSchema Ontology.returns_lookUp)).bind
    fun (answer, memo') ⟨hanswer, hmemo'⟩ => .pure ⟨fun x hx => ?_, hmemo'⟩
  obtain ⟨keys, properties, hkeys, rfl, hvalid⟩ := checkProperties_ok hanswer hx
  exact ⟨pair, keys, hpair, hkeys, hvalid⟩

/-- The copies of an edge are admitted if the edge is. -/
theorem admitsEdge_of_mem_attemptsFor {o : OntologyStore} {pair : RelationshipPair} {edge : Edge}
    {origins destinations : EndNodes} (hedge : o.AdmitsEdge edge) {a : Attempt}
    (ha : .ok a ∈ attemptsFor pair edge origins destinations) : o.AdmitsEdge a.edge := by
  obtain ⟨ends, -, heq⟩ := List.mem_map.1 ha
  cases heq
  dsimp only
  split
  · exact hedge.congr rfl rfl rfl
  · exact hedge

theorem returns_planEdge (hvalidated : s.config.validateProperties = true) {memo : EdgeMemo}
    (hmemo : EdgeAnswers s.ontology.store c memo) {edge : Edge} (hedge : edge.containerId = c) :
    Returns (planEdge s memo edge) fun ans =>
      (∀ a, .ok a ∈ ans.1 → s.ontology.store.AdmitsEdge a.edge) ∧
        EdgeAnswers s.ontology.store c ans.2 := by
  have hask : Returns (askOntology (s.ontology.relationshipPair edge.containerId edge.pairId) :
      Access Transaction IngestError _) fun answer =>
        ∀ p, answer = .ok p → s.ontology.store.pair? c edge.pairId = some p := by
    refine returns_askOntology ?_
    rw [hedge]
    exact Ontology.returns_lookUp
  refine (Memo.returns_answer hmemo.pairs hask).bind fun (pair, pairs) ⟨hpair, hpairs⟩ => ?_
  cases pair with
  | error e => exact .pure ⟨by simp, hpairs, hmemo.schemas⟩
  | ok pair =>
    refine (returns_validateEdge hvalidated hmemo.schemas hedge (hpair pair rfl)).bind
      fun (result, schemas) ⟨hresult, hschemas⟩ => ?_
    cases result with
    | error e => exact .pure ⟨by simp, hpairs, hschemas⟩
    | ok x =>
      refine Returns.after fun origins => ?_
      cases origins with
      | error e => exact .pure ⟨by simp, hpairs, hschemas⟩
      | ok origins =>
        refine Returns.after fun destinations => ?_
        cases destinations with
        | error e => exact .pure ⟨by simp, hpairs, hschemas⟩
        | ok destinations =>
          exact .pure ⟨fun a ha => admitsEdge_of_mem_attemptsFor (hresult x rfl) ha,
            hpairs, hschemas⟩

/-- Every edge that is planned with validation for one container is one that the ontology
admits. -/
theorem returns_planEdges (hvalidated : s.config.validateProperties = true) {memo : EdgeMemo}
    (hmemo : EdgeAnswers s.ontology.store c memo) {ps : List (Pending Edge)}
    (hps : ∀ p ∈ ps, p.record.containerId = c) :
    Returns (planEdges s memo ps) fun plan =>
      ∀ p ∈ plan, ∀ a, p.record = .ok a → s.ontology.store.AdmitsEdge a.edge := by
  induction ps generalizing memo with
  | nil => exact .pure (by simp)
  | cons p ps ih =>
    refine (returns_planEdge hvalidated hmemo (hps p (by simp))).bind
      fun (plan, memo') ⟨hplan, hmemo'⟩ => ?_
    refine (ih hmemo' fun p hp => hps p (by simp [hp])).bind fun rest hrest => .pure ?_
    intro q hq a ha
    rcases List.mem_append.1 hq with hq | hq
    · obtain ⟨x, hx, rfl⟩ := List.mem_map.1 hq
      cases (ha : x = .ok a)
      exact hplan a hx
    · exact hrest q hq a ha

end Ingest

end TypedGraph
