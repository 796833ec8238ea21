import TypedGraph.Proofs.Alike
import TypedGraph.Proofs.Production

/-!
# Ingests that ask afresh

A lookup is made for the container of a record, but its answer is kept under the id that was
asked for alone. If every record has memos of its own, the ontology is asked afresh for each
(`GraphStore.ingestBy`). An ingest that keeps answers is like that one as long as what is kept
for an id answers the questions of the records that are still to come (`Memo.Fits`). This is so
if all records with one id ask alike (`Produced.IsCoherent`).
-/
namespace TypedGraph

open Access

namespace Memo

variable {σ ε α : Type} {E : σ → σ → Prop} {memo : Memo α} {id : String}
  {question : Access σ ε α}

theorem answer_empty (id : String) (question : Access σ ε α) :
    Memo.answer {} id question = question >>= fun a => pure (a, Memo.keep {} id a) := rfl

/-- Whether asking a question comes to the same as taking the answer that is kept for an id, if
there is one. -/
def Fits (E : σ → σ → Prop) (memo : Memo α) (id : String) (question : Access σ ε α) : Prop :=
  ∀ a, memo.answers.lookup id = some a → Alike E Eq question (pure a)

theorem fits_empty : Fits E {} id question :=
  fun _ h => by simp at h

theorem Fits.keep {a : α} {id' : String} (h : memo.Fits E id question)
    (ha : id = id' → Alike E Eq question (pure a)) : (memo.keep id' a).Fits E id question := by
  intro b hb
  unfold Memo.keep at hb
  by_cases heq : id = id'
  · subst heq
    rw [List.lookup_cons_self] at hb
    cases hb
    exact ha rfl
  · rw [List.lookup_cons, beq_false_of_ne heq] at hb
    exact h b hb

variable [KeepsCalls σ] {out : Method → Prop} {tells : Method → ε → Prop} {Q : Except ε α → Prop}

/-- A memo that fits a question answers it as an empty one does, and goes on to fit every
question that it did fit, unless that is another one for the same id. -/
theorem alike_answer (hE : IgnoresCalls E) (hfits : memo.Fits E id question)
    (hquestion : Answers (fun _ => True) out tells question Q) :
    Alike E (fun u v => u.1 = v.1 ∧ Alike E Eq question (pure v.1) ∧
        ∀ id' (question' : Access σ ε α), (id' = id → question' = question) →
          memo.Fits E id' question' → v.2.Fits E id' question')
      (Memo.answer {} id question) (memo.answer id question) := by
  rw [answer_empty]
  unfold Memo.answer
  cases hkept : memo.answers.lookup id with
  | some a =>
    have hasked := hfits a hkept
    exact hasked.bind_left (.pure ⟨rfl, hasked, fun _ _ _ h => h⟩)
  | none =>
    refine (alike_of_question hE hquestion).bind fun a b ⟨hab, _, hasked⟩ => ?_
    subst hab
    exact .pure ⟨rfl, hasked, fun id' question' hsame h => h.keep fun heq => hsame heq ▸ hasked⟩

end Memo

/-! ## Records that ask alike -/

namespace OntologyStore

/-- Whether two nodes of one metatype have the same keys, each in its own container. -/
def AgreesOnNodes (o : OntologyStore) (n n' : Node) : Prop :=
  n.metatypeId = n'.metatypeId →
    o.metatypeKeys? n.containerId n.metatypeId = o.metatypeKeys? n'.containerId n'.metatypeId

/-- Whether two edges of one pair have the same pair, and two whose pairs are of one
relationship the same keys, each in its own container. -/
structure AgreesOnEdges (o : OntologyStore) (validates : Bool) (x x' : Edge) : Prop where
  pairs : x.pairId = x'.pairId → o.pair? x.containerId x.pairId = o.pair? x'.containerId x'.pairId
  relationships : validates = true → ∀ p p', o.pair? x.containerId x.pairId = some p →
    o.pair? x'.containerId x'.pairId = some p' → p.relationshipId = p'.relationshipId →
    o.relationshipKeys? x.containerId p.relationshipId =
      o.relationshipKeys? x'.containerId p'.relationshipId

end OntologyStore

/-- Whether the records that were produced ask an ontology alike. -/
structure Produced.IsCoherent (o : OntologyStore) (validates : Bool) (produced : Produced) :
    Prop where
  nodes : validates = true → ∀ p ∈ produced.nodes, ∀ q ∈ produced.nodes,
    o.AgreesOnNodes p.record q.record
  edges : ∀ p ∈ produced.edges, ∀ q ∈ produced.edges, o.AgreesOnEdges validates p.record q.record

namespace Ingest

variable {s : IngestSetting}

/-! ## Nodes -/

section Nodes

variable {σ : Type} [KeepsCalls σ] {E : σ → σ → Prop}

variable [PatternEngine]

/-- The question that is asked for a node. -/
def nodeQuestion (s : IngestSetting) (n : Node) :
    Access σ IngestError (Except RecordError CompiledSchema) :=
  askSchema (s.ontology.metatypeKeys n.containerId n.metatypeId)

theorem nodeQuestion_congr {n n' : Node} (h : s.ontology.store.AgreesOnNodes n n')
    (hid : n.metatypeId = n'.metatypeId) :
    (nodeQuestion s n : Access σ IngestError _) = nodeQuestion s n' := by
  unfold nodeQuestion Ontology.metatypeKeys
  rw [h hid, hid]

/-- Whether a memo fits a node. -/
def NodeFits (E : σ → σ → Prop) (s : IngestSetting) (memo : SchemaMemo) (n : Node) : Prop :=
  memo.Fits E n.metatypeId (nodeQuestion s n)

theorem alike_validateNode (hE : IgnoresCalls E) {memo : SchemaMemo} {n : Node}
    (hfits : s.config.validateProperties = true → NodeFits E s memo n) :
    Alike E (fun u v => u.1 = v.1 ∧ ∀ n', s.config.validateProperties = true →
        s.ontology.store.AgreesOnNodes n' n → NodeFits E s memo n' → NodeFits E s v.2 n')
      (validateNode s {} n) (validateNode s memo n) := by
  unfold validateNode
  split
  · exact .pure ⟨rfl, fun _ _ _ h => h⟩
  · have hvalidated : s.config.validateProperties = true := by simp_all
    refine (Memo.alike_answer hE (hfits hvalidated) (answers_askSchema
      (Ontology.answers_lookUp rfl (fun _ _ => trivial)))).bind fun (_, _) (schema, memo') h => ?_
    obtain ⟨rfl, -, hkeep⟩ := h
    exact .pure ⟨rfl, fun n' _ hagrees h => hkeep _ _ (nodeQuestion_congr hagrees) h⟩

/-- What the result for a node comes to: the node, or its failure. -/
def settleNode (p : Pending Node) : Except RecordError Node → List Node × List RecordFailure
  | .ok n => ([n], [])
  | .error error => ([], [p.failure error])

theorem validateNodes_singleton (memo : SchemaMemo) (p : Pending Node) :
    (validateNodes s memo [p] : Access σ IngestError _) =
      validateNode s memo p.record >>= fun ans => pure (settleNode p ans.1) := by
  unfold validateNodes
  refine bind_congr fun ans => ?_
  obtain ⟨result, memo'⟩ := ans
  cases result <;> rfl

/-- Applies schemas to nodes, each with a memo of its own. -/
def validateNodesAfresh (s : IngestSetting) :
    List (Pending Node) → Access σ IngestError (List Node × List RecordFailure)
  | [] => return ([], [])
  | p :: rest => do
    let (nodes, failures) ← validateNodes s {} [p]
    let (nodes', failures') ← validateNodesAfresh s rest
    return (nodes ++ nodes', failures ++ failures')

/-- Validating nodes with a memo that fits them all is like asking for each of them. -/
theorem alike_validateNodes (hE : IgnoresCalls E) {memo : SchemaMemo} {ps : List (Pending Node)}
    (hfits : s.config.validateProperties = true → ∀ p ∈ ps, NodeFits E s memo p.record)
    (hagree : s.config.validateProperties = true → ∀ p ∈ ps, ∀ q ∈ ps,
      s.ontology.store.AgreesOnNodes p.record q.record) :
    Alike E Eq (validateNodesAfresh s ps) (validateNodes s memo ps) := by
  induction ps generalizing memo with
  | nil => exact .pure rfl
  | cons p ps ih =>
    have hfirst : Alike E (fun u v => u = settleNode p v.1 ∧ ∀ n',
        s.config.validateProperties = true → s.ontology.store.AgreesOnNodes n' p.record →
          NodeFits E s memo n' → NodeFits E s v.2 n')
        (validateNodes s {} [p]) (validateNode s memo p.record) := by
      rw [validateNodes_singleton, ← bind_pure (validateNode s memo p.record)]
      exact (alike_validateNode hE fun h => hfits h p (by simp)).bind
        fun _ _ ⟨heq, hkeep⟩ => .pure ⟨by rw [heq], hkeep⟩
    refine hfirst.bind fun _ (result, memo') ⟨heq, hkeep⟩ => ?_
    subst heq
    have hrest : Alike E Eq (validateNodesAfresh s ps) (validateNodes s memo' ps) := by
      refine ih (fun h q hq => ?_) fun h q hq r hr => ?_
      · exact hkeep q.record h (hagree h q (by simp [hq]) p (by simp)) (hfits h q (by simp [hq]))
      · exact hagree h q (by simp [hq]) r (by simp [hr])
    refine hrest.bind_eq fun (nodes, failures) => ?_
    cases result with
    | ok n => exact .pure rfl
    | error e => exact .pure rfl

end Nodes

/-! ## Edges -/

/-- The question for the pair of an edge. -/
def pairQuestion (s : IngestSetting) (x : Edge) :
    Access Transaction IngestError (Except RecordError RelationshipPair) :=
  askOntology (s.ontology.relationshipPair x.containerId x.pairId)

variable [PatternEngine]

/-- The question for the schema of an edge of a pair. -/
def edgeQuestion (s : IngestSetting) (x : Edge) (p : RelationshipPair) :
    Access Transaction IngestError (Except RecordError CompiledSchema) :=
  askSchema (s.ontology.relationshipKeys x.containerId p.relationshipId)

omit [PatternEngine] in
theorem pairQuestion_congr {validates : Bool} {x x' : Edge}
    (h : s.ontology.store.AgreesOnEdges validates x x') (hid : x.pairId = x'.pairId) :
    pairQuestion s x = pairQuestion s x' := by
  unfold pairQuestion Ontology.relationshipPair
  rw [h.pairs hid, hid]

theorem edgeQuestion_congr {x x' : Edge} {p p' : RelationshipPair}
    (h : s.ontology.store.AgreesOnEdges true x x')
    (hp : s.ontology.store.pair? x.containerId x.pairId = some p)
    (hp' : s.ontology.store.pair? x'.containerId x'.pairId = some p')
    (hid : p.relationshipId = p'.relationshipId) : edgeQuestion s x p = edgeQuestion s x' p' := by
  unfold edgeQuestion Ontology.relationshipKeys
  rw [h.relationships rfl p p' hp hp' hid, hid]

/-- Whether memos fit an edge. -/
structure EdgeFits (s : IngestSetting) (memo : EdgeMemo) (x : Edge) : Prop where
  pairs : memo.pairs.Fits Transaction.Agrees x.pairId (pairQuestion s x)
  schemas : s.config.validateProperties = true → ∀ p,
    s.ontology.store.pair? x.containerId x.pairId = some p →
    memo.schemas.Fits Transaction.Agrees p.relationshipId (edgeQuestion s x p)

omit [PatternEngine] in
theorem pair?_of_alike {x : Edge} {p : RelationshipPair}
    (h : Alike Transaction.Agrees Eq (pairQuestion s x) (pure (.ok p))) :
    s.ontology.store.pair? x.containerId x.pairId = some p := by
  have hreturns : Returns (pairQuestion s x) fun answer => ∀ p, answer = .ok p →
      s.ontology.store.pair? x.containerId x.pairId = some p :=
    returns_askOntology Ontology.returns_lookUp
  have hagrees : Transaction.Agrees default default := rfl
  exact h.of_returns hreturns hagrees p rfl

theorem alike_validateEdge {memo : SchemaMemo} {x : Edge} {p : RelationshipPair}
    (hfits : s.config.validateProperties = true →
      memo.Fits Transaction.Agrees p.relationshipId (edgeQuestion s x p)) :
    Alike Transaction.Agrees (fun u v => u.1 = v.1 ∧
        ∀ x' p', s.config.validateProperties = true →
          (p'.relationshipId = p.relationshipId → edgeQuestion s x' p' = edgeQuestion s x p) →
          memo.Fits Transaction.Agrees p'.relationshipId (edgeQuestion s x' p') →
          v.2.Fits Transaction.Agrees p'.relationshipId (edgeQuestion s x' p'))
      (validateEdge s {} p x) (validateEdge s memo p x) := by
  unfold validateEdge
  split
  · exact .pure ⟨rfl, fun _ _ _ _ h => h⟩
  · have hvalidated : s.config.validateProperties = true := by simp_all
    refine (Memo.alike_answer Transaction.ignoresCalls_agrees (hfits hvalidated)
      (answers_askSchema (Ontology.answers_lookUp rfl (fun _ _ => trivial)))).bind
      fun (_, _) (schema, memo') h => ?_
    obtain ⟨rfl, -, hkeep⟩ := h
    exact .pure ⟨rfl, fun x' p' _ hsame h => hkeep _ _ hsame h⟩

variable [Supply]

/-- Writing an edge with memos that fit it is like writing it with empty ones, and the memos
go on to fit every edge that they did fit, unless it asks otherwise. -/
theorem alike_writeEdge {memo : EdgeMemo} {x : Edge} (hfits : EdgeFits s memo x) :
    Alike Transaction.Agrees (fun u v => u.1 = v.1 ∧ ∀ y,
        s.ontology.store.AgreesOnEdges s.config.validateProperties y x →
          EdgeFits s memo y → EdgeFits s v.2 y)
      (writeEdge s {} x) (writeEdge s memo x) := by
  refine (Memo.alike_answer Transaction.ignoresCalls_agrees hfits.pairs
    (answers_askOntology x.pairId (Ontology.answers_lookUp rfl (fun _ _ => trivial)))).bind
    fun (pair, pairs) (_, pairs') h => ?_
  obtain ⟨rfl, hasked, hkeep⟩ := h
  cases pair with
  | error e =>
    exact .pure ⟨rfl, fun y hagrees hy =>
      ⟨hkeep _ _ (pairQuestion_congr hagrees) hy.pairs, hy.schemas⟩⟩
  | ok p =>
    have hp := pair?_of_alike hasked
    refine (alike_validateEdge fun h => hfits.schemas h p hp).bind
      fun (edge, schemas) (_, schemas') h => ?_
    obtain ⟨rfl, hkeep'⟩ := h
    have hends : ∀ y, s.ontology.store.AgreesOnEdges s.config.validateProperties y x →
        EdgeFits s memo y → EdgeFits s ⟨pairs', schemas'⟩ y := by
      refine fun y hagrees hy => ⟨?_, fun hvalidated q hq => ?_⟩
      · exact hkeep _ _ (pairQuestion_congr hagrees) hy.pairs
      · rw [hvalidated] at hagrees
        exact hkeep' y q hvalidated (edgeQuestion_congr hagrees hq hp) (hy.schemas hvalidated q hq)
    -- what follows consults no memo
    cases edge with
    | error e => exact .pure ⟨rfl, hends⟩
    | ok edge =>
      refine (alike_findEnd edge p .origin).bind_eq fun origins => ?_
      cases origins with
      | error e => exact .pure ⟨rfl, hends⟩
      | ok origins =>
        refine (alike_findEnd edge p .destination).bind_eq fun destinations => ?_
        cases destinations with
        | error e => exact .pure ⟨rfl, hends⟩
        | ok destinations =>
          exact (alike_connectAll p edge origins destinations).bind_eq fun results =>
            .pure ⟨rfl, hends⟩

/-- What the results for an edge come to: the edges, and the failures. -/
def settleEdges (p : Pending Edge) (results : List (Except RecordError Edge)) :
    List Edge × List RecordFailure :=
  (results.filterMap Except.toOption, results.filterMap fun
    | .ok _ => none
    | .error error => some (p.failure error))

theorem writeEdges_singleton (memo : EdgeMemo) (p : Pending Edge) :
    writeEdges s memo [p] =
      writeEdge s memo p.record >>= fun ans => pure (settleEdges p ans.1) := by
  unfold writeEdges
  refine bind_congr fun ans => ?_
  obtain ⟨results, memo'⟩ := ans
  simp only [writeEdges, pure_bind, List.append_nil]
  rfl

/-- Writes edges, each with memos of its own. -/
def writeEdgesAfresh (s : IngestSetting) :
    List (Pending Edge) → Access Transaction IngestError (List Edge × List RecordFailure)
  | [] => return ([], [])
  | p :: rest => do
    let (edges, failures) ← writeEdges s {} [p]
    let (edges', failures') ← writeEdgesAfresh s rest
    return (edges ++ edges', failures ++ failures')

/-- Writing edges with memos that fit them all is like asking for each of them. -/
theorem alike_writeEdges {memo : EdgeMemo} {ps : List (Pending Edge)}
    (hfits : ∀ p ∈ ps, EdgeFits s memo p.record)
    (hagree : ∀ p ∈ ps, ∀ q ∈ ps,
      s.ontology.store.AgreesOnEdges s.config.validateProperties p.record q.record) :
    Alike Transaction.Agrees Eq (writeEdgesAfresh s ps) (writeEdges s memo ps) := by
  induction ps generalizing memo with
  | nil => exact .pure rfl
  | cons p ps ih =>
    have hfirst : Alike Transaction.Agrees (fun u v => u = settleEdges p v.1 ∧ ∀ y,
        s.ontology.store.AgreesOnEdges s.config.validateProperties y p.record →
          EdgeFits s memo y → EdgeFits s v.2 y)
        (writeEdges s {} [p]) (writeEdge s memo p.record) := by
      rw [writeEdges_singleton, ← bind_pure (writeEdge s memo p.record)]
      exact (alike_writeEdge (hfits p (by simp))).bind
        fun _ _ ⟨heq, hkeep⟩ => .pure ⟨by rw [heq], hkeep⟩
    refine hfirst.bind fun _ (results, memo') ⟨heq, hkeep⟩ => ?_
    subst heq
    have hrest : Alike Transaction.Agrees Eq (writeEdgesAfresh s ps) (writeEdges s memo' ps) := by
      refine ih (fun q hq => ?_) fun q hq r hr => ?_
      · exact hkeep q.record (hagree q (by simp [hq]) p (by simp)) (hfits q (by simp [hq]))
      · exact hagree q (by simp [hq]) r (by simp [hr])
    refine hrest.bind_eq fun (edges, failures) => .pure ?_
    rfl

end Ingest

/-! ## Whole ingests -/

/-- How often an ingest asks the ontology. -/
inductive Asking where
  /-- Once for every id. The answer is kept for the records that are still to come. -/
  | once
  /-- For every record. -/
  | afresh

namespace Ingest

/-- Whether the records ask alike that a mapping produces which passes the checks. -/
def AsksAlike (s : IngestSetting) (mapping : TypeMapping) (staged : StagedData) : Prop :=
  checkMapping s.config mapping staged = .ok () →
    (mapping.produced s.ontology.store staged).IsCoherent s.ontology.store
      s.config.validateProperties

variable {s : IngestSetting} {mapping : TypeMapping} {staged : StagedData}

section Preparation

variable {σ : Type} [KeepsCalls σ] {E : σ → σ → Prop}

variable [PatternEngine]

/-- Applies schemas to nodes, with one memo for all or with one for each. -/
def validateNodesBy (s : IngestSetting) :
    Asking → List (Pending Node) → Access σ IngestError (List Node × List RecordFailure)
  | .once, ps => validateNodes s {} ps
  | .afresh, ps => validateNodesAfresh s ps

/-- Everything that comes before the transaction. -/
def prepareBy (asking : Asking) (s : IngestSetting) (mapping : TypeMapping)
    (staged : StagedData) : Access σ IngestError Prepared := do
  Access.ofResult id (checkMapping s.config mapping staged)
  let produced ← produce s.ontology staged mapping.liveTransformations
  let (nodes, failures) ← validateNodesBy s asking produced.nodes
  return ⟨nodes, produced.edges, produced.failures ++ failures⟩

/-- Everything up to the beginning of the transaction. -/
def startBy (asking : Asking) (s : IngestSetting) (mapping : TypeMapping) (staged : StagedData) :
    Access σ IngestError Prepared := do
  let prepared ← prepareBy asking s mapping staged
  Access.call s.outage .begin (fun reason => .storage (.backend reason)) (return prepared)

/-- Records that ask alike are prepared alike, whether answers are kept or not. -/
theorem alike_start (hE : IgnoresCalls E) (h : AsksAlike s mapping staged) :
    Alike E (fun a b => a = b ∧ ∀ p ∈ a.edges, ∀ q ∈ a.edges,
        s.ontology.store.AgreesOnEdges s.config.validateProperties p.record q.record)
      (startBy .afresh s mapping staged) (start s mapping staged) := by
  have hprepare : Alike E (fun a b => a = b ∧ ∀ p ∈ a.edges, ∀ q ∈ a.edges,
        s.ontology.store.AgreesOnEdges s.config.validateProperties p.record q.record)
      (prepareBy .afresh s mapping staged) (prepare s mapping staged) := by
    unfold prepareBy prepare
    dsimp only
    cases hcheck : checkMapping s.config mapping staged with
    | error e => exact Alike.bind (R := fun _ _ => False) (.throw e) fun _ _ => False.elim
    | ok u =>
      refine Alike.bind_eq (.pure rfl) fun _ => ?_
      refine (alike_of_question hE (answers_produce_eq (s := s) (fun _ _ _ => trivial)
        mapping.liveTransformations)).bind fun produced _ ⟨heq, hproduced, _⟩ => ?_
      subst heq
      have heq : produced = mapping.produced s.ontology.store staged := Except.ok.inj hproduced
      subst heq
      have hcoherent := h hcheck
      have hnodes := alike_validateNodes hE (fun _ _ _ => Memo.fits_empty) hcoherent.nodes
      exact hnodes.bind_eq fun _ => .pure ⟨rfl, hcoherent.edges⟩
  exact hprepare.bind fun a b hab => .call hE (.pure hab)

end Preparation

variable [Supply] [PatternEngine]

/-- Writes edges, with the same memos for all or with memos of its own for each. -/
def writeEdgesBy (s : IngestSetting) :
    Asking → List (Pending Edge) → Access Transaction IngestError (List Edge × List RecordFailure)
  | .once, ps => writeEdges s {} ps
  | .afresh, ps => writeEdgesAfresh s ps

/-- Everything that happens in the transaction. -/
def writeBy (asking : Asking) (s : IngestSetting) (prepared : Prepared) :
    Access Transaction IngestError IngestReport := do
  let nodes ← Access.ofResult .storage
    (← Access.outcome (Transaction.putNodes s.outage prepared.nodes))
  let (edges, failures) ← writeEdgesBy s asking prepared.edges
  return ⟨nodes, edges, prepared.failures ++ failures⟩

/-- An ingest that asks the ontology once for every id, or afresh for every record. -/
def runBy (asking : Asking) (s : IngestSetting) (mapping : TypeMapping) (staged : StagedData) :
    Access Transaction IngestError IngestReport := do
  let prepared ← startBy asking s mapping staged
  let report ← writeBy asking s prepared
  Access.call s.outage .commit (fun reason => .storage (.backend reason)) (return report)

/-- It is once for every id that an ingest asks. -/
theorem runBy_once (s : IngestSetting) (mapping : TypeMapping) (staged : StagedData) :
    runBy .once s mapping staged = run s mapping staged := rfl

theorem alike_write {prepared : Prepared}
    (h : ∀ p ∈ prepared.edges, ∀ q ∈ prepared.edges,
      s.ontology.store.AgreesOnEdges s.config.validateProperties p.record q.record) :
    Alike Transaction.Agrees Eq (writeBy .afresh s prepared) (write s prepared) := by
  refine (Transaction.alike_putNodes s.outage prepared.nodes).outcome.bind_eq fun r => ?_
  refine (Alike.ofResult _ _).bind_eq fun nodes => ?_
  have hfits : ∀ p ∈ prepared.edges, EdgeFits s {} p.record :=
    fun _ _ => ⟨Memo.fits_empty, fun _ _ _ => Memo.fits_empty⟩
  exact (alike_writeEdges hfits h).bind_eq fun _ => .pure rfl

/-- Records that ask alike are ingested alike, whether answers are kept or not. -/
theorem alike_run (h : AsksAlike s mapping staged) :
    Alike Transaction.Agrees Eq (runBy .afresh s mapping staged) (run s mapping staged) := by
  refine (alike_start Transaction.ignoresCalls_agrees h).bind fun prepared _ ⟨heq, hedges⟩ => ?_
  subst heq
  exact (alike_write hedges).bind_eq fun report => .call Transaction.ignoresCalls_agrees (.pure rfl)

end Ingest

namespace GraphStore

open Ingest

variable {s : IngestSetting} {mapping : TypeMapping} {staged : StagedData}

variable [PatternEngine]

/-- How an ingest ends that has to wait for an open transaction. -/
def waitForLockBy (asking : Asking) (s : IngestSetting) (mapping : TypeMapping)
    (staged : StagedData) : IngestRefusal :=
  match ((startBy asking s mapping staged : Access (List Method) _ _).run.run []).1 with
  | .error cause => .failed cause
  | .ok _ =>
    match s.config.timeout with
    | some milliseconds => .failed (.timedOut milliseconds)
    | none => .locked

variable [Supply]

/-- Ingests a payload into a store, asking the ontology once for every id, or afresh for every
record. -/
def ingestBy (asking : Asking) (g : GraphStore) (s : IngestSetting) (mapping : TypeMapping)
    (staged : StagedData) (isCancelled : Bool) : Except IngestRefusal IngestReport × GraphStore :=
  if isCancelled then (.error (.failed .cancelled), g)
  else
    match g.working with
    | some _ => (.error (waitForLockBy asking s mapping staged), g)
    | none =>
      match (runBy asking s mapping staged).run.run g.opened with
      | (.ok report, t) => (.ok report, { g with committed := t.graph, drawn := t.drawn })
      | (.error cause, t) => (.error (.failed cause), { g with drawn := t.drawn })

/-- It is once for every id that an ingest into a store asks. -/
theorem ingestBy_once (g : GraphStore) (s : IngestSetting) (mapping : TypeMapping)
    (staged : StagedData) (isCancelled : Bool) :
    ingestBy .once g s mapping staged isCancelled = g.ingest s mapping staged isCancelled := by
  unfold ingestBy ingest ingestAlone
  rw [runBy_once, ← opened]
  rcases (run s mapping staged).run.run g.opened with ⟨_ | _, t⟩ <;> rfl

omit [Supply] in
theorem waitForLockBy_afresh (h : AsksAlike s mapping staged) :
    waitForLockBy .afresh s mapping staged = waitForLock s mapping staged := by
  have hstart := alike_start (σ := List Method) (E := fun _ _ => True)
    ⟨fun _ => trivial, fun _ => trivial⟩ h
  have hmatch := (hstart [] [] trivial).1
  unfold waitForLockBy waitForLock
  generalize ((startBy .afresh s mapping staged :
    Access (List Method) _ _).run.run []).1 = r at hmatch
  generalize ((start s mapping staged : Access (List Method) _ _).run.run []).1 = r' at hmatch
  cases hmatch with
  | ok _ => rfl
  | error e => rfl

/-- Where records ask alike, an ingest ends as the one that asks for each of them. -/
theorem ingestBy_afresh (h : AsksAlike s mapping staged) (g : GraphStore) (isCancelled : Bool) :
    ingestBy .afresh g s mapping staged isCancelled = g.ingest s mapping staged isCancelled := by
  have hrun := alike_run h g.opened g.opened rfl
  unfold ingestBy ingest ingestAlone
  rw [waitForLockBy_afresh h, ← opened]
  rcases hx : (runBy .afresh s mapping staged).run.run g.opened with ⟨r, t⟩
  rcases hy : (run s mapping staged).run.run g.opened with ⟨r', t'⟩
  rw [hx, hy] at hrun
  obtain ⟨hmatch, hagrees⟩ := hrun
  cases hmatch.eq
  have ht : t' = { t with calls := t'.calls } := hagrees.eq_with
  rw [ht]
  cases r <;> rfl

end GraphStore

end TypedGraph
