import TypedGraph.Proofs.Ends

/-!
# Plans for writing edges

Writing an edge plans its attempts, one for every combination of its ends, and then makes
them one after the other (`Ingest.writeEdge_eq`). A plan depends on the ontology and on the
nodes only. It attempts to join live nodes on the pair of the edge, or it has an error of
the record (`Ingest.answers_planEdge`).
-/
namespace TypedGraph

open Access

/-- An edge that is to be written between two nodes. -/
structure Attempt where
  pair : RelationshipPair
  edge : Edge
  origin : Node
  destination : Node
deriving DecidableEq, Repr, Inhabited

/-- The edge as it is to be written. -/
def Attempt.joined (a : Attempt) : Edge := Ingest.joinTo a.edge a.origin a.destination

/-- What is planned for edges: attempts, and errors of those that are not attempted. -/
abbrev Plan := List (Except RecordError Attempt)

/-- Another record on the same way. -/
def Pending.replace {α β : Type} (p : Pending α) (record : β) : Pending β := { p with record }

namespace Ingest

/-- The attempts at writing an edge for all combinations of its ends. -/
def attemptsFor (pair : RelationshipPair) (edge : Edge) (origins destinations : EndNodes) : Plan :=
  let isCopied := origins.byParameters || destinations.byParameters
  (origins.nodes.flatMap fun a => destinations.nodes.map fun b => (a, b)).map fun ends =>
    .ok ⟨pair, if isCopied then copyFor edge ends.1 ends.2 else edge, ends.1, ends.2⟩

variable [Supply]

/-- Makes an attempt, if there is one. -/
def attempt (s : IngestSetting) :
    Except RecordError Attempt → Access Transaction IngestError (Except RecordError Edge)
  | .error error => return .error error
  | .ok a => connect s a.pair a.edge a.origin a.destination

variable [PatternEngine]

/-- Plans the attempts at writing an edge. -/
def planEdge (s : IngestSetting) (memo : EdgeMemo) (edge : Edge) :
    Access Transaction IngestError (Plan × EdgeMemo) := do
  let (pair, pairs) ← memo.pairs.answer edge.pairId
    (askOntology (s.ontology.relationshipPair edge.containerId edge.pairId))
  let memo := { memo with pairs }
  match pair with
  | .error error => return ([.error error], memo)
  | .ok pair =>
    let (edge, schemas) ← validateEdge s memo.schemas pair edge
    let memo := { memo with schemas }
    match edge with
    | .error error => return ([.error error], memo)
    | .ok edge =>
      match ← findEnd s.ontology s.outage edge pair .origin with
      | .error error => return ([.error error], memo)
      | .ok origins =>
        match ← findEnd s.ontology s.outage edge pair .destination with
        | .error error => return ([.error error], memo)
        | .ok destinations => return (attemptsFor pair edge origins destinations, memo)

omit [PatternEngine] in
theorem connectAll_eq (s : IngestSetting) (pair : RelationshipPair) (edge : Edge)
    (origins destinations : EndNodes) :
    connectAll s pair edge origins destinations =
      (attemptsFor pair edge origins destinations).mapM (attempt s) := by
  unfold connectAll attemptsFor
  rw [List.mapM_map]
  rfl

/-- Writing an edge is planning it and making the attempts. -/
theorem writeEdge_eq (s : IngestSetting) (memo : EdgeMemo) (edge : Edge) :
    writeEdge s memo edge = (do
      let (plan, memo) ← planEdge s memo edge
      return (← plan.mapM (attempt s), memo)) := by
  have herror (e : RecordError) (memo : EdgeMemo) :
      (pure ([.error e], memo) : Access Transaction IngestError _) = (do
        let (plan, memo) ← pure (([.error e] : Plan), memo)
        return (← plan.mapM (attempt s), memo)) := by
    simp [attempt]
  unfold writeEdge planEdge
  rw [bind_assoc]
  refine bind_congr fun ⟨pair, pairs⟩ => ?_
  cases pair with
  | error e => exact herror e _
  | ok pair =>
    dsimp only
    rw [bind_assoc]
    refine bind_congr fun ⟨edge, schemas⟩ => ?_
    cases edge with
    | error e => exact herror e _
    | ok edge =>
      dsimp only
      rw [bind_assoc]
      refine bind_congr fun origins => ?_
      cases origins with
      | error e => exact herror e _
      | ok origins =>
        dsimp only
        rw [bind_assoc]
        refine bind_congr fun destinations => ?_
        cases destinations with
        | error e => exact herror e _
        | ok destinations =>
          dsimp only
          rw [pure_bind, connectAll_eq]

/-- Plans the attempts at writing edges, one edge after the other. -/
def planEdges (s : IngestSetting) :
    EdgeMemo → List (Pending Edge) →
      Access Transaction IngestError (List (Pending (Except RecordError Attempt)))
  | _, [] => return []
  | memo, p :: rest => do
    let (plan, memo) ← planEdge s memo p.record
    return plan.map p.replace ++ (← planEdges s memo rest)

end Ingest

/-! ## What is planned -/

/-- An attempt at writing an edge is that edge but for its properties and its identity,
which is composite if that of the edge is. It joins nodes that may be found at its ends, on a
pair of the ontology. -/
structure Attempt.IsFor (o : OntologyStore) (nodes : Table Node) (edge : Edge) (a : Attempt) :
    Prop where
  pair : o.pairs.get? a.edge.pairId = some a.pair
  origin : edge.MayEndAt nodes .origin a.origin
  destination : edge.MayEndAt nodes .destination a.destination
  id : a.edge.id = edge.id
  archived : a.edge.archived = edge.archived
  dataSource : a.edge.dataSourceId = edge.dataSourceId
  composite : a.edge.compositeId.isSome = edge.compositeId.isSome
  alike : edge.KnownAlike a.joined

/-- A plan for an edge has attempts at writing it and errors of its own. -/
structure Plan.IsFor (o : OntologyStore) (nodes : Table Node) (edge : Edge) (plan : Plan) :
    Prop where
  attempts : ∀ a, .ok a ∈ plan → a.IsFor o nodes edge
  errors : ∀ e, .error e ∈ plan → e.IsOwn

/-- What the memos of an ingest keep: pairs of the ontology, and errors of records. -/
structure EdgeMemo.IsSound (o : OntologyStore) (memo : EdgeMemo) : Prop where
  pairs : memo.pairs.Holds fun id answer =>
    (∀ p, answer = .ok p → o.pairs.get? id = some p) ∧ Ingest.FailsOwn id answer
  schemas : memo.schemas.Holds Ingest.FailsOwn

theorem EdgeMemo.isSound_empty (o : OntologyStore) : EdgeMemo.IsSound o {} :=
  ⟨Memo.holds_empty, Memo.holds_empty⟩

namespace Ingest

variable {s : IngestSetting} {nodes : Table Node} {memo : EdgeMemo}

/-- What is planned for an edge on a table of nodes: an error of the record, one of an end that
is missing, or an attempt for every combination of the nodes that its ends may be. -/
inductive PlannedFor (s : IngestSetting) (nodes : Table Node) (edge : Edge) : Plan → Prop
  | failed {e : RecordError} (own : e.IsOwn) (resolved : ∀ which, ¬ e.IsUnresolved which) :
      PlannedFor s nodes edge [.error e]
  | missing {p : RelationshipPair} {which : End} {e : RecordError}
      (missing : IsMissing s nodes edge p which e) : PlannedFor s nodes edge [.error e]
  | combined {p : RelationshipPair} {origins destinations : EndNodes} (properties : Entries)
      (pair : s.ontology.store.pairs.get? edge.pairId = some p)
      (origin : IsEnd s nodes edge p .origin origins)
      (destination : IsEnd s nodes edge p .destination destinations) :
      PlannedFor s nodes edge (attemptsFor p { edge with properties } origins destinations)

/-- The nodes that an edge is to join do not matter for what its ends are known by. -/
theorem knownAlike_joinTo (x : Edge) (origin destination : Node) :
    x.KnownAlike (joinTo x origin destination) := by
  constructor
  case container => rfl
  all_goals
    intro which
    cases which <;> rfl

theorem knownAlike_copyFor (x : Edge) (origin destination : Node) :
    x.KnownAlike (copyFor x origin destination) := by
  constructor
  case container => rfl
  all_goals
    intro which
    cases which <;> rfl

theorem planIsFor_attemptsFor {o : OntologyStore} {pair : RelationshipPair} {edge : Edge}
    {origins destinations : EndNodes} (properties : Entries)
    (hpair : o.pairs.get? edge.pairId = some pair)
    (horigins : ∀ n ∈ origins.nodes, edge.MayEndAt nodes .origin n)
    (hdestinations : ∀ n ∈ destinations.nodes, edge.MayEndAt nodes .destination n) :
    Plan.IsFor o nodes edge (attemptsFor pair { edge with properties } origins destinations) := by
  constructor
  · intro a ha
    obtain ⟨⟨n, n'⟩, hmem, heq⟩ := List.mem_map.1 ha
    obtain ⟨n, hn, hmem⟩ := List.mem_flatMap.1 hmem
    obtain ⟨n', hn', hends⟩ := List.mem_map.1 hmem
    cases hends
    cases heq
    have hproperties : edge.KnownAlike { edge with properties } :=
      ⟨rfl, fun _ => rfl, fun _ => rfl, fun _ => rfl⟩
    refine ⟨?_, horigins n hn, hdestinations n' hn', ?_, ?_, ?_, ?_, ?alike⟩
    case alike =>
      unfold Attempt.joined
      dsimp only
      split
      · exact (hproperties.trans (knownAlike_copyFor _ n n')).trans (knownAlike_joinTo _ n n')
      · exact hproperties.trans (knownAlike_joinTo _ n n')
    all_goals
      dsimp only
      split
      · simp [copyFor, hpair]
      · simp [hpair]
  · intro e he
    obtain ⟨_, -, heq⟩ := List.mem_map.1 he
    contradiction

theorem PlannedFor.isFor {edge : Edge} {plan : Plan} (h : PlannedFor s nodes edge plan) :
    plan.IsFor s.ontology.store nodes edge := by
  cases h with
  | failed own => exact ⟨by simp, by simpa using own⟩
  | missing missing => exact ⟨by simp, by simpa using missing.unresolved.isOwn⟩
  | combined properties pair origin destination =>
    exact planIsFor_attemptsFor properties pair (fun _ => origin.mayEndAt)
      fun _ => destination.mayEndAt

variable [PatternEngine]

theorem answers_validateEdge {memo : SchemaMemo} (hmemo : memo.Holds FailsOwn)
    (pair : RelationshipPair) (edge : Edge) :
    Answers (HasNodes nodes) s.IsOut IngestError.Tells (validateEdge s memo pair edge) fun r =>
      ∃ ans, r = .ok ans ∧ ans.2.Holds FailsOwn ∧
        (∀ x, ans.1 = .ok x → ∃ properties, x = { edge with properties }) ∧
        FailsOwn pair.relationshipId ans.1 := by
  unfold validateEdge
  split
  · exact .pure ⟨_, rfl, hmemo, fun x h => ⟨edge.properties, by cases h; rfl⟩, nofun⟩
  refine (Memo.answers_answer hmemo (answers_askSchema
    (Ontology.answers_lookUp rfl (hasNodes_record _)))).bind_ok fun ans ⟨hschema, hmemo'⟩ => ?_
  exact .pure ⟨_, rfl, hmemo', checkProperties_spec (fun base =>
    { edge with toRecordBase := base }) hschema edge.toRecordBase⟩

/-- A plan for an edge, or an outage. -/
theorem answers_planEdge (hmemo : memo.IsSound s.ontology.store) (edge : Edge) :
    Answers (HasNodes nodes) s.IsOut IngestError.Tells (planEdge s memo edge) fun r =>
      ∃ ans, r = .ok ans ∧ PlannedFor s nodes edge ans.1 ∧ ans.2.IsSound s.ontology.store := by
  have hask : Answers (HasNodes nodes) s.IsOut IngestError.Tells
      (askOntology (s.ontology.relationshipPair edge.containerId edge.pairId)) fun r =>
        ∃ answer, r = .ok answer ∧
          (∀ p, answer = .ok p → s.ontology.store.pairs.get? edge.pairId = some p) ∧
          FailsOwn edge.pairId answer := by
    refine (answers_askOntology edge.pairId (Ontology.answers_lookUp rfl
      (hasNodes_record _))).mono fun r hr => ?_
    obtain ⟨answer, rfl, hfound, hown⟩ := hr
    exact ⟨answer, rfl, fun p hp => (Option.filter_eq_some_iff.1 (hfound p hp)).1, hown⟩
  refine (Memo.answers_answer hmemo.pairs hask).bind_ok fun (pair, pairs) h => ?_
  obtain ⟨⟨hpair, hown⟩, hpairs⟩ := h
  cases pair with
  | error e =>
    exact .pure ⟨_, rfl, .failed (hown e rfl).1 (hown e rfl).2, hpairs, hmemo.schemas⟩
  | ok pair =>
    refine (answers_validateEdge hmemo.schemas pair edge).bind_ok fun (result, schemas) h => ?_
    obtain ⟨hschemas, hok, hfails⟩ := h
    have hsound : EdgeMemo.IsSound s.ontology.store ⟨pairs, schemas⟩ := ⟨hpairs, hschemas⟩
    cases result with
    | error e => exact .pure ⟨_, rfl, .failed (hfails e rfl).1 (hfails e rfl).2, hsound⟩
    | ok x =>
      obtain ⟨properties, hx⟩ := hok x rfl
      subst hx
      refine (answers_findEnd _ pair .origin).bind_ok fun origins ⟨horigins, hmissing⟩ => ?_
      cases origins with
      | error e => exact .pure ⟨_, rfl, .missing (hmissing e rfl).of_properties, hsound⟩
      | ok origins =>
        refine (answers_findEnd _ pair .destination).bind_ok
          fun destinations ⟨hdestinations, hmissing⟩ => ?_
        cases destinations with
        | error e => exact .pure ⟨_, rfl, .missing (hmissing e rfl).of_properties, hsound⟩
        | ok destinations =>
          exact .pure ⟨_, rfl, .combined properties (hpair pair rfl)
            (horigins _ rfl).of_properties (hdestinations _ rfl).of_properties, hsound⟩

end Ingest

end TypedGraph
