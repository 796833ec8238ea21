import TypedGraph.Proofs.Attempts

/-!
# Resolving an edge

Before an edge is written its pair is asked for, its properties are checked and nodes are looked
for at its ends (`Ingest.writeEdge_eq_resolveEdge`). All this changes nothing but the memos. Where
it succeeds, the nodes of either end are live nodes of the graph, in the order of their ids
(`EndNodes.AreIn.ascend`).
-/
namespace TypedGraph

open Access

/-- An edge with checked properties, its pair, and the nodes that its ends may be. -/
structure ResolvedEdge where
  pair : RelationshipPair
  edge : Edge
  origins : EndNodes
  destinations : EndNodes
deriving DecidableEq, Repr, Inhabited

namespace Ingest

variable [PatternEngine]

/-- Resolves an edge, or has an error of the record. -/
def resolveEdge (s : IngestSetting) (memo : EdgeMemo) (edge : Edge) :
    Access Transaction IngestError (Except RecordError ResolvedEdge × EdgeMemo) := do
  let (pair, pairs) ← memo.pairs.answer edge.pairId
    (askOntology (s.ontology.relationshipPair edge.containerId edge.pairId))
  let memo := { memo with pairs }
  match pair with
  | .error error => return (.error error, memo)
  | .ok pair =>
    let (edge, schemas) ← validateEdge s memo.schemas pair edge
    let memo := { memo with schemas }
    match edge with
    | .error error => return (.error error, memo)
    | .ok edge =>
      match ← findEnd s.ontology s.outage edge pair .origin with
      | .error error => return (.error error, memo)
      | .ok origins =>
        match ← findEnd s.ontology s.outage edge pair .destination with
        | .error error => return (.error error, memo)
        | .ok destinations => return (.ok ⟨pair, edge, origins, destinations⟩, memo)

variable [Supply]

/-- Writes an edge that was resolved, for every combination of the nodes of its ends. -/
def writeResolved (s : IngestSetting) :
    Except RecordError ResolvedEdge × EdgeMemo →
      Access Transaction IngestError (List (Except RecordError Edge) × EdgeMemo)
  | (.error error, memo) => return ([.error error], memo)
  | (.ok r, memo) => return (← connectAll s r.pair r.edge r.origins r.destinations, memo)

/-- Writing an edge is resolving it and then writing it for every combination of its ends. -/
theorem writeEdge_eq_resolveEdge (s : IngestSetting) (memo : EdgeMemo) (edge : Edge) :
    writeEdge s memo edge = resolveEdge s memo edge >>= writeResolved s := by
  unfold writeEdge resolveEdge
  rw [bind_assoc]
  refine bind_congr fun ⟨pair, pairs⟩ => ?_
  cases pair with
  | error e => rfl
  | ok pair =>
    dsimp only
    rw [bind_assoc]
    refine bind_congr fun ⟨edge, schemas⟩ => ?_
    cases edge with
    | error e => rfl
    | ok edge =>
      dsimp only
      rw [bind_assoc]
      refine bind_congr fun origins => ?_
      cases origins with
      | error e => rfl
      | ok origins =>
        dsimp only
        rw [bind_assoc]
        refine bind_congr fun destinations => ?_
        cases destinations <;> rfl

end Ingest

/-! ## The nodes of an end -/

/-- Whether nodes come in the order of their ids, each id once. -/
def AscendById (ns : List Node) : Prop := ns.Pairwise fun a b => a.id.getD "" < b.id.getD ""

/-- The records of a register come in the order of their ids. -/
theorem IsRegister.pairwise_values {α : Type} {base : α → RecordBase} {t : Table α}
    (h : IsRegister base t) :
    t.values.Pairwise fun a b => (base a).id.getD "" < (base b).id.getD "" := by
  have hrows : t.Pairwise fun p q => p.1 < q.1 := List.pairwise_map.1 h.ordered
  have hid : ∀ row ∈ t, (base row.2).id.getD "" = row.1 := by
    intro row hrow
    rw [h.id_eq (h.ordered.get?_of_mem hrow), Option.getD_some]
  refine List.pairwise_map.2 (hrows.imp_of_mem fun {p q} hp hq hlt => ?_)
  rw [hid p hp, hid q hq]
  exact hlt

/-- Nodes that an end may be, as they are found in a table: one at least, live, and in the order
of the table. -/
structure EndNodes.AreIn (nodes : Table Node) (ends : EndNodes) : Prop where
  ne_nil : ends.nodes ≠ []
  sublist : ends.nodes.Sublist nodes.values
  live : ∀ n ∈ ends.nodes, LiveIn nodes n

/-- In a sound graph the nodes of an end come in the order of their ids. -/
theorem EndNodes.AreIn.ascend {g : Graph} {ends : EndNodes} (h : ends.AreIn g.nodes)
    (hsound : g.IsSound) : AscendById ends.nodes :=
  hsound.nodes.pairwise_values.sublist h.sublist

/-- What an edge is resolved to on a table of nodes: the edge with other properties, and nodes
for its ends. -/
structure ResolvedEdge.IsFor (nodes : Table Node) (edge : Edge) (r : ResolvedEdge) : Prop where
  properties : ∃ properties, r.edge = { edge with properties }
  origins : r.origins.AreIn nodes
  destinations : r.destinations.AreIn nodes

namespace Ingest

variable {s : IngestSetting} {nodes : Table Node}

theorem answers_findEnd_areIn (edge : Edge) (pair : RelationshipPair) (which : End) :
    Answers (HasNodes nodes) s.IsOut IngestError.Tells
      (findEnd s.ontology s.outage edge pair which) fun r =>
        ∃ result : Except RecordError EndNodes, r = .ok result ∧
          ∀ ends, result = .ok ends → ends.AreIn nodes := by
  refine (answers_findEnd_mayEndAt edge pair which).mono fun r ⟨result, hr, hok, _⟩ => ?_
  refine ⟨result, hr, fun ends hends => ?_⟩
  obtain ⟨hne, hsublist, hmay⟩ := hok ends hends
  exact ⟨hne, hsublist, fun n hn => (hmay n hn).live⟩

variable [PatternEngine]

/-- Whatever a memo keeps, the check of an edge changes no more of it than its properties. -/
theorem answers_validateEdge_properties (memo : SchemaMemo) (pair : RelationshipPair)
    (edge : Edge) :
    Answers (HasNodes nodes) s.IsOut IngestError.Tells (validateEdge s memo pair edge) fun r =>
      ∃ ans, r = .ok ans ∧ ∀ x, ans.1 = .ok x → ∃ properties, x = { edge with properties } := by
  unfold validateEdge
  split
  · exact .pure ⟨_, rfl, fun x h => ⟨edge.properties, by cases h; rfl⟩⟩
  have hask : Answers (HasNodes nodes) s.IsOut IngestError.Tells
      (askSchema (s.ontology.relationshipKeys edge.containerId pair.relationshipId)) fun r =>
        ∃ answer, r = .ok answer ∧ True :=
    (answers_askSchema (Ontology.answers_lookUp rfl (hasNodes_record _))).mono
      fun r ⟨answer, hr, _⟩ => ⟨answer, hr, trivial⟩
  have hmemo : memo.Holds fun _ _ => True := fun _ _ _ => trivial
  refine (Memo.answers_answer hmemo hask).bind_ok fun ans _ => .pure ⟨_, rfl, fun x hx => ?_⟩
  exact eq_of_checkProperties hx

/-- What an edge is resolved to, in every run with these nodes, whatever the memos keep. -/
theorem answers_resolveEdge (memo : EdgeMemo) (edge : Edge) :
    Answers (HasNodes nodes) s.IsOut IngestError.Tells (resolveEdge s memo edge) fun r =>
      ∃ ans, r = .ok ans ∧ ∀ found, ans.1 = .ok found → found.IsFor nodes edge := by
  have hask : Answers (HasNodes nodes) s.IsOut IngestError.Tells
      (askOntology (s.ontology.relationshipPair edge.containerId edge.pairId)) fun r =>
        ∃ answer, r = .ok answer ∧ True :=
    (answers_askOntology edge.pairId (Ontology.answers_lookUp rfl
      (hasNodes_record _))).mono fun r ⟨answer, hr, _⟩ => ⟨answer, hr, trivial⟩
  have hmemo : memo.pairs.Holds fun _ _ => True := fun _ _ _ => trivial
  refine (Memo.answers_answer hmemo hask).bind_ok fun (pair, pairs) _ => ?_
  cases pair with
  | error e => exact .pure ⟨_, rfl, by simp⟩
  | ok pair =>
    refine (answers_validateEdge_properties memo.schemas pair edge).bind_ok
      fun (checked, schemas) hproperties => ?_
    cases checked with
    | error e => exact .pure ⟨_, rfl, by simp⟩
    | ok checked =>
      refine (answers_findEnd_areIn checked pair .origin).bind_ok fun origins horigins => ?_
      cases origins with
      | error e => exact .pure ⟨_, rfl, by simp⟩
      | ok origins =>
        refine (answers_findEnd_areIn checked pair .destination).bind_ok
          fun destinations hdestinations => ?_
        cases destinations with
        | error e => exact .pure ⟨_, rfl, by simp⟩
        | ok destinations =>
          refine .pure ⟨_, rfl, fun found hfound => ?_⟩
          cases hfound
          exact ⟨hproperties checked rfl, horigins origins rfl, hdestinations destinations rfl⟩

/-- Resolving an edge leaves the transaction as it is, and what it comes to is found in the
nodes of the transaction. -/
theorem resolveEdge_spec {memo memo' : EdgeMemo} {edge : Edge} {found : ResolvedEdge}
    {t t' : Transaction}
    (h : (resolveEdge s memo edge).run.run t = (.ok (.ok found, memo'), t')) :
    t'.graph = t.graph ∧ t'.drawn = t.drawn ∧ found.IsFor t.graph.nodes edge := by
  have hanswers : Answers (HasNodes t.graph.nodes) s.IsOut IngestError.Tells
      (resolveEdge s memo edge) _ := answers_resolveEdge memo edge
  have hnodes : HasNodes t.graph.nodes t := rfl
  obtain ⟨ans, hans, hfor⟩ := hanswers.of_ok hnodes (congrArg Prod.fst h)
  cases hans
  obtain ⟨r, calls, hruns, -⟩ := hanswers
  have hend := (hruns t hnodes).1
  rw [h, recordAll_transaction] at hend
  have hstate := congrArg Prod.snd hend
  simp only at hstate
  rw [hstate]
  exact ⟨rfl, rfl, hfor found rfl⟩

end Ingest

end TypedGraph
