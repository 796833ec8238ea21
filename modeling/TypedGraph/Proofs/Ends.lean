import TypedGraph.Proofs.Preparation
import TypedGraph.Proofs.Registers

/-!
# The nodes that ends may be

The ends of an edge are looked for among the nodes of the transaction, and what is found
are live nodes (`Ingest.answers_findEnd`). They are nodes of the container of the edge where
they are found by parameters, and nodes of any container where they are found by identities.
The lookups see the nodes only, so that edges which are written in the meantime do not matter.
-/
namespace TypedGraph

open Access

/-- A node that is stored in a table and not archived. -/
def LiveIn (nodes : Table Node) (n : Node) : Prop := n ∈ nodes.values ∧ n.archived = false

theorem Table.mem_values_of_get? {α : Type} {t : Table α} {key : String} {a : α}
    (h : t.get? key = some a) : a ∈ t.values :=
  List.mem_map_of_mem (f := (·.2)) (mem_of_get? h)

namespace Graph

variable {g : Graph} {n : Node}

theorem liveIn_of_node? {id : String} (h : g.node? id = some n) : LiveIn g.nodes n := by
  obtain ⟨hget, hlive⟩ := Option.filter_eq_some_iff.1 h
  exact ⟨Table.mem_values_of_get? hget, by simpa using hlive⟩

theorem liveIn_of_nodeByComposite? {compositeId dataSourceId : String}
    (h : g.nodeByComposite? compositeId dataSourceId = some n) : LiveIn g.nodes n := by
  obtain ⟨hfind, hlive⟩ := Option.filter_eq_some_iff.1 h
  exact ⟨List.mem_of_find?_eq_some hfind, by simpa using hlive⟩

theorem liveIn_of_nodeByExternal? {externalId dataSourceId metatypeId : String}
    (h : g.nodeByExternal? externalId dataSourceId metatypeId = some n) : LiveIn g.nodes n := by
  refine ⟨List.mem_of_find?_eq_some h, ?_⟩
  have := List.find?_some h
  simp_all

theorem liveIn_of_mem_nodesWhere {f : NodeFilter} (h : n ∈ g.nodesWhere f) : LiveIn g.nodes n := by
  obtain ⟨hmem, hselects⟩ := List.mem_filter.1 h
  refine ⟨hmem, ?_⟩
  simp only [NodeFilter.selects, Bool.and_eq_true] at hselects
  simpa using hselects.1.1

theorem containerId_of_mem_nodesWhere {f : NodeFilter} (h : n ∈ g.nodesWhere f) :
    n.containerId = f.containerId := by
  have hselects := (List.mem_filter.1 h).2
  simp only [NodeFilter.selects, Bool.and_eq_true] at hselects
  simpa using hselects.1.2

end Graph

namespace Edge

/-- The data source in which an end of an edge is known: its own, or that of the edge. -/
def sourceAt (x : Edge) (which : End) : Option String :=
  (x.side which).dataSourceId <|> x.dataSourceId

/-- Whether an end of an edge is known by an identity of a node in its data source, by the
composite one or by the one that the node has there. -/
structure Identifies (x : Edge) (which : End) (n : Node) : Prop where
  source : ∃ id, x.sourceAt which = some id ∧ n.dataSourceId = some id
  identity : (∃ id, (x.side which).compositeId = some id ∧ n.compositeId = some id) ∨
    ∃ id, (x.side which).externalId = some id ∧ n.externalId = some id

/-- Whether two edges are of the same container, and their ends known by the same identities. -/
structure KnownAlike (x y : Edge) : Prop where
  container : y.containerId = x.containerId
  source : ∀ which, y.sourceAt which = x.sourceAt which
  composite : ∀ which, (y.side which).compositeId = (x.side which).compositeId
  external : ∀ which, (y.side which).externalId = (x.side which).externalId

/-- Whether a node may be found at an end of an edge: a live one, and one of the container of
the edge unless the end is known by the id of a node or by an identity of this one. -/
structure MayEndAt (nodes : Table Node) (x : Edge) (which : End) (n : Node) : Prop where
  live : LiveIn nodes n
  known : (x.side which).nodeId = none → n.containerId = x.containerId ∨ x.Identifies which n

variable {nodes : Table Node} {x y z : Edge} {which : End} {n : Node} {id dataSourceId : String}

theorem KnownAlike.trans (h : x.KnownAlike y) (h' : y.KnownAlike z) : x.KnownAlike z where
  container := h'.container.trans h.container
  source which := (h'.source which).trans (h.source which)
  composite which := (h'.composite which).trans (h.composite which)
  external which := (h'.external which).trans (h.external which)

theorem KnownAlike.identifies (h : x.KnownAlike y) (hx : x.Identifies which n) :
    y.Identifies which n := by
  refine ⟨?_, ?_⟩
  · rw [h.source]
    exact hx.source
  · rw [h.composite, h.external]
    exact hx.identity

theorem mayEndAt_of_node? (hend : (x.side which).nodeId = some id)
    (h : Graph.node? { nodes } id = some n) : x.MayEndAt nodes which n := by
  refine ⟨Graph.liveIn_of_node? h, fun hnone => ?_⟩
  rw [hend] at hnone
  contradiction

theorem mayEndAt_of_nodeByComposite? (hend : (x.side which).compositeId = some id)
    (hsource : x.sourceAt which = some dataSourceId)
    (h : Graph.nodeByComposite? { nodes } id dataSourceId = some n) :
    x.MayEndAt nodes which n := by
  have hfound := (Option.filter_eq_some_iff.1 h).1
  obtain ⟨hid, hdataSource⟩ := RecordBase.hasIdentity_iff.1
    (IsRegister.hasIdentity_of_byIdentity? hfound)
  exact ⟨Graph.liveIn_of_nodeByComposite? h, fun _ =>
    .inr ⟨⟨dataSourceId, hsource, hdataSource⟩, .inl ⟨id, hend, hid⟩⟩⟩

theorem mayEndAt_of_nodeByExternal? {metatypeId : String}
    (hend : (x.side which).externalId = some id) (hsource : x.sourceAt which = some dataSourceId)
    (h : Graph.nodeByExternal? { nodes } id dataSourceId metatypeId = some n) :
    x.MayEndAt nodes which n := by
  have hfound := List.find?_some h
  simp only [Bool.and_eq_true, beq_iff_eq] at hfound
  exact ⟨Graph.liveIn_of_nodeByExternal? h, fun _ =>
    .inr ⟨⟨dataSourceId, hsource, hfound.1.2⟩, .inr ⟨id, hend, hfound.1.1.2⟩⟩⟩

end Edge

namespace Ingest

variable {s : IngestSetting} {nodes : Table Node}

/-- The states whose nodes are those of a table. -/
def HasNodes (nodes : Table Node) (t : Transaction) : Prop := t.graph.nodes = nodes

theorem hasNodes_record (m : Method) (t : Transaction) (h : HasNodes nodes t) :
    HasNodes nodes (KeepsCalls.record m t) := h

/-- Whether a lookup on a table of nodes finds one that is as `P` says, or none. -/
def Finds (s : IngestSetting) (nodes : Table Node) (P : Node → Prop)
    (find : Access Transaction StorageError (Option Node)) : Prop :=
  Answers (HasNodes nodes) s.IsOut StorageError.Tells find
    fun r => ∃ found, r = .ok found ∧ ∀ n, found = some n → P n

section Finds

variable {P : Node → Prop}

theorem finds_none : Finds s nodes P (pure none) := Answers.pure ⟨none, rfl, by simp⟩

theorem finds_read {m : Method} (hm : m.isOntology = false) {f : Graph → Option Node}
    (hf : ∀ g, f g = f { nodes := g.nodes }) (hfound : ∀ n, f { nodes } = some n → P n) :
    Finds s nodes P (Transaction.read s.outage m f) := by
  refine (Transaction.answers_read hm (hasNodes_record m) (a := f { nodes }) fun t ht => ?_).mono
    fun r hr => ⟨_, hr, hfound⟩
  rw [hf, show t.graph.nodes = nodes from ht]

theorem finds_findIfNamed {first second : Option String}
    {find : String → String → Access Transaction StorageError (Option Node)}
    (hfind : ∀ a b, first = some a → second = some b → Finds s nodes P (find a b)) :
    Finds s nodes P (findIfNamed first second find) := by
  unfold findIfNamed
  split
  · exact hfind _ _ rfl rfl
  · exact finds_none

/-- A lookup that goes on with what another one finds. -/
theorem Finds.bind {find : Access Transaction StorageError (Option Node)}
    {rest : Option Node → Access Transaction StorageError (Option Node)}
    (hfind : Finds s nodes P find)
    (hrest : ∀ found, (∀ n, found = some n → P n) → Finds s nodes P (rest found)) :
    Finds s nodes P (find >>= rest) :=
  Answers.bind_ok hfind hrest

/-- A lookup that is made if nothing was found before. -/
theorem finds_orElse {found : Option Node}
    {rest : Access Transaction StorageError (Option Node)}
    (hfound : ∀ n, found = some n → P n) (hrest : Finds s nodes P rest) :
    Finds s nodes P (if found.isSome then pure found else rest) := by
  split
  · exact Answers.pure ⟨found, rfl, hfound⟩
  · exact hrest

end Finds

theorem finds_findNamedNode (edge : Edge) (pair : RelationshipPair) (which : End) :
    Finds s nodes (edge.MayEndAt nodes which) (findNamedNode s.outage edge pair which) := by
  unfold findNamedNode
  extract_lets x dataSourceId metatypeId rest
  have hcomposite : Finds s nodes (edge.MayEndAt nodes which)
      (findIfNamed x.compositeId dataSourceId (Transaction.findNodeByComposite s.outage)) :=
    finds_findIfNamed fun _ _ hid hsource => finds_read rfl (fun _ => rfl)
      fun _ h => Edge.mayEndAt_of_nodeByComposite? hid hsource h
  have hexternal : Finds s nodes (edge.MayEndAt nodes which)
      (findIfNamed x.externalId dataSourceId fun externalId dataSourceId =>
        Transaction.findNodeByExternal s.outage externalId dataSourceId metatypeId) :=
    finds_findIfNamed fun _ _ hid hsource => finds_read rfl (fun _ => rfl)
      fun _ h => Edge.mayEndAt_of_nodeByExternal? hid hsource h
  have hrest (byId : Option Node) (hbyId : ∀ n, byId = some n → edge.MayEndAt nodes which n) :
      Finds s nodes (edge.MayEndAt nodes which) (rest byId) :=
    finds_orElse hbyId (hcomposite.bind fun _ hfound => finds_orElse hfound hexternal)
  split
  · rename_i id hid
    have hbyId : Finds s nodes (edge.MayEndAt nodes which) (Transaction.findNode s.outage id) :=
      finds_read rfl (fun _ => rfl) fun _ h => Edge.mayEndAt_of_node? hid h
    exact hbyId.bind hrest
  · exact finds_none.bind hrest

theorem answers_parameterCondition (containerId : String) (p : ConnectionParameter) :
    Answers (HasNodes nodes) s.IsOut IngestError.Tells
      (parameterCondition s.ontology containerId p) fun r => ∃ condition, r = .ok condition := by
  unfold parameterCondition
  split
  · exact .pure ⟨_, rfl⟩
  · exact .pure ⟨_, rfl⟩
  split
  any_goals exact .pure ⟨_, rfl⟩
  refine (Ontology.answers_lookUp rfl (hasNodes_record _)).outcome_bind (fun r hr => ?_)
    fun m e _ he => ?_
  · rcases hr with ⟨metatype, -, rfl⟩ | ⟨-, rfl⟩
    · exact .pure ⟨_, rfl⟩
    · exact .pure ⟨_, rfl⟩
  · have htells := IngestError.Tells.ofOntology he
    obtain ⟨-, rfl⟩ := he
    exact ⟨_, rfl, htells⟩

theorem answers_parameterConditions (containerId : String) (ps : List ConnectionParameter) :
    Answers (HasNodes nodes) s.IsOut IngestError.Tells
      (parameterConditions s.ontology containerId ps)
      fun r => ∃ conditions, r = .ok conditions := by
  induction ps with
  | nil => exact .pure ⟨_, rfl⟩
  | cons p ps ih =>
    refine (answers_parameterCondition containerId p).bind (fun condition _ => ?_)
      fun e he => he.elim fun _ h => by cases h
    cases condition with
    | none => exact .pure ⟨_, rfl⟩
    | some condition =>
      exact ih.bind (fun _ _ => .pure ⟨_, rfl⟩) fun e he => he.elim fun _ h => by cases h

theorem answers_findMatchingNodes (containerId : String) (ps : List ConnectionParameter) :
    Answers (HasNodes nodes) s.IsOut IngestError.Tells
      (findMatchingNodes s.ontology s.outage containerId ps) fun r =>
        ∃ found, r = .ok found ∧ found.Sublist nodes.values ∧
          ∀ n ∈ found, LiveIn nodes n ∧ n.containerId = containerId := by
  refine (answers_parameterConditions containerId ps).bind (fun conditions _ => ?_)
    fun e he => he.elim fun _ h => by cases h
  cases conditions with
  | none => exact .pure ⟨[], rfl, by simp⟩
  | some conditions =>
    refine (Transaction.answers_read (m := .findNodes) rfl (hasNodes_record _)
      (a := Graph.nodesWhere { nodes } { containerId, conditions }) fun t ht => ?_).outcome_bind
      (fun r hr => ?_) fun m e _ he => ?_
    · rw [← show t.graph.nodes = nodes from ht]
      rfl
    · subst hr
      exact .ofResult ⟨_, rfl, List.filter_sublist, fun n h =>
        ⟨Graph.liveIn_of_mem_nodesWhere h, Graph.containerId_of_mem_nodesWhere h⟩⟩
    · exact ⟨_, rfl, IngestError.Tells.ofStorage he⟩

theorem answers_findEnd_mayEndAt (edge : Edge) (pair : RelationshipPair) (which : End) :
    Answers (HasNodes nodes) s.IsOut IngestError.Tells
      (findEnd s.ontology s.outage edge pair which) fun r =>
        ∃ result : Except RecordError EndNodes, r = .ok result ∧
          (∀ ends, result = .ok ends →
            ends.nodes ≠ [] ∧ ends.nodes.Sublist nodes.values ∧
              ∀ n ∈ ends.nodes, edge.MayEndAt nodes which n) ∧
          ∀ e, result = .error e → e.IsUnresolved which := by
  unfold findEnd
  dsimp only
  split
  · refine Answers.outcome_bind (finds_findNamedNode edge pair which) (fun r hr => ?_)
      fun m e _ he => ⟨_, rfl, IngestError.Tells.ofStorage he⟩
    obtain ⟨found, rfl, hfound⟩ := hr
    cases found with
    | none => exact .pure ⟨_, rfl, nofun, fun e h => by cases h; rfl⟩
    | some n =>
      refine .pure ⟨_, rfl, fun ends h => ?_, nofun⟩
      cases h
      refine ⟨by simp, List.singleton_sublist.2 (hfound n rfl).live.1, fun n' hn' => ?_⟩
      rw [List.mem_singleton.1 hn']
      exact hfound n rfl
  · refine (answers_findMatchingNodes edge.containerId _).bind_ok fun found ⟨hsublist, hfound⟩ => ?_
    cases found with
    | nil => exact .pure ⟨_, rfl, nofun, fun e h => by cases h; rfl⟩
    | cons n found =>
      refine .pure ⟨_, rfl, fun ends h => ?_, nofun⟩
      cases h
      refine ⟨by simp, hsublist, fun n' hn' => ?_⟩
      obtain ⟨hlive, hcontainer⟩ := hfound n' hn'
      exact ⟨hlive, fun _ => .inl hcontainer⟩

/-- The nodes that an end of an edge may be on a table of nodes: live ones, one at least, that
are found in every run. -/
structure IsEnd (s : IngestSetting) (nodes : Table Node) (edge : Edge) (pair : RelationshipPair)
    (which : End) (ends : EndNodes) : Prop where
  found : ∀ t, HasNodes nodes t →
    ((findEnd s.ontology s.outage edge pair which).run.run t).1 = .ok (.ok ends)
  live : ∀ n ∈ ends.nodes, LiveIn nodes n
  ne_nil : ends.nodes ≠ []

/-- The properties of an edge do not matter for its ends. -/
theorem IsEnd.of_properties {edge : Edge} {properties : Entries} {pair : RelationshipPair}
    {which : End} {ends : EndNodes}
    (h : IsEnd s nodes { edge with properties } pair which ends) :
    IsEnd s nodes edge pair which ends := by
  refine ⟨fun t ht => ?_, h.live, h.ne_nil⟩
  have hfound := h.found t ht
  cases which <;> exact hfound

theorem IsEnd.mayEndAt {edge : Edge} {pair : RelationshipPair} {which : End} {ends : EndNodes}
    (h : IsEnd s nodes edge pair which ends) {n : Node} (hn : n ∈ ends.nodes) :
    edge.MayEndAt nodes which n := by
  obtain ⟨result, hresult, hok, -⟩ := (answers_findEnd_mayEndAt edge pair which).of_ok
    (rfl : HasNodes nodes { graph := { nodes } }) (h.found _ rfl)
  cases hresult
  exact (hok ends rfl).2.2 n hn

/-- An end of an edge that has no nodes on a table of nodes, as every run finds, and the error
that says so. -/
structure IsMissing (s : IngestSetting) (nodes : Table Node) (edge : Edge) (pair : RelationshipPair)
    (which : End) (e : RecordError) : Prop where
  missed : ∀ t, HasNodes nodes t →
    ((findEnd s.ontology s.outage edge pair which).run.run t).1 = .ok (.error e)
  unresolved : e.IsUnresolved which

/-- The properties of an edge do not matter for an end that is missing. -/
theorem IsMissing.of_properties {edge : Edge} {properties : Entries} {pair : RelationshipPair}
    {which : End} {e : RecordError}
    (h : IsMissing s nodes { edge with properties } pair which e) :
    IsMissing s nodes edge pair which e := by
  refine ⟨fun t ht => ?_, h.unresolved⟩
  have hmissed := h.missed t ht
  cases which <;> exact hmissed

/-- The nodes that an end may be are found, or the record fails. -/
theorem answers_findEnd (edge : Edge) (pair : RelationshipPair) (which : End) :
    Answers (HasNodes nodes) s.IsOut IngestError.Tells
      (findEnd s.ontology s.outage edge pair which) fun r =>
        ∃ result : Except RecordError EndNodes, r = .ok result ∧
          (∀ ends, result = .ok ends → IsEnd s nodes edge pair which ends) ∧
          ∀ e, result = .error e → IsMissing s nodes edge pair which e := by
  refine (answers_findEnd_mayEndAt edge pair which).with_runs.mono
    fun r ⟨⟨result, hr, hok, herror⟩, hruns⟩ => ⟨result, hr, fun ends hends => ?_, fun e he => ?_⟩
  · obtain ⟨hne, -, hmay⟩ := hok ends hends
    refine ⟨fun t ht => ?_, fun n hn => (hmay n hn).live, hne⟩
    rw [(hruns t ht).1, hr, hends]
  · refine ⟨fun t ht => ?_, herror e he⟩
    rw [(hruns t ht).1, hr, he]

end Ingest

end TypedGraph
