import TypedGraph.Graph.Counting
import TypedGraph.Pattern.Engine
import TypedGraph.Proofs.Identities
import TypedGraph.Proofs.Shares

/-!
# References to nodes of the same ingest

A node is identified by the container, the data source and the text at a path of the payload,
and an end of an edge refers to a node by the same three. All nodes of an ingest are written
before the ends of its edges are looked for. A node that is written later may take the place
of one that was written before it, but it keeps the id. So an end that refers to a node of
the same ingest is that node, by the id that is reported for it, and the edge does not fail
for want of it (`GraphStore.references_resolve`). The ids that are drawn have to be fresh, as
they are after every history in which no ids are chosen (`GraphStore.fresh_after`).
-/
namespace TypedGraph

open Access

/-! ## Nodes that are found by their identities -/

namespace Transaction

variable {t : Transaction} {n m : Node} {compositeId dataSourceId : String}

variable [Supply]

/-- A live node of an identity is followed by one with its id when a new node is written. -/
theorem nodeByComposite?_withNode (h : t.graph.IsSound) (hfresh : Fresh t.graph.nodes t.drawn)
    (hn : n.IsNew) (hm : t.graph.nodeByComposite? compositeId dataSourceId = some m) :
    ∃ m', (t.withNode n).graph.nodeByComposite? compositeId dataSourceId = some m' ∧
      m'.id = m.id := by
  obtain ⟨hfound, hlive⟩ := Option.filter_eq_some_iff.1 hm
  obtain ⟨m', hm', hid, -⟩ :=
    h.nodes.byIdentity?_insert (a := t.storedNode n) hn.id hfresh rfl hfound
  refine ⟨m', Option.filter_eq_some_iff.2 ⟨hm', ?_⟩, hid⟩
  obtain ⟨⟨key, hkey⟩, -⟩ := h.nodes.byIdentity?_eq_some.1 hfound
  obtain ⟨⟨key', hkey'⟩, -⟩ := (isSound_withNode h n).nodes.byIdentity?_eq_some.1 hm'
  rcases Table.get?_insert_cases hkey' with ⟨-, rfl⟩ | ⟨-, hold⟩
  · simp [storedNode, nodeStamp, hn.archived]
  · -- another key was written, and so the node is the one that was found before
    have heq := (h.nodes.id_eq hold).symm.trans (hid.trans (h.nodes.id_eq hkey))
    cases heq
    rw [hkey] at hold
    cases hold
    exact hlive

theorem nodeByComposite?_withNodes (h : t.graph.IsSound) (hfresh : Fresh t.graph.nodes t.drawn)
    {nodes : List Node} (hnodes : ∀ n ∈ nodes, n.IsNew)
    (hm : t.graph.nodeByComposite? compositeId dataSourceId = some m) :
    ∃ m', (t.withNodes nodes).graph.nodeByComposite? compositeId dataSourceId = some m' ∧
      m'.id = m.id := by
  induction nodes generalizing t m with
  | nil => exact ⟨m, hm, rfl⟩
  | cons n nodes ih =>
    have hn := hnodes n (by simp)
    obtain ⟨m', hm', hid⟩ := nodeByComposite?_withNode h hfresh hn hm
    obtain ⟨m'', hm'', hid'⟩ := ih (isSound_withNode h n) (fresh_withNode h hn.id hfresh)
      (fun n hn => hnodes n (by simp [hn])) hm'
    exact ⟨m'', hm'', hid'.trans hid⟩

/-- Once nodes are written, the node of every identity among them is live and has the id that
was reported for each of them with that identity. -/
theorem nodeByComposite?_of_mem_storedNodes (h : t.graph.IsSound)
    (hfresh : Fresh t.graph.nodes t.drawn) {nodes : List Node} (hnodes : ∀ n ∈ nodes, n.IsNew)
    (hn : n ∈ t.storedNodes nodes) (hidentity : n.hasIdentity compositeId dataSourceId) :
    ∃ m, (t.withNodes nodes).graph.nodeByComposite? compositeId dataSourceId = some m ∧
      m.id = n.id := by
  induction nodes generalizing t with
  | nil => simp [storedNodes] at hn
  | cons n' nodes ih =>
    have hn' := hnodes n' (by simp)
    have hrest : ∀ n ∈ nodes, n.IsNew := fun n hn => hnodes n (by simp [hn])
    have hsound := isSound_withNode h n'
    have hfresh' := fresh_withNode h hn'.id hfresh
    rcases List.mem_cons.1 hn with rfl | hn
    · have hself : (t.withNode n').graph.nodeByComposite? compositeId dataSourceId =
          some (t.storedNode n') := by
        refine Option.filter_eq_some_iff.2 ⟨?_, by simp [storedNode, nodeStamp, hn'.archived]⟩
        refine h.nodes.byIdentity?_insert_self (a := t.storedNode n') ?_ rfl
        rwa [← RecordBase.hasIdentity_congr stamped_compositeId stamped_dataSourceId]
      exact nodeByComposite?_withNodes hsound hfresh' hrest hself
    · exact ih hsound hfresh' hrest hn

end Transaction

namespace Ingest

variable {s : IngestSetting} {nodes : Table Node} {mapping : TypeMapping} {staged : StagedData}

/-- The nodes that an ingest writes are new. -/
theorem Ingested.isNew_nodes [Supply] [PatternEngine] {t t' : Transaction} {prepared : Prepared}
    {plan : List (Pending (Except RecordError Attempt))}
    {outcomes : List (Pending (Except RecordError Edge))}
    (h : Ingested s mapping staged t prepared plan outcomes t') :
    ∀ n ∈ prepared.nodes, n.IsNew := by
  intro n hn
  obtain ⟨produced, -, hsound, hfrom⟩ := h.produced
  obtain ⟨p, hp, properties, rfl⟩ := hfrom.nodes n hn
  have hnew := hsound.nodes p hp
  exact ⟨hnew.id, hnew.archived, hnew.dataSource⟩

/-! ## Ends with a composite identity -/

/-- An end that is known by the composite identity of a live node. -/
structure Names (nodes : Table Node) (edge : Edge) (which : End) (m : Node) : Prop where
  nodeId : (edge.side which).nodeId = none
  identity : ∃ compositeId dataSourceId, (edge.side which).compositeId = some compositeId ∧
    edge.sourceAt which = some dataSourceId ∧
    Graph.nodeByComposite? { nodes } compositeId dataSourceId = some m

section Names

variable {edge : Edge} {which : End} {m : Node} {pair : RelationshipPair}

/-- The lookup of an end that is known by an identity finds its node, unless the method is
out. -/
theorem run_findNamedNode_of_names (s : IngestSetting) (pair : RelationshipPair)
    (h : Names nodes edge which m) {t : Transaction} (ht : HasNodes nodes t) :
    ((findNamedNode s.outage edge pair which).run.run t).1 =
      if .findNodeByComposite ∈ s.outage.methods then
        .error (.backend Method.findNodeByComposite.unavailable)
      else .ok (some m) := by
  obtain ⟨hid, c, d, hc, hd, hm⟩ := h
  have hgraph : t.graph.nodeByComposite? c d = some m := by
    rw [← hm, ← show t.graph.nodes = nodes from ht]
    rfl
  have hfind : findIfNamed (edge.side which).compositeId (edge.sourceAt which)
      (Transaction.findNodeByComposite s.outage) =
        Transaction.findNodeByComposite s.outage c d := by
    rw [hc, hd]
    rfl
  unfold findNamedNode
  dsimp only
  rw [← Edge.sourceAt, hfind]
  split
  · simp_all
  rw [pure_bind, Option.isSome_none, if_neg Bool.false_ne_true]
  by_cases hout : .findNodeByComposite ∈ s.outage.methods
  · rw [if_pos hout]
    exact congrArg Prod.fst (run_bind_of_error (run_call_of_mem hout _ _ t) _)
  · have hread : (Transaction.findNodeByComposite s.outage c d).run.run t =
        (.ok (some m), KeepsCalls.record .findNodeByComposite t) := by
      rw [← hgraph]
      exact run_call_of_notMem hout _ _ t
    rw [if_neg hout, run_bind_of_ok hread]
    rfl

theorem run_findEnd_of_names (s : IngestSetting) (pair : RelationshipPair)
    (h : Names nodes edge which m) {t : Transaction} (ht : HasNodes nodes t) :
    ((findEnd s.ontology s.outage edge pair which).run.run t).1 =
      if .findNodeByComposite ∈ s.outage.methods then
        .error (.storage (.backend Method.findNodeByComposite.unavailable))
      else .ok (.ok ⟨[m], false⟩) := by
  have hfound := run_findNamedNode_of_names s pair h ht
  obtain ⟨_, c, _, hc, _⟩ := h
  have hnamed : ((edge.side which).namesNode || (edge.side which).parameters.isEmpty) = true := by
    simp [EdgeEnd.namesNode, hc]
  unfold findEnd
  dsimp only
  rw [if_pos hnamed, run_bind_of_ok (run_outcome _ t), hfound]
  by_cases hout : .findNodeByComposite ∈ s.outage.methods
  · rw [if_pos hout, if_pos hout]
    rfl
  · rw [if_neg hout, if_neg hout]
    rfl

/-- An end that is known by an identity is its node and no other. -/
theorem IsEnd.nodes_of_names {ends : EndNodes} (h : Names nodes edge which m)
    (hends : IsEnd s nodes edge pair which ends) : ends.nodes = [m] := by
  have hfound := (run_findEnd_of_names s pair h (t := { graph := { nodes } }) rfl).symm.trans
    (hends.found _ rfl)
  split at hfound
  · contradiction
  · cases hfound
    rfl

/-- An end that is known by an identity is not missing. -/
theorem IsMissing.not_of_names {e : RecordError} (h : Names nodes edge which m) :
    ¬ IsMissing s nodes edge pair which e := by
  intro hmissing
  have hmissed := (run_findEnd_of_names s pair h (t := { graph := { nodes } }) rfl).symm.trans
    (hmissing.missed _ rfl)
  split at hmissed <;> cases hmissed

/-- An end that is known by an identity is found where nodes are looked up. -/
theorem Names.isEnd (h : Names nodes edge which m)
    (hserved : .findNodeByComposite ∉ s.outage.methods) :
    IsEnd s nodes edge pair which ⟨[m], false⟩ := by
  refine ⟨fun t ht => ?_, fun n hn => ?_, by simp⟩
  · rw [run_findEnd_of_names s pair h ht, if_neg hserved]
  · obtain ⟨_, _, _, _, _, hm⟩ := h
    rw [List.mem_singleton.1 hn]
    exact Graph.liveIn_of_nodeByComposite? hm

end Names

end Ingest

/-! ## References -/

namespace Transformation

/-- Whether an end of the edge of a branch refers to the node of a branch: to the same
container, the same data source, and the same text at the same path. -/
structure RefersTo (staged : StagedData) (which : End) (edge : Transformation)
    (edgeIndex : List Nat) (node : Transformation) (nodeIndex : List Nat) : Prop where
  container : edge.containerId = node.containerId
  dataSource : (edge.side which).dataSourceId.getD (edge.effectiveDataSource staged) =
    node.effectiveDataSource staged
  path : (edge.side which).path = node.uniqueKey
  text : ∃ named, identityAt staged.data nodeIndex node.uniqueKey = some named ∧
    identityAt staged.data edgeIndex (edge.side which).path = some named

/-- The composite identity of the node of a branch, if it has one. -/
def identityOf (t : Transformation) (staged : StagedData) (index : List Nat) : Option String :=
  (identityAt staged.data index t.uniqueKey).map fun (path, value) =>
    compositeId t.containerId (t.effectiveDataSource staged) path value

variable {t u : Transformation} {o : OntologyStore} {staged : StagedData} {index index' : List Nat}

theorem identity_of_generate {metatypeId : String} {record : GraphRecord}
    (h : t.generate o (.node metatypeId) staged index = .ok record) :
    ∃ n : Node, record = .node n ∧ n.compositeId = t.identityOf staged index ∧
      n.dataSourceId = some (t.effectiveDataSource staged) := by
  obtain ⟨draft, rfl⟩ := eq_of_produce h
  exact ⟨_, rfl, rfl, rfl⟩

/-- The end of an edge that refers to a node has the identity of the node. -/
theorem RefersTo.side_eq {which : End} (h : u.RefersTo staged which index' t index)
    {pairId : String} {record : GraphRecord}
    (hrecord : u.generate o (.edge pairId) staged index' = .ok record) :
    ∃ x : Edge, record = .edge x ∧ (x.side which).nodeId = none ∧
      (x.side which).compositeId = t.identityOf staged index ∧
      x.sourceAt which = some (t.effectiveDataSource staged) := by
  obtain ⟨draft, rfl⟩ := eq_of_produce hrecord
  obtain ⟨named, hnode, hedge⟩ := h.text
  have hidentity : (u.edgeEnd staged index' which).compositeId = t.identityOf staged index := by
    rw [edgeEnd, hedge, identityOf, hnode, h.container, h.dataSource]
  have hsource : ((u.side which).dataSourceId <|> some (u.effectiveDataSource staged)) =
      some (t.effectiveDataSource staged) := by
    rw [← h.dataSource]
    cases (u.side which).dataSourceId <;> rfl
  refine ⟨_, rfl, ?_⟩
  cases which <;> exact ⟨rfl, hidentity, hsource⟩

end Transformation

namespace Ingest

variable {s : IngestSetting} {nodes : Table Node} {staged : StagedData}

/-- What is written for the branch of a node has the identity of that branch. -/
theorem Accounted.identity_of_mem {t : Transformation} {metatypeId : String} {index : List Nat}
    {r : IngestReport} (h : Accounted s nodes
      (t.producedFor s.ontology.store staged (.branch (.node metatypeId) index)) r)
    {n : Node} (hn : n ∈ r.nodes) :
    n.compositeId = t.identityOf staged index ∧
      n.dataSourceId = some (t.effectiveDataSource staged) := by
  have hshare := h.share
  unfold Transformation.producedFor at hshare
  dsimp only at hshare
  cases hrecord : t.generate s.ontology.store (.node metatypeId) staged index with
  | error e =>
    rw [hrecord] at hshare
    cases hshare
    simp at hn
  | ok record =>
    obtain ⟨n', rfl, hc, hd⟩ := Transformation.identity_of_generate hrecord
    rw [hrecord] at hshare
    cases hshare with
    | node hnode =>
      rcases hnode with ⟨id, createdAt, properties, rfl⟩ | ⟨e, rfl⟩
      · cases List.mem_singleton.1 hn
        exact ⟨hc, hd⟩
      · simp at hn

/-- The nodes that a written edge joins are nodes that its ends may be. -/
theorem EdgeShare.end_of_mem {p : Pending Edge} {r : IngestReport}
    (h : EdgeShare s nodes p r) {y : Edge} (hy : y ∈ r.edges) (which : End) :
    ∃ pair ends m, IsEnd s nodes p.record pair which ends ∧ m ∈ ends.nodes ∧
      (y.side which).nodeId = m.id := by
  cases h with
  | failed e => simp at hy
  | @combined pair origins destinations shares known origin destination each =>
    obtain ⟨share, hshare, hy⟩ := List.mem_flatMap.1 hy
    obtain ⟨ends, hends, hjoin⟩ : ∃ ends ∈ origins.nodes ×ˢ destinations.nodes,
        JoinShare p ends share := by
      obtain ⟨i, hi, rfl⟩ := List.getElem_of_mem hshare
      have hi' : i < (origins.nodes ×ˢ destinations.nodes).length := each.length_eq ▸ hi
      exact ⟨_, List.getElem_mem hi', each.get hi' hi⟩
    obtain ⟨horigin, hdestination⟩ := List.mem_product.1 hends
    rcases hjoin with ⟨y', -, ho, hd, rfl⟩ | ⟨e, rfl⟩
    · cases List.mem_singleton.1 hy
      cases which with
      | origin => exact ⟨_, _, _, origin, horigin, ho⟩
      | destination => exact ⟨_, _, _, destination, hdestination, hd⟩
    · simp at hy

/-- The share of the branch of an edge, if its end is known by an identity: it has edges to the
node of that identity, and no failure says that the end is unresolved. -/
theorem Accounted.edge_of_names {u : Transformation} {pairId : String} {index : List Nat}
    {r : IngestReport} (h : Accounted s nodes
      (u.producedFor s.ontology.store staged (.branch (.edge pairId) index)) r)
    {which : End} {m : Node} (hnames : ∀ x : Edge,
      u.generate s.ontology.store (.edge pairId) staged index = .ok (.edge x) →
      Names nodes x which m) :
    (∀ y ∈ r.edges, (y.side which).nodeId = m.id) ∧
      ∀ f ∈ r.failures, ¬ f.error.IsUnresolved which := by
  cases hrecord : u.generate s.ontology.store (.edge pairId) staged index with
  | error e =>
    have hshare := h.share
    unfold Transformation.producedFor at hshare
    dsimp only at hshare
    rw [hrecord] at hshare
    cases hshare
    refine ⟨by simp, fun f hf => ?_⟩
    rw [List.mem_singleton.1 hf]
    exact fun h => h
  | ok record =>
    obtain ⟨draft, rfl⟩ := Transformation.eq_of_produce hrecord
    have hnamed := hnames _ hrecord
    have haccount := h.edge ⟨u.id, index, _⟩ (by
      unfold Transformation.producedFor
      dsimp only
      rw [hrecord]
      exact List.mem_singleton.2 rfl)
    refine ⟨fun y hy => ?_, fun f hf hunresolved => ?_⟩
    · obtain ⟨pair, ends, m', hends, hm', hy⟩ := haccount.share.end_of_mem hy which
      rw [hends.nodes_of_names hnamed] at hm'
      rw [hy, List.mem_singleton.1 hm']
    · obtain ⟨pair, hmissing⟩ := haccount.missing f hf which hunresolved
      exact hmissing.not_of_names hnamed

/-- Whether an end of the edge of a branch resolves to a node: it is looked up as that node
wherever nodes are looked up, the edges that are written for the branch have it at that end,
and no failure says that the end is unresolved. -/
structure Resolves (s : IngestSetting) (nodes : Table Node) (staged : StagedData)
    (u : Transformation) (pairId : String) (index : List Nat) (which : End) (r : IngestReport)
    (id : Option String) : Prop where
  lookup : ∀ x, u.generate s.ontology.store (.edge pairId) staged index = .ok (.edge x) →
    .findNodeByComposite ∉ s.outage.methods →
    ∃ m, m.id = id ∧ ∀ pair, IsEnd s nodes x pair which ⟨[m], false⟩
  edges : ∀ y ∈ r.edges, (y.side which).nodeId = id
  failures : ∀ f ∈ r.failures, ¬ f.error.IsUnresolved which

variable [Supply] [PatternEngine]

/-- An end that refers to a branch resolves to every node that is reported for that branch. -/
theorem Ingested.resolves {mapping : TypeMapping} {t t' : Transaction} {prepared : Prepared}
    {plan : List (Pending (Except RecordError Attempt))}
    {outcomes : List (Pending (Except RecordError Edge))}
    (h : Ingested s mapping staged t prepared plan outcomes t') (hsound : t.graph.IsSound)
    (hfresh : Transaction.Fresh t.graph.nodes t.drawn)
    {node edge : Transformation} {metatypeId pairId : String} {index index' : List Nat}
    {r r' : IngestReport} (hr : Accounted s t'.graph.nodes
      (node.producedFor s.ontology.store staged (.branch (.node metatypeId) index)) r)
    (hr' : Accounted s t'.graph.nodes
      (edge.producedFor s.ontology.store staged (.branch (.edge pairId) index')) r')
    {which : End} (hrefers : edge.RefersTo staged which index' node index) {n : Node}
    (hn : n ∈ r.nodes) (hstored : n ∈ t.storedNodes prepared.nodes) :
    Resolves s t'.graph.nodes staged edge pairId index' which r' n.id := by
  obtain ⟨hc, hd⟩ := hr.identity_of_mem hn
  obtain ⟨named, hnamed, -⟩ := hrefers.text
  have hidentityOf : node.identityOf staged index = some (Transformation.compositeId
      node.containerId (node.effectiveDataSource staged) named.1 named.2) := by
    rw [Transformation.identityOf, hnamed]
    rfl
  obtain ⟨m, hm, hid⟩ := Transaction.nodeByComposite?_of_mem_storedNodes hsound hfresh
    h.isNew_nodes hstored (RecordBase.hasIdentity_iff.2 ⟨hc.trans hidentityOf, hd⟩)
  have hnames : ∀ x : Edge,
      edge.generate s.ontology.store (.edge pairId) staged index' = .ok (.edge x) →
      Names t'.graph.nodes x which m := by
    intro x hx
    obtain ⟨_, heq, hnodeId, hcomposite, hsource⟩ := hrefers.side_eq hx
    cases heq
    refine ⟨hnodeId, _, _, hcomposite.trans hidentityOf, hsource, ?_⟩
    rw [h.made.nodes]
    exact hm
  obtain ⟨hedges, hfailures⟩ := hr'.edge_of_names hnames
  refine ⟨fun x hx hserved => ⟨m, hid, fun pair => (hnames x hx).isEnd hserved⟩,
    fun y hy => (hedges y hy).trans hid, hfailures⟩

end Ingest

namespace Sample

/-- Every payload is a stop. -/
def toStop : Transformation := { Transformation.toNode "c" "stop" with uniqueKey := some "name" }

/-- Every payload leads from a stop to the next one. -/
def toNext : Transformation :=
  { Transformation.toEdge "c" "next" "name" "next" with uniqueKey := some "name" }

/-- The edges of a payload come before the stops. -/
def edgesFirst : TypeMapping := { transformations := [toNext, toStop] }

end Sample

namespace GraphStore

open Ingest

section

variable [Supply] [PatternEngine]

/-- After a history in which no ids are chosen, those that are drawn next are not in use. -/
theorem fresh_after {steps : List Step} (hsteps : ∀ step ∈ steps, step.ChoosesNoIds) :
    Transaction.Fresh (after {} steps).committed.nodes (after {} steps).drawn :=
  (isSettled_empty.after hsteps).1.committed.nodes

/-- In an ingest that commits, the end of an edge that refers to the branch of a node resolves
to the id of the node that is reported for that branch. -/
theorem references_resolve {steps : List Step}
    (hfresh : Transaction.Fresh (after {} steps).committed.nodes (after {} steps).drawn)
    {s : IngestSetting} {mapping : TypeMapping} {staged : StagedData} {isCancelled : Bool}
    {report : IngestReport} {g' : GraphStore}
    (h : (after {} steps).ingest s mapping staged isCancelled = (.ok report, g')) :
    ∃ shares, List.Forall₂ (IsShareOf s g'.committed.nodes staged) (mapping.items staged) shares ∧
      report.nodes = (IngestReport.joined shares).nodes ∧
      report.edges = (IngestReport.joined shares).edges ∧
      report.failures.Perm (IngestReport.joined shares).failures ∧
      ∀ node metatypeId index r edge pairId index' r',
        ((node, .branch (.node metatypeId) index), r) ∈ (mapping.items staged).zip shares →
        ((edge, .branch (.edge pairId) index'), r') ∈ (mapping.items staged).zip shares →
        ∀ which, edge.RefersTo staged which index' node index → ∀ n ∈ r.nodes,
          Resolves s g'.committed.nodes staged edge pairId index' which r' n.id := by
  obtain ⟨t, hrun, -, hcommitted⟩ := ingest_ok h
  obtain ⟨prepared, plan, outcomes, rfl, hingested⟩ := ingested_of_run hrun
  obtain ⟨shares, hshares, hnodes, hedges, hfailures⟩ := hingested.shares
  rw [hcommitted]
  refine ⟨shares, hshares.imp fun _ _ h => isShareOf_of_share h.share, hnodes, hedges,
    hfailures, fun node metatypeId index r edge pairId index' r' hr hr' which hrefers n hn => ?_⟩
  have hstored : n ∈ (after {} steps).opened.content.storedNodes prepared.nodes := by
    have hreported : n ∈ (IngestReport.joined shares).nodes :=
      List.mem_flatMap.2 ⟨r, (List.of_mem_zip hr).2, hn⟩
    rw [← hnodes] at hreported
    exact hreported
  exact hingested.resolves (isSound_after steps).1 hfresh (List.forall₂_zip hshares hr)
    (List.forall₂_zip hshares hr') hrefers hn hstored

end

/-- The edge of a stop that is ingested again is found to begin at the stop, though the edge is
produced before it. -/
theorem references_resolve_sample :
    let ended :=
      (after {} Sample.steps).ingest Sample.setting Sample.edgesFirst (Sample.stop "b" "b") false
    ∃ report r' n, ended.1 = .ok report ∧ n ∈ report.nodes ∧ report.edges = r'.edges ∧
      report.edges ≠ [] ∧
      Resolves Sample.setting ended.2.committed.nodes (Sample.stop "b" "b") Sample.toNext "next" []
        .origin r' n.id := by
  intro ended
  obtain ⟨report, hended⟩ := ingest_of_isOk ended (by decide +kernel)
  obtain ⟨shares, hshares, hnodes, hedges, -, hresolves⟩ :=
    references_resolve (fresh_after (by simp [Sample.steps, Step.ChoosesNoIds])) hended
  have hitems : Sample.edgesFirst.items (Sample.stop "b" "b") =
      [(Sample.toNext, .branch (.edge "next") []), (Sample.toStop, .branch (.node "stop") [])] := by
    decide +kernel
  rw [hitems] at hshares hresolves
  obtain ⟨r', r, rfl⟩ := List.length_eq_two.1 hshares.length_eq.symm
  have hcounts : ended.1.toOption.map (fun report => (report.nodes.length, report.edges.length)) =
      some (1, 1) := by decide +kernel
  rw [hended] at hcounts
  obtain ⟨hcount, hcount'⟩ := Prod.ext_iff.1 (Option.some.inj hcounts)
  have hr' : r'.nodes = [] ∧ r.edges = [] := by
    cases hshares with
    | cons hfirst hrest =>
      cases hrest with
      | cons hsecond => exact ⟨hfirst.of_edge _ _ rfl, hsecond.of_node _ _ rfl⟩
  have hnodes' : report.nodes = r.nodes := by simp [hnodes, IngestReport.joined, hr'.1]
  have hedges' : report.edges = r'.edges := by simp [hedges, IngestReport.joined, hr'.2]
  obtain ⟨n, hn⟩ := List.length_eq_one_iff.1 hcount
  have hmem : n ∈ report.nodes := by rw [hn]; simp
  have hrefers : Sample.toNext.RefersTo (Sample.stop "b" "b") .origin [] Sample.toStop [] :=
    ⟨rfl, rfl, rfl, ("name", "b"), by decide +kernel, by decide +kernel⟩
  refine ⟨report, r', n, by rw [hended], hmem, hedges', ?_, ?_⟩
  · intro hnil
    simp [hnil] at hcount'
  · exact hresolves Sample.toStop "stop" [] r Sample.toNext "next" [] r' (by simp) (by simp)
      .origin hrefers n (hnodes' ▸ hmem)

end GraphStore

end TypedGraph
