import TypedGraph.Graph.Counting
import TypedGraph.Pattern.Engine
import TypedGraph.Proofs.EdgeEnds
import TypedGraph.Proofs.Shares

/-!
# Containers

The end of an edge that is given by parameters is looked for in the container of the edge. One
that is known by an identity is looked for in a data source, whatever the containers of the
nodes are. So an ingest may write an edge that ends in another container
(`GraphStore.not_staysInside`). It does so only at a node of the data source of the end which
has the identity by which the end is known (`GraphStore.containers_of_ends`). So containers
stay separate where they share no data source (`GraphStore.staysInside_of_sources`).
-/
namespace TypedGraph

/-- Whether the ends of an edge are stored nodes of its container. -/
def Edge.StaysInside (nodes : Table Node) (x : Edge) : Prop :=
  x.EndsIn nodes fun _ n => n.containerId = x.containerId

namespace Transaction

variable [Supply]

theorem knownAlike_storedEdge (t : Transaction) (x : Edge) : x.KnownAlike (t.storedEdge x) where
  container := stamped_containerId
  source which := by
    have hdataSource : (t.storedEdge x).dataSourceId = x.dataSourceId := stamped_dataSourceId
    rw [Edge.sourceAt, side_storedEdge, hdataSource, Edge.sourceAt]
  composite which := by rw [side_storedEdge]
  external which := by rw [side_storedEdge]

end Transaction

namespace Ingest

variable {s : IngestSetting} {mapping : TypeMapping} {staged : StagedData} {t t' : Transaction}
  {prepared : Prepared} {plan : List (Pending (Except RecordError Attempt))}
  {outcomes : List (Pending (Except RecordError Edge))}

variable [Supply] [PatternEngine]

/-- The ends of an edge that is produced from a payload are not known by ids. -/
theorem Ingested.nodeId_eq_none (h : Ingested s mapping staged t prepared plan outcomes t')
    {p : Pending Edge} (hp : p ∈ prepared.edges) (which : End) :
    (p.record.side which).nodeId = none := by
  obtain ⟨-, -, hedges, -⟩ := (returns_start_preparedOf mapping staged).of_result (h.started t)
  rw [hedges] at hp
  obtain ⟨part, hpart, hp⟩ := List.mem_flatMap.1 hp
  obtain ⟨entry, -, rfl⟩ := List.mem_map.1 hpart
  obtain ⟨target, index, hrecord⟩ := Transformation.generate_of_mem_edges hp
  obtain ⟨draft, heq⟩ := Transformation.eq_of_produce hrecord
  cases target with
  | node metatypeId => contradiction
  | edge pairId =>
    rw [GraphRecord.edge.inj heq]
    cases which <;> rfl

/-- An edge that is written is stored as an attempt joins it, one for an edge of the ingest. -/
theorem Ingested.attempt_of_mem (h : Ingested s mapping staged t prepared plan outcomes t')
    {y : Edge} (hy : y ∈ writtenEdges outcomes) :
    ∃ q ∈ prepared.edges, ∃ a : Attempt, ∃ u : Transaction,
      a.IsFor s.ontology.store t'.graph.nodes q.record ∧ a.IsPermitted u.graph ∧
      y = u.storedEdge a.joined := by
  obtain ⟨outcome, houtcome, hy⟩ := List.mem_filterMap.1 hy
  obtain ⟨p, hp, u, u', -, hattempted⟩ := h.made.attempted_of_mem (I := fun _ => True) trivial
    (fun _ _ _ _ _ _ _ => trivial) houtcome
  cases hrecord : outcome.record with
  | error e =>
    rw [hrecord] at hy
    contradiction
  | ok y' =>
    rw [hrecord] at hy hattempted
    cases hy
    cases hplanned : p.record with
    | error e =>
      rw [hplanned] at hattempted
      cases hattempted
    | ok a =>
      rw [hplanned] at hattempted
      obtain ⟨q, hq, hfor⟩ := h.planned.attempts p hp a hplanned
      rw [← h.made.nodes] at hfor
      cases hattempted with
      | written permitted => exact ⟨q, hq, a, u, hfor, permitted, rfl⟩

/-- An edge that is written ends at live nodes of its container, or at ones by whose identities
its ends are known. -/
theorem Ingested.endsIn_of_mem (h : Ingested s mapping staged t prepared plan outcomes t')
    (ht : t.graph.IsSound) {y : Edge} (hy : y ∈ writtenEdges outcomes) :
    y.EndsIn t'.graph.nodes fun which n => n.archived = false ∧
      (n.containerId = y.containerId ∨ y.Identifies which n) := by
  obtain ⟨q, hq, a, u, hfor, hpermitted, rfl⟩ := h.attempt_of_mem hy
  obtain ⟨originId, destinationId, hids, -⟩ := hpermitted
  obtain ⟨ho, hd, -, -⟩ := Connection.checkNodes_ok hids
  have halike := hfor.alike.trans (Transaction.knownAlike_storedEdge u a.joined)
  have hend {which : End} {n : Node} {id : String} (hmay : q.record.MayEndAt t'.graph.nodes which n)
      (hid : n.id = some id) : t'.graph.nodes.get? id = some n ∧ n.archived = false ∧
        (n.containerId = (u.storedEdge a.joined).containerId ∨
          (u.storedEdge a.joined).Identifies which n) := by
    refine ⟨get?_of_liveIn (h.isSound ht) hmay.live hid, hmay.live.2, ?_⟩
    exact (hmay.known (h.nodeId_eq_none hq which)).imp (·.trans halike.container.symm)
      halike.identifies
  intro which
  rw [Transaction.side_storedEdge]
  cases which with
  | origin => exact ⟨originId, a.origin, ho, hend hfor.origin ho⟩
  | destination => exact ⟨destinationId, a.destination, hd, hend hfor.destination hd⟩

end Ingest

/-! ## Edges between containers -/

namespace Sample

/-- Every payload is a stop of the container `e` and an edge of the container `c`. -/
def straddling : TypeMapping :=
  { transformations :=
      [{ Transformation.toNode "e" "stop" with uniqueKey := some "name" },
       Transformation.toEdge "c" "next" "name" "next"] }

/-- The edge of the container `c` begins at the stop of the container `e`. -/
theorem ingest_straddling :
    let ended := (GraphStore.after {} []).ingest setting straddling (stop "b" "b") false
    ∃ report y n, ended = (.ok report, ended.2) ∧ y ∈ report.edges ∧ y.containerId = "c" ∧
      (y.side .origin).nodeId = some (countedId 1) ∧
      ended.2.committed.nodes.get? (countedId 1) = some n ∧ n.containerId = "e" := by
  intro ended
  obtain ⟨report, hended⟩ := GraphStore.ingest_of_isOk ended (by decide +kernel)
  have hedges : ended.1.toOption.map (fun report =>
      report.edges.map fun y => (y.containerId, (y.side .origin).nodeId)) =
        some [("c", some (countedId 1))] := by
    decide +kernel
  have hnode : (ended.2.committed.nodes.get? (countedId 1)).map (·.containerId) =
      some "e" := by
    decide +kernel
  rw [hended] at hedges
  obtain ⟨y, hy, hfields⟩ := List.map_eq_singleton_iff.1 (Option.some.inj hedges)
  obtain ⟨hcontainer, horigin⟩ := Prod.ext_iff.1 hfields
  obtain ⟨n, hn, hforeign⟩ := Option.map_eq_some_iff.1 hnode
  exact ⟨report, y, n, hended, by simp [hy], hcontainer, horigin, hn, hforeign⟩

end Sample

namespace GraphStore

open Ingest

/-- The edges that an ingest reports end at live nodes of their containers, or at live nodes of
any container by whose identities their ends are known. -/
theorem containers_of_ends [Supply] [PatternEngine] {steps : List Step} {s : IngestSetting}
    {mapping : TypeMapping} {staged : StagedData} {isCancelled : Bool} {report : IngestReport}
    {g' : GraphStore}
    (h : (after {} steps).ingest s mapping staged isCancelled = (.ok report, g')) :
    ∀ y ∈ report.edges, y.EndsIn g'.committed.nodes fun which n => n.archived = false ∧
      (n.containerId = y.containerId ∨ y.Identifies which n) := by
  intro y hy
  obtain ⟨t, hrun, -, hcommitted⟩ := ingest_ok h
  obtain ⟨prepared, plan, outcomes, rfl, hingested⟩ := ingested_of_run hrun
  rw [hcommitted]
  exact hingested.endsIn_of_mem (isSound_after steps).1 hy

/-- The edge that begins in another container is known there by the identity of the stop in the
data source. -/
theorem containers_of_ends_sample :
    let ended := (after {} []).ingest Sample.setting Sample.straddling (Sample.stop "b" "b") false
    ∃ report y n, ended.1 = .ok report ∧ y ∈ report.edges ∧ n ∈ ended.2.committed.nodes.values ∧
      n.containerId ≠ y.containerId ∧ y.Identifies .origin n := by
  intro ended
  obtain ⟨report, y, n, hended, hy, hcontainer, horigin, hn, hforeign⟩ := Sample.ingest_straddling
  have hne : n.containerId ≠ y.containerId := by
    rw [hcontainer, hforeign]
    decide
  obtain ⟨id, n', hid, hn', -, hknown⟩ := containers_of_ends hended y hy .origin
  cases hid.symm.trans horigin
  cases hn'.symm.trans hn
  exact ⟨report, y, n, congrArg Prod.fst hended, hy, Table.mem_values_of_get? hn, hne,
    hknown.resolve_left hne⟩

/-- An edge that an ingest reports stays inside its container, if this is the container of all
live nodes of the data sources in which its ends are known. -/
theorem staysInside_of_sources [Supply] [PatternEngine] {steps : List Step} {s : IngestSetting}
    {mapping : TypeMapping} {staged : StagedData} {isCancelled : Bool} {report : IngestReport}
    {g' : GraphStore}
    (h : (after {} steps).ingest s mapping staged isCancelled = (.ok report, g')) {y : Edge}
    (hy : y ∈ report.edges) (hsources : ∀ which n, LiveIn g'.committed.nodes n →
      n.dataSourceId = y.sourceAt which → n.containerId = y.containerId) :
    y.StaysInside g'.committed.nodes := by
  intro which
  obtain ⟨t, hrun, -, hcommitted⟩ := ingest_ok h
  obtain ⟨prepared, plan, outcomes, rfl, hingested⟩ := ingested_of_run hrun
  rw [hcommitted] at hsources ⊢
  obtain ⟨id, n, hid, hn, hlive, hknown⟩ :=
    hingested.endsIn_of_mem (isSound_after steps).1 hy which
  refine ⟨id, n, hid, hn, ?_⟩
  rcases hknown with hinside | hidentifies
  · exact hinside
  · obtain ⟨sourceId, hend, hnode⟩ := hidentifies.source
    exact hsources which n ⟨Table.mem_values_of_get? hn, hlive⟩ (hnode.trans hend.symm)

/-- An ingest may write an edge that ends in another container. -/
theorem not_staysInside : ¬ ∀ steps s mapping staged isCancelled report g',
    (after {} steps).ingest s mapping staged isCancelled = (.ok report, g') →
      ∀ y ∈ report.edges, y.StaysInside g'.committed.nodes := by
  intro h
  obtain ⟨report, y, n, hended, hy, hcontainer, horigin, hn, hforeign⟩ := Sample.ingest_straddling
  obtain ⟨id, n', hid, hn', hinside⟩ := h _ _ _ _ _ _ _ hended y hy .origin
  cases hid.symm.trans horigin
  cases hn'.symm.trans hn
  rw [hcontainer, hforeign] at hinside
  contradiction

end GraphStore

end TypedGraph
