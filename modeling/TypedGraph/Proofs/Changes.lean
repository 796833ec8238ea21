import TypedGraph.Graph.Counting
import TypedGraph.Pattern.Engine
import TypedGraph.Proofs.Histories
import TypedGraph.Proofs.NodesTwice

/-!
# What an ingest changes

An ingest stores the records that it reports under their ids, the later ones in the place of
the earlier ones, and leaves all others as they are (`GraphStore.ingest_changes`). An
attempt at an edge that is not written leaves the edges as they are, so that failures leave
no trace.
-/
namespace TypedGraph

open Transaction

/-- The last of records that has an id. -/
def lastWithId {α : Type} (base : α → RecordBase) (records : List α) (id : String) : Option α :=
  (records.filter fun a => (base a).id == some id).getLast?

/-- A table in which records were set under their ids has for an id the last of them with
it, or what it had before. -/
theorem Table.get?_insertAll_records {α : Type} {base : α → RecordBase} (t : Table α)
    {records : List α} (hids : ∀ a ∈ records, (base a).id.isSome) (id : String) :
    (t.insertAll (records.map fun a => ((base a).id.getD "", a))).get? id =
      (lastWithId base records id).or (t.get? id) := by
  have hrows : (records.map fun a => ((base a).id.getD "", a)).filter (·.1 == id) =
      (records.filter fun a => (base a).id == some id).map fun a => ((base a).id.getD "", a) := by
    rw [List.filter_map]
    refine congrArg (List.map _) (List.filter_congr fun a ha => ?_)
    obtain ⟨other, hother⟩ := Option.isSome_iff_exists.1 (hids a ha)
    simp [hother]
  rw [get?_insertAll, hrows, List.getLast?_map, lastWithId]
  simp [Function.comp_def]

theorem Transaction.id_isSome_of_mem_storedNodes [Supply] {t : Transaction} (h : t.graph.IsSound)
    {nodes : List Node} {n : Node} (hn : n ∈ t.storedNodes nodes) : n.id.isSome := by
  induction nodes generalizing t with
  | nil => simp [storedNodes] at hn
  | cons m nodes ih =>
    rcases List.mem_cons.1 hn with rfl | hn
    · exact h.nodes.stamped_id_isSome t.drawn m.toRecordBase
    · exact ih (isSound_withNode h m) hn

namespace Ingest

variable {s : IngestSetting} {x : Except RecordError Attempt} {outcome : Except RecordError Edge}
  {plan : List (Pending (Except RecordError Attempt))}
  {outcomes : List (Pending (Except RecordError Edge))} {t t' : Transaction}

variable [Supply]

/-- An attempt sets the edge that it writes, if there is one. -/
theorem Attempted.edges_eq (h : Attempted s x t outcome t') :
    t'.graph.edges =
      t.graph.edges.insertAll (outcome.toOption.toList.map fun y => (y.id.getD "", y)) := by
  cases h <;> rfl

theorem Attempted.id_isSome {y : Edge} (h : Attempted s x t (.ok y) t') (ht : t.graph.IsSound) :
    y.id.isSome := by
  cases h
  exact ht.edges.stamped_id_isSome _ _

/-- Attempts set the edges that are written, one after the other. -/
theorem Made.edges_eq (h : Made s plan t outcomes t') :
    t'.graph.edges =
      t.graph.edges.insertAll ((writtenEdges outcomes).map fun y => (y.id.getD "", y)) := by
  induction h with
  | nil => rfl
  | cons first rest ih =>
    rw [ih, first.edges_eq, writtenEdges_cons, List.map_append]
    exact List.foldl_append.symm

theorem Made.id_isSome (h : Made s plan t outcomes t') (ht : t.graph.IsSound) {y : Edge}
    (hy : y ∈ writtenEdges outcomes) : y.id.isSome := by
  obtain ⟨q, hq, hrecord⟩ := List.mem_filterMap.1 hy
  obtain ⟨p, -, u, u', hu, hattempted⟩ := h.attempted_of_mem (I := fun u => u.graph.IsSound) ht
    (fun _ _ _ _ _ hattempted hu => hattempted.isSound hu) hq
  cases hok : q.record with
  | error e =>
    rw [hok] at hrecord
    contradiction
  | ok z =>
    rw [hok] at hrecord hattempted
    cases hrecord
    exact hattempted.id_isSome hu

variable [PatternEngine]

/-- What an ingest did to a sound graph is to set the records that it reports. -/
theorem Ingested.get?_eq {mapping : TypeMapping} {staged : StagedData} {prepared : Prepared}
    (h : Ingested s mapping staged t prepared plan outcomes t') (ht : t.graph.IsSound)
    (id : String) :
    t'.graph.nodes.get? id =
        (lastWithId Node.toRecordBase (reportOf t prepared outcomes).nodes id).or
          (t.graph.nodes.get? id) ∧
      t'.graph.edges.get? id =
        (lastWithId Edge.toRecordBase (reportOf t prepared outcomes).edges id).or
          (t.graph.edges.get? id) := by
  have hsound := isSound_withNodes ht prepared.nodes
  constructor
  · rw [h.made.nodes, nodes_withNodes]
    exact Table.get?_insertAll_records _ (fun _ => id_isSome_of_mem_storedNodes ht) id
  · rw [h.made.edges_eq, withNodes_edges]
    exact Table.get?_insertAll_records _ (fun _ => h.made.id_isSome hsound) id

end Ingest

namespace GraphStore

open Ingest

/-- An ingest that succeeds changes what it reports, and nothing else: under every id the
graph has the last node and the last edge of that id that are reported, or else those that
it had before. -/
theorem ingest_changes [Supply] [PatternEngine] {steps : List Step} {s : IngestSetting}
    {mapping : TypeMapping} {staged : StagedData} {isCancelled : Bool} {report : IngestReport}
    {g' : GraphStore}
    (h : (GraphStore.after {} steps).ingest s mapping staged isCancelled = (.ok report, g'))
    (id : String) :
    g'.committed.nodes.get? id =
        (lastWithId Node.toRecordBase report.nodes id).or
          ((GraphStore.after {} steps).committed.nodes.get? id) ∧
      g'.committed.edges.get? id =
        (lastWithId Edge.toRecordBase report.edges id).or
          ((GraphStore.after {} steps).committed.edges.get? id) := by
  have hsound := (isSound_after steps).1
  generalize GraphStore.after {} steps = g at *
  obtain ⟨t, hrun, -, hcommitted⟩ := ingest_ok h
  obtain ⟨prepared, plan, outcomes, rfl, hingested⟩ := ingested_of_run hrun
  rw [hcommitted]
  exact hingested.get?_eq hsound id

/-- A stop before the one that follows itself is stored, but its edge is refused, and the
edge that is there stays what it is. -/
theorem ingest_changes_sample :
    let g := GraphStore.after {} Sample.steps
    let ended := g.ingest Sample.setting Sample.mapping (Sample.stop "a" "b") false
    ∃ report, ended.1 = .ok report ∧ report.nodes.length = 1 ∧ report.failures.length = 1 ∧
      ended.2.committed.edges.get? (countedId 2) = g.committed.edges.get? (countedId 2) := by
  intro g ended
  obtain ⟨report, hended⟩ := ingest_of_isOk ended (by decide +kernel)
  have hreport : ended.1.toOption.map (fun r => (r.nodes.length, r.edges, r.failures.length)) =
      some (1, [], 1) := by
    decide +kernel
  rw [show ended.1 = .ok report by rw [hended]] at hreport ⊢
  injection hreport with hreport
  injection hreport with hnodes hrest
  injection hrest with hedges hfailures
  have hchanges := (ingest_changes hended (countedId 2)).2
  rw [hedges] at hchanges
  exact ⟨report, rfl, hnodes, hfailures, hchanges⟩

end GraphStore

end TypedGraph
