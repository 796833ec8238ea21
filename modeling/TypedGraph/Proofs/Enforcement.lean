import TypedGraph.Graph.Counting
import TypedGraph.Pattern.Engine
import TypedGraph.Proofs.Conflicts
import TypedGraph.Proofs.Histories

/-!
# The check stands for the constraints of the store

In every graph that is reached, an edge that passed the check is written: its ends are
stored, and nothing is in its way. So an ingest that passes the checks of its mapping
commits while everything is served, and reports no failure of the store
(`GraphStore.ingest_commits`).
-/
namespace TypedGraph

open Access

namespace Ingest

variable {s : IngestSetting} {mapping : TypeMapping} {staged : StagedData}

theorem not_isOut {o : OntologyStore} {config : IngestConfig} (m : Method) :
    ¬ IngestSetting.IsOut { ontology := { store := o }, config } m := by
  simp [IngestSetting.IsOut]

variable [Supply]

/-- In a sound graph an edge between live nodes is written once the check has passed. -/
theorem putEdges_of_check {t : Transaction} (ht : t.graph.IsSound) {a : Attempt}
    (hout : ∀ m, ¬ s.IsOut m) (hsilent : s.outage.silentEdges = false)
    (hkeyed : a.pair.id = some a.edge.pairId) (horigin : LiveIn t.graph.nodes a.origin)
    (hdestination : LiveIn t.graph.nodes a.destination) {replaced : Option String}
    (hreplaced : ((replacedId s a.joined).run.run t).1 = .ok replaced)
    (hcheck : ((Connection.check s.outage a.pair a.origin a.destination replaced).run.run t).1 =
      .ok ()) :
    ((Transaction.putEdges s.outage [a.joined]).run.run t).1 = .ok [t.storedEdge a.joined] := by
  have hfound := ((serves_replacedId (s := s) a.joined t).result hout).1
  rw [hreplaced] at hfound
  cases hfound
  have hpermits := ((serves_check (s := s) a t).result hout).2
  rw [hcheck] at hpermits
  have hpermitted : a.IsPermitted t.graph := by
    rcases hpermits with ⟨-, h⟩ | ⟨_, he, -⟩
    · exact h
    · contradiction
  have hput := (serves_putEdge (s := s) a.joined t).result hout
  generalize ((Transaction.putEdges s.outage [a.joined]).run.run t) = ended at hput ⊢
  obtain ⟨r, t'⟩ := ended
  dsimp only at hput ⊢
  generalize t'.content = finish at hput
  cases hput with
  | silent silent => simp_all
  | unusable unusable =>
    obtain ⟨ids, hids⟩ := joinedNodes_of_isPermitted ht horigin hdestination hpermitted
    have hfailed : Transaction.joinedNodes t.graph a.joined = .error _ := unusable
    rw [hids] at hfailed
    contradiction
  | clashing loud clash =>
    have hclash : t.obstacle? a.joined = some _ := clash
    rw [obstacle?_eq_none ht.edges hpermitted hkeyed] at hclash
    contradiction
  | written loud free => rfl

/-- An attempt in a sound graph never fails for reasons of the store, unless writes are
silent. -/
theorem Attempted.ne_storage {x : Except RecordError Attempt} {e : RecordError}
    {t t' : Transaction} (h : Attempted s x t (.error e) t') (ht : t.graph.IsSound)
    (hsilent : s.outage.silentEdges = false) (hown : ∀ e, x = .error e → e.IsOwn)
    (hkeyed : ∀ a, x = .ok a → a.pair.id = some a.edge.pairId) (cause : StorageError) :
    e ≠ .storage cause := by
  rintro rfl
  cases h with
  | unplanned => exact hown _ rfl
  | dropped permitted silent => simp_all
  | clashing permitted loud clash =>
    rw [obstacle?_eq_none ht.edges permitted (hkeyed _ rfl)] at clash
    contradiction

variable [PatternEngine]

theorem Ingested.ne_storage {t t' : Transaction} {prepared : Prepared}
    {plan : List (Pending (Except RecordError Attempt))}
    {outcomes : List (Pending (Except RecordError Edge))}
    (h : Ingested s mapping staged t prepared plan outcomes t') (ht : t.graph.IsSound)
    (hsilent : s.outage.silentEdges = false) (ho : s.ontology.store.IsKeyed) {f : RecordFailure}
    (hf : f ∈ (reportOf t prepared outcomes).failures) (cause : StorageError) :
    f.error ≠ .storage cause := by
  rcases h.failure_cases hf with hown | ⟨p, hp, u, u', hu, hattempted⟩
  · intro heq
    rw [heq] at hown
    exact hown
  · refine hattempted.ne_storage (hu ht) hsilent (h.planned.errors p hp) (fun a ha => ?_) cause
    obtain ⟨r, -, ha⟩ := h.planned.attempts p hp a ha
    exact ho.pairs _ _ ha.pair

end Ingest

namespace GraphStore

/-- In every history, whatever was done in it, an ingest that passes the checks of its
mapping commits, and reports no failure of the store; for an edge between stored and live
nodes that passed the check is written. -/
theorem ingest_commits [Supply] [PatternEngine] (steps : List Step) {o : OntologyStore}
    (ho : o.IsKeyed) (config : IngestConfig) :
    let g := GraphStore.after {} steps
    let s : IngestSetting := { ontology := { store := o }, config }
    (∀ mapping staged, g.working = none → Ingest.checkMapping config mapping staged = .ok () →
      ∃ report t, (Ingest.run s mapping staged).run.run g.opened = (.ok report, t) ∧
        g.ingest s mapping staged false =
          (.ok report, { g with committed := t.graph, drawn := t.drawn }) ∧
        ∀ f ∈ report.failures, ∀ cause, f.error ≠ .storage cause) ∧
    ∀ t : Transaction, t.graph = g.committed ∨ g.working = some t.graph →
      ∀ (edge : Edge) (pair : RelationshipPair) (origin destination : Node)
        (replaced : Option String),
        o.pairs.get? edge.pairId = some pair →
        LiveIn t.graph.nodes origin → LiveIn t.graph.nodes destination →
        ((Ingest.replacedId s (Ingest.joinTo edge origin destination)).run.run t).1 =
          .ok replaced →
        ((Connection.check s.outage pair origin destination replaced).run.run t).1 = .ok () →
        ∃ stored, ((Transaction.putEdges s.outage
          [Ingest.joinTo edge origin destination]).run.run t).1 = .ok [stored] := by
  intro g s
  have hsound := GraphStore.isSound_after steps
  refine ⟨fun mapping staged hidle hcheck => ?_, fun t ht edge pair origin destination replaced
    hpair horigin hdestination hreplaced hchecked => ?_⟩
  · have hend := (Ingest.serves_run s mapping staged g.opened).result Ingest.not_isOut
    rcases ingest_cases hidle s mapping staged with
      ⟨report, t, hrun, hingest⟩ | ⟨e, t, hrun, hingest⟩
    · obtain ⟨prepared, plan, outcomes, rfl, h⟩ := Ingest.ingested_of_run hrun
      exact ⟨_, t, hrun, hingest, fun f hf => h.ne_storage hsound.1 rfl ho hf⟩
    · rw [hrun] at hend
      obtain ⟨_, _, _, he, -⟩ | ⟨_, -, hfailed | hunsound⟩ := hend
      · contradiction
      · rw [show Ingest.checkMapping s.config mapping staged = .ok () from hcheck] at hfailed
        contradiction
      · exact absurd hsound.1 hunsound
  · have hsound : t.graph.IsSound := by
      rcases ht with ht | ht
      · exact ht ▸ hsound.1
      · exact hsound.2 _ ht
    exact ⟨_, Ingest.putEdges_of_check (a := ⟨pair, edge, origin, destination⟩) hsound
      Ingest.not_isOut rfl (ho.pairs _ _ hpair) horigin hdestination hreplaced hchecked⟩

/-- A stop whose next one is missing is ingested, and two that are there are joined. -/
theorem ingest_commits_sample :
    let g := GraphStore.after {} [.call {} (.putNodes [Sample.node "a", Sample.node "b"])]
    let t : Transaction := { graph := g.committed, drawn := g.drawn }
    let edge : Edge := { containerId := "c", pairId := "next" }
    (∃ report t, g.ingest Sample.setting Sample.mapping (Sample.stop "d" "e") false =
        (.ok report, { g with committed := Transaction.graph t, drawn := t.drawn }) ∧
      ∀ f ∈ report.failures, ∀ cause, f.error ≠ .storage cause) ∧
    ∃ stored, ((Transaction.putEdges {}
      [Ingest.joinTo edge (Sample.node "a") (Sample.node "b")]).run.run t).1 = .ok [stored] := by
  have h := ingest_commits [.call {} (.putNodes [Sample.node "a", Sample.node "b"])]
    Sample.isKeyed_setting Sample.setting.config
  constructor
  · obtain ⟨report, t, -, hingest⟩ := h.1 Sample.mapping (Sample.stop "d" "e") rfl rfl
    exact ⟨report, t, hingest⟩
  · exact h.2 _ (.inl rfl) { containerId := "c", pairId := "next" } Sample.pair (Sample.node "a")
      (Sample.node "b") none rfl ⟨by decide +kernel, rfl⟩ ⟨by decide +kernel, rfl⟩ rfl rfl

end GraphStore

end TypedGraph
