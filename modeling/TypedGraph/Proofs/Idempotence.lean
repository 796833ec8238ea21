import TypedGraph.Graph.Counting
import TypedGraph.Pattern.Engine
import TypedGraph.Proofs.EdgesTwice
import TypedGraph.Proofs.Histories

/-!
# Ingesting the same data twice

An ingest whose records all have composite identities leaves the nodes as they are when it
is repeated. It leaves the edges as they are, too, and reports as many of them, if the
edges that it attempted to write had different identities that were not stored before
(`GraphStore.ingest_twice`).
-/
namespace TypedGraph

open Transaction

namespace Ingest

variable {s : IngestSetting} {mapping : TypeMapping} {staged : StagedData} {t t' : Transaction}

variable [Supply] [PatternEngine]

/-- The edges that an ingest attempts to write once its nodes are written: those of all
combinations of ends, each with the composite identity that is its own. -/
def attemptedEdges (s : IngestSetting) (mapping : TypeMapping) (staged : StagedData)
    (t : Transaction) : List Edge :=
  match ((start s mapping staged).run.run t).1 with
  | .error _ => []
  | .ok prepared =>
    match ((planEdges s {} prepared.edges).run.run (t.withNodes prepared.nodes)).1 with
    | .error _ => []
    | .ok plan => (attemptsOf plan).map Attempt.joined

section Ingested

variable {prepared : Prepared} {plan : List (Pending (Except RecordError Attempt))}
  {outcomes : List (Pending (Except RecordError Edge))}

theorem Ingested.attemptedEdges_eq (h : Ingested s mapping staged t prepared plan outcomes t') :
    attemptedEdges s mapping staged t = (attemptsOf plan).map Attempt.joined := by
  unfold attemptedEdges
  rw [h.started t]
  dsimp only
  rw [h.planned.result _ rfl]

/-- Whether all records that a mapping produces from a payload have a composite identity. -/
def ProducesNamed (s : IngestSetting) (mapping : TypeMapping) (staged : StagedData) : Prop :=
  ∀ produced, production s mapping staged = .ok produced →
    (∀ p ∈ produced.nodes, p.record.compositeId.isSome) ∧
      ∀ p ∈ produced.edges, p.record.compositeId.isSome

omit [Supply] [PatternEngine] in
theorem isNamed_of_isNew {r : RecordBase} (h : r.IsNew) (hc : r.compositeId.isSome) :
    r.IsNamed := by
  obtain ⟨c, hc⟩ := Option.isSome_iff_exists.1 hc
  obtain ⟨d, hd⟩ := Option.isSome_iff_exists.1 h.dataSource
  exact ⟨h.id, c, d, RecordBase.hasIdentity_iff.2 ⟨hc, hd⟩⟩

theorem Ingested.isNamed_nodes (h : Ingested s mapping staged t prepared plan outcomes t')
    (hnamed : ProducesNamed s mapping staged) : ∀ n ∈ prepared.nodes, n.IsNamed := by
  intro n hn
  obtain ⟨produced, hproduction, hsound, hfrom⟩ := h.produced
  obtain ⟨p, hp, properties, rfl⟩ := hfrom.nodes n hn
  have hnamed := isNamed_of_isNew (hsound.nodes p hp) ((hnamed produced hproduction).1 p hp)
  exact ⟨hnamed.id, hnamed.identity⟩

theorem Ingested.isReady (h : Ingested s mapping staged t prepared plan outcomes t')
    (hnamed : ProducesNamed s mapping staged) :
    ∀ a ∈ attemptsOf plan, a.IsReady s.ontology.store := by
  intro a ha
  obtain ⟨p, hp, hrecord⟩ := List.mem_filterMap.1 ha
  have hok : p.record = .ok a := by
    cases hr : p.record <;> rw [hr] at hrecord <;> cases hrecord
    rfl
  obtain ⟨q, hq, hfor⟩ := h.planned.attempts p hp a hok
  obtain ⟨produced, hproduction, hsound, hfrom⟩ := h.produced
  rw [hfrom.edges] at hq
  have hnew := hsound.edges q hq
  have hcomposite := (hnamed produced hproduction).2 q hq
  refine ⟨hfor.pair, isNamed_of_isNew ⟨?_, ?_, ?_⟩ ?_, ?_⟩
  · exact hfor.id.trans hnew.id
  · exact hfor.archived.trans hnew.archived
  · change a.edge.dataSourceId.isSome
    rw [hfor.dataSource]
    exact hnew.dataSource
  · exact hfor.composite.trans hcomposite
  · exact hfor.archived.trans hnew.archived

omit [PatternEngine] in
theorem Made.drawn_le (h : Made s plan t outcomes t') : t.drawn.ids ≤ t'.drawn.ids :=
  h.keeps (I := fun t' => t.drawn.ids ≤ t'.drawn.ids) (Nat.le_refl _)
    fun _ _ _ _ _ hattempted hle => Nat.le_trans hle hattempted.drawn_le

end Ingested

section Twice

variable {prepared prepared' : Prepared} {plan plan' : List (Pending (Except RecordError Attempt))}
  {outcomes outcomes' : List (Pending (Except RecordError Edge))} {t'' : Transaction}

/-- The same records are prepared whatever the graph. -/
theorem Ingested.prepared_eq (h : Ingested s mapping staged t prepared plan outcomes t')
    (h' : Ingested s mapping staged t' prepared' plan' outcomes' t'') : prepared' = prepared := by
  have heq := (h'.started t).symm.trans (h.started t)
  cases heq
  rfl

/-- The nodes that are written again are those that are there. -/
theorem Ingested.withNodes_twice (h : Ingested s mapping staged t prepared plan outcomes t')
    (hsound : t.graph.IsSound) (hnamed : ProducesNamed s mapping staged)
    (hfresh : Fresh t.graph.nodes t.drawn) :
    (t'.withNodes prepared.nodes).graph.nodes = t'.graph.nodes :=
  nodes_withNodes_twice hsound (h.isNamed_nodes hnamed) hfresh (h.isSound hsound) h.made.nodes
    h.made.drawn_le

/-- The same attempts are planned on the same nodes. -/
theorem Ingested.plan_eq (h : Ingested s mapping staged t prepared plan outcomes t')
    (h' : Ingested s mapping staged t' prepared plan' outcomes' t'')
    (hnodes : (t'.withNodes prepared.nodes).graph.nodes =
      (t.withNodes prepared.nodes).graph.nodes) :
    plan' = plan := by
  have hplan' := h'.planned.result (t.withNodes prepared.nodes) hnodes.symm
  have heq := hplan'.symm.trans (h.planned.result (t.withNodes prepared.nodes) rfl)
  cases heq
  rfl

/-- The attempts of an ingest are still to be made once the nodes are written, if their
edges have different identities that are not stored. -/
theorem Ingested.awaits (h : Ingested s mapping staged t prepared plan outcomes t')
    (hsound : t.graph.IsSound) (hnamed : ProducesNamed s mapping staged)
    (hfresh : Fresh t.graph.edges t.drawn)
    (hdistinct : (attemptedEdges s mapping staged t).Pairwise fun x y => x.identity ≠ y.identity)
    (habsent : ∀ x ∈ attemptedEdges s mapping staged t, ∀ y ∈ t.graph.edges.values,
      y.identity ≠ x.identity) :
    Awaits s.ontology.store plan (t.withNodes prepared.nodes) := by
  rw [h.attemptedEdges_eq] at hdistinct habsent
  rw [List.pairwise_map] at hdistinct
  have hedges := (isSound_withNodes hsound prepared.nodes).edges
  refine ⟨h.isReady hnamed, hdistinct, fun a ha id y hy => ?_, hedges, ?_⟩
  · rw [withNodes_edges] at hy
    exact habsent a.joined (List.mem_map_of_mem ha) y (Table.mem_values_of_get? hy)
  · rw [withNodes_edges]
    exact hfresh.mono (ids_withNodes _ _)

/-- The attempts that are made again leave the edges as they are. -/
theorem Ingested.edges_twice (h : Ingested s mapping staged t prepared plan outcomes t')
    (h' : Ingested s mapping staged t' prepared plan outcomes' t'') (hsound : t.graph.IsSound)
    (ho : s.ontology.store.IsKeyed)
    (hplan : Awaits s.ontology.store plan (t.withNodes prepared.nodes)) :
    t''.graph.edges = t'.graph.edges ∧
      (writtenEdges outcomes').length = (writtenEdges outcomes).length ∧
      (failedEdges outcomes').length = (failedEdges outcomes).length := by
  rw [← withNodes_edges t' prepared.nodes]
  cases hsilent : s.outage.silentEdges with
  | true =>
    rw [h'.made.graph_of_silent hsilent]
    exact ⟨rfl, length_of_isOk_eq (h.made.isOk_of_silent h'.made hsilent)⟩
  | false =>
    have hsettled := forall₂_settled h.made ho hsilent hplan
    have hedges := (isSound_withNodes (h.isSound hsound) prepared.nodes).edges
    rw [← withNodes_edges t' prepared.nodes] at hsettled
    obtain ⟨hsame, hok⟩ := edges_of_settled h'.made ho hsilent hplan.ready hedges hsettled
    exact ⟨hsame, length_of_isOk_eq hok⟩

end Twice

end Ingest

namespace GraphStore

open Ingest

/-- An ingest of records with composite identities that succeeds twice in a row leaves the
nodes of the first time. If the edges that it attempts to write at first have different
identities, and none of them is stored, it leaves the edges as well, and reports as many
edges and failures. -/
theorem ingest_twice [Supply] [PatternEngine] {steps : List Step} {s : IngestSetting}
    {mapping : TypeMapping} {staged : StagedData} {report₁ report₂ : IngestReport}
    {g₁ g₂ : GraphStore}
    (ho : s.ontology.store.IsKeyed) (hnamed : ProducesNamed s mapping staged)
    (hnodes : Fresh (GraphStore.after {} steps).committed.nodes (GraphStore.after {} steps).drawn)
    (hedges : Fresh (GraphStore.after {} steps).committed.edges (GraphStore.after {} steps).drawn)
    (h₁ : (GraphStore.after {} steps).ingest s mapping staged false = (.ok report₁, g₁))
    (h₂ : g₁.ingest s mapping staged false = (.ok report₂, g₂)) :
    g₂.committed.nodes = g₁.committed.nodes ∧
      (((attemptedEdges s mapping staged (GraphStore.after {} steps).opened).Pairwise
          fun x y => x.identity ≠ y.identity) →
        (∀ x ∈ attemptedEdges s mapping staged (GraphStore.after {} steps).opened,
          ∀ y ∈ (GraphStore.after {} steps).committed.edges.values, y.identity ≠ x.identity) →
        g₂.committed.edges = g₁.committed.edges ∧
          report₂.edges.length = report₁.edges.length ∧
          report₂.failures.length = report₁.failures.length) := by
  have hsound := (isSound_after steps).1
  generalize GraphStore.after {} steps = g at *
  obtain ⟨t₁, hrun₁, hopened₁, hcommitted₁⟩ := ingest_ok h₁
  obtain ⟨t₂, hrun₂, hopened₂, hcommitted₂⟩ := ingest_ok h₂
  obtain ⟨prepared, plan, outcomes, rfl, hfirst⟩ := ingested_of_run hrun₁
  obtain ⟨prepared', plan', outcomes', rfl, hsecond⟩ := ingested_of_run hrun₂
  change Ingested s mapping staged g.opened prepared plan outcomes t₁.content at hfirst
  change Ingested s mapping staged g₁.opened prepared' plan' outcomes' t₂.content at hsecond
  rw [hopened₁] at hsecond
  cases hfirst.prepared_eq hsecond
  have htwice := hfirst.withNodes_twice hsound hnamed hnodes
  cases hfirst.plan_eq hsecond (htwice.trans hfirst.made.nodes)
  rw [hcommitted₁, hcommitted₂]
  refine ⟨hsecond.made.nodes.trans htwice, fun hdistinct habsent => ?_⟩
  obtain ⟨hsame, hwritten, hfailed⟩ := hfirst.edges_twice hsecond hsound ho
    (hfirst.awaits hsound hnamed hedges hdistinct habsent)
  refine ⟨hsame, hwritten, ?_⟩
  simp only [reportOf, List.length_append, hfailed]

/-- A stop that follows itself stays what it is, beside one that was created at another time,
when it is ingested again. -/
theorem ingest_twice_sample :
    let g₁ := ((GraphStore.after {} Sample.steps).ingest Sample.setting Sample.mapping
      (Sample.stop "a" "a") false).2
    let g₂ := (g₁.ingest Sample.setting Sample.mapping (Sample.stop "a" "a") false).2
    g₁.committed.liveEdges.length = 2 ∧
      g₁.committed.nodes.values.map (·.createdAt) = [some (.reading 1), some (.reading 3)] ∧
      g₂.committed.nodes = g₁.committed.nodes ∧
      g₂.committed.edges = g₁.committed.edges := by
  have hnamed : ProducesNamed Sample.setting Sample.mapping (Sample.stop "a" "a") := by
    intro produced hproduced
    cases hproduced
    decide +kernel
  have hnodeKeys : (GraphStore.after {} Sample.steps).committed.nodes.keys = [countedId 1] := by
    decide +kernel
  have hedgeKeys : (GraphStore.after {} Sample.steps).committed.edges.keys = [countedId 2] := by
    decide +kernel
  have hdrawn : (GraphStore.after {} Sample.steps).drawn.ids = 2 := by decide +kernel
  have hnodes := fresh_of_drawn (GraphStore.after {} Sample.steps).drawn fun key hkey =>
    ⟨1, by omega, List.mem_singleton.1 (hnodeKeys ▸ hkey)⟩
  have hedges := fresh_of_drawn (GraphStore.after {} Sample.steps).drawn fun key hkey =>
    ⟨2, by omega, List.mem_singleton.1 (hedgeKeys ▸ hkey)⟩
  obtain ⟨report₁, h₁⟩ := ingest_of_isOk ((GraphStore.after {} Sample.steps).ingest
    Sample.setting Sample.mapping (Sample.stop "a" "a") false) (by decide +kernel)
  obtain ⟨report₂, h₂⟩ := ingest_of_isOk (((GraphStore.after {} Sample.steps).ingest
    Sample.setting Sample.mapping (Sample.stop "a" "a") false).2.ingest
    Sample.setting Sample.mapping (Sample.stop "a" "a") false) (by decide +kernel)
  have htwice := ingest_twice Sample.isKeyed_setting hnamed hnodes hedges h₁ h₂
  refine ⟨by decide +kernel, by decide +kernel, htwice.1, ?_⟩
  exact (htwice.2 (by decide +kernel) (by decide +kernel)).1

end GraphStore

end TypedGraph
