import TypedGraph.Graph.Counting
import TypedGraph.Pattern.Engine
import TypedGraph.Proofs.WellFormed

/-!
# Metatypes at the ends of edges

An ingest writes an edge only between nodes of the metatypes of its pair. It does not look
at the edges when it writes a node, and a node takes the place of the one with its
composite identity whatever the metatypes of the two. So an ingest may change the metatype
of a node at which an edge ends (`GraphStore.not_typedEnds`). The ends of live edges have
the metatypes of the pair throughout a history of ingests if and only if no ingest does so
(`GraphStore.typedEnds_iff`).
-/
namespace TypedGraph

/-- Whether a step is an ingest with an ontology. -/
def Step.IsIngest (o : OntologyStore) : Step → Prop
  | ingest s _ _ _ => s.ontology.store = o
  | _ => False

/-- Whether a node has the metatype that the pair of an edge has at an end. -/
def Edge.Expects (o : OntologyStore) (x : Edge) (which : End) (n : Node) : Prop :=
  ∃ p, o.pairs.get? x.pairId = some p ∧ n.metatypeId = p.metatypeAt which

namespace Graph

/-- Whether the ends of live edges are stored nodes of the metatypes of the pair. -/
def TypedEnds (o : OntologyStore) (g : Graph) : Prop :=
  ∀ key x, g.edges.get? key = some x → x.archived = false → x.EndsIn g.nodes (x.Expects o)

/-- Whether the nodes at the ends of live edges of a graph have the same metatypes in
another graph that has these edges. -/
def KeepsTypes (g g' : Graph) : Prop :=
  ∀ key x, g.edges.get? key = some x → g'.edges.get? key = some x → x.archived = false →
    ∀ which id n n', (x.side which).nodeId = some id →
      g.nodes.get? id = some n → g'.nodes.get? id = some n' → n'.metatypeId = n.metatypeId

variable {o : OntologyStore} {g g' : Graph}

theorem typedEnds_empty : TypedEnds o {} := by
  intro key x hx
  simp at hx

theorem TypedEnds.keepsTypes (h : g.TypedEnds o) (h' : g'.TypedEnds o) : g.KeepsTypes g' := by
  intro key x hx hx' hlive which id n n' hid hn hn'
  obtain ⟨id₁, n₁, hid₁, hn₁, p, hp, htype⟩ := h key x hx hlive which
  obtain ⟨id₂, n₂, hid₂, hn₂, p', hp', htype'⟩ := h' key x hx' hlive which
  simp_all

end Graph

/-! ## Ingests -/

namespace Ingest

variable {o : OntologyStore} {s : IngestSetting} {mapping : TypeMapping} {staged : StagedData}

/-- An edge that is permitted ends at nodes of the metatypes of its pair. -/
theorem expects_of_isPermitted {g : Graph} (h : g.IsSound) {a : Attempt} {edge : Edge}
    (ha : a.IsFor o g.nodes edge) (hpermitted : a.IsPermitted g) :
    a.joined.EndsIn g.nodes (a.joined.Expects o) := by
  obtain ⟨originId, destinationId, hids, -⟩ := hpermitted
  obtain ⟨ho, hd, -, -⟩ := Connection.checkNodes_ok hids
  obtain ⟨hotype, hdtype⟩ := Connection.checkNodes_metatypes hids
  intro which
  cases which with
  | origin =>
    exact ⟨originId, a.origin, ho, get?_of_liveIn h ha.origin.live ho, a.pair, ha.pair, hotype⟩
  | destination =>
    exact ⟨destinationId, a.destination, hd, get?_of_liveIn h ha.destination.live hd, a.pair,
      ha.pair, hdtype⟩

variable [Supply] [PatternEngine]

/-- An edge that is stored after an ingest was stored before, or its ends have the
metatypes of its pair. -/
theorem Ingested.edge_cases {t t' : Transaction} {prepared : Prepared}
    {plan : List (Pending (Except RecordError Attempt))}
    {outcomes : List (Pending (Except RecordError Edge))}
    (h : Ingested s mapping staged t prepared plan outcomes t') (ht : t.graph.IsSound)
    {key : String} {x : Edge} (hx : t'.graph.edges.get? key = some x) :
    t.graph.edges.get? key = some x ∨
      x.EndsIn t'.graph.nodes (x.Expects s.ontology.store) := by
  have hend := h.keeps (I := fun u => u.IsSound ∧ ∀ key x, u.edges.get? key = some x →
    t.graph.edges.get? key = some x ∨ x.EndsIn u.nodes (x.Expects s.ontology.store)) ?_ ?_
  · exact hend.2 key x hx
  · refine ⟨Transaction.isSound_withNodes ht _, fun key x hx => .inl ?_⟩
    rwa [Transaction.withNodes_edges] at hx
  · intro p hp a ha u hu hpermitted hfree ⟨hsound, hI⟩
    refine ⟨Transaction.isSound_withEdge hsound _, fun key y hy => ?_⟩
    rcases Table.get?_insert_cases hy with ⟨-, rfl⟩ | ⟨-, hy⟩
    · obtain ⟨q, -, hfor⟩ := h.planned.attempts p hp a ha
      rw [← hu] at hfor
      have hends := expects_of_isPermitted hsound hfor hpermitted
      exact .inr (hends.congr fun which => by rw [Transaction.side_storedEdge])
    · exact hI key y hy

end Ingest

namespace GraphStore

open Ingest

variable {o : OntologyStore} {g : GraphStore} {steps : List Step}

variable [Supply] [PatternEngine]

/-- While no transaction is open, an edge that is committed after an ingest was committed
before, or its ends have the metatypes of its pair. -/
theorem edge_cases_of_isIngest (hg : g.working = none) (hsound : g.committed.IsSound)
    {step : Step} (hstep : step.IsIngest o) {key : String} {x : Edge}
    (hx : (g.step step).committed.edges.get? key = some x) :
    g.committed.edges.get? key = some x ∨
      x.EndsIn (g.step step).committed.nodes (x.Expects o) := by
  cases step with
  | ingest s mapping staged isCancelled =>
    cases hstep
    cases isCancelled with
    | true => exact .inl hx
    | false =>
      rcases ingest_cases hg s mapping staged with ⟨report, t, hrun, hingest⟩ | ⟨e, t, -, hingest⟩
      · obtain ⟨prepared, plan, outcomes, -, hingested⟩ := ingested_of_run hrun
        simp only [GraphStore.step, hingest] at hx ⊢
        exact hingested.edge_cases hsound hx
      · simp only [GraphStore.step, hingest] at hx
        exact .inl hx
  | _ => contradiction

/-- No ingest leaves a transaction open. -/
theorem working_of_isIngest (hg : g.working = none) {step : Step} (hstep : step.IsIngest o) :
    (g.step step).working = none := by
  cases step with
  | ingest s mapping staged isCancelled =>
    exact working_ingest_of_idle hg s mapping staged isCancelled
  | _ => contradiction

/-- The ends of live edges have the metatypes of the pair after an ingest if they had them
before, and the ingest keeps the metatypes of the nodes at which live edges end. -/
theorem typedEnds_step (hg : g.working = none) (hsound : g.All Graph.IsSound) {step : Step}
    (hstep : step.IsIngest o) (htyped : g.committed.TypedEnds o)
    (hkeeps : g.committed.KeepsTypes (g.step step).committed) :
    (g.step step).committed.TypedEnds o := by
  intro key x hx hlive which
  rcases edge_cases_of_isIngest hg hsound.1 hstep hx with hold | hnew
  · obtain ⟨id, n, hid, hn, p, hp, htype⟩ := htyped key x hold hlive which
    have hwithin := All.step (I := fun u => u.IsSound ∧ g.committed.Within u)
      ⟨⟨hsound.1, Graph.within_refl _⟩, fun graph hgraph => by rw [hg] at hgraph; contradiction⟩
      (step.keeps_within g.committed)
    -- The ingest may have written another node in the place of this one.
    obtain ⟨n', hn'⟩ := hwithin.1.2.node hn
    have hsame := hkeeps key x hold hx hlive which id n n' hid hn hn'
    exact ⟨id, n', hid, hn', p, hp, hsame.trans htype⟩
  · exact hnew which

/-- What is known of a store while ingests keep the ends of live edges typed. -/
structure IsTyped (o : OntologyStore) (g : GraphStore) : Prop where
  idle : g.working = none
  sound : g.All Graph.IsSound
  ends : g.committed.TypedEnds o

theorem isTyped_after (hg : g.IsTyped o) (hsteps : ∀ step ∈ steps, step.IsIngest o)
    (hkeeps : ∀ before step, before ++ [step] <+: steps →
      (g.after before).committed.KeepsTypes (g.after (before ++ [step])).committed) :
    (g.after steps).IsTyped o := by
  refine after_induction hg fun before step hpart hbefore => ?_
  have hstep := hsteps step (mem_of_concat hpart)
  have hkept := hkeeps before step hpart
  rw [after_concat] at hkept
  exact ⟨working_of_isIngest hbefore.idle hstep, hbefore.sound.step step.keeps_isSound,
    typedEnds_step hbefore.idle hbefore.sound hstep hbefore.ends hkept⟩

/-- The ends of live edges have the metatypes of the pair throughout a history of ingests
if and only if every ingest keeps the metatypes of the nodes at which live edges end. -/
theorem typedEnds_iff (hsteps : ∀ step ∈ steps, step.IsIngest o) :
    (∀ before, before <+: steps → (after {} before).committed.TypedEnds o) ↔
      ∀ before step, before ++ [step] <+: steps →
        (after {} before).committed.KeepsTypes (after {} (before ++ [step])).committed := by
  constructor
  · intro htyped before step hpart
    have hbefore : before <+: steps := (List.prefix_append before [step]).trans hpart
    exact (htyped before hbefore).keepsTypes (htyped _ hpart)
  · intro hkeeps before hbefore
    have hempty : IsTyped o {} := ⟨rfl, ⟨Graph.isSound_empty, nofun⟩, Graph.typedEnds_empty⟩
    have hend := isTyped_after hempty (fun step hmem => hsteps step (hbefore.subset hmem))
      fun front step hpart => hkeeps front step (hpart.trans hbefore)
    exact hend.ends

end GraphStore

/-! ## A stop that becomes a depot -/

namespace Sample

/-- Every payload is a depot. -/
def depotMapping : TypeMapping :=
  { transformations := [{ Transformation.toNode "c" "depot" with uniqueKey := some "name" }] }

/-- A stop that follows itself is ingested, then the same record as a depot. -/
def retypingSteps : List Step := steps ++ [.ingest setting depotMapping (stop "b" "b") false]

end Sample

namespace GraphStore

open Transaction

/-- The stop that follows itself is one at both ends of its edge. -/
theorem typedEnds_sample : (∀ step ∈ Sample.steps, step.IsIngest Sample.setting.ontology.store) ∧
    (after {} Sample.steps).committed.TypedEnds Sample.setting.ontology.store := by
  have hsteps : ∀ step ∈ Sample.steps, step.IsIngest Sample.setting.ontology.store := by
    simp [Sample.steps, Step.IsIngest]
  refine ⟨hsteps, (typedEnds_iff hsteps).2 ?_ _ (List.prefix_refl _)⟩
  intro before step hpart key x hx
  have hlength : before.length = 0 := by simpa [Sample.steps] using hpart.length_le
  rw [List.length_eq_zero_iff.1 hlength] at hx
  simp [GraphStore.after] at hx

/-- An ingest may change the metatype of a node at which an edge ends. -/
theorem not_typedEnds : ¬ ∀ o steps, (∀ step ∈ steps, Step.IsIngest o step) →
    (after {} steps).committed.TypedEnds o := by
  intro h
  have hsteps : ∀ step ∈ Sample.retypingSteps, step.IsIngest Sample.setting.ontology.store := by
    simp [Sample.retypingSteps, Sample.steps, Step.IsIngest]
  have hedge : ((after {} Sample.retypingSteps).committed.edges.get? (countedId 2)).map
      (fun x => (x.archived, x.origin.nodeId, x.pairId)) =
        some (false, some (countedId 1), "next") := by
    decide +kernel
  have hnode : ((after {} Sample.retypingSteps).committed.nodes.get? (countedId 1)).map
      Node.metatypeId = some "depot" := by
    decide +kernel
  have hpair : Sample.setting.ontology.store.pairs.get? "next" = some Sample.pair := rfl
  obtain ⟨x, hx, hfields⟩ := Option.map_eq_some_iff.1 hedge
  obtain ⟨n, hn, hdepot⟩ := Option.map_eq_some_iff.1 hnode
  simp only [Prod.mk.injEq] at hfields
  obtain ⟨hlive, horigin, hpairId⟩ := hfields
  obtain ⟨id, m, hid, hm, p, hp, htype⟩ := h _ _ hsteps _ x hx hlive .origin
  cases hid.symm.trans horigin
  cases hm.symm.trans hn
  rw [hpairId, hpair] at hp
  cases hp
  rw [hdepot] at htype
  exact absurd htype (by decide)

end GraphStore

end TypedGraph
