import TypedGraph.Graph.Counting
import TypedGraph.Pattern.Engine
import TypedGraph.Proofs.EdgeEnds
import TypedGraph.Proofs.Histories
import TypedGraph.Proofs.Validation

/-!
# Valid graphs

A graph is valid for an ontology if every node has a metatype and every edge a pair, and
their properties are what the schema of the metatype, or of the relationship of the pair,
returns for them. An ingest that validates what a mapping for one container produces writes
such records only, each in the place of one that it replaces as a whole. So every graph of a
history in which records are written by such ingests only is valid
(`GraphStore.isValid_after`), also where the ingests are for different containers.
-/
namespace TypedGraph

open Access

/-- A graph whose nodes and edges, archived or not, an ontology admits. -/
structure Graph.IsValid [PatternEngine] (o : OntologyStore) (g : Graph) : Prop where
  nodes : ∀ id n, g.nodes.get? id = some n → o.AdmitsNode n
  edges : ∀ id x, g.edges.get? id = some x → o.AdmitsEdge x

/-- Whether a step writes records by ingests only that use an ontology, validate properties
and apply a mapping all of whose live transformations are for one container. -/
def Step.IngestsValidated (o : OntologyStore) : Step → Prop
  | call _ (.putNodes _) => False
  | call _ (.putEdges _) => False
  | ingest s mapping _ _ =>
    s.ontology.store = o ∧ s.config.validateProperties = true ∧
      ∃ c, ∀ t ∈ mapping.liveTransformations, t.containerId = c
  | _ => True

namespace Graph

variable {o : OntologyStore} {g g' : Graph} {id : String}

variable [PatternEngine]

theorem isValid_empty : IsValid o {} := ⟨by simp, by simp⟩

variable [Supply]

theorem isValid_withNode {t : Transaction} {n : Node} (h : t.graph.IsValid o)
    (hn : o.AdmitsNode n) : (t.withNode n).graph.IsValid o where
  nodes id n' hn' := by
    rcases Table.get?_insert_cases hn' with ⟨-, rfl⟩ | ⟨-, hn'⟩
    · exact hn.congr Transaction.stamped_containerId rfl Transaction.stamped_properties
    · exact h.nodes id n' hn'
  edges := h.edges

theorem isValid_withNodes {t : Transaction} {nodes : List Node} (h : t.graph.IsValid o)
    (hnodes : ∀ n ∈ nodes, o.AdmitsNode n) : (t.withNodes nodes).graph.IsValid o := by
  induction nodes generalizing t with
  | nil => exact h
  | cons n nodes ih =>
    exact ih (isValid_withNode h (hnodes n (by simp))) fun n hn => hnodes n (by simp [hn])

theorem isValid_withEdge {t : Transaction} {x : Edge} (h : t.graph.IsValid o)
    (hx : o.AdmitsEdge x) : (t.withEdge x).graph.IsValid o where
  nodes := h.nodes
  edges id y hy := by
    rcases Table.get?_insert_cases hy with ⟨-, rfl⟩ | ⟨-, hy⟩
    · exact hx.congr Transaction.stamped_containerId rfl Transaction.stamped_properties
    · exact h.edges id y hy

omit [Supply] in
/-- Archiving changes nothing that an ontology looks at. -/
theorem isValid_archiveNode? (h : g.IsValid o) (hg : g.archiveNode? id = some g') :
    g'.IsValid o := by
  obtain ⟨n, hn, hnodes⟩ := nodes_of_archiveNode? hg
  constructor
  · intro key m hm
    rw [hnodes] at hm
    rcases Table.get?_insert_cases hm with ⟨-, rfl⟩ | ⟨-, hm⟩
    · exact (h.nodes id n hn).congr rfl rfl rfl
    · exact h.nodes key m hm
  · intro key x hx
    obtain ⟨y, hy, ⟨rfl, -⟩ | rfl⟩ := edge_of_archiveNode? hg hx
    · exact h.edges key x hy
    · exact (h.edges key y hy).congr rfl rfl rfl

omit [Supply] in
theorem isValid_archiveEdge? (h : g.IsValid o) (hg : g.archiveEdge? id = some g') :
    g'.IsValid o := by
  constructor
  · rw [nodes_of_archiveEdge? hg]
    exact h.nodes
  · intro key x hx
    obtain ⟨y, hy, rfl | rfl⟩ := edge_of_archiveEdge? hg hx
    · exact h.edges key x hy
    · exact (h.edges key y hy).congr rfl rfl rfl

end Graph

/-! ## Ingests -/

namespace Ingest

variable {s : IngestSetting} {mapping : TypeMapping} {staged : StagedData} {t t' : Transaction}
  {prepared : Prepared} {plan : List (Pending (Except RecordError Attempt))}
  {outcomes : List (Pending (Except RecordError Edge))} {c : String}

variable [Supply] [PatternEngine]

/-- An ingest that validates the records of one container keeps a graph valid. -/
theorem Ingested.isValid (h : Ingested s mapping staged t prepared plan outcomes t')
    (hvalidated : s.config.validateProperties = true)
    (hmapping : ∀ t ∈ mapping.liveTransformations, t.containerId = c)
    (ht : t.graph.IsValid s.ontology.store) : t'.graph.IsValid s.ontology.store := by
  obtain ⟨hnodes, hedges⟩ :=
    (returns_start hvalidated hmapping).of_result (h.started t)
  have hreturns := returns_planEdges hvalidated (edgeAnswers_empty _ c) hedges
  have hplan := hreturns.of_result (h.planned.result (t.withNodes prepared.nodes) rfl)
  refine h.keeps (Graph.isValid_withNodes ht hnodes) fun p hp a ha u _ _ _ hu => ?_
  have hjoined : s.ontology.store.AdmitsEdge a.joined := (hplan p hp a ha).congr rfl rfl rfl
  exact Graph.isValid_withEdge hu hjoined

end Ingest

/-! ## Histories -/

section

variable [Supply] [PatternEngine]

theorem Step.keeps_isValid {o : OntologyStore} {step : Step} (hstep : step.IngestsValidated o) :
    step.Keeps (Graph.IsValid o) := by
  cases step with
  | call outage c =>
    cases c with
    | putNodes nodes => exact hstep.elim
    | putEdges edges => exact hstep.elim
    | archiveNode id =>
      exact Transaction.keeps_archiveNode fun _ _ h hg => Graph.isValid_archiveNode? h hg
    | archiveEdge id =>
      exact Transaction.keeps_archiveEdge fun _ _ h hg => Graph.isValid_archiveEdge? h hg
  | ingest s mapping staged isCancelled =>
    obtain ⟨rfl, hvalidated, c, hmapping⟩ := hstep
    intro t report t' hrun ht
    obtain ⟨prepared, plan, outcomes, -, hingested⟩ := Ingest.ingested_of_run hrun
    have hend := hingested.isValid hvalidated hmapping ht
    exact hend
  | _ => trivial

/-- Every graph of a history is valid in which records are written by ingests only that
validate them, each for one container. -/
theorem GraphStore.isValid_after {o : OntologyStore} {steps : List Step}
    (hsteps : ∀ step ∈ steps, step.IngestsValidated o) :
    (GraphStore.after {} steps).All (Graph.IsValid o) :=
  All.after ⟨Graph.isValid_empty, nofun⟩ fun step hmem =>
    Step.keeps_isValid (hsteps step hmem)

end

/-! ## Stops in a zone -/

namespace Sample

/-- Every stop lies in a zone, in the inner one unless it is said otherwise. -/
def zonedOntology : OntologyStore :=
  .ofSnapshot "c" {
    metatypes := [{ id := some "stop", name := "Stop", keys := [
      { name := "zone", propertyName := "zone", dataType := .string, required := true
        defaultValue := some (.string "inner") }] }]
    relationships := [{ id := some "r", name := "next" }]
    pairs := [pair] }

def zonedSetting : IngestSetting :=
  { ontology := { store := zonedOntology }
    config := { requireActive := false, requireShape := false } }

/-- A stop that follows itself is ingested, then a stop before it. -/
def zonedSteps : List Step :=
  [.ingest zonedSetting mapping (stop "b" "b") false,
   .ingest zonedSetting mapping (stop "a" "b") false]

end Sample

/-- Stops that are ingested without a zone are stored in the inner one, and are valid. -/
theorem GraphStore.isValid_after_sample :
    (∀ step ∈ Sample.zonedSteps, step.IngestsValidated Sample.zonedOntology) ∧
      let g := GraphStore.after {} Sample.zonedSteps
      (g.committed.nodes.values.map fun n => n.properties) =
        [[("zone", .string "inner")], [("zone", .string "inner")]] ∧
        g.committed.liveEdges.length = 1 ∧ g.All (Graph.IsValid Sample.zonedOntology) := by
  have hcontainer : ∀ t ∈ Sample.mapping.liveTransformations, t.containerId = "c" := by
    decide +kernel
  have hsteps : ∀ step ∈ Sample.zonedSteps, step.IngestsValidated Sample.zonedOntology := by
    simpa [Sample.zonedSteps, Step.IngestsValidated, Sample.zonedSetting] using ⟨"c", hcontainer⟩
  exact ⟨hsteps, by decide +kernel, by decide +kernel, isValid_after hsteps⟩

end TypedGraph
