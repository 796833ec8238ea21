import TypedGraph.Proofs.Conflicts
import TypedGraph.Proofs.Ingests

/-!
# Histories of a store

A history is any sequence of steps that a store takes: transactions are begun, committed
and rolled back, calls are made in the open transaction or in one of their own, payloads
are ingested, and any of it may fail. What every call and every ingest keeps is true of
the graph throughout (`GraphStore.All.after`). Calls and ingests change a graph by four
writes only, so that they keep what each of these keeps (`KeptByWrites.step`), as it is that
the graph is sound.
-/
namespace TypedGraph

open Access

/-- A call that changes the graph. -/
inductive Call where
  | putNodes (nodes : List Node)
  | putEdges (edges : List Edge)
  | archiveNode (id : String)
  | archiveEdge (id : String)
deriving DecidableEq, Repr, Inhabited

def Call.run [Supply] (outage : Outage) : Call → Access Transaction StorageError Unit
  | putNodes nodes => discard (Transaction.putNodes outage nodes)
  | putEdges edges => discard (Transaction.putEdges outage edges)
  | archiveNode id => Transaction.archiveNode outage id
  | archiveEdge id => Transaction.archiveEdge outage id

/-- A step of a store. Every one has an outage of its own. -/
inductive Step where
  | begin (outage : Outage)
  | commit (outage : Outage)
  | rollback
  | call (outage : Outage) (c : Call)
  | ingest (s : IngestSetting) (mapping : TypeMapping) (staged : StagedData) (isCancelled : Bool)

namespace GraphStore

/-- Whether the committed graph and the copy of an open transaction are as `I` says. -/
def All (I : Graph → Prop) (g : GraphStore) : Prop :=
  I g.committed ∧ ∀ graph, g.working = some graph → I graph

variable {I : Graph → Prop} {g : GraphStore}

theorem mem_of_concat {before steps : List Step} {step : Step}
    (h : before ++ [step] <+: steps) : step ∈ steps :=
  h.subset (by simp)

theorem All.begin (h : g.All I) (outage : Outage) : ((g.begin outage).toOption.getD g).All I := by
  unfold GraphStore.begin
  split
  · exact h
  split
  · exact h
  · exact ⟨h.1, fun graph hgraph => by cases hgraph; exact h.1⟩

theorem All.commit (h : g.All I) (outage : Outage) : (g.commit outage).2.All I := by
  unfold GraphStore.commit
  split
  · exact h
  · rename_i graph hgraph
    split
    · exact ⟨h.1, nofun⟩
    · exact ⟨h.2 graph hgraph, nofun⟩

theorem All.rollback (h : g.All I) : (g.rollback.toOption.getD g).All I := by
  unfold GraphStore.rollback
  split
  · exact h
  · exact ⟨h.1, nofun⟩

theorem All.runOpen {ε α : Type} {calls : Access Transaction ε α} (h : g.All I) {graph : Graph}
    (hgraph : I graph) (hcalls : Keeps I calls) : (g.runOpen graph calls).2.All I :=
  ⟨h.1, fun graph' h' => by
    cases h'
    exact hcalls { graph, drawn := g.drawn } hgraph⟩

theorem All.perform {ε α : Type} {calls : Access Transaction ε α} (h : g.All I)
    (hcalls : Keeps I calls) (outage : Outage) (asError : StorageError → ε) :
    (g.perform outage asError calls).2.All I := by
  unfold GraphStore.perform
  split
  · rename_i graph hgraph
    exact h.runOpen (h.2 graph hgraph) hcalls
  split
  · exact h
  have hopen := h.runOpen h.1 hcalls
  generalize g.runOpen g.committed calls = ended at hopen ⊢
  obtain ⟨r, g'⟩ := ended
  cases r with
  | error e => exact ⟨hopen.1, nofun⟩
  | ok a =>
    have hcommit := hopen.commit outage
    dsimp only
    generalize g'.commit outage = closed at hcommit ⊢
    obtain ⟨r, g''⟩ := closed
    split
    · rename_i heq
      cases heq
      exact hcommit
    · rename_i heq
      cases heq
      exact hcommit

variable [Supply] [PatternEngine]

/-- A store after a step; one that fails leaves what it did not change. -/
def step (g : GraphStore) : Step → GraphStore
  | .begin outage => (g.begin outage).toOption.getD g
  | .commit outage => (g.commit outage).2
  | .rollback => g.rollback.toOption.getD g
  | .call outage c => (g.perform outage id (c.run outage)).2
  | .ingest s mapping staged isCancelled => (g.ingest s mapping staged isCancelled).2

/-- A store after steps. -/
def after (g : GraphStore) (steps : List Step) : GraphStore := steps.foldl step g

theorem after_concat (g : GraphStore) (steps : List Step) (step : Step) :
    g.after (steps ++ [step]) = (g.after steps).step step := by
  simp [after]

/-- What is true of a store, and stays true with every step of a history, is true in the
end. -/
theorem after_induction {P : GraphStore → Prop} {steps : List Step} (h : P g)
    (hstep : ∀ before step, before ++ [step] <+: steps → P (g.after before) →
      P ((g.after before).step step)) : P (g.after steps) := by
  induction steps generalizing g with
  | nil => exact h
  | cons step steps ih =>
    refine ih (hstep [] step (by simp) h) fun before next hpart => ?_
    exact hstep (step :: before) next (List.cons_prefix_cons.2 ⟨rfl, hpart⟩)

theorem All.ingest {s : IngestSetting} {mapping : TypeMapping} {staged : StagedData}
    (h : g.All I)
    (hkeeps : ∀ t report t', (Ingest.run s mapping staged).run.run t = (.ok report, t') →
      I t.graph → I t'.graph) (isCancelled : Bool) :
    (g.ingest s mapping staged isCancelled).2.All I := by
  cases isCancelled with
  | true => exact h
  | false =>
    cases hg : g.working with
    | some graph =>
      simp only [GraphStore.ingest, hg]
      exact h
    | none =>
      rcases ingest_cases hg s mapping staged with
        ⟨report, t, hrun, hingest⟩ | ⟨e, t, hrun, hingest⟩
      · rw [hingest]
        refine ⟨hkeeps _ _ _ hrun h.1, fun graph hgraph => ?_⟩
        rw [show g.working = some graph from hgraph] at hg
        contradiction
      · rw [hingest]
        exact h

end GraphStore

/-- Whether a step keeps `I` true of the graph, if it is a call or an ingest. -/
def Step.Keeps [Supply] [PatternEngine] (I : Graph → Prop) : Step → Prop
  | call outage c => Access.Keeps I (c.run outage)
  | ingest s mapping staged _ =>
    ∀ t report t', (Ingest.run s mapping staged).run.run t = (.ok report, t') →
      I t.graph → I t'.graph
  | _ => True

namespace GraphStore

variable {I : Graph → Prop} {g : GraphStore}

variable [Supply] [PatternEngine]

theorem All.step (h : g.All I) {step : Step} (hstep : step.Keeps I) : (g.step step).All I := by
  cases step with
  | begin outage => exact h.begin outage
  | commit outage => exact h.commit outage
  | rollback => exact h.rollback
  | call outage c => exact h.perform hstep outage id
  | ingest s mapping staged isCancelled => exact h.ingest hstep isCancelled

/-- What every step keeps is true throughout a history. -/
theorem All.after (h : g.All I) {steps : List Step} (hsteps : ∀ step ∈ steps, step.Keeps I) :
    (g.after steps).All I :=
  after_induction h fun _ step hpart hbefore => hbefore.step (hsteps step (mem_of_concat hpart))

end GraphStore

/-! ## Invariants -/

/-- An invariant of graphs that every write keeps, where the nodes that are put are as `P`
says. -/
structure KeptByWrites [Supply] (P : Node → Prop) (I : Graph → Prop) : Prop where
  sound : ∀ g, I g → g.IsSound
  putNode : ∀ (t : Transaction) n, P n → I t.graph → I (t.withNode n).graph
  putEdge : ∀ (t : Transaction) x ids, Transaction.joinedNodes t.graph x = .ok ids →
    t.obstacle? x = none → I t.graph → I (t.withEdge x).graph
  archiveNode : ∀ g id g', g.archiveNode? id = some g' → I g → I g'
  archiveEdge : ∀ g id g', g.archiveEdge? id = some g' → I g → I g'

/-- Whether the nodes that a step puts by a call are as `P` says. -/
def Step.PutsOnly (P : Node → Prop) : Step → Prop
  | call _ (.putNodes nodes) => ∀ n ∈ nodes, P n
  | _ => True

theorem Step.putsOnly_true (step : Step) : step.PutsOnly fun _ => True := by
  unfold Step.PutsOnly
  split
  · intro _ _
    trivial
  · trivial

namespace KeptByWrites

variable {P : Node → Prop} {I : Graph → Prop}

variable [Supply]

theorem withNodes (h : KeptByWrites P I) {nodes : List Node} (hnodes : ∀ n ∈ nodes, P n)
    {t : Transaction} (ht : I t.graph) : I (t.withNodes nodes).graph := by
  induction nodes generalizing t with
  | nil => exact ht
  | cons n nodes ih =>
    exact ih (fun n hn => hnodes n (by simp [hn])) (h.putNode t n (hnodes n (by simp)) ht)

variable [PatternEngine]

/-- An ingest puts nodes that are not archived, and edges between live nodes. -/
theorem ingested (h : KeptByWrites P I) (hnew : ∀ n : Node, n.archived = false → P n)
    {s : IngestSetting} {mapping : TypeMapping} {staged : StagedData} {t t' : Transaction}
    {prepared : Ingest.Prepared} {plan : List (Pending (Except RecordError Attempt))}
    {outcomes : List (Pending (Except RecordError Edge))}
    (hingested : Ingest.Ingested s mapping staged t prepared plan outcomes t')
    (ht : I t.graph) : I t'.graph := by
  have hnodes := h.withNodes (fun n hn => hnew n (hingested.archived_nodes hn)) ht
  refine hingested.keeps hnodes fun p hp a ha u hu hpermitted hfree hI => ?_
  obtain ⟨q, -, hfor⟩ := hingested.planned.attempts p hp a ha
  have hsound := h.sound _ hI
  rw [← hu] at hfor
  obtain ⟨ids, hids⟩ :=
    Ingest.joinedNodes_of_isPermitted hsound hfor.origin.live hfor.destination.live hpermitted
  exact h.putEdge u a.joined ids hids hfree hI

/-- What every write keeps is kept by every step that puts such nodes only. -/
theorem step (h : KeptByWrites P I) (hnew : ∀ n : Node, n.archived = false → P n) {step : Step}
    (hstep : step.PutsOnly P) : step.Keeps I := by
  cases step with
  | call outage c =>
    cases c with
    | putNodes nodes =>
      exact (Transaction.keeps_putNodes fun _ ht => h.withNodes hstep ht).bind fun _ _ ht => ht
    | putEdges edges =>
      exact (Transaction.keeps_putEdges h.putEdge edges).bind fun _ _ ht => ht
    | archiveNode id =>
      exact Transaction.keeps_archiveNode fun _ _ hI hg => h.archiveNode _ _ _ hg hI
    | archiveEdge id =>
      exact Transaction.keeps_archiveEdge fun _ _ hI hg => h.archiveEdge _ _ _ hg hI
  | ingest s mapping staged isCancelled =>
    intro t report t' hrun ht
    obtain ⟨prepared, plan, outcomes, -, hingested⟩ := Ingest.ingested_of_run hrun
    have hend := h.ingested hnew hingested ht
    exact hend
  | _ => trivial

end KeptByWrites

/-! ## Sound graphs -/

section

variable [Supply]

theorem Graph.keptByWrites_isSound : KeptByWrites (fun _ => True) Graph.IsSound where
  sound _ h := h
  putNode _ n _ h := Transaction.isSound_withNode h n
  putEdge _ x _ _ _ h := Transaction.isSound_withEdge h x
  archiveNode _ _ _ hg h := isSound_archiveNode? h hg
  archiveEdge _ _ _ hg h := isSound_archiveEdge? h hg

variable [PatternEngine]

theorem Step.keeps_isSound (step : Step) : step.Keeps Graph.IsSound :=
  Graph.keptByWrites_isSound.step (fun _ _ => trivial) step.putsOnly_true

/-- Every graph that is reached is sound. -/
theorem GraphStore.isSound_after (steps : List Step) :
    (GraphStore.after {} steps).All Graph.IsSound :=
  All.after ⟨Graph.isSound_empty, nofun⟩ fun step _ => step.keeps_isSound

end

/-! ## Stops on a line -/

namespace Sample

/-- The stop that comes next. A stop is followed by one other, and follows one other. -/
def pair : RelationshipPair :=
  { id := some "next", containerId := "c", name := "next", originMetatypeId := "stop",
    destinationMetatypeId := "stop", relationshipId := "r", cardinality := .oneToOne }

def setting : IngestSetting :=
  { ontology := { store := .ofSnapshot "c" { pairs := [pair] } }
    config := { requireActive := false, requireShape := false, validateProperties := false } }

/-- Every payload is a stop with the name of the next one. -/
def mapping : TypeMapping :=
  { transformations :=
      [{ Transformation.toNode "c" "stop" with uniqueKey := some "name" },
       { Transformation.toEdge "c" "next" "name" "next" with uniqueKey := some "name" }] }

def stop (name next : String) : StagedData :=
  .ofPayload "d" (.object [("name", .string name), ("next", .string next)])

/-- A stop that is stored by a call. -/
def node (name : String) : Node :=
  { id := some name, containerId := "c", metatypeId := "stop", createdAt := some (.reading 1) }

/-- A stop that follows itself is ingested. -/
def steps : List Step := [.ingest setting mapping (stop "b" "b") false]

theorem isKeyed_setting : setting.ontology.store.IsKeyed := OntologyStore.isKeyed_ofSnapshot _ _

end Sample

end TypedGraph
