import TypedGraph.Graph.Counting
import TypedGraph.Pattern.Engine
import TypedGraph.Proofs.Advances
import TypedGraph.Proofs.Cardinality

/-!
# The ids of identities

No ids are chosen in a history of ingests and of calls that archive records, or put records
without ids. Then every id is one that the store has drawn, and the next one is fresh. A
transaction that is committed has kept the ids of all identities that were committed when
it was begun, since nothing else is committed while it is open. So an identity that is
committed under an id stands under that id, and nowhere else, in every later committed
graph (`GraphStore.identities_after`).
-/
namespace TypedGraph

open Access

/-- Whether exactly one record of a table has an identity, archived or not, and it has the
id. -/
def Table.IsIdOf {α : Type} (base : α → RecordBase) (t : Table α)
    (id compositeId dataSourceId : String) : Prop :=
  ∃ a, t.values.filter (fun a => (base a).hasIdentity compositeId dataSourceId) = [a] ∧
    (base a).id = some id

namespace IsRegister

variable {α : Type} {base : α → RecordBase} {t u : Table α} {id compositeId dataSourceId : String}

/-- No two records of a register have the same identity. -/
theorem filter_hasIdentity_eq (h : IsRegister base t) {a : α} (ha : a ∈ t.values)
    (hidentity : (base a).hasIdentity compositeId dataSourceId) :
    t.values.filter (fun a => (base a).hasIdentity compositeId dataSourceId) = [a] := by
  have hle := h.ordered.length_filter_le_one
    (p := fun a => (base a).hasIdentity compositeId dataSourceId)
    fun _ _ _ _ ha hb hidentity hidentity' => h.unique ha hb hidentity hidentity'
  have hmem : a ∈ t.values.filter fun a => (base a).hasIdentity compositeId dataSourceId :=
    List.mem_filter.2 ⟨ha, hidentity⟩
  obtain ⟨b, hb⟩ := List.length_eq_one_iff.1 (Nat.le_antisymm hle (List.length_pos_of_mem hmem))
  rw [hb] at hmem ⊢
  rw [List.mem_singleton.1 hmem]

/-- An identity whose id is kept stands under it alone. -/
theorem isIdOf_of_keepsIds (h : IsRegister base t) (h' : IsRegister base u)
    (hkeeps : Table.KeepsIds base t u) {a : α} (ha : a ∈ t.values)
    (hidentity : (base a).hasIdentity compositeId dataSourceId) (hid : (base a).id = some id) :
    Table.IsIdOf base u id compositeId dataSourceId := by
  have hfound := h.byIdentity?_eq_some.2 ⟨h.ordered.mem_values_iff.1 ha, hidentity⟩
  obtain ⟨b, hb, heq⟩ := hkeeps _ _ a hfound
  obtain ⟨hstored, hb⟩ := h'.byIdentity?_eq_some.1 hb
  exact ⟨b, h'.filter_hasIdentity_eq (h'.ordered.mem_values_iff.2 hstored) hb, heq.trans hid⟩

end IsRegister

/-- Whether the records that a step puts by a call have no ids. -/
def Step.ChoosesNoIds : Step → Prop
  | call _ (.putNodes nodes) => ∀ n ∈ nodes, n.id = none
  | call _ (.putEdges edges) => ∀ x ∈ edges, x.id = none
  | _ => True

theorem Call.proceeds_run [Supply] {outage : Outage} {c : Call}
    (h : (Step.call outage c).ChoosesNoIds) : Proceeds (c.run outage) fun _ => True := by
  cases c with
  | putNodes nodes => exact (Transaction.proceeds_putNodes h).bind fun _ _ => .pure trivial
  | putEdges edges => exact (Transaction.proceeds_putEdges h).bind fun _ _ => .pure trivial
  | archiveNode id => exact Transaction.proceeds_archiveNode
  | archiveEdge id => exact Transaction.proceeds_archiveEdge

namespace GraphStore

variable {g : GraphStore} {graph : Graph}

variable [Supply]

/-- A store with fresh ids ahead, whose open transaction has kept the ids of all committed
identities. -/
structure IsSettled (g : GraphStore) : Prop where
  committed : g.committed.HasRoom g.drawn
  working : ∀ graph, g.working = some graph → graph.HasRoom g.drawn ∧ g.committed.KeepsIds graph

theorem isSettled_empty : IsSettled {} := ⟨Graph.hasRoom_empty {}, nofun⟩

theorem IsSettled.begin (h : g.IsSettled) (outage : Outage) :
    ((g.begin outage).toOption.getD g).IsSettled ∧
      g.committed.KeepsIds ((g.begin outage).toOption.getD g).committed := by
  unfold GraphStore.begin
  split
  · exact ⟨h, .refl _⟩
  split
  · exact ⟨h, .refl _⟩
  · refine ⟨⟨h.committed, fun graph hgraph => ?_⟩, .refl _⟩
    cases hgraph
    exact ⟨h.committed, .refl _⟩

theorem IsSettled.commit (h : g.IsSettled) (outage : Outage) :
    (g.commit outage).2.IsSettled ∧ g.committed.KeepsIds (g.commit outage).2.committed := by
  unfold GraphStore.commit
  split
  · exact ⟨h, .refl _⟩
  · rename_i graph hgraph
    obtain ⟨hroom, hkeeps⟩ := h.working graph hgraph
    split
    · exact ⟨⟨h.committed, nofun⟩, .refl _⟩
    · exact ⟨⟨hroom, nofun⟩, hkeeps⟩

theorem IsSettled.rollback (h : g.IsSettled) :
    (g.rollback.toOption.getD g).IsSettled ∧
      g.committed.KeepsIds (g.rollback.toOption.getD g).committed := by
  unfold GraphStore.rollback
  split
  · exact ⟨h, .refl _⟩
  · exact ⟨⟨h.committed, nofun⟩, .refl _⟩

section Calls

variable {ε α : Type} {calls : Access Transaction ε α}

theorem IsSettled.runOpen (h : g.IsSettled) (hroom : graph.HasRoom g.drawn)
    (hkeeps : g.committed.KeepsIds graph) (hcalls : Proceeds calls fun _ => True) :
    (g.runOpen graph calls).2.IsSettled := by
  have hrun := (hcalls { graph, drawn := g.drawn }).1
  refine ⟨h.committed.mono hrun.drawn, fun graph' hgraph' => ?_⟩
  cases hgraph'
  exact ⟨hrun.room hroom, hkeeps.trans (hrun.keepsIds hroom)⟩

theorem IsSettled.perform (h : g.IsSettled) (hcalls : Proceeds calls fun _ => True)
    (outage : Outage) (asError : StorageError → ε) :
    (g.perform outage asError calls).2.IsSettled ∧
      g.committed.KeepsIds (g.perform outage asError calls).2.committed := by
  unfold GraphStore.perform
  split
  · rename_i graph hgraph
    obtain ⟨hroom, hkeeps⟩ := h.working graph hgraph
    exact ⟨h.runOpen hroom hkeeps hcalls, .refl _⟩
  split
  · exact ⟨h, .refl _⟩
  have hopen := h.runOpen h.committed (.refl _) hcalls
  have hcommitted : (g.runOpen g.committed calls).2.committed = g.committed := rfl
  generalize g.runOpen g.committed calls = ended at hopen hcommitted ⊢
  obtain ⟨r, g'⟩ := ended
  cases r with
  | error e =>
    refine ⟨⟨hopen.committed, nofun⟩, ?_⟩
    rw [← hcommitted]
    exact .refl _
  | ok a =>
    have hcommit := hopen.commit outage
    rw [hcommitted] at hcommit
    dsimp only
    generalize g'.commit outage = closed at hcommit ⊢
    obtain ⟨r, g''⟩ := closed
    split
    all_goals
      rename_i heq
      cases heq
      exact hcommit

end Calls

variable [PatternEngine]

theorem IsSettled.ingest (h : g.IsSettled) (s : IngestSetting) (mapping : TypeMapping)
    (staged : StagedData) (isCancelled : Bool) :
    (g.ingest s mapping staged isCancelled).2.IsSettled ∧
      g.committed.KeepsIds (g.ingest s mapping staged isCancelled).2.committed := by
  cases isCancelled with
  | true => exact ⟨h, .refl _⟩
  | false =>
    cases hg : g.working with
    | some graph =>
      simp only [GraphStore.ingest, hg]
      exact ⟨h, .refl _⟩
    | none =>
      have hidle : ∀ {committed drawn} (graph : Graph),
          ({ g with committed, drawn } : GraphStore).working = some graph → False := by
        intro _ _ graph hgraph
        rw [show g.working = some graph from hgraph] at hg
        contradiction
      have hproceeds : Proceeds (Ingest.run s mapping staged) fun _ => True := Ingest.proceeds_run
      have hrun := (hproceeds g.opened).1
      rcases ingest_cases hg s mapping staged with
        ⟨report, t, heq, hingest⟩ | ⟨e, t, heq, hingest⟩
      · rw [heq] at hrun
        rw [hingest]
        exact ⟨⟨hrun.room h.committed, fun graph hgraph => (hidle graph hgraph).elim⟩,
          hrun.keepsIds h.committed⟩
      · rw [heq] at hrun
        rw [hingest]
        exact ⟨⟨h.committed.mono hrun.drawn, fun graph hgraph => (hidle graph hgraph).elim⟩,
          .refl _⟩

theorem IsSettled.step (h : g.IsSettled) {step : Step} (hstep : step.ChoosesNoIds) :
    (g.step step).IsSettled ∧ g.committed.KeepsIds (g.step step).committed := by
  cases step with
  | begin outage => exact h.begin outage
  | commit outage => exact h.commit outage
  | rollback => exact h.rollback
  | call outage c => exact h.perform (Call.proceeds_run hstep) outage id
  | ingest s mapping staged isCancelled => exact h.ingest s mapping staged isCancelled

/-- A history in which no ids are chosen keeps the ids of all committed identities. -/
theorem IsSettled.after (h : g.IsSettled) {steps : List Step}
    (hsteps : ∀ step ∈ steps, step.ChoosesNoIds) :
    (g.after steps).IsSettled ∧ g.committed.KeepsIds (g.after steps).committed := by
  refine after_induction (P := fun g' => g'.IsSettled ∧ g.committed.KeepsIds g'.committed)
    ⟨h, .refl _⟩ fun before step hpart ⟨hbefore, hkeeps⟩ => ?_
  obtain ⟨hsettled, hstep⟩ := hbefore.step (hsteps step (mem_of_concat hpart))
  exact ⟨hsettled, hkeeps.trans hstep⟩

/-- Once a node or an edge is committed under an identity with an id, every later committed
graph has exactly one record of that identity, and it has that id. -/
theorem identities_after {steps later : List Step}
    (hsteps : ∀ step ∈ steps ++ later, step.ChoosesNoIds) {id compositeId dataSourceId : String} :
    (∀ n ∈ (after {} steps).committed.nodes.values, n.hasIdentity compositeId dataSourceId →
      n.id = some id → Table.IsIdOf Node.toRecordBase
        (after {} (steps ++ later)).committed.nodes id compositeId dataSourceId) ∧
    ∀ x ∈ (after {} steps).committed.edges.values, x.hasIdentity compositeId dataSourceId →
      x.id = some id → Table.IsIdOf Edge.toRecordBase
        (after {} (steps ++ later)).committed.edges id compositeId dataSourceId := by
  have hbefore := (isSettled_empty.after fun step h => hsteps step (List.mem_append_left _ h)).1
  have hlater := hbefore.after fun step h => hsteps step (List.mem_append_right _ h)
  have happend : (after {} steps).after later = after {} (steps ++ later) :=
    List.foldl_append.symm
  rw [happend] at hlater
  obtain ⟨hafter, hkeeps⟩ := hlater
  have hsound := hbefore.committed.sound
  have hsound' := hafter.committed.sound
  exact ⟨fun n hn hidentity hid =>
      hsound.nodes.isIdOf_of_keepsIds hsound'.nodes hkeeps.nodes hn hidentity hid,
    fun x hx hidentity hid =>
      hsound.edges.isIdOf_of_keepsIds hsound'.edges hkeeps.edges hx hidentity hid⟩

end GraphStore

namespace Sample

/-- The stop is archived with its edge, found missing by a stop before it, and restored. -/
def restored : List Step :=
  [.begin {}, .call {} (.archiveNode (countedId 1)), .commit {},
    .ingest setting mapping (stop "a" "b") false, .ingest setting mapping (stop "b" "a") false]

end Sample

theorem GraphStore.identities_after_sample :
    (∀ step ∈ Sample.steps ++ Sample.restored, step.ChoosesNoIds) ∧
      Table.IsIdOf Node.toRecordBase
        (GraphStore.after {} (Sample.steps ++ Sample.restored)).committed.nodes
        (countedId 1) "c+d+name+b" "d" ∧
      Table.IsIdOf Edge.toRecordBase
        (GraphStore.after {} (Sample.steps ++ Sample.restored)).committed.edges
        (countedId 2) "c+d+name+b" "d" := by
  have hsteps : ∀ step ∈ Sample.steps ++ Sample.restored, step.ChoosesNoIds := by
    simp [Sample.steps, Sample.restored, Step.ChoosesNoIds]
  have hnode : ∃ n ∈ (GraphStore.after {} Sample.steps).committed.nodes.values,
      n.hasIdentity "c+d+name+b" "d" ∧ n.id = some (countedId 1) := by decide +kernel
  have hedge : ∃ x ∈ (GraphStore.after {} Sample.steps).committed.edges.values,
      x.hasIdentity "c+d+name+b" "d" ∧ x.id = some (countedId 2) := by decide +kernel
  obtain ⟨n, hn, hidentity, hid⟩ := hnode
  obtain ⟨x, hx, hidentity', hid'⟩ := hedge
  exact ⟨hsteps, (GraphStore.identities_after hsteps).1 n hn hidentity hid,
    (GraphStore.identities_after hsteps).2 x hx hidentity' hid'⟩

end TypedGraph
