import TypedGraph.Graph.Counting
import TypedGraph.Pattern.Engine
import TypedGraph.Proofs.Conflicts
import TypedGraph.Proofs.EdgeEnds
import TypedGraph.Proofs.Histories

/-!
# Cardinalities hold in every history

As long as edges are written by ingests only, no two live edges of a pair are in conflict:
an ingest writes an edge only where it is in conflict with none but the one that it
replaces, and whatever else happens adds no live edge. So the cardinality of every pair
holds whenever transactions and ingests have ended (`GraphStore.cardinality_after`).
-/
namespace TypedGraph

open Access

/-- A graph without two live edges that a pair of an ontology does not admit both. -/
structure Graph.Respects (o : OntologyStore) (g : Graph) : Prop where
  edges : IsRegister Edge.toRecordBase g.edges
  unique {id id' : String} {x y : Edge} {p : RelationshipPair} :
    g.edges.get? id = some x → g.edges.get? id' = some y →
    x.archived = false → y.archived = false → y.pairId = x.pairId →
    o.pairs.get? x.pairId = some p → p.Conflicts x y → id = id'

namespace Graph

variable {o : OntologyStore} {g g' : Graph}

theorem respects_empty : Respects o {} := ⟨.nil, by simp⟩

/-- Fewer live edges do no harm. -/
theorem Respects.of_subset (h : g.Respects o) (hedges : IsRegister Edge.toRecordBase g'.edges)
    (hsubset : ∀ id x, g'.edges.get? id = some x → x.archived = false →
      g.edges.get? id = some x) : g'.Respects o where
  edges := hedges
  unique hx hy hxlive hylive :=
    h.unique (hsubset _ _ hx hxlive) (hsubset _ _ hy hylive) hxlive hylive

theorem respects_archiveNode? {id : String} (h : g.Respects o) (hg : g.archiveNode? id = some g') :
    g'.Respects o :=
  h.of_subset (isRegister_archiveNode? h.edges hg) fun _ _ hx hlive =>
    live_of_archiveNode? hg hx hlive

theorem respects_archiveEdge? {id : String} (h : g.Respects o) (hg : g.archiveEdge? id = some g') :
    g'.Respects o := by
  have hedges : IsRegister Edge.toRecordBase g'.edges := by
    obtain ⟨x, hx, rfl⟩ := Option.map_eq_some_iff.1 hg
    exact h.edges.insert_same hx rfl rfl rfl rfl
  exact h.of_subset hedges fun _ _ hx hlive => live_of_archiveEdge? hg hx hlive

end Graph

/-! ## What keeps cardinalities -/

namespace Ingest

variable {o : OntologyStore} {s : IngestSetting} {mapping : TypeMapping} {staged : StagedData}

variable [Supply]

theorem respects_withNodes {t : Transaction} (h : t.graph.Respects o) (nodes : List Node) :
    (t.withNodes nodes).graph.Respects o := by
  refine h.of_subset ?_ fun id x hx _ => ?_
  · rw [Transaction.withNodes_edges]
    exact h.edges
  · rwa [Transaction.withNodes_edges] at hx

/-- A permitted edge may be written. -/
theorem respects_withEdge {t : Transaction} (h : t.graph.Respects o) {a : Attempt}
    (hpermitted : a.IsPermitted t.graph) (hkeyed : a.pair.id = some a.edge.pairId)
    (hpair : o.pairs.get? a.edge.pairId = some a.pair) :
    (t.withEdge a.joined).graph.Respects o := by
  have hedges := h.edges.insert_stamped (a := t.storedEdge a.joined)
    (r := a.joined.toRecordBase) rfl
  have hid : (t.storedEdge a.joined).id = some ((t.storedEdge a.joined).id.getD "") :=
    hedges.id_eq (Table.get?_insert _ _ _ _ |>.trans (if_pos rfl))
  have hother {key : String} {y : Edge} (hne : key ≠ (t.storedEdge a.joined).id.getD "")
      (hy : t.graph.edges.get? key = some y) (hlive : y.archived = false)
      (hpairId : y.pairId = a.edge.pairId) : ¬ a.pair.Conflicts a.joined y := by
    intro hconflicts
    have hmem : y ∈ t.graph.liveEdges :=
      Graph.mem_liveEdges.2 ⟨h.edges.ordered.mem_values_iff.2 ⟨key, hy⟩, hlive⟩
    have hyid := id_of_conflicts h.edges hpermitted hkeyed hmem hpairId hconflicts
    rw [h.edges.id_eq hy, hid] at hyid
    exact hne (Option.some.inj hyid)
  refine ⟨hedges, fun {id id' x y p} hx hy hxlive hylive hpairId hp hconflicts => ?_⟩
  replace hx := (Table.get?_insert _ _ _ _).symm.trans hx
  replace hy := (Table.get?_insert _ _ _ _).symm.trans hy
  split at hx <;> split at hy
  · rename_i heq heq'
    exact heq.trans heq'.symm
  · cases hx
    cases (hpair.symm.trans hp : some a.pair = some p)
    exact absurd hconflicts (hother ‹_› hy hylive hpairId)
  · cases hy
    rw [← hpairId] at hp
    cases (hpair.symm.trans hp : some a.pair = some p)
    exact absurd hconflicts.symm (hother ‹_› hx hxlive hpairId.symm)
  · exact h.unique hx hy hxlive hylive hpairId hp hconflicts

theorem respects_attempted {x : Except RecordError Attempt} {outcome : Except RecordError Edge}
    {t t' : Transaction} (h : Attempted s x t outcome t') (ho : o.IsKeyed)
    (hx : ∀ a, x = .ok a → o.pairs.get? a.edge.pairId = some a.pair) (ht : t.graph.Respects o) :
    t'.graph.Respects o := by
  cases h with
  | written permitted =>
    have hpair := hx _ rfl
    exact respects_withEdge ht permitted (ho.pairs _ _ hpair) hpair
  | _ => exact ht

variable [PatternEngine]

theorem respects_ingested {t t' : Transaction} {prepared : Prepared}
    {plan : List (Pending (Except RecordError Attempt))}
    {outcomes : List (Pending (Except RecordError Edge))} (ho : s.ontology.store.IsKeyed)
    (h : Ingested s mapping staged t prepared plan outcomes t')
    (ht : t.graph.Respects s.ontology.store) : t'.graph.Respects s.ontology.store := by
  refine h.made.keeps (I := fun t => t.graph.Respects s.ontology.store)
    (respects_withNodes ht prepared.nodes) fun p hp t outcome t' hattempted ht => ?_
  refine respects_attempted hattempted ho (fun a ha => ?_) ht
  obtain ⟨q, -, ha⟩ := h.planned.attempts p hp a ha
  exact ha.pair

end Ingest

/-- Whether a step writes edges by ingests with an ontology only. -/
def Step.IngestsEdges (o : OntologyStore) : Step → Prop
  | call _ (.putEdges _) => False
  | ingest s _ _ _ => s.ontology.store = o
  | _ => True

theorem Step.keeps_respects [Supply] [PatternEngine] {o : OntologyStore} (ho : o.IsKeyed)
    {step : Step} (h : step.IngestsEdges o) : step.Keeps (Graph.Respects o) := by
  cases step with
  | call outage c =>
    cases c with
    | putNodes nodes =>
      exact (Transaction.keeps_putNodes fun _ ht => Ingest.respects_withNodes ht nodes).bind
        fun _ _ ht => ht
    | putEdges edges => exact h.elim
    | archiveNode id =>
      exact Transaction.keeps_archiveNode fun _ _ h hg => Graph.respects_archiveNode? h hg
    | archiveEdge id =>
      exact Transaction.keeps_archiveEdge fun _ _ h hg => Graph.respects_archiveEdge? h hg
  | ingest s mapping staged isCancelled =>
    intro t report t' hrun ht
    obtain ⟨prepared, plan, outcomes, -, hingested⟩ := Ingest.ingested_of_run hrun
    cases (h : s.ontology.store = o)
    have hend := Ingest.respects_ingested ho hingested ht
    exact hend
  | _ => trivial

/-! ## Lists of edges -/

/-- Records of a table that stand under one key at most are one at most. -/
theorem Table.IsOrdered.length_filter_le_one {α : Type} {t : Table α} (ht : t.IsOrdered)
    {p : α → Bool}
    (h : ∀ key key' a b, t.get? key = some a → t.get? key' = some b → p a → p b → key = key') :
    (t.values.filter p).length ≤ 1 := by
  have hrows : t.values.filter p = (t.filter fun row => p row.2).map (·.2) := List.filter_map
  rw [hrows, List.length_map]
  have hordered : (keys (t.filter fun row => p row.2)).Pairwise (· < ·) :=
    ht.sublist (List.filter_sublist.map _)
  have hstored (row : String × α) (hrow : row ∈ t.filter fun row => p row.2) :
      t.get? row.1 = some row.2 ∧ p row.2 := by
    obtain ⟨hmem, hp⟩ := List.mem_filter.1 hrow
    exact ⟨ht.get?_of_mem hmem, hp⟩
  match hfilter : t.filter fun row => p row.2 with
  | [] => simp [hfilter]
  | [_] => simp [hfilter]
  | row :: row' :: rest =>
    rw [hfilter] at hordered hstored
    obtain ⟨hrow, hp⟩ := hstored row (by simp)
    obtain ⟨hrow', hp'⟩ := hstored row' (by simp)
    have hlt : row.1 < row'.1 := (List.pairwise_cons.1 hordered).1 row'.1 (by simp)
    rw [h _ _ _ _ hrow hrow' hp hp'] at hlt
    exact absurd hlt (String.lt_irrefl _)

/-- Live edges of a pair are one at most if any two of them are in conflict. -/
theorem Graph.Respects.length_filter_liveEdges_le_one {o : OntologyStore} {g : Graph}
    (h : g.Respects o) {pairId : String} {pair : RelationshipPair}
    (hpair : o.pairs.get? pairId = some pair) {f : Edge → Bool}
    (hf : ∀ x y, f x → f y → x.pairId = pairId ∧ y.pairId = pairId ∧ pair.Conflicts x y) :
    (g.liveEdges.filter f).length ≤ 1 := by
  unfold Graph.liveEdges
  rw [List.filter_filter]
  refine h.edges.ordered.length_filter_le_one fun key key' x y hx hy hfx hfy => ?_
  simp only [Bool.and_eq_true] at hfx hfy
  obtain ⟨hxpair, hypair, hconflicts⟩ := hf x y hfx.1 hfy.1
  refine h.unique hx hy ?_ ?_ (hypair.trans hxpair.symm) (hxpair.symm ▸ hpair) hconflicts
  · simpa using hfx.2
  · simpa using hfy.2

namespace GraphStore

/-- In every history that writes edges by ingests only, the cardinality of every pair holds
in the committed graph, and no two live edges of a pair join the same nodes. -/
theorem cardinality_after [Supply] [PatternEngine] {o : OntologyStore} (ho : o.IsKeyed)
    {steps : List Step} (hsteps : ∀ step ∈ steps, step.IngestsEdges o) {pairId : String}
    {pair : RelationshipPair} (hpair : o.pairs.get? pairId = some pair) :
    let g := (GraphStore.after {} steps).committed
    (pair.cardinality = .oneToOne ∨ pair.cardinality = .manyToOne →
      ∀ originId, (g.edgesFrom pairId originId).length ≤ 1) ∧
    (pair.cardinality = .oneToOne ∨ pair.cardinality = .oneToMany →
      ∀ destinationId, (g.edgesInto pairId destinationId).length ≤ 1) ∧
    ∀ originId destinationId, (g.edgesBetween pairId originId destinationId).length ≤ 1 := by
  intro g
  have hkeeps : ∀ step ∈ steps, step.Keeps (Graph.Respects o) :=
    fun step hstep => step.keeps_respects ho (hsteps step hstep)
  have hg : g.Respects o := (All.after (g := {}) ⟨Graph.respects_empty, nofun⟩ hkeeps).1
  refine ⟨fun hc originId => hg.length_filter_liveEdges_le_one hpair fun x y hx hy => ?_,
    fun hc destinationId => hg.length_filter_liveEdges_le_one hpair fun x y hx hy => ?_,
    fun originId destinationId => hg.length_filter_liveEdges_le_one hpair fun x y hx hy => ?_⟩
  all_goals simp only [Bool.and_eq_true, beq_iff_eq] at hx hy
  · have hone : pair.cardinality.oneFromOrigin := by rcases hc with hc | hc <;> rw [hc] <;> rfl
    exact ⟨hx.1, hy.1, .inr (.inl ⟨hone, hx.2.trans hy.2.symm⟩)⟩
  · have hone : pair.cardinality.oneIntoDestination := by
      rcases hc with hc | hc <;> rw [hc] <;> rfl
    exact ⟨hx.1, hy.1, .inr (.inr ⟨hone, hx.2.trans hy.2.symm⟩)⟩
  · exact ⟨hx.1.1, hy.1.1, .inl ⟨hx.1.2.trans hy.1.2.symm, hx.2.trans hy.2.symm⟩⟩

/-- A stop keeps its place when another one claims it. -/
theorem cardinality_after_sample :
    let g := (GraphStore.after {} (Sample.steps ++ [
      .ingest Sample.setting Sample.mapping (Sample.stop "a" "b") false, .begin {},
      .call {} (.archiveNode (countedId 3)), .call {} (.putNodes [Sample.node "d"]),
      .commit {}])).committed
    g.nodes.values.length = 3 ∧ g.liveEdges.length = 1 ∧
      ∀ destinationId, (g.edgesInto "next" destinationId).length ≤ 1 := by
  have hpair : Sample.setting.ontology.store.pairs.get? "next" = some Sample.pair := rfl
  refine ⟨by decide +kernel, by decide +kernel, ?_⟩
  exact (cardinality_after Sample.isKeyed_setting (by simp [Sample.steps, Step.IngestsEdges])
    hpair).2.1 (.inl rfl)

end GraphStore

end TypedGraph
