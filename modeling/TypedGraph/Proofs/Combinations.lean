import Mathlib.Data.List.ProdSigma
import TypedGraph.Graph.Counting
import TypedGraph.Pattern.Engine
import TypedGraph.Proofs.Batches
import TypedGraph.Proofs.CompositeIds
import TypedGraph.Proofs.EdgePairs
import TypedGraph.Proofs.Reached
import TypedGraph.Proofs.Resolutions

/-!
# An edge for every combination of its ends

An edge one of whose ends was found by parameters is written once for every combination of the
nodes of its ends. Each copy has an identity of its own, as long as no id of a node contains the
sign `+` that the identity is made with; so no copy takes the place of another one, and all that
are accepted are there in the end (`Ingest.writeEdge_combinations`).
-/
namespace TypedGraph

open Access Transaction

theorem Transaction.stamped_eq [Supply] (drawn : Drawn) (replaced : Option RecordBase)
    (r : RecordBase) :
    ∃ id createdAt, (stamped drawn replaced r).1 = { r with id, createdAt } := by
  unfold stamped
  split <;> exact ⟨_, _, rfl⟩

/-! ## Copies -/

/-- The combinations of the nodes of two ends that are no two the same. -/
theorem pairwise_product {α β : Type} {R : α → α → Prop} {S : β → β → Prop} {as : List α}
    {bs : List β} (has : as.Pairwise R) (hbs : bs.Pairwise S) :
    (as ×ˢ bs).Pairwise fun p q => R p.1 q.1 ∨ p.1 = q.1 ∧ S p.2 q.2 := by
  induction as with
  | nil => exact .nil
  | cons a as ih =>
    obtain ⟨hfirst, hothers⟩ := List.pairwise_cons.1 has
    rw [List.product_cons]
    refine List.pairwise_append.2 ⟨?_, ih hothers, fun p hp q hq => ?_⟩
    · exact List.pairwise_map.2 (hbs.imp fun h => .inr ⟨rfl, h⟩)
    · obtain ⟨b, -, rfl⟩ := List.mem_map.1 hp
      exact .inl (hfirst q.1 (List.mem_product.1 hq).1)

/-- Whether an edge is the copy of an edge for two nodes: it joins them, has no parameters left,
and has an identity of its own if the edge has one. -/
structure Edge.IsCopy (edge : Edge) (origin destination : Node) (x : Edge) : Prop where
  ends : ∃ originId destinationId, origin.id = some originId ∧ destination.id = some destinationId ∧
    x.origin.nodeId = some originId ∧ x.destination.nodeId = some destinationId ∧
    x.compositeId = edge.compositeId.map fun id =>
      id ++ "+" ++ originId ++ "+" ++ destinationId
  parameters : x.origin.parameters = [] ∧ x.destination.parameters = []
  same : ∃ properties id createdAt, x =
    { Ingest.joinTo (Ingest.copyFor edge origin destination) origin destination with
      properties, id, createdAt }

/-- The attempt at the copy of a resolved edge for two nodes. -/
def ResolvedEdge.attempt (r : ResolvedEdge) (ends : Node × Node) : Attempt :=
  ⟨r.pair, Ingest.copyFor r.edge ends.1 ends.2, ends.1, ends.2⟩

/-- What combinations of nodes come to, one after the other: the graph permits the copy for a
combination, and it is stored, or the copy is refused, and the graph stays as it is. -/
inductive ResolvedEdge.Combines (r : ResolvedEdge) (edge : Edge) :
    List (Node × Node) → Graph → List (Except RecordError Edge) → Graph → Prop
  | nil {g : Graph} : r.Combines edge [] g [] g
  | refused {ends : Node × Node} {combinations : List (Node × Node)} {g g' : Graph}
      {e : RecordError} {outcomes : List (Except RecordError Edge)}
      (refused : r.pair.id = some r.edge.pairId → ¬ (r.attempt ends).IsPermitted g)
      (rest : r.Combines edge combinations g outcomes g') :
      r.Combines edge (ends :: combinations) g (.error e :: outcomes) g'
  | written {ends : Node × Node} {combinations : List (Node × Node)} {g g' : Graph} {x : Edge}
      {outcomes : List (Except RecordError Edge)} (permitted : (r.attempt ends).IsPermitted g)
      (copy : edge.IsCopy ends.1 ends.2 x)
      (rest : r.Combines edge combinations (g.insertEdge x) outcomes g') :
      r.Combines edge (ends :: combinations) g (.ok x :: outcomes) g'

/-- The edges that were written. -/
def okEdges (outcomes : List (Except RecordError Edge)) : List Edge :=
  outcomes.filterMap Except.toOption

namespace ResolvedEdge.Combines

variable {r : ResolvedEdge} {edge x : Edge} {combinations : List (Node × Node)} {g g' : Graph}
  {outcomes : List (Except RecordError Edge)}

theorem length_eq (h : r.Combines edge combinations g outcomes g') :
    outcomes.length = combinations.length := by
  induction h with
  | nil => rfl
  | refused _ _ ih => simp [ih]
  | written _ _ _ ih => simp [ih]

theorem graph_eq (h : r.Combines edge combinations g outcomes g') :
    g' = g.withEdges (okEdges outcomes) := by
  induction h with
  | nil => rfl
  | refused _ _ ih => exact ih
  | written _ _ _ ih => exact ih

theorem exists_copy (h : r.Combines edge combinations g outcomes g') (hx : x ∈ okEdges outcomes) :
    ∃ ends ∈ combinations, edge.IsCopy ends.1 ends.2 x := by
  induction h with
  | nil => simp [okEdges] at hx
  | refused _ _ ih =>
    obtain ⟨ends, hends, hcopy⟩ := ih hx
    exact ⟨ends, List.mem_cons_of_mem _ hends, hcopy⟩
  | written _ copy _ ih =>
    rcases List.mem_cons.1 (show x ∈ _ :: okEdges _ from hx) with rfl | hx
    · exact ⟨_, List.mem_cons_self, copy⟩
    · obtain ⟨ends, hends, hcopy⟩ := ih hx
      exact ⟨ends, List.mem_cons_of_mem _ hends, hcopy⟩

/-- What is true of the copies for any two combinations is true of any two edges that are
written. -/
theorem pairwise {T : Edge → Edge → Prop} (h : r.Combines edge combinations g outcomes g')
    (hcombinations : combinations.Pairwise fun p q => ∀ x y, edge.IsCopy p.1 p.2 x →
      edge.IsCopy q.1 q.2 y → T x y) : (okEdges outcomes).Pairwise T := by
  induction h with
  | nil => exact .nil
  | refused _ _ ih => exact ih (List.pairwise_cons.1 hcombinations).2
  | written _ copy rest ih =>
    obtain ⟨hfirst, hothers⟩ := List.pairwise_cons.1 hcombinations
    refine List.pairwise_cons.2 ⟨fun y hy => ?_, ih hothers⟩
    obtain ⟨ends, hends, hcopy⟩ := rest.exists_copy hy
    exact hfirst ends hends _ y copy hcopy

end ResolvedEdge.Combines

/-- Whether the id of a node does not contain the sign that identities are made with. -/
def Node.IsPlain (n : Node) : Prop := ∀ id, n.id = some id → '+' ∉ id.toList

/-- Copies for different nodes are different, and none takes the place of the other. -/
theorem Edge.IsCopy.apart {edge x y : Edge} {origin origin' destination destination' : Node}
    (hx : edge.IsCopy origin destination x) (hy : edge.IsCopy origin' destination' y)
    (hplain : origin.IsPlain) (hplain' : origin'.IsPlain)
    (hdiffer : origin.id ≠ origin'.id ∨ destination.id ≠ destination'.id) :
    x ≠ y ∧ ¬ x.SharesIdentity y := by
  obtain ⟨o, d, ho, hd, hxo, hxd, hxid⟩ := hx.ends
  obtain ⟨o', d', ho', hd', hyo, hyd, hyid⟩ := hy.ends
  have hsame : ¬ (o = o' ∧ d = d') := by
    rintro ⟨rfl, rfl⟩
    rcases hdiffer with h | h
    · exact h (ho.trans ho'.symm)
    · exact h (hd.trans hd'.symm)
  constructor
  · rintro rfl
    rw [hxo] at hyo
    rw [hxd] at hyd
    exact hsame ⟨Option.some.inj hyo, Option.some.inj hyd⟩
  · rintro ⟨compositeId, dataSourceId, hidentity, hidentity'⟩
    have hid := (RecordBase.hasIdentity_iff.1 hidentity).1
    have hid' := (RecordBase.hasIdentity_iff.1 hidentity').1
    rw [hxid] at hid
    rw [hyid] at hid'
    cases hedge : edge.compositeId with
    | none => simp [hedge] at hid
    | some named =>
      rw [hedge, Option.map_some] at hid hid'
      have htexts := congrArg String.toList (Option.some.inj (hid.trans hid'.symm))
      simp only [String.toList_append, List.append_assoc, List.append_cancel_left_eq] at htexts
      have hcount : o.toList.count '+' = o'.toList.count '+' := by
        rw [List.count_eq_zero.2 (hplain o ho), List.count_eq_zero.2 (hplain' o' ho')]
      obtain ⟨horigin, hdestination⟩ := append_cons_inj_of_count htexts hcount
      exact hsame ⟨String.toList_injective horigin, String.toList_injective hdestination⟩

namespace Ingest

variable {s : IngestSetting} {r : ResolvedEdge} {edge : Edge} {t : Transaction}

variable [Supply]

/-- An edge that is written for a combination is the copy for it. -/
theorem isCopy_storedEdge {ends : Node × Node} (hproperties : ∃ properties, r.edge =
    { edge with properties }) (hpermitted : (r.attempt ends).IsPermitted t.graph) :
    edge.IsCopy ends.1 ends.2 (t.storedEdge (r.attempt ends).joined) := by
  obtain ⟨properties, hr⟩ := hproperties
  obtain ⟨originId, destinationId, hids, -⟩ := hpermitted
  obtain ⟨ho, hd, -, -⟩ := Connection.checkNodes_ok hids
  have ho : ends.1.id = some originId := ho
  have hd : ends.2.id = some destinationId := hd
  refine ⟨⟨originId, destinationId, ho, hd, ho, hd, ?_⟩, ⟨rfl, rfl⟩, ?_⟩
  · simp [storedEdge, edgeStamp, ResolvedEdge.attempt, Attempt.joined, joinTo, copyFor, hr, ho, hd]
  · obtain ⟨id, createdAt, hstamp⟩ := stamped_eq t.drawn
      ((Graph.replaced? Edge.toRecordBase t.graph.edges
        (r.attempt ends).joined.toRecordBase).map Edge.toRecordBase)
      (r.attempt ends).joined.toRecordBase
    refine ⟨properties, id, createdAt, ?_⟩
    rw [storedEdge, edgeStamp, hstamp]
    simp [ResolvedEdge.attempt, Attempt.joined, joinTo, copyFor, hr]

/-- While the store is served, an attempt at an edge between live nodes of a sound graph has an
outcome. -/
theorem run_attempt (hout : ∀ m, ¬ s.IsOut m) {a : Attempt} (hsound : t.graph.IsSound)
    (horigin : LiveIn t.graph.nodes a.origin) (hdestination : LiveIn t.graph.nodes a.destination) :
    ∃ outcome t', (attempt s (.ok a)).run.run t = (.ok outcome, t') ∧
      Attempted s (.ok a) t.content outcome t'.content := by
  have hend := (serves_connect (s := s) a t).result hout
  rcases hend with ⟨outcome, hok, hattempted⟩ | ⟨cause, -, hpermitted, hjoined⟩
  · exact ⟨outcome, _, Prod.ext hok rfl, hattempted⟩
  · obtain ⟨ids, hids⟩ := joinedNodes_of_isPermitted hsound horigin hdestination hpermitted
    rw [hids] at hjoined
    contradiction

/-- What one attempt comes to, before the rest. -/
theorem combines_cons {ends : Node × Node} {combinations : List (Node × Node)}
    {outcome : Except RecordError Edge} {outcomes : List (Except RecordError Edge)}
    {t' : Transaction} {g : Graph} (hloud : s.outage.silentEdges = false)
    (hsound : t.graph.IsSound) (hproperties : ∃ properties, r.edge = { edge with properties })
    (h : Attempted s (.ok (r.attempt ends)) t outcome t')
    (hrest : r.Combines edge combinations t'.graph outcomes g) :
    r.Combines edge (ends :: combinations) t.graph (outcome :: outcomes) g := by
  cases h with
  | refused _ refused => exact .refused (fun _ => refused) hrest
  | dropped _ silent => simp [hloud] at silent
  | clashing permitted _ clash =>
    refine .refused (fun hkeyed _ => ?_) hrest
    rw [obstacle?_eq_none hsound.edges permitted hkeyed] at clash
    contradiction
  | written permitted => exact .written permitted (isCopy_storedEdge hproperties permitted) hrest

/-- All combinations are attempted, one after the other. -/
theorem run_attempts (hout : ∀ m, ¬ s.IsOut m) (hloud : s.outage.silentEdges = false)
    (hproperties : ∃ properties, r.edge = { edge with properties }) (p : Pending Edge)
    {combinations : List (Node × Node)} (hsound : t.graph.IsSound)
    (hlive : ∀ ends ∈ combinations, LiveIn t.graph.nodes ends.1 ∧ LiveIn t.graph.nodes ends.2) :
    ∃ outcomes t',
      ((combinations.map fun ends => .ok (r.attempt ends)).mapM (attempt s)).run.run t =
        (.ok outcomes, t') ∧
      Made s ((combinations.map fun ends => .ok (r.attempt ends)).map p.replace) t.content
        (outcomes.map p.replace) t'.content ∧
      r.Combines edge combinations t.graph outcomes t'.graph := by
  induction combinations generalizing t with
  | nil => exact ⟨[], t, rfl, .nil, .nil⟩
  | cons ends combinations ih =>
    obtain ⟨horigin, hdestination⟩ := hlive ends List.mem_cons_self
    obtain ⟨outcome, t₁, hfirst, hattempted⟩ :=
      run_attempt hout (a := r.attempt ends) hsound horigin hdestination
    have hnodes : t₁.graph.nodes = t.graph.nodes := hattempted.nodes
    have hsound₁ : t₁.graph.IsSound := hattempted.isSound (t := t.content) hsound
    obtain ⟨outcomes, t', hothers, hmade, hcombines⟩ := ih hsound₁ fun ends hends => by
      rw [hnodes]
      exact hlive ends (List.mem_cons_of_mem _ hends)
    refine ⟨outcome :: outcomes, t', ?_, .cons hattempted hmade,
      combines_cons (t := t.content) hloud hsound hproperties hattempted hcombines⟩
    rw [List.map_cons, List.mapM_cons, run_bind_of_ok hfirst, run_bind_of_ok hothers, run_pure]

/-- Edges no two of which have the same identity are there in the end, if ids are fresh. -/
theorem Made.stored_of_pairwise {plan : List (Pending (Except RecordError Attempt))}
    {outcomes : List (Pending (Except RecordError Edge))} {t' : Transaction}
    (h : Made s plan t outcomes t') (hplan : ∀ p ∈ plan, IsUnnumbered p.record)
    (hsound : t.graph.IsSound) (hfresh : Fresh t.graph.edges t.drawn)
    (hpairwise : (writtenEdges outcomes).Pairwise fun x y => ¬ x.SharesIdentity y) {x : Edge}
    (hx : x ∈ writtenEdges outcomes) :
    ∃ id, x.id = some id ∧ t'.graph.edges.get? id = some x := by
  obtain ⟨before, later, hsplit⟩ := List.append_of_mem hx
  obtain ⟨id, y, hid, hy, hfollows⟩ := h.follows_written hplan hsound hsplit
  rcases hfollows with rfl | ⟨hlater, hshares | ⟨hkept, n, hn, hdrawn⟩⟩
  · exact ⟨id, hid, hy⟩
  · rw [hsplit] at hpairwise
    have hothers := (List.pairwise_cons.1 (List.pairwise_append.1 hpairwise).2.1).1
    exact absurd hshares (hothers y hlater)
  · rw [hdrawn, hfresh n hn] at hkept
    contradiction

omit [Supply] in
theorem writtenEdges_replace (p : Pending Edge) (outcomes : List (Except RecordError Edge)) :
    writtenEdges (outcomes.map p.replace) = okEdges outcomes := by
  simp [writtenEdges, okEdges, List.filterMap_map, Function.comp_def, Pending.replace]

/-- Ids stay fresh while edges without ids are written. -/
theorem Made.fresh {plan : List (Pending (Except RecordError Attempt))}
    {outcomes : List (Pending (Except RecordError Edge))} {t' : Transaction}
    (h : Made s plan t outcomes t') (hplan : ∀ p ∈ plan, IsUnnumbered p.record)
    (hsound : t.graph.IsSound) (hfresh : Fresh t.graph.edges t.drawn) :
    Fresh t'.graph.edges t'.drawn := by
  let isFresh (t : Transaction) : Prop := t.graph.IsSound ∧ Fresh t.graph.edges t.drawn
  have hend : isFresh t' := h.keeps ⟨hsound, hfresh⟩ fun p hp _ _ _ hattempted hbefore =>
    ⟨hattempted.isSound hbefore.1, hattempted.fresh hbefore.1.edges (hplan p hp) hbefore.2⟩
  exact hend.2

end Ingest

/-! ## Combinations -/

/-- Nodes in the order of their ids have different ids. -/
theorem AscendById.pairwise_ne {ns : List Node} (h : AscendById ns) :
    ns.Pairwise fun a b => a.id ≠ b.id := by
  refine List.Pairwise.imp (fun {a b} hlt heq => ?_) h
  rw [heq] at hlt
  exact String.lt_irrefl _ hlt

/-- If no key of the nodes of a sound graph contains the sign, no id of its nodes does. -/
theorem Node.isPlain_of_liveIn {g : Graph} {n : Node} (hsound : g.IsSound)
    (hplain : ∀ id ∈ g.nodes.keys, '+' ∉ id.toList) (hn : LiveIn g.nodes n) : n.IsPlain := by
  intro id hid
  exact hplain id (Table.mem_keys_iff.2 ⟨n, Ingest.get?_of_liveIn hsound hn hid⟩)

namespace ResolvedEdge

/-- The combinations of the nodes of the ends, the first end varying slowest. -/
def combinations (r : ResolvedEdge) : List (Node × Node) := r.origins.nodes ×ˢ r.destinations.nodes

variable {r : ResolvedEdge} {edge : Edge} {g : Graph}

theorem IsFor.live (h : r.IsFor g.nodes edge) :
    ∀ ends ∈ r.combinations, LiveIn g.nodes ends.1 ∧ LiveIn g.nodes ends.2 := by
  intro ends hends
  obtain ⟨horigin, hdestination⟩ := List.mem_product.1 hends
  exact ⟨h.origins.live _ horigin, h.destinations.live _ hdestination⟩

/-- Copies for any two combinations are different and have different identities. -/
theorem IsFor.apart (h : r.IsFor g.nodes edge) (hsound : g.IsSound)
    (hplain : ∀ id ∈ g.nodes.keys, '+' ∉ id.toList) :
    r.combinations.Pairwise fun p q => ∀ x y, edge.IsCopy p.1 p.2 x → edge.IsCopy q.1 q.2 y →
      x ≠ y ∧ ¬ x.SharesIdentity y := by
  have horigins := (h.origins.ascend hsound).pairwise_ne
  have hdestinations := (h.destinations.ascend hsound).pairwise_ne
  refine (pairwise_product horigins hdestinations).imp_of_mem
    fun {p q} hp hq hdiffer x y hx hy => ?_
  have hp := Node.isPlain_of_liveIn hsound hplain (h.live p hp).1
  have hq := Node.isPlain_of_liveIn hsound hplain (h.live q hq).1
  exact hx.apart hy hp hq (hdiffer.imp_right And.right)

end ResolvedEdge

namespace Ingest

/-- An edge that a transformation produces has no id. -/
theorem id_eq_none_of_mem_edges {σ : Type} [KeepsCalls σ] {u : Transformation} {o : Ontology}
    {staged : StagedData} {v v' : σ} {output : TransformOutput} {edge : Edge}
    (h : (u.apply o staged).run.run v = (.ok output, v')) (hedge : edge ∈ output.edges) :
    edge.id = none := by
  obtain ⟨record, hrecord, hsome⟩ := List.mem_filterMap.1 hedge
  obtain ⟨draft, hbase⟩ :=
    Transformation.returns_apply_recordBase v output v' h record hrecord
  cases hkind : record.record with
  | node n =>
    rw [hkind] at hsome
    contradiction
  | edge x =>
    rw [hkind] at hsome hbase
    cases hsome
    have hrecordBase : edge.toRecordBase = u.recordBase staged record.index draft := hbase
    rw [hrecordBase]
    rfl

variable {s : IngestSetting} {r : ResolvedEdge} {edge : Edge} {t : Transaction}

theorem attemptsFor_eq (h : (r.origins.byParameters || r.destinations.byParameters) = true) :
    attemptsFor r.pair r.edge r.origins r.destinations =
      r.combinations.map fun ends => .ok (r.attempt ends) := by
  simp only [attemptsFor, h, if_true]
  rfl

/-- The attempts at the copies of a resolved edge are those for its combinations. -/
theorem exists_ends_of_mem {p : Pending Edge} {q : Pending (Except RecordError Attempt)}
    {combinations : List (Node × Node)} {a : Attempt}
    (hq : q ∈ (combinations.map fun ends => .ok (r.attempt ends)).map p.replace)
    (ha : q.record = .ok a) : ∃ ends ∈ combinations, a = r.attempt ends := by
  obtain ⟨x, hx, rfl⟩ := List.mem_map.1 hq
  obtain ⟨ends, hends, rfl⟩ := List.mem_map.1 hx
  cases ha
  exact ⟨ends, hends, rfl⟩

/-- Different edges that are stored under their ids have different ids. -/
theorem nodup_ids {edges : Table Edge} {xs : List Edge} (hne : xs.Pairwise (· ≠ ·))
    (hstored : ∀ x ∈ xs, ∃ id, x.id = some id ∧ edges.get? id = some x) :
    (xs.map (·.id)).Nodup := by
  refine List.pairwise_map.2 (hne.imp_of_mem fun {x y} hx hy hdiffer hsame => ?_)
  obtain ⟨id, hid, hget⟩ := hstored x hx
  obtain ⟨id', hid', hget'⟩ := hstored y hy
  rw [hid, hid'] at hsame
  cases hsame
  exact hdiffer (Option.some.inj (hget.symm.trans hget'))

variable [Supply] [PatternEngine]

/-- Writing a resolved edge makes the attempts at its copies, which all have an outcome while the
graph is served. -/
theorem run_writeEdge (hsound : t.graph.IsSound) (hserved : s.outage = {}) {memo memo' : EdgeMemo}
    {t₁ : Transaction} (hresolved : (resolveEdge s memo edge).run.run t = (.ok (.ok r, memo'), t₁))
    (hparameters : (r.origins.byParameters || r.destinations.byParameters) = true)
    (p : Pending Edge) :
    ∃ outcomes t', (writeEdge s memo edge).run.run t = (.ok (outcomes, memo'), t') ∧
      Made { s with ontology := {} } ((r.combinations.map fun ends => .ok (r.attempt ends)).map
        p.replace) t.content (outcomes.map p.replace) t'.content ∧
      r.Combines edge r.combinations t.graph outcomes t'.graph := by
  obtain ⟨hgraph, hdrawn, hfor⟩ := resolveEdge_spec hresolved
  -- The attempts ask the graph only, so that the ontology may be taken to be served.
  have hout : ∀ m, ¬ IngestSetting.IsOut { s with ontology := {} } m := by
    simp [IngestSetting.IsOut, hserved]
  have hloud : s.outage.silentEdges = false := by simp [hserved]
  have hlive := hfor.live
  rw [← hgraph] at hlive hsound
  obtain ⟨outcomes, t', hrun, hmade, hcombines⟩ :=
    run_attempts hout hloud hfor.properties p hsound hlive
  rw [content_congr hgraph hdrawn] at hmade
  rw [hgraph] at hcombines
  refine ⟨outcomes, t', ?_, hmade, hcombines⟩
  rw [writeEdge_eq_resolveEdge, run_bind_of_ok hresolved, writeResolved, connectAll_eq,
    attemptsFor_eq hparameters]
  exact run_bind_of_ok hrun _

/-- An edge that a transformation produced is written to a transaction that is reached, no node
id of which contains the sign `+`, and in which ids are fresh. If its pair and nodes for both of
its ends are found, for one of them by parameters, there is one outcome for every combination of
these nodes, which come in the order of their ids: its copy is stored, or it is refused and
changes nothing. The copies that are stored have different ids and are all there in the end, and
the transaction is as before, so that the next edge may be written. -/
theorem writeEdge_combinations (hreached : t.IsReached) (hfresh : Fresh t.graph.edges t.drawn)
    (hplain : ∀ id ∈ t.graph.nodes.keys, '+' ∉ id.toList) {σ : Type} [KeepsCalls σ]
    {u : Transformation} {o : Ontology} {staged : StagedData} {v v' : σ} {output : TransformOutput}
    (hproduced : (u.apply o staged).run.run v = (.ok output, v')) (hedge : edge ∈ output.edges)
    (hserved : s.outage = {}) {memo memo' : EdgeMemo} {t₁ : Transaction}
    (hresolved : (resolveEdge s memo edge).run.run t = (.ok (.ok r, memo'), t₁))
    (hparameters : (r.origins.byParameters || r.destinations.byParameters) = true) :
    ∃ outcomes t', (writeEdge s memo edge).run.run t = (.ok (outcomes, memo'), t') ∧
      AscendById r.origins.nodes ∧ AscendById r.destinations.nodes ∧
      outcomes.length = r.origins.nodes.length * r.destinations.nodes.length ∧
      r.Combines edge r.combinations t.graph outcomes t'.graph ∧
      ((okEdges outcomes).map (·.id)).Nodup ∧
      (∀ x ∈ okEdges outcomes, ∃ id, x.id = some id ∧ t'.graph.edges.get? id = some x) ∧
      t'.graph = t.graph.withEdges (okEdges outcomes) ∧
      t'.IsReached ∧ Fresh t'.graph.edges t'.drawn := by
  have hsound := hreached.isSound
  have hfor := (resolveEdge_spec hresolved).2.2
  let p : Pending Edge := ⟨none, [], edge⟩
  obtain ⟨outcomes, t', hrun, hmade, hcombines⟩ :=
    run_writeEdge hsound hserved hresolved hparameters p
  have hid : r.edge.id = none := by
    have hnew := id_eq_none_of_mem_edges hproduced hedge
    obtain ⟨properties, hproperties⟩ := hfor.properties
    rw [hproperties]
    exact hnew
  have hplan : ∀ q ∈ (r.combinations.map fun ends => .ok (r.attempt ends)).map p.replace,
      IsUnnumbered q.record := fun q hq a ha => by
    obtain ⟨ends, -, rfl⟩ := exists_ends_of_mem hq ha
    exact hid
  have hapart := hcombines.pairwise (hfor.apart hsound hplain)
  have hstored : ∀ x ∈ okEdges outcomes,
      ∃ id, x.id = some id ∧ t'.graph.edges.get? id = some x := by
    have hwritten := writtenEdges_replace p outcomes
    rw [← hwritten] at hapart ⊢
    exact fun x hx => hmade.stored_of_pairwise hplan hsound hfresh (hapart.imp And.right) hx
  have hcontent : t'.content.IsReached :=
    hmade.isReached (hreached.withCalls []) fun q hq a ha => by
      obtain ⟨ends, hends, rfl⟩ := exists_ends_of_mem hq ha
      exact hfor.live ends hends
  exact ⟨outcomes, t', hrun, hfor.origins.ascend hsound, hfor.destinations.ascend hsound,
    hcombines.length_eq.trans (List.length_product _ _), hcombines,
    nodup_ids (hapart.imp And.left) hstored, hstored, hcombines.graph_eq,
    hcontent.withCalls t'.calls, hmade.fresh hplan hsound hfresh⟩

end Ingest

namespace Sample

/-- A condition that every stop meets. -/
def anyStop : ConnectionParameter := { kind := .metatypeId, value := some (.string "stop") }

/-- Every payload joins all stops to all stops. -/
def joinStops : Transformation :=
  { Transformation.toEdgeBetweenMatches "c" "next" [anyStop] [anyStop] with
    uniqueKey := some "name" }

/-- What a payload with the name `l` joins them by. -/
def line : Edge :=
  { containerId := "c", pairId := "next", externalId := some "l", dataSourceId := some "d"
    compositeId := some "c+d+name+l", origin := { parameters := [anyStop] }
    destination := { parameters := [anyStop] } }

/-- A transaction in which two stops were put. -/
def twoStops : Transaction :=
  { (((Call.putNodes [node "a", node "b"]).run {}).run.run
      ⟨(GraphStore.after {} []).committed, (GraphStore.after {} []).drawn, []⟩).2 with calls := [] }

theorem isReached_twoStops : twoStops.IsReached := (IsReached.begun [] []).called {} _ []

end Sample

namespace Ingest

/-- Four combinations of two stops are attempted. Each stop follows one stop only. -/
theorem writeEdge_combinations_sample :
    Sample.twoStops.IsReached ∧ ∃ outcomes memo' t',
      (writeEdge Sample.setting {} Sample.line).run.run Sample.twoStops =
        (.ok (outcomes, memo'), t') ∧
      outcomes.length = 4 ∧ ((okEdges outcomes).map (·.id)).Nodup ∧
      t'.graph = Sample.twoStops.graph.withEdges (okEdges outcomes) := by
  have hresolves : ((resolveEdge Sample.setting {} Sample.line).run.run
      Sample.twoStops).1.toOption.bind (fun ans => ans.1.toOption.map fun r =>
        (r.origins.byParameters, r.origins.nodes.length, r.destinations.nodes.length)) =
      some (true, 2, 2) := by
    decide +kernel
  rcases hresolved : (resolveEdge Sample.setting {} Sample.line).run.run Sample.twoStops with
    ⟨_ | ⟨_ | r, memo'⟩, t₁⟩
  all_goals rw [hresolved] at hresolves
  · contradiction
  · contradiction
  obtain ⟨hparameters, hsizes⟩ := Prod.mk.inj (Option.some.inj hresolves)
  obtain ⟨horigins, hdestinations⟩ := Prod.mk.inj hsizes
  have hproduced : (Sample.joinStops.apply {} (Sample.stop "l" "l")).run.run ([] : List Method) =
      (.ok { records := [⟨[], .edge Sample.line⟩] }, []) := rfl
  have hfresh : Fresh Sample.twoStops.graph.edges Sample.twoStops.drawn := fun _ _ => rfl
  have hplain : ∀ id ∈ Sample.twoStops.graph.nodes.keys, '+' ∉ id.toList := by decide +kernel
  obtain ⟨outcomes, t', hrun, -, -, hlength, -, hids, -, hgraph, -⟩ :=
    writeEdge_combinations Sample.isReached_twoStops hfresh hplain hproduced (.head _) rfl
      hresolved (by rw [hparameters, Bool.true_or])
  rw [horigins, hdestinations] at hlength
  exact ⟨Sample.isReached_twoStops, outcomes, memo', t', hrun, hlength, hids, hgraph⟩

end Ingest

end TypedGraph
