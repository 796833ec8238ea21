import Mathlib.Data.List.Forall2
import Mathlib.Data.List.ProdSigma
import TypedGraph.Graph.Counting
import TypedGraph.Pattern.Engine
import TypedGraph.Proofs.Histories
import TypedGraph.Proofs.Production

/-!
# Shares of a report

The report of an ingest is put together from shares, one for each item that the mapping has to
give account of (`GraphStore.ingest_shares`). The share of a failure is that failure. The
share of a node is the node as it is stored, or its failure. The share of an edge is one
failure, or one written edge or failure for every combination of its ends.
-/
namespace TypedGraph

open Access Transaction

namespace IngestReport

def append (a b : IngestReport) : IngestReport :=
  ⟨a.nodes ++ b.nodes, a.edges ++ b.edges, a.failures ++ b.failures⟩

/-- The report that shares make up. -/
def joined (shares : List IngestReport) : IngestReport where
  nodes := shares.flatMap IngestReport.nodes
  edges := shares.flatMap IngestReport.edges
  failures := shares.flatMap IngestReport.failures

theorem joined_cons (share : IngestReport) (shares : List IngestReport) :
    joined (share :: shares) = share.append (joined shares) := rfl

theorem joined_append (shares shares' : List IngestReport) :
    joined (shares ++ shares') = (joined shares).append (joined shares') := by
  simp [joined, append]

theorem joined_singleton (share : IngestReport) : joined [share] = share := by
  simp [joined]

end IngestReport

namespace Ingest

open IngestReport (joined joined_append joined_cons joined_singleton)

/-- The share of a node: the node as it is stored, or why it is not. -/
def NodeShare (p : Pending Node) (share : IngestReport) : Prop :=
  (∃ id createdAt properties,
    share = { nodes := [{ p.record with id, createdAt, properties }] }) ∨
  ∃ e, share = { failures := [p.failure e] }

/-- The share of an edge between two nodes: an edge between them, or why there is none. -/
def JoinShare (p : Pending Edge) (ends : Node × Node) (share : IngestReport) : Prop :=
  (∃ y : Edge, y.pairId = p.record.pairId ∧ y.origin.nodeId = ends.1.id ∧
    y.destination.nodeId = ends.2.id ∧ share = { edges := [y] }) ∨
  ∃ e, share = { failures := [p.failure e] }

/-- The share of an edge: one failure, or a share for every combination of the nodes that its
ends may be on a table of nodes. -/
inductive EdgeShare (s : IngestSetting) (nodes : Table Node) (p : Pending Edge) :
    IngestReport → Prop
  | failed (e : RecordError) : EdgeShare s nodes p { failures := [p.failure e] }
  | combined {pair : RelationshipPair} {origins destinations : EndNodes}
      {shares : List IngestReport}
      (known : s.ontology.store.pairs.get? p.record.pairId = some pair)
      (origin : IsEnd s nodes p.record pair .origin origins)
      (destination : IsEnd s nodes p.record pair .destination destinations)
      (each : List.Forall₂ (JoinShare p) (origins.nodes ×ˢ destinations.nodes) shares)
      (count : shares.length = origins.nodes.length * destinations.nodes.length)
      (one_le : 1 ≤ shares.length) : EdgeShare s nodes p (.joined shares)

/-- The share of what was produced for an item. -/
inductive Share (s : IngestSetting) (nodes : Table Node) : Produced → IngestReport → Prop
  | failure (f : RecordFailure) : Share s nodes { failures := [f] } { failures := [f] }
  | node {p : Pending Node} {share : IngestReport} (node : NodeShare p share) :
      Share s nodes { nodes := [p] } share
  | edge {p : Pending Edge} {share : IngestReport} (edge : EdgeShare s nodes p share) :
      Share s nodes { edges := [p] } share

variable {s : IngestSetting}

/-! ## Nodes -/

/-- What becomes of nodes that are validated: they are admitted, with other properties at
most, or they fail. -/
inductive Validated : List (Pending Node) → List Node → List RecordFailure → Prop
  | nil : Validated [] [] []
  | admitted {p : Pending Node} {ps : List (Pending Node)} {nodes : List Node}
      {failures : List RecordFailure} (properties : Entries) (rest : Validated ps nodes failures) :
      Validated (p :: ps) ({ p.record with properties } :: nodes) failures
  | refused {p : Pending Node} {ps : List (Pending Node)} {nodes : List Node}
      {failures : List RecordFailure} (e : RecordError) (rest : Validated ps nodes failures) :
      Validated (p :: ps) nodes (p.failure e :: failures)

/-- What is prepared from what was produced: the nodes that are admitted, and the edges. -/
def PreparedOf (produced : Produced) (prepared : Prepared) : Prop :=
  ∃ failures, Validated produced.nodes prepared.nodes failures ∧
    prepared.edges = produced.edges ∧ prepared.failures = produced.failures ++ failures

section Validation

variable {σ : Type} [KeepsCalls σ]

variable [PatternEngine]

theorem returns_validateNode_properties (memo : SchemaMemo) (n : Node) :
    Returns (validateNode s memo n : Access σ IngestError _) fun ans =>
      ∀ n', ans.1 = .ok n' → ∃ properties, n' = { n with properties } := by
  unfold validateNode
  split
  · exact .pure fun n' h => ⟨n.properties, by cases h; rfl⟩
  · exact Returns.after fun _ => .pure fun n' h => eq_of_checkProperties h

theorem returns_validated (memo : SchemaMemo) (ps : List (Pending Node)) :
    Returns (validateNodes s memo ps : Access σ IngestError _) fun ans =>
      Validated ps ans.1 ans.2 := by
  induction ps generalizing memo with
  | nil => exact .pure .nil
  | cons p ps ih =>
    refine (returns_validateNode_properties memo p.record).bind fun (result, memo') hresult => ?_
    refine (ih memo').bind fun (nodes, failures) hrest => ?_
    cases result with
    | error e => exact .pure (.refused e hrest)
    | ok n =>
      obtain ⟨properties, rfl⟩ := hresult n rfl
      exact .pure (.admitted properties hrest)

/-- An ingest prepares what the items of its mapping produce. -/
theorem returns_start_preparedOf (mapping : TypeMapping) (staged : StagedData) :
    Returns (start s mapping staged : Access σ IngestError Prepared)
      (PreparedOf (mapping.produced s.ontology.store staged)) := by
  have hprepare : Returns (prepare s mapping staged : Access σ IngestError Prepared)
      (PreparedOf (mapping.produced s.ontology.store staged)) := by
    refine Returns.after fun _ =>
      (returns_produce_eq s mapping staged).bind fun produced hproduced => ?_
    refine (returns_validated _ produced.nodes).bind fun (nodes, failures) h => ?_
    subst hproduced
    exact .pure ⟨failures, h, rfl, rfl⟩
  exact hprepare.bind fun prepared h => Returns.call (.pure h)

end Validation

section

variable [Supply]

/-- A node is stored with another id and time of creation at most. -/
theorem storedNode_cases (t : Transaction) (n : Node) :
    ∃ id createdAt, t.storedNode n = { n with id, createdAt } := by
  unfold storedNode nodeStamp stamped
  split <;> exact ⟨_, _, rfl⟩

/-- Nodes that are validated and stored have their shares. -/
theorem Validated.shares {ps : List (Pending Node)} {nodes : List Node}
    {failures : List RecordFailure} (h : Validated ps nodes failures) (t : Transaction) :
    ∃ shares, List.Forall₂ NodeShare ps shares ∧
      joined shares = { nodes := t.storedNodes nodes, failures } := by
  induction h generalizing t with
  | nil => exact ⟨[], .nil, rfl⟩
  | @admitted p ps nodes failures properties rest ih =>
    obtain ⟨shares, hshares, heq⟩ := ih (t.withNode { p.record with properties })
    obtain ⟨id, createdAt, hstored⟩ := storedNode_cases t { p.record with properties }
    refine ⟨_ :: shares, .cons (.inl ⟨id, createdAt, properties, rfl⟩) hshares, ?_⟩
    rw [joined_cons, heq, storedNodes, hstored]
    rfl
  | @refused p ps nodes failures e rest ih =>
    obtain ⟨shares, hshares, heq⟩ := ih t
    refine ⟨_ :: shares, .cons (.inr ⟨e, rfl⟩) hshares, ?_⟩
    rw [joined_cons, heq]
    rfl

/-! ## Edges -/

/-- What is planned for edges, one after the other. -/
inductive PlannedForAll (s : IngestSetting) (nodes : Table Node) :
    List (Pending Edge) → List (Pending (Except RecordError Attempt)) → Prop
  | nil : PlannedForAll s nodes [] []
  | cons {p : Pending Edge} {ps : List (Pending Edge)} {plan : Plan}
      {rest : List (Pending (Except RecordError Attempt))}
      (first : PlannedFor s nodes p.record plan) (others : PlannedForAll s nodes ps rest) :
      PlannedForAll s nodes (p :: ps) (plan.map p.replace ++ rest)

variable {nodes : Table Node}

variable [PatternEngine]

omit [Supply] in
theorem answers_planEdges {memo : EdgeMemo} (hmemo : memo.IsSound s.ontology.store)
    (ps : List (Pending Edge)) :
    Answers (HasNodes nodes) s.IsOut IngestError.Tells (planEdges s memo ps) fun r =>
      ∃ plan, r = .ok plan ∧ PlannedForAll s nodes ps plan := by
  induction ps generalizing memo with
  | nil => exact .pure ⟨_, rfl, .nil⟩
  | cons p ps ih =>
    refine (answers_planEdge hmemo p.record).bind_ok fun (plan, memo') ⟨hplan, hmemo'⟩ => ?_
    exact (ih hmemo').bind_ok fun rest hrest => .pure ⟨_, rfl, .cons hplan hrest⟩

end

section Made

variable {t t' : Transaction} {plan plan' : List (Pending (Except RecordError Attempt))}
  {outcomes : List (Pending (Except RecordError Edge))}

variable [Supply]

/-- The attempts of a plan that has two parts are those of the one and then of the other. -/
theorem Made.split (h : Made s (plan ++ plan') t outcomes t') :
    ∃ outcomes₁ outcomes₂ u, outcomes = outcomes₁ ++ outcomes₂ ∧ Made s plan t outcomes₁ u ∧
      Made s plan' u outcomes₂ t' := by
  induction plan generalizing t outcomes with
  | nil => exact ⟨[], outcomes, t, rfl, .nil, h⟩
  | cons p plan ih =>
    cases h with
    | cons first rest =>
      obtain ⟨outcomes₁, outcomes₂, u, rfl, hleft, hright⟩ := ih rest
      exact ⟨_ :: outcomes₁, outcomes₂, u, rfl, .cons first hleft, hright⟩

/-- The share of an outcome. -/
def shareOf (q : Pending (Except RecordError Edge)) : IngestReport :=
  match q.record with
  | .ok y => { edges := [y] }
  | .error e => { failures := [q.failure e] }

omit [Supply] in
theorem joined_shareOf (outcomes : List (Pending (Except RecordError Edge))) :
    joined (outcomes.map shareOf) =
      { edges := writtenEdges outcomes, failures := failedEdges outcomes } := by
  induction outcomes with
  | nil => rfl
  | cons q outcomes ih =>
    rw [List.map_cons, joined_cons, ih]
    cases hq : q.record <;>
      simp [IngestReport.append, shareOf, writtenEdges, failedEdges, hq, Except.toOption]

/-- An attempt has the share of an edge between its nodes. -/
theorem Attempted.joinShare {a : Attempt} {outcome : Except RecordError Edge}
    (h : Attempted s (.ok a) t outcome t') {p : Pending Edge}
    (hpair : a.edge.pairId = p.record.pairId) :
    JoinShare p (a.origin, a.destination) (shareOf (p.replace outcome)) := by
  cases h with
  | written permitted loud free => exact .inl ⟨t.storedEdge a.joined, hpair, rfl, rfl, rfl⟩
  | _ => exact .inr ⟨_, rfl⟩

/-- Attempts at an edge for combinations of nodes have their shares. -/
theorem Made.joinShares {p : Pending Edge} {ends : List (Node × Node)}
    {attemptFor : Node × Node → Attempt}
    (hends : ∀ e, ((attemptFor e).origin, (attemptFor e).destination) = e)
    (hpair : ∀ e, (attemptFor e).edge.pairId = p.record.pairId)
    (h : Made s ((ends.map fun e => .ok (attemptFor e)).map p.replace) t outcomes t') :
    List.Forall₂ (JoinShare p) ends (outcomes.map shareOf) := by
  induction ends generalizing t outcomes with
  | nil =>
    cases h
    exact .nil
  | cons e ends ih =>
    cases h with
    | cons first rest =>
      have hshare := Attempted.joinShare first (hpair e)
      rw [hends e] at hshare
      exact .cons hshare (ih rest)

/-- What is planned for an edge and done has the share of the edge. -/
theorem PlannedFor.share {p : Pending Edge} {plan : Plan}
    (h : PlannedFor s nodes p.record plan) (hmade : Made s (plan.map p.replace) t outcomes t') :
    EdgeShare s nodes p (joined (outcomes.map shareOf)) := by
  have hfailed {e : RecordError} (hmade : Made s ([.error e].map p.replace) t outcomes t') :
      EdgeShare s nodes p (joined (outcomes.map shareOf)) := by
    cases hmade with
    | cons first rest =>
      cases first
      cases rest
      have hfailed : EdgeShare s nodes p { failures := [p.failure e] } := .failed e
      rwa [← joined_singleton { failures := [p.failure e] }] at hfailed
  cases h with
  | failed => exact hfailed hmade
  | missing => exact hfailed hmade
  | @combined pair origins destinations properties known origin destination =>
    have heach : List.Forall₂ (JoinShare p) (origins.nodes ×ˢ destinations.nodes)
        (outcomes.map shareOf) := by
      refine Made.joinShares (fun _ => rfl) (fun ends => ?_) hmade
      dsimp only
      split <;> rfl
    have hcount : (outcomes.map shareOf).length =
        origins.nodes.length * destinations.nodes.length := by
      rw [← heach.length_eq, List.length_product]
    refine .combined known origin destination heach hcount ?_
    have horigins := List.length_pos_iff.2 origin.ne_nil
    have hdestinations := List.length_pos_iff.2 destination.ne_nil
    rw [hcount]
    exact Nat.mul_pos horigins hdestinations

theorem Attempted.not_isUnresolved {a : Attempt} {e : RecordError}
    (h : Attempted s (.ok a) t (.error e) t') (which : End) : ¬ e.IsUnresolved which := by
  cases h <;> exact fun h => h

/-- An edge fails on an end only if the end is missing. -/
theorem PlannedFor.missing_of_mem {p : Pending Edge} {plan : Plan}
    (h : PlannedFor s nodes p.record plan) (hmade : Made s (plan.map p.replace) t outcomes t')
    {f : RecordFailure} (hf : f ∈ failedEdges outcomes) {which : End}
    (hunresolved : f.error.IsUnresolved which) :
    ∃ pair, IsMissing s nodes p.record pair which f.error := by
  obtain ⟨q, hq, hfq⟩ := List.mem_filterMap.1 hf
  obtain ⟨p', hp', u, u', -, hattempted⟩ :=
    hmade.attempted_of_mem (I := fun _ => True) trivial (fun _ _ _ _ _ _ _ => trivial) hq
  obtain ⟨x, hx, rfl⟩ := List.mem_map.1 hp'
  cases hrecord : q.record with
  | ok y =>
    rw [hrecord] at hfq
    contradiction
  | error e =>
    rw [hrecord] at hfq hattempted
    cases hfq
    cases x with
    | ok a => exact absurd hunresolved (Attempted.not_isUnresolved hattempted which)
    | error e' =>
      cases hattempted
      cases h with
      | failed own resolved =>
        cases List.mem_singleton.1 hx
        exact absurd hunresolved (resolved which)
      | missing missing =>
        cases List.mem_singleton.1 hx
        exact ⟨_, missing.unresolved.eq hunresolved ▸ missing⟩
      | combined =>
        obtain ⟨_, -, heq⟩ := List.mem_map.1 hx
        contradiction

/-- The share of an edge, where a failure on an end is one on an end that is missing. -/
structure EdgeAccount (s : IngestSetting) (nodes : Table Node) (p : Pending Edge)
    (r : IngestReport) : Prop where
  share : EdgeShare s nodes p r
  missing : ∀ f ∈ r.failures, ∀ which, f.error.IsUnresolved which →
    ∃ pair, IsMissing s nodes p.record pair which f.error

theorem PlannedFor.account {p : Pending Edge} {plan : Plan} (h : PlannedFor s nodes p.record plan)
    (hmade : Made s (plan.map p.replace) t outcomes t') :
    EdgeAccount s nodes p (joined (outcomes.map shareOf)) := by
  refine ⟨h.share hmade, fun f hf which hunresolved => h.missing_of_mem hmade ?_ hunresolved⟩
  rwa [joined_shareOf] at hf

/-- What is planned for edges and done has the shares of the edges. -/
theorem PlannedForAll.shares {ps : List (Pending Edge)} (h : PlannedForAll s nodes ps plan)
    (hmade : Made s plan t outcomes t') :
    ∃ shares, List.Forall₂ (EdgeAccount s nodes) ps shares ∧
      joined shares = { edges := writtenEdges outcomes, failures := failedEdges outcomes } := by
  rw [← joined_shareOf]
  induction h generalizing t outcomes with
  | nil =>
    cases hmade
    exact ⟨[], .nil, rfl⟩
  | cons first others ih =>
    obtain ⟨outcomes₁, outcomes₂, u, rfl, hfirst, hrest⟩ := hmade.split
    obtain ⟨shares, hshares, heq⟩ := ih hrest
    refine ⟨_, .cons (first.account hfirst) hshares, ?_⟩
    rw [joined_cons, heq, List.map_append, joined_append]

end Made

/-! ## The whole report -/

/-- Whether one node, one edge or one failure was produced. -/
inductive IsSingle : Produced → Prop
  | failure (f : RecordFailure) : IsSingle { failures := [f] }
  | node (p : Pending Node) : IsSingle { nodes := [p] }
  | edge (p : Pending Edge) : IsSingle { edges := [p] }

theorem isSingle_producedFor (t : Transformation) (o : OntologyStore) (staged : StagedData)
    (item : Item) : IsSingle (t.producedFor o staged item) := by
  cases item with
  | malformed cause => exact .failure _
  | unlisted e => exact .failure _
  | branch target index =>
    simp only [Transformation.producedFor]
    split
    · exact .failure _
    · exact .node _
    · exact .edge _

theorem NodeShare.edges_eq_nil {p : Pending Node} {share : IngestReport} (h : NodeShare p share) :
    share.edges = [] := by
  rcases h with ⟨_, _, _, rfl⟩ | ⟨_, rfl⟩ <;> rfl

theorem nodes_joined_joinShares {p : Pending Edge} {ends : List (Node × Node)}
    {shares : List IngestReport} (h : List.Forall₂ (JoinShare p) ends shares) :
    (joined shares).nodes = [] := by
  induction h with
  | nil => rfl
  | cons first rest ih =>
    rcases first with ⟨_, _, _, _, rfl⟩ | ⟨_, rfl⟩ <;> exact ih

theorem EdgeShare.nodes_eq_nil {nodes : Table Node} {p : Pending Edge} {share : IngestReport}
    (h : EdgeShare s nodes p share) : share.nodes = [] := by
  cases h with
  | failed e => rfl
  | combined known origin destination each => exact nodes_joined_joinShares each

variable {nodes : Table Node}

/-- The share of what was produced, and the account of the edge if it is one. -/
structure Accounted (s : IngestSetting) (nodes : Table Node) (part : Produced)
    (r : IngestReport) : Prop where
  share : Share s nodes part r
  edge : ∀ p ∈ part.edges, EdgeAccount s nodes p r

theorem accounted_failure (f : RecordFailure) :
    Accounted s nodes { failures := [f] } { failures := [f] } :=
  ⟨.failure f, by simp⟩

theorem NodeShare.accounted {p : Pending Node} {r : IngestReport} (h : NodeShare p r) :
    Accounted s nodes { nodes := [p] } r :=
  ⟨.node h, by simp⟩

theorem EdgeAccount.accounted {p : Pending Edge} {r : IngestReport}
    (h : EdgeAccount s nodes p r) : Accounted s nodes { edges := [p] } r :=
  ⟨.edge h.share, by simpa using h⟩

/-- The shares of the nodes and the edges that were produced, and the failures, make up shares
of the parts. -/
theorem exists_shares {parts : List Produced} (hparts : ∀ part ∈ parts, IsSingle part)
    {nodeShares edgeShares : List IngestReport}
    (hnodes : List.Forall₂ NodeShare (Produced.joined parts).nodes nodeShares)
    (hedges : List.Forall₂ (EdgeAccount s nodes) (Produced.joined parts).edges edgeShares) :
    ∃ shares, List.Forall₂ (Accounted s nodes) parts shares ∧
      (joined shares).nodes = (joined nodeShares).nodes ∧
      (joined shares).edges = (joined edgeShares).edges ∧
      (joined shares).failures.Perm ((Produced.joined parts).failures ++
        (joined nodeShares).failures ++ (joined edgeShares).failures) := by
  induction parts generalizing nodeShares edgeShares with
  | nil =>
    cases hnodes
    cases hedges
    exact ⟨[], .nil, rfl, rfl, .refl _⟩
  | cons part parts ih =>
    have hrest : ∀ part ∈ parts, IsSingle part := fun part h => hparts part (by simp [h])
    cases hparts part (by simp) with
    | failure f =>
      obtain ⟨shares, hshares, hnodes, hedges, hfailures⟩ := ih hrest hnodes hedges
      exact ⟨_, .cons (accounted_failure f) hshares, hnodes, hedges, hfailures.cons f⟩
    | node p =>
      cases hnodes with
      | @cons _ share _ nodeShares hfirst hnodes =>
        obtain ⟨shares, hshares, hnodes, hedges, hfailures⟩ := ih hrest hnodes hedges
        refine ⟨_, .cons hfirst.accounted hshares, congrArg (share.nodes ++ ·) hnodes, ?_, ?_⟩
        · rw [joined_cons, IngestReport.append, hfirst.edges_eq_nil]
          exact hedges
        · have hassoc : (Produced.joined parts).failures ++
              (share.failures ++ (joined nodeShares).failures) ++ (joined edgeShares).failures =
                (Produced.joined parts).failures ++
                  (share.failures ++ ((joined nodeShares).failures ++
                    (joined edgeShares).failures)) := by
            simp only [List.append_assoc]
          rw [List.append_assoc] at hfailures
          exact (hfailures.append_left share.failures).trans
            ((List.perm_append_comm_assoc _ _ _).trans (.of_eq hassoc.symm))
    | edge p =>
      cases hedges with
      | @cons _ share _ edgeShares hfirst hedges =>
        obtain ⟨shares, hshares, hnodes, hedges, hfailures⟩ := ih hrest hnodes hedges
        refine ⟨_, .cons hfirst.accounted hshares, ?_, congrArg (share.edges ++ ·) hedges, ?_⟩
        · rw [joined_cons, IngestReport.append, hfirst.share.nodes_eq_nil]
          exact hnodes
        · refine (hfailures.append_left share.failures).trans ?_
          exact List.perm_append_comm_assoc _ _ _

theorem Share.edges_eq_nil {part : Produced} {share : IngestReport} (h : Share s nodes part share)
    (hpart : part.edges = []) : share.edges = [] := by
  cases h with
  | failure f => rfl
  | node hnode => exact hnode.edges_eq_nil
  | edge hedge => simp at hpart

theorem Share.nodes_eq_nil {part : Produced} {share : IngestReport} (h : Share s nodes part share)
    (hpart : part.nodes = []) : share.nodes = [] := by
  cases h with
  | failure f => rfl
  | node hnode => simp at hpart
  | edge hedge => exact hedge.nodes_eq_nil

/-- Whether a share is that of an item of a transformation. Those of the branches of nodes have
no edges, and those of the branches of edges no nodes. -/
structure IsShareOf (s : IngestSetting) (nodes : Table Node) (staged : StagedData)
    (entry : Transformation × Item) (r : IngestReport) : Prop where
  share : Share s nodes (entry.1.producedFor s.ontology.store staged entry.2) r
  of_node : ∀ metatypeId index, entry.2 = .branch (.node metatypeId) index → r.edges = []
  of_edge : ∀ pairId index, entry.2 = .branch (.edge pairId) index → r.nodes = []

theorem isShareOf_of_share {staged : StagedData} {entry : Transformation × Item}
    {r : IngestReport}
    (h : Share s nodes (entry.1.producedFor s.ontology.store staged entry.2) r) :
    IsShareOf s nodes staged entry r := by
  refine ⟨h, fun metatypeId index hitem => h.edges_eq_nil ?_,
    fun pairId index hitem => h.nodes_eq_nil ?_⟩
  · rw [hitem]
    exact Transformation.edges_producedFor_node _ _ _ _ _
  · rw [hitem]
    exact Transformation.nodes_producedFor_edge _ _ _ _ _

variable [Supply] [PatternEngine]

/-- The report on what an ingest did is made up of shares, one for each item of the live
transformations of the mapping. -/
theorem Ingested.shares {mapping : TypeMapping} {staged : StagedData} {t t' : Transaction}
    {prepared : Prepared} {plan : List (Pending (Except RecordError Attempt))}
    {outcomes : List (Pending (Except RecordError Edge))}
    (h : Ingested s mapping staged t prepared plan outcomes t') :
    ∃ shares, List.Forall₂ (fun entry r => Accounted s t'.graph.nodes
        (entry.1.producedFor s.ontology.store staged entry.2) r) (mapping.items staged) shares ∧
      (reportOf t prepared outcomes).nodes = (joined shares).nodes ∧
      (reportOf t prepared outcomes).edges = (joined shares).edges ∧
      (reportOf t prepared outcomes).failures.Perm (joined shares).failures := by
  rw [h.made.nodes]
  -- what is prepared and planned is fixed by what every run returns
  have hprepared : PreparedOf (.joined (mapping.parts s.ontology.store staged)) prepared :=
    (returns_start_preparedOf mapping staged).of_result (h.started t)
  obtain ⟨failures, hvalidated, hedges, hfailures⟩ := hprepared
  obtain ⟨_, heq, hplanned⟩ := (answers_planEdges (EdgeMemo.isSound_empty _) prepared.edges).of_ok
    (rfl : HasNodes _ (t.withNodes prepared.nodes)) (h.planned.result _ rfl)
  cases heq
  rw [hedges] at hplanned
  obtain ⟨nodeShares, hnodeShares, hstored⟩ := hvalidated.shares t
  obtain ⟨edgeShares, hedgeShares, hwritten⟩ := hplanned.shares h.made
  have hparts : ∀ part ∈ mapping.parts s.ontology.store staged, IsSingle part := by
    intro part hpart
    obtain ⟨entry, -, rfl⟩ := List.mem_map.1 hpart
    exact isSingle_producedFor _ _ _ _
  obtain ⟨shares, hshares, hn, he, hf⟩ := exists_shares hparts hnodeShares hedgeShares
  rw [hstored] at hn
  rw [hwritten] at he
  rw [hstored, hwritten, ← hfailures] at hf
  refine ⟨shares, ?_, hn.symm, he.symm, hf.symm⟩
  exact List.forall₂_map_left_iff.1 hshares

end Ingest

namespace GraphStore

open Ingest

end GraphStore

end TypedGraph
