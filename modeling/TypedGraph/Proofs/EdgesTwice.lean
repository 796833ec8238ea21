import TypedGraph.Proofs.Conflicts
import TypedGraph.Proofs.NodesTwice
import Mathlib.Data.List.Forall2

/-!
# Attempts made twice

When attempts with different identities are made that are not stored yet, each of them is
settled for good: an edge that was accepted stands in conflict with no live edge, one that
was refused is kept out by a live edge or by its nodes, and later attempts change neither
(`Ingest.forall₂_settled`). So the same attempts, made once more, end in the same way and
leave the edges as they are (`Ingest.edges_of_settled`).
-/
namespace TypedGraph

open Transaction

/-- What makes up the identity of an edge. -/
def Edge.identity (x : Edge) : Option String × Option String := (x.compositeId, x.dataSourceId)

/-- An attempt at writing a new edge with an identity, on a pair of an ontology. -/
structure Attempt.IsReady (o : OntologyStore) (a : Attempt) : Prop where
  pair : o.pairs.get? a.edge.pairId = some a.pair
  named : a.joined.IsNamed
  archived : a.joined.archived = false

namespace Ingest

/-- The attempts of a plan. -/
def attemptsOf (plan : List (Pending (Except RecordError Attempt))) : List Attempt :=
  plan.filterMap fun p => p.record.toOption

/-- An attempt whose edge is stored under an id and stands in no conflict. -/
structure Accepted (a : Attempt) (edges : Table Edge) (id : String) (y : Edge) : Prop where
  nodes : ∃ ids, Connection.checkNodes a.pair a.origin a.destination = .ok ids
  stored : edges.get? id = some y
  same : y = { a.joined with id := some id, createdAt := y.createdAt }
  free : ∀ id' z, edges.get? id' = some z → z.archived = false → z.pairId = a.edge.pairId →
    a.pair.Conflicts a.joined z → id' = id

/-- Whether no edge with the identity of an attempt is stored. -/
def Absent (a : Attempt) (edges : Table Edge) : Prop :=
  ∀ id y, edges.get? id = some y → y.identity ≠ a.joined.identity

/-- Whether a live edge of the pair is in conflict with an attempt. -/
def Contested (a : Attempt) (edges : Table Edge) : Prop :=
  ∃ id z, edges.get? id = some z ∧ z.archived = false ∧ z.pairId = a.edge.pairId ∧
    a.pair.Conflicts a.joined z

/-- An attempt whose edge is not stored and is kept out. -/
structure Refused (a : Attempt) (edges : Table Edge) : Prop where
  absent : Absent a edges
  refused : (∀ ids, Connection.checkNodes a.pair a.origin a.destination ≠ .ok ids) ∨
    Contested a edges

/-- Whether an attempt with this outcome is settled in a table of edges. -/
def SettledIn (edges : Table Edge) : Except RecordError Attempt → Except RecordError Edge → Prop
  | .ok a, .ok _ => ∃ id y, Accepted a edges id y
  | .ok a, .error _ => Refused a edges
  | .error _, .error _ => True
  | .error _, .ok _ => False

/-! ## What is permitted -/

variable {o : OntologyStore} {s : IngestSetting} {a : Attempt} {t t' : Transaction}

/-- An attempt is permitted if its nodes pass the check and every live edge in conflict with
it is the one left out of account. -/
theorem isPermitted_iff {g : Graph} (h : IsRegister Edge.toRecordBase g.edges)
    (hkeyed : a.pair.id = some a.edge.pairId) :
    a.IsPermitted g ↔ (∃ ids, Connection.checkNodes a.pair a.origin a.destination = .ok ids) ∧
      ∀ id z, g.edges.get? id = some z → z.archived = false → z.pairId = a.edge.pairId →
        a.pair.Conflicts a.joined z → g.replacedId a.joined = some id := by
  constructor
  · rintro ⟨originId, destinationId, hids, hall⟩
    obtain ⟨ho, hd, -, -⟩ := Connection.checkNodes_ok hids
    refine ⟨⟨_, hids⟩, fun id z hz hlive hpairId hconflicts => ?_⟩
    have hmem : z ∈ g.liveEdges :=
      Graph.mem_liveEdges.2 ⟨h.ordered.mem_values_iff.2 ⟨id, hz⟩, hlive⟩
    obtain ⟨id', hreplaced, hid'⟩ := hall z hmem (by rw [hkeyed, hpairId]; rfl)
      ((RelationshipPair.obstructs_iff (x := a.joined) ho hd).2 hconflicts)
    rw [hreplaced, ← hid', h.id_eq hz]
  · rintro ⟨⟨⟨originId, destinationId⟩, hids⟩, hall⟩
    obtain ⟨ho, hd, -, -⟩ := Connection.checkNodes_ok hids
    refine ⟨originId, destinationId, hids, fun z hz hpairId hobstructs => ?_⟩
    obtain ⟨hvalue, hlive⟩ := Graph.mem_liveEdges.1 hz
    obtain ⟨id, hget⟩ := h.ordered.mem_values_iff.1 hvalue
    rw [hkeyed] at hpairId
    exact ⟨id, hall id z hget hlive hpairId
      ((RelationshipPair.obstructs_iff (x := a.joined) ho hd).1 hobstructs), h.id_eq hget⟩

theorem replaced?_of_absent {edges : Table Edge} (h : IsRegister Edge.toRecordBase edges)
    (hnamed : a.joined.IsNamed) (habsent : Absent a edges) :
    Graph.replaced? Edge.toRecordBase edges a.joined.toRecordBase = none := by
  obtain ⟨c, d, hidentity⟩ := hnamed.identity
  rw [IsRegister.replaced?_of_hasIdentity hidentity]
  refine h.byIdentity?_eq_none.2 fun id y hy => ?_
  cases hyc : y.hasIdentity c d with
  | false => rfl
  | true =>
    obtain ⟨hc, hd⟩ := RecordBase.hasIdentity_iff.1 hidentity
    obtain ⟨hyc, hyd⟩ := RecordBase.hasIdentity_iff.1 hyc
    refine absurd ?_ (habsent id y hy)
    simp [Edge.identity, hc, hd, hyc, hyd]

theorem replacedId_of_replaced? {g : Graph} {x : Edge} (hnamed : x.IsNamed) :
    g.replacedId x = (Graph.replaced? Edge.toRecordBase g.edges x.toRecordBase).bind (·.id) := by
  obtain ⟨c, d, hidentity⟩ := hnamed.identity
  obtain ⟨hc, hd⟩ := RecordBase.hasIdentity_iff.1 hidentity
  simp [Graph.replacedId, Graph.replaced?, Graph.edgeByComposite?, hc, hd, hnamed.id]

/-! ## Attempts that are made for the first time -/

/-- How an attempt ends whose edge was not stored: the edge is kept out, or it is written
under an id that was free, and stands in no conflict. -/
inductive Settles (a : Attempt) (t : Transaction) :
    Except RecordError Edge → Transaction → Prop
  | refused {e : RecordError} {t' : Transaction} (refused : Refused a t.graph.edges)
      (edges : t'.graph.edges = t.graph.edges) : Settles a t (.error e) t'
  | accepted {x z : Edge} {k : String} {t' : Transaction}
      (nodes : ∃ ids, Connection.checkNodes a.pair a.origin a.destination = .ok ids)
      (uncontested : ¬ Contested a t.graph.edges) (free : t.graph.edges.get? k = none)
      (same : z = { a.joined with id := some k, createdAt := z.createdAt })
      (edges : t'.graph.edges = t.graph.edges.insert k z) : Settles a t (.ok x) t'

section

variable [Supply]

theorem settles_of_attempted {outcome : Except RecordError Edge} (ha : a.IsReady o)
    (ho : o.IsKeyed) (hedges : IsRegister Edge.toRecordBase t.graph.edges)
    (hfresh : Fresh t.graph.edges t.drawn) (habsent : Absent a t.graph.edges)
    (hsilent : s.outage.silentEdges = false) (h : Attempted s (.ok a) t outcome t') :
    Settles a t outcome t' := by
  have hkeyed := ho.pairs _ _ ha.pair
  have hreplaced := replaced?_of_absent hedges ha.named habsent
  have hid : t.graph.replacedId a.joined = none := by
    rw [replacedId_of_replaced? ha.named, hreplaced]
    rfl
  cases h with
  | refused own refused =>
    refine .refused ⟨habsent, ?_⟩ rfl
    rw [isPermitted_iff hedges hkeyed] at refused
    by_cases hnodes : ∃ ids, Connection.checkNodes a.pair a.origin a.destination = .ok ids
    · refine .inr ?_
      have hcontested : ¬ ∀ id z, t.graph.edges.get? id = some z → z.archived = false →
          z.pairId = a.edge.pairId → a.pair.Conflicts a.joined z →
          t.graph.replacedId a.joined = some id := fun hall => refused ⟨hnodes, hall⟩
      by_cases hc : Contested a t.graph.edges
      · exact hc
      · exact absurd (fun id z hz hlive hpairId hconflicts =>
          absurd ⟨id, z, hz, hlive, hpairId, hconflicts⟩ hc) hcontested
    · exact .inl fun ids hids => hnodes ⟨ids, hids⟩
  | dropped permitted silent => simp_all
  | clashing permitted loud clash =>
    rw [obstacle?_eq_none hedges permitted hkeyed] at clash
    contradiction
  | written permitted loud free =>
    obtain ⟨hnodes, hall⟩ := (isPermitted_iff hedges hkeyed).1 permitted
    rcases hedges.stamped_cases ha.named.id t.drawn with ⟨_, _, hold, -⟩ | ⟨-, heq⟩
    · rw [hreplaced] at hold
      contradiction
    · have hstored : t.storedEdge a.joined = { a.joined with
          id := some (Supply.drawnId (t.drawn.ids + 1))
          createdAt := some (a.joined.createdAt.getD
            (Supply.reading (t.drawn.readings + 1))) } := by
        simp [storedEdge, edgeStamp, heq]
      refine .accepted (z := t.storedEdge a.joined) (k := Supply.drawnId (t.drawn.ids + 1))
        hnodes ?_ (hfresh _ (by omega)) ?_ ?_
      · rintro ⟨id, z, hz, hlive, hpairId, hconflicts⟩
        have hexcluded := hall id z hz hlive hpairId hconflicts
        rw [hid] at hexcluded
        contradiction
      · rw [hstored]
      · change t.graph.edges.insert ((t.storedEdge a.joined).id.getD "") _ = _
        rw [hstored]
        rfl

omit [Supply] in
/-- An attempt is settled once it was made. -/
theorem Settles.settledIn {outcome : Except RecordError Edge} (h : Settles a t outcome t') :
    SettledIn t'.graph.edges (.ok a) outcome := by
  cases h with
  | refused refused edges =>
    rw [edges]
    exact refused
  | @accepted x z key t' nodes uncontested free same edges =>
    rw [edges]
    refine ⟨key, z, nodes, ?_, same, fun id' z' hz' hlive hpairId hconflicts => ?_⟩
    · rw [Table.get?_insert, if_pos rfl]
    · rw [Table.get?_insert] at hz'
      split at hz'
      · assumption
      · exact absurd ⟨id', z', hz', hlive, hpairId, hconflicts⟩ uncontested

omit [Supply] in
/-- An attempt that is settled stays settled when one with another identity is made. -/
theorem Settles.keeps {b : Attempt} {outcome outcome' : Except RecordError Edge}
    (h : Settles a t outcome t') (ha : a.IsReady o) (hb : b.IsReady o)
    (hne : a.joined.identity ≠ b.joined.identity)
    (hsettled : SettledIn t.graph.edges (.ok b) outcome') :
    SettledIn t'.graph.edges (.ok b) outcome' := by
  cases h with
  | refused refused edges =>
    rw [edges]
    exact hsettled
  | @accepted x z key t' nodes uncontested free same edges =>
    rw [edges]
    have hold {id : String} {y : Edge} (hy : t.graph.edges.get? id = some y) :
        (t.graph.edges.insert key z).get? id = some y := by
      rw [Table.get?_insert, if_neg, hy]
      rintro rfl
      rw [hy] at free
      contradiction
    cases outcome' with
    | error e =>
      refine ⟨fun id y hy => ?_, hsettled.refused.imp_right ?_⟩
      · rw [Table.get?_insert] at hy
        split at hy
        · cases hy
          rw [same]
          exact hne
        · exact hsettled.absent id y hy
      · rintro ⟨id, y, hy, hrest⟩
        exact ⟨id, y, hold hy, hrest⟩
    | ok x' =>
      obtain ⟨id, y, hy⟩ := hsettled
      refine ⟨id, y, hy.nodes, hold hy.stored, hy.same,
        fun id' z' hz' hlive hpairId hconflicts => ?_⟩
      rw [Table.get?_insert] at hz'
      split at hz'
      · cases hz'
        -- the new edge would be in conflict with the one that was accepted before
        refine absurd ⟨id, y, hy.stored, ?_, ?_, ?_⟩ uncontested
        · rw [hy.same]
          exact hb.archived
        · rw [same] at hpairId
          rw [hy.same]
          exact hpairId.symm
        · have hpair : a.pair = b.pair := by
            have hpairId' : a.edge.pairId = b.edge.pairId := by
              rw [same] at hpairId
              exact hpairId
            have := ha.pair
            rw [hpairId', hb.pair] at this
            exact (Option.some.inj this).symm
          rw [hpair]
          rw [same] at hconflicts
          rw [hy.same]
          exact hconflicts.symm
      · exact hy.free id' z' hz' hlive hpairId hconflicts

/-! ## Plans that are made for the first time -/

variable {x : Except RecordError Attempt} {outcome outcome' : Except RecordError Edge}
  {plan : List (Pending (Except RecordError Attempt))}
  {outcomes outcomes' : List (Pending (Except RecordError Edge))}

/-- Whether the attempts of a plan are still to be made: their edges are new, have
different identities and are not stored. -/
structure Awaits (o : OntologyStore) (plan : List (Pending (Except RecordError Attempt)))
    (t : Transaction) : Prop where
  ready : ∀ a ∈ attemptsOf plan, a.IsReady o
  distinct : (attemptsOf plan).Pairwise fun a b => a.joined.identity ≠ b.joined.identity
  absent : ∀ a ∈ attemptsOf plan, Absent a t.graph.edges
  edges : IsRegister Edge.toRecordBase t.graph.edges
  fresh : Fresh t.graph.edges t.drawn

theorem Attempted.drawn_le (h : Attempted s x t outcome t') : t.drawn.ids ≤ t'.drawn.ids := by
  cases h
  case clashing => exact stamped_ids_le _ _ _
  case written => exact stamped_ids_le _ _ _
  all_goals exact Nat.le_refl _

theorem Attempted.isRegister (h : Attempted s x t outcome t')
    (hedges : IsRegister Edge.toRecordBase t.graph.edges) :
    IsRegister Edge.toRecordBase t'.graph.edges := by
  cases h
  case written a permitted loud free =>
    exact hedges.insert_stamped (a := t.storedEdge a.joined) (r := a.joined.toRecordBase) rfl
  all_goals exact hedges

theorem Attempted.fresh (h : Attempted s x t outcome t')
    (hedges : IsRegister Edge.toRecordBase t.graph.edges)
    (hx : ∀ a, x = .ok a → a.joined.id = none) (hfresh : Fresh t.graph.edges t.drawn) :
    Fresh t'.graph.edges t'.drawn := by
  have hdrawn := h.drawn_le
  cases h
  case written a permitted loud free =>
    exact hedges.fresh_insert (a := t.storedEdge a.joined) (hx a rfl) hfresh rfl
  all_goals exact hfresh.mono hdrawn

omit [Supply] in
theorem attemptsOf_cons (p : Pending (Except RecordError Attempt))
    (plan : List (Pending (Except RecordError Attempt))) :
    attemptsOf (p :: plan) = p.record.toOption.toList ++ attemptsOf plan := by
  unfold attemptsOf
  rw [List.filterMap_cons]
  cases p.record <;> rfl

omit [Supply] in
theorem Settles.absent {b : Attempt} (h : Settles a t outcome t')
    (hne : a.joined.identity ≠ b.joined.identity) (hb : Absent b t.graph.edges) :
    Absent b t'.graph.edges := by
  cases h with
  | refused refused edges =>
    rw [edges]
    exact hb
  | accepted nodes uncontested free same edges =>
    intro id y hy
    rw [edges, Table.get?_insert] at hy
    split at hy
    · cases hy
      rw [same]
      exact hne
    · exact hb id y hy

/-- An attempt of a plan that is made is settled, the others are still to be made, and what
is settled already stays so. -/
theorem Awaits.step {p : Pending (Except RecordError Attempt)} (h : Awaits o (p :: plan) t)
    (ho : o.IsKeyed) (hsilent : s.outage.silentEdges = false)
    (hfirst : Attempted s p.record t outcome t') :
    Awaits o plan t' ∧ SettledIn t'.graph.edges p.record outcome ∧
      ∀ b outcome', b.IsReady o →
        (∀ a, p.record = .ok a → a.joined.identity ≠ b.joined.identity) →
        SettledIn t.graph.edges (.ok b) outcome' → SettledIn t'.graph.edges (.ok b) outcome' := by
  obtain ⟨hready, hdistinct, habsent, hedges, hfresh⟩ := h
  rw [attemptsOf_cons] at hready hdistinct habsent
  have hregister := hfirst.isRegister hedges
  have hfresh' : Fresh t'.graph.edges t'.drawn :=
    hfirst.fresh hedges (fun a ha => (hready a (by simp [ha, Except.toOption])).named.id) hfresh
  cases hrecord : p.record with
  | error e =>
    rw [hrecord] at hready hdistinct habsent hfirst
    cases hfirst
    exact ⟨⟨hready, hdistinct, habsent, hregister, hfresh'⟩, trivial, fun _ _ _ _ h => h⟩
  | ok a =>
    rw [hrecord] at hready hdistinct habsent hfirst
    have ha := hready a (by simp [Except.toOption])
    have hsettles := settles_of_attempted ha ho hedges hfresh
      (habsent a (by simp [Except.toOption])) hsilent hfirst
    obtain ⟨hne, hrest⟩ := List.pairwise_cons.1 hdistinct
    refine ⟨⟨fun b hb => hready b (by simp [hb]), hrest,
      fun b hb => hsettles.absent (hne b hb) (habsent b (by simp [hb])), hregister, hfresh'⟩,
      hsettles.settledIn, fun b outcome' hb hother hsettled => ?_⟩
    exact hsettles.keeps ha hb (hother a rfl) hsettled

/-- What is settled stays so while other attempts are made. -/
theorem Made.keeps_settled (h : Made s plan t outcomes t') (ho : o.IsKeyed)
    (hsilent : s.outage.silentEdges = false) (hplan : Awaits o plan t) {b : Attempt}
    (hb : b.IsReady o)
    (hne : ∀ a ∈ attemptsOf plan, a.joined.identity ≠ b.joined.identity)
    (hsettled : SettledIn t.graph.edges (.ok b) outcome) :
    SettledIn t'.graph.edges (.ok b) outcome := by
  induction h with
  | nil => exact hsettled
  | cons first rest ih =>
    obtain ⟨hrest, -, hkeeps⟩ := hplan.step ho hsilent first
    rw [attemptsOf_cons] at hne
    refine ih hrest (fun a ha => hne a (by simp [ha])) (hkeeps b _ hb (fun a ha => ?_) hsettled)
    exact hne a (by simp [ha, Except.toOption])

/-- All attempts of a plan are settled in the end. -/
theorem forall₂_settled (h : Made s plan t outcomes t') (ho : o.IsKeyed)
    (hsilent : s.outage.silentEdges = false) (hplan : Awaits o plan t) :
    List.Forall₂ (fun p q => SettledIn t'.graph.edges p.record q.record) plan outcomes := by
  induction h with
  | nil => exact .nil
  | @cons p plan outcome outcomes t t₁ t' first rest ih =>
    obtain ⟨hrest, hsettled, -⟩ := hplan.step ho hsilent first
    refine .cons ?_ (ih hrest)
    obtain ⟨hready, hdistinct, -, -, -⟩ := hplan
    rw [attemptsOf_cons] at hready hdistinct
    cases hrecord : p.record with
    | error e =>
      rw [hrecord] at hsettled
      cases outcome with
      | error e' => trivial
      | ok x => exact hsettled.elim
    | ok a =>
      rw [hrecord] at hsettled hready hdistinct
      obtain ⟨hne, -⟩ := List.pairwise_cons.1 hdistinct
      exact rest.keeps_settled ho hsilent hrest (hready a (by simp [Except.toOption]))
        (fun b hb => (hne b hb).symm) hsettled

/-! ## Plans that are made again -/

/-- An accepted attempt is permitted, and its edge is stored as it is already. -/
theorem Accepted.again {id : String} {y : Edge} (h : Accepted a t.graph.edges id y)
    (ha : a.IsReady o) (ho : o.IsKeyed) (hedges : IsRegister Edge.toRecordBase t.graph.edges) :
    a.IsPermitted t.graph ∧ (t.withEdge a.joined).graph.edges = t.graph.edges := by
  obtain ⟨c, d, hidentity⟩ := ha.named.identity
  have hyidentity : y.hasIdentity c d := by
    rw [h.same]
    exact hidentity
  have hreplaced :
      Graph.replaced? Edge.toRecordBase t.graph.edges a.joined.toRecordBase = some y := by
    rw [IsRegister.replaced?_of_hasIdentity hidentity]
    exact hedges.byIdentity?_eq_some.2 ⟨⟨id, h.stored⟩, hyidentity⟩
  have hid : t.graph.replacedId a.joined = some id := by
    rw [replacedId_of_replaced? ha.named, hreplaced]
    exact hedges.id_eq h.stored
  refine ⟨(isPermitted_iff hedges (ho.pairs _ _ ha.pair)).2
    ⟨h.nodes, fun id' z hz hlive hpairId hconflicts => ?_⟩, ?_⟩
  · rw [hid, h.free id' z hz hlive hpairId hconflicts]
  · rcases hedges.stamped_cases ha.named.id t.drawn with ⟨id', old, hold, hget, heq⟩ | ⟨hnone, -⟩
    · rw [hreplaced] at hold
      cases hold
      have hid' : some id' = some id := by rw [← hedges.id_eq hget, hedges.id_eq h.stored]
      cases hid'
      have hstored : t.storedEdge a.joined = y := by
        rw [h.same]
        simp [storedEdge, edgeStamp, heq]
      change t.graph.edges.insert ((t.storedEdge a.joined).id.getD "") (t.storedEdge a.joined) = _
      rw [hstored, hedges.id_eq h.stored]
      exact hedges.ordered.insert_self h.stored
    · rw [hreplaced] at hnone
      contradiction

omit [Supply] in
/-- A refused attempt is not permitted. -/
theorem Refused.again (h : Refused a t.graph.edges) (ha : a.IsReady o) (ho : o.IsKeyed)
    (hedges : IsRegister Edge.toRecordBase t.graph.edges) : ¬ a.IsPermitted t.graph := by
  rw [isPermitted_iff hedges (ho.pairs _ _ ha.pair)]
  rintro ⟨⟨ids, hids⟩, hall⟩
  rcases h.refused with hnodes | ⟨id, z, hz, hlive, hpairId, hconflicts⟩
  · exact hnodes ids hids
  · have hexcluded := hall id z hz hlive hpairId hconflicts
    rw [replacedId_of_replaced? ha.named, replaced?_of_absent hedges ha.named h.absent] at hexcluded
    contradiction

/-- An attempt that is settled ends in the same way when it is made again, and leaves the
edges as they are. -/
theorem Attempted.again (h : Attempted s x t outcome' t') (ho : o.IsKeyed)
    (hsilent : s.outage.silentEdges = false)
    (hx : ∀ a, x = .ok a → a.IsReady o) (hedges : IsRegister Edge.toRecordBase t.graph.edges)
    (hsettled : SettledIn t.graph.edges x outcome) :
    t'.graph.edges = t.graph.edges ∧ outcome'.isOk = outcome.isOk := by
  cases x with
  | error e =>
    cases h
    cases outcome with
    | error e' => exact ⟨rfl, rfl⟩
    | ok y => exact hsettled.elim
  | ok a =>
    have ha := hx a rfl
    cases outcome with
    | ok y =>
      obtain ⟨id, y, hy⟩ := hsettled
      obtain ⟨hpermitted, hsame⟩ := hy.again ha ho hedges
      cases h with
      | refused own refused => exact absurd hpermitted refused
      | dropped permitted silent => simp_all
      | clashing permitted loud clash =>
        rw [obstacle?_eq_none hedges permitted (ho.pairs _ _ ha.pair)] at clash
        contradiction
      | written permitted loud free => exact ⟨hsame, rfl⟩
    | error e =>
      have hrefused := Refused.again hsettled ha ho hedges
      cases h with
      | refused own refused => exact ⟨rfl, rfl⟩
      | dropped permitted silent => exact absurd permitted hrefused
      | clashing permitted loud clash => exact absurd permitted hrefused
      | written permitted loud free => exact absurd permitted hrefused

/-- Attempts that are settled end in the same way when they are made again, and leave the
edges as they are. -/
theorem edges_of_settled (h : Made s plan t outcomes' t') (ho : o.IsKeyed)
    (hsilent : s.outage.silentEdges = false)
    (hready : ∀ a ∈ attemptsOf plan, a.IsReady o)
    (hedges : IsRegister Edge.toRecordBase t.graph.edges)
    (hsettled : List.Forall₂ (fun p q => SettledIn t.graph.edges p.record q.record) plan outcomes) :
    t'.graph.edges = t.graph.edges ∧
      List.Forall₂ (fun q q' => q'.record.isOk = q.record.isOk) outcomes outcomes' := by
  induction h generalizing outcomes with
  | nil =>
    cases hsettled
    exact ⟨rfl, .nil⟩
  | @cons p plan outcome' outcomes' t t₁ t' first rest ih =>
    rw [attemptsOf_cons] at hready
    cases hsettled with
    | @cons _ q _ outcomes hfirst hrest =>
      obtain ⟨hsame, hok⟩ := first.again ho hsilent
        (fun a ha => hready a (by simp [ha, Except.toOption])) hedges hfirst
      rw [← hsame] at hrest hedges
      obtain ⟨hsame', hoks⟩ := ih (fun a ha => hready a (by simp [ha])) hedges hrest
      exact ⟨hsame'.trans hsame, .cons hok hoks⟩

/-! ## Silent writes -/

/-- Where writes are silent an attempt changes nothing, and fails. -/
theorem Attempted.of_silent (h : Attempted s x t outcome t')
    (hsilent : s.outage.silentEdges = true) : t'.graph = t.graph ∧ outcome.isOk = false := by
  cases h
  case written => simp_all
  all_goals exact ⟨rfl, rfl⟩

theorem Made.graph_of_silent (h : Made s plan t outcomes t')
    (hsilent : s.outage.silentEdges = true) : t'.graph = t.graph :=
  h.keeps (I := fun t' => t'.graph = t.graph) rfl
    fun _ _ _ _ _ hattempted heq => (hattempted.of_silent hsilent).1.trans heq

theorem Made.isOk_of_silent {u u' : Transaction} (h : Made s plan t outcomes t')
    (h' : Made s plan u outcomes' u') (hsilent : s.outage.silentEdges = true) :
    List.Forall₂ (fun q q' => q'.record.isOk = q.record.isOk) outcomes outcomes' := by
  induction h generalizing outcomes' u with
  | nil =>
    cases h'
    exact .nil
  | cons first rest ih =>
    cases h' with
    | cons first' rest' =>
      refine .cons ?_ (ih rest')
      exact (first'.of_silent hsilent).2.trans (first.of_silent hsilent).2.symm

end

/-- Outcomes that are alike are as many edges and as many failures. -/
theorem length_of_isOk_eq
    (h : List.Forall₂ (fun q q' => q'.record.isOk = q.record.isOk) outcomes outcomes') :
    (writtenEdges outcomes').length = (writtenEdges outcomes).length ∧
      (failedEdges outcomes').length = (failedEdges outcomes).length := by
  induction h with
  | nil => exact ⟨rfl, rfl⟩
  | @cons q q' outcomes outcomes' hok rest ih =>
    obtain ⟨hwritten, hfailed⟩ := ih
    simp only [writtenEdges, failedEdges] at hwritten hfailed ⊢
    cases hq : q.record <;> cases hq' : q'.record <;> rw [hq, hq'] at hok <;>
      simp_all [Except.toOption, Except.isOk, Except.toBool]

end Ingest

end TypedGraph
