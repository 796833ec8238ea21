import TypedGraph.Graph.Counting
import TypedGraph.Pattern.Engine
import TypedGraph.Proofs.Changes
import TypedGraph.Proofs.EdgesTwice

/-!
# The pairs of stored edges

An edge takes the place of the one that has its composite identity in its data source, and
the identity does not tell of the pair. So an ingest may turn an edge of one pair into one
of another (`GraphStore.not_keepsPairs`), but only by an edge that it reports and that has
the same identity: all other edges stay as they are (`GraphStore.edges_by_identity`).
-/
namespace TypedGraph

open Transaction

/-- Whether two edges have the same composite identity in the same data source. -/
def Edge.SharesIdentity (x y : Edge) : Prop :=
  ∃ compositeId dataSourceId,
    x.hasIdentity compositeId dataSourceId ∧ y.hasIdentity compositeId dataSourceId

theorem Edge.SharesIdentity.trans {x y z : Edge} (hxy : x.SharesIdentity y)
    (hyz : y.SharesIdentity z) : x.SharesIdentity z := by
  obtain ⟨c, d, hx, hy⟩ := hxy
  obtain ⟨c', d', hy', hz⟩ := hyz
  obtain ⟨hc, hd⟩ := RecordBase.hasIdentity_iff.1 hy
  obtain ⟨hc', hd'⟩ := RecordBase.hasIdentity_iff.1 hy'
  cases hc.symm.trans hc'
  cases hd.symm.trans hd'
  exact ⟨c, d, hx, hz⟩

section

variable [Supply]

/-- Whether an id is a key of a table although it is still to be drawn. -/
def Transaction.IsAnticipated {α : Type} (t : Table α) (drawn : Drawn) (id : String) : Prop :=
  (t.get? id).isSome ∧ ∃ n, drawn.ids < n ∧ id = Supply.drawnId n

theorem Transaction.IsAnticipated.mono {α : Type} {t : Table α} {drawn drawn' : Drawn}
    {id : String} (h : IsAnticipated t drawn' id) (hdrawn : drawn.ids ≤ drawn'.ids) :
    IsAnticipated t drawn id := by
  obtain ⟨hid, n, hn, heq⟩ := h
  exact ⟨hid, n, by omega, heq⟩

/-- What takes the place of an edge that is stored under an id: nothing, or one of the edges
that are written, with the same identity or under an id that was drawn for it. -/
def Edge.IsFollowedBy (edges : Table Edge) (drawn : Drawn) (id : String) (x : Edge)
    (written : List Edge) (y : Edge) : Prop :=
  y = x ∨ y ∈ written ∧ (x.SharesIdentity y ∨ IsAnticipated edges drawn id)

theorem Edge.IsFollowedBy.imp {edges edges' : Table Edge} {drawn drawn' : Drawn} {id : String}
    {x y : Edge} {written : List Edge} (h : x.IsFollowedBy edges' drawn' id written y)
    (hid : IsAnticipated edges' drawn' id → IsAnticipated edges drawn id) :
    x.IsFollowedBy edges drawn id written y := by
  rcases h with rfl | ⟨hmem, hshares | hanticipated⟩
  · exact .inl rfl
  · exact .inr ⟨hmem, .inl hshares⟩
  · exact .inr ⟨hmem, .inr (hid hanticipated)⟩

end

namespace Ingest

variable {s : IngestSetting} {x : Except RecordError Attempt} {outcome : Except RecordError Edge}
  {plan : List (Pending (Except RecordError Attempt))}
  {outcomes : List (Pending (Except RecordError Edge))} {t t' : Transaction}
  {id : String} {y z : Edge}

/-- Whether the edge of an attempt has no id yet. -/
def IsUnnumbered (x : Except RecordError Attempt) : Prop := ∀ a, x = .ok a → a.joined.id = none

variable [Supply]

/-- An edge is stored under the id of an edge with its identity, or under one that is drawn. -/
theorem Attempted.stored (h : Attempted s x t (.ok y) t') (hx : IsUnnumbered x)
    (ht : t.graph.IsSound) :
    ∃ id, y.id = some id ∧ t'.graph.edges = t.graph.edges.insert id y ∧
      ((∃ old, t.graph.edges.get? id = some old ∧ old.SharesIdentity y ∧ t'.drawn = t.drawn) ∨
        id = Supply.drawnId (t.drawn.ids + 1) ∧ t'.drawn.ids = t.drawn.ids + 1) := by
  cases h with
  | @written a _ permitted loud free =>
    have hid := hx a rfl
    rcases ht.edges.stamped_cases hid t.drawn with ⟨id, old, hold, hget, heq⟩ | ⟨-, heq⟩
    · have hstamp : t.edgeStamp a.joined = _ := heq
      have hidentity : ∃ c d, old.hasIdentity c d ∧ a.joined.hasIdentity c d :=
        IsRegister.identity_of_replaced? hid hold
      refine ⟨id, by simp [storedEdge, hstamp], ?_,
        .inl ⟨old, hget, ?_, by simp [withEdge, hstamp]⟩⟩
      · simp [withEdge, Graph.insertEdge, storedEdge, hstamp]
      · obtain ⟨c, d, hc, hd⟩ := hidentity
        have hsame : (t.storedEdge a.joined).hasIdentity c d = a.joined.hasIdentity c d :=
          RecordBase.hasIdentity_congr (by simp [storedEdge, hstamp])
            (by simp [storedEdge, hstamp]) c d
        exact ⟨c, d, hc, hsame ▸ hd⟩
    · have hstamp : t.edgeStamp a.joined = _ := heq
      refine ⟨_, by simp [storedEdge, hstamp], ?_, .inr ⟨rfl, by simp [withEdge, hstamp]⟩⟩
      simp [withEdge, Graph.insertEdge, storedEdge, hstamp]

/-- An attempt leaves an edge as it is, or writes one that takes its place. -/
theorem Attempted.follows (h : Attempted s x t outcome t') (hx : IsUnnumbered x)
    (ht : t.graph.IsSound) (hz : t.graph.edges.get? id = some z) :
    ∃ y, t'.graph.edges.get? id = some y ∧
      z.IsFollowedBy t.graph.edges t.drawn id outcome.toOption.toList y := by
  cases outcome with
  | error e =>
    rw [h.edges_eq]
    exact ⟨z, hz, .inl rfl⟩
  | ok y =>
    obtain ⟨key, -, hedges, hkey⟩ := h.stored hx ht
    rw [hedges]
    by_cases heq : id = key
    · subst heq
      refine ⟨y, by rw [Table.get?_insert, if_pos rfl], .inr ⟨by simp [Except.toOption], ?_⟩⟩
      rcases hkey with ⟨old, hold, hshares, -⟩ | ⟨hdrawn, -⟩
      · cases hz.symm.trans hold
        exact .inl hshares
      · exact .inr ⟨by simp [hz], t.drawn.ids + 1, by omega, hdrawn⟩
    · exact ⟨z, by rw [Table.get?_insert, if_neg heq, hz], .inl rfl⟩

/-- No id is drawn beforehand. -/
theorem Attempted.isAnticipated (h : Attempted s x t outcome t') (hx : IsUnnumbered x)
    (ht : t.graph.IsSound) (hid : IsAnticipated t'.graph.edges t'.drawn id) :
    IsAnticipated t.graph.edges t.drawn id := by
  have hdrawn := h.drawn_le
  cases outcome with
  | error e =>
    rw [h.edges_eq] at hid
    exact hid.mono hdrawn
  | ok y =>
    obtain ⟨hkept, n, hn, heq⟩ := hid
    obtain ⟨key, -, hedges, hkey⟩ := h.stored hx ht
    refine ⟨?_, n, by omega, heq⟩
    rw [hedges, Table.get?_insert] at hkept
    split at hkept
    · rename_i hsame
      rcases hkey with ⟨old, hold, -⟩ | ⟨hkey, hdrawn'⟩
      · rw [hsame, hold]
        rfl
      · -- the key was drawn for the edge just now, so that it is not drawn again
        have := Supply.drawnId_inj (heq.symm.trans (hsame.trans hkey))
        omega
    · exact hkept

/-- Attempts leave an edge as it is, or write one that takes its place. -/
theorem Made.follows (h : Made s plan t outcomes t') (hplan : ∀ p ∈ plan, IsUnnumbered p.record)
    (ht : t.graph.IsSound) (hz : t.graph.edges.get? id = some z) :
    ∃ y, t'.graph.edges.get? id = some y ∧
      z.IsFollowedBy t.graph.edges t.drawn id (writtenEdges outcomes) y := by
  induction h generalizing z with
  | nil => exact ⟨z, hz, .inl rfl⟩
  | @cons p plan outcome outcomes t t₁ t' first rest ih =>
    have hp := hplan p (by simp)
    rw [writtenEdges_cons]
    obtain ⟨y, hy, hfirst⟩ := first.follows hp ht hz
    obtain ⟨y', hy', hrest⟩ := ih (fun p hp => hplan p (by simp [hp])) (first.isSound ht) hy
    refine ⟨y', hy', ?_⟩
    rcases hrest with rfl | ⟨hmem', hshares'⟩
    · exact hfirst.imp_right fun ⟨hmem, hshares⟩ => ⟨List.mem_append_left _ hmem, hshares⟩
    refine .inr ⟨List.mem_append_right _ hmem', ?_⟩
    rcases hshares' with hshares' | hid
    · rcases hfirst with rfl | ⟨-, hshares | hid⟩
      · exact .inl hshares'
      · exact .inl (hshares.trans hshares')
      · exact .inr hid
    · exact .inr (first.isAnticipated hp ht hid)

/-- An edge that is written is stored in the end, or one that is written after it takes its
place. -/
theorem Made.follows_written (h : Made s plan t outcomes t')
    (hplan : ∀ p ∈ plan, IsUnnumbered p.record) (ht : t.graph.IsSound) {before later : List Edge}
    (hz : writtenEdges outcomes = before ++ z :: later) :
    ∃ id y, z.id = some id ∧ t'.graph.edges.get? id = some y ∧
      z.IsFollowedBy t.graph.edges t.drawn id later y := by
  induction h generalizing before with
  | nil => simp [writtenEdges] at hz
  | @cons p plan outcome outcomes t t₁ t' first rest ih =>
    have hp := hplan p (by simp)
    have hrest : ∀ p ∈ plan, IsUnnumbered p.record := fun p hp => hplan p (by simp [hp])
    have hsound := first.isSound ht
    have hback (id : String) : IsAnticipated t₁.graph.edges t₁.drawn id →
        IsAnticipated t.graph.edges t.drawn id := first.isAnticipated hp ht
    rw [writtenEdges_cons] at hz
    cases outcome with
    | error e =>
      obtain ⟨id, y, hid, hy, hfollows⟩ := ih hrest hsound hz
      exact ⟨id, y, hid, hy, hfollows.imp (hback id)⟩
    | ok x =>
      cases before with
      | cons x' before =>
        have htail := (List.cons.inj hz).2
        obtain ⟨id, y, hid, hy, hfollows⟩ := ih hrest hsound htail
        exact ⟨id, y, hid, hy, hfollows.imp (hback id)⟩
      | nil =>
        cases hz
        obtain ⟨id, hid, hedges, -⟩ := first.stored hp ht
        have hstored : t₁.graph.edges.get? id = some z := by
          rw [hedges, Table.get?_insert, if_pos rfl]
        obtain ⟨y, hy, hfollows⟩ := rest.follows hrest hsound hstored
        exact ⟨id, y, hid, hy, hfollows.imp (hback id)⟩

variable {mapping : TypeMapping} {staged : StagedData} {prepared : Prepared}

variable [PatternEngine]

/-- The edges of an ingest have no ids before they are written. -/
theorem Ingested.isUnnumbered (h : Ingested s mapping staged t prepared plan outcomes t')
    {p : Pending (Except RecordError Attempt)} (hp : p ∈ plan) : IsUnnumbered p.record := by
  intro a ha
  obtain ⟨produced, -, hsound, hfrom⟩ := h.produced
  obtain ⟨q, hq, hfor⟩ := h.planned.attempts p hp a ha
  rw [hfrom.edges] at hq
  exact hfor.id.trans (hsound.edges q hq).id

omit [PatternEngine] in
/-- Ids that are anticipated when the nodes are written were so before. -/
theorem isAnticipated_withNodes {nodes : List Node}
    (h : IsAnticipated (t.withNodes nodes).graph.edges (t.withNodes nodes).drawn id) :
    IsAnticipated t.graph.edges t.drawn id := by
  rw [withNodes_edges] at h
  exact h.mono (ids_withNodes nodes t)

end Ingest

/-! ## Pairs that follow one another -/

namespace Sample

/-- Stops may be followed by others on a second pair, too. -/
def twinSetting : IngestSetting :=
  { setting with
    ontology := { store := .ofSnapshot "c" { pairs := [pair, { pair with id := some "twin" }] } } }

/-- Every payload is an edge of the second pair. -/
def twinMapping : TypeMapping :=
  { transformations :=
      [{ Transformation.toEdge "c" "twin" "name" "next" with uniqueKey := some "name" }] }

end Sample

namespace GraphStore

open Ingest

/-- An ingest that succeeds keeps every edge, unless an edge that it reports takes its place:
one that has the same identity, or that was given an id which was in use already. It keeps
the edges that it reports, too, unless ones that it reports later take their place. -/
theorem edges_by_identity [Supply] [PatternEngine] {steps : List Step} {s : IngestSetting}
    {mapping : TypeMapping} {staged : StagedData} {isCancelled : Bool} {report : IngestReport}
    {g' : GraphStore}
    (h : (GraphStore.after {} steps).ingest s mapping staged isCancelled = (.ok report, g')) :
    (∀ id x, (GraphStore.after {} steps).committed.edges.get? id = some x →
      ∃ y, g'.committed.edges.get? id = some y ∧
        x.IsFollowedBy (GraphStore.after {} steps).committed.edges (GraphStore.after {} steps).drawn
          id report.edges y) ∧
      ∀ before x later, report.edges = before ++ x :: later →
        ∃ id y, x.id = some id ∧ g'.committed.edges.get? id = some y ∧
          x.IsFollowedBy (GraphStore.after {} steps).committed.edges
            (GraphStore.after {} steps).drawn id later y := by
  have hsound := (isSound_after steps).1
  generalize GraphStore.after {} steps = g at *
  obtain ⟨t, hrun, -, hcommitted⟩ := ingest_ok h
  obtain ⟨prepared, plan, outcomes, rfl, hingested⟩ := ingested_of_run hrun
  rw [hcommitted]
  have hmade := hingested.made
  have hplan : ∀ p ∈ plan, IsUnnumbered p.record := fun _ => hingested.isUnnumbered
  have hback (id : String) : IsAnticipated (g.opened.content.withNodes prepared.nodes).graph.edges
      (g.opened.content.withNodes prepared.nodes).drawn id →
        IsAnticipated g.committed.edges g.drawn id := isAnticipated_withNodes
  constructor
  · intro id x hx
    obtain ⟨y, hy, hfollows⟩ := hmade.follows hplan (isSound_withNodes hsound prepared.nodes)
      (by rwa [withNodes_edges])
    exact ⟨y, hy, hfollows.imp (hback id)⟩
  · intro before x later hx
    obtain ⟨id, y, hid, hy, hfollows⟩ :=
      hmade.follows_written hplan (isSound_withNodes hsound prepared.nodes) hx
    exact ⟨id, y, hid, hy, hfollows.imp (hback id)⟩

/-- The edge of the stop that follows itself stays what it is when another stop is ingested,
whose edge is refused. -/
theorem edges_by_identity_sample :
    let ended := (GraphStore.after {} Sample.steps).ingest Sample.setting Sample.mapping
      (Sample.stop "a" "b") false
    ∃ x, (GraphStore.after {} Sample.steps).committed.edges.get? (countedId 2) = some x ∧
      ended.2.committed.edges.get? (countedId 2) = some x := by
  intro ended
  obtain ⟨report, hended⟩ := ingest_of_isOk ended (by decide +kernel)
  have hreport : ended.1.toOption.map (·.edges) = some [] := by decide +kernel
  rw [show ended.1 = .ok report by rw [hended]] at hreport
  have hedges : report.edges = [] := Option.some.inj hreport
  have hstored :
      ((GraphStore.after {} Sample.steps).committed.edges.get? (countedId 2)).isSome := by
    decide +kernel
  obtain ⟨x, hx⟩ := Option.isSome_iff_exists.1 hstored
  obtain ⟨y, hy, rfl | ⟨hmem, -⟩⟩ := (edges_by_identity hended).1 _ x hx
  · exact ⟨y, hx, hy⟩
  · rw [hedges] at hmem
    exact absurd hmem List.not_mem_nil

/-- Whether the edges that are stored before an ingest, and those that it reports, are edges
of their pairs in the end. -/
def KeepsPairs (g g' : GraphStore) (report : IngestReport) : Prop :=
  (∀ id x, g.committed.edges.get? id = some x →
    ∃ y, g'.committed.edges.get? id = some y ∧ y.pairId = x.pairId) ∧
  ∀ x ∈ report.edges, ∃ id y, x.id = some id ∧ g'.committed.edges.get? id = some y ∧
    y.pairId = x.pairId

/-- An ingest may turn an edge of one pair into one of another. -/
theorem not_keepsPairs : ¬ ∀ steps s mapping staged isCancelled report g',
    (GraphStore.after {} steps).ingest s mapping staged isCancelled = (.ok report, g') →
      KeepsPairs (GraphStore.after {} steps) g' report := by
  intro h
  obtain ⟨report, hended⟩ := ingest_of_isOk ((GraphStore.after {} Sample.steps).ingest
    Sample.twinSetting Sample.twinMapping (Sample.stop "b" "b") false) (by decide +kernel)
  have hbefore : ((GraphStore.after {} Sample.steps).committed.edges.get? (countedId 2)).map
      Edge.pairId = some "next" := by
    decide +kernel
  have hafter : (((GraphStore.after {} Sample.steps).ingest Sample.twinSetting Sample.twinMapping
      (Sample.stop "b" "b") false).2.committed.edges.get? (countedId 2)).map Edge.pairId =
        some "twin" := by
    decide +kernel
  obtain ⟨x, hx, hnext⟩ := Option.map_eq_some_iff.1 hbefore
  obtain ⟨y, hy, htwin⟩ := Option.map_eq_some_iff.1 hafter
  obtain ⟨z, hz, hsame⟩ := (h _ _ _ _ _ _ _ hended).1 _ x hx
  cases hy.symm.trans hz
  rw [hnext, htwin] at hsame
  exact absurd hsame (by decide)

end GraphStore

end TypedGraph
