import TypedGraph.Graph.Counting
import TypedGraph.Pattern.Engine
import TypedGraph.Proofs.Histories
import TypedGraph.Proofs.Replies

/-!
# When it does not matter that answers are kept

An ingest that keeps answers ends as the one that asks the ontology afresh for every record if
the records of one id ask alike (`GraphStore.ingestBy_afresh`). Where all methods are served
it is only then that both ingests end alike: they report the same number of records as missing
under an id, and one that keeps answers reports all of them or none
(`GraphStore.hidesMemos_iff_asksAlike`).
-/
namespace TypedGraph

open Access

/-! ## One record under an id -/

theorem filter_eq_of_isSome {α : Type} {found : Option α} {p q : α → Bool}
    (h : (found.filter p).isSome = (found.filter q).isSome) : found.filter p = found.filter q := by
  cases found with
  | none => rfl
  | some a => cases hp : p a <;> cases hq : q a <;> simp_all [Option.filter]

namespace OntologyStore

variable {o : OntologyStore} {c c' id : String}

/-- Two containers that both find a metatype under an id find the same one. -/
theorem metatypeKeys?_eq_of_isSome
    (h : (o.metatypeKeys? c id).isSome = (o.metatypeKeys? c' id).isSome) :
    o.metatypeKeys? c id = o.metatypeKeys? c' id := by
  rw [metatypeKeys?, metatypeKeys?, Option.isSome_map, Option.isSome_map] at h
  exact congrArg (Option.map _) (filter_eq_of_isSome h)

theorem relationshipKeys?_eq_of_isSome
    (h : (o.relationshipKeys? c id).isSome = (o.relationshipKeys? c' id).isSome) :
    o.relationshipKeys? c id = o.relationshipKeys? c' id := by
  rw [relationshipKeys?, relationshipKeys?, Option.isSome_map, Option.isSome_map] at h
  exact congrArg (Option.map _) (filter_eq_of_isSome h)

theorem pair?_eq_of_isSome (h : (o.pair? c id).isSome = (o.pair? c' id).isSome) :
    o.pair? c id = o.pair? c' id :=
  filter_eq_of_isSome h

end OntologyStore

namespace Ingest

variable {s : IngestSetting} {produced : Produced}

/-! ## Records that are missing as often -/

section MissedBy

variable (s : IngestSetting) (asking : Asking) (produced : Produced) (id : String)

theorem failsWith_ok {α : Type} (a : α) (cause : OntologyError) :
    failsWith (.ontology cause) (Except.ok a : Except RecordError α) = false := rfl

variable [PatternEngine]

/-- Only nodes miss metatypes. -/
theorem missedBy_metatype : missedBy s asking produced (.notFound .metatype id) =
    asking.missed (.missing .metatype id)
      (questionsFor .metatype readSchema (nodesAsked s produced.nodes)) := by
  unfold missedBy edgesMissed
  dsimp only
  have hkind : OntologyRecord.relationship ≠ .metatype := by decide
  rw [Asking.missed_of_ne failsWith_ok (by decide), Asking.missed_of_ne failsWith_readSchema hkind]
  rfl

/-- Only the ids of pairs are missed as such. -/
theorem missedBy_relationshipPair :
    missedBy s asking produced (.notFound .relationshipPair id) =
      asking.missed (.missing .relationshipPair id)
        (questionsFor .relationshipPair .ok (pairsAsked s produced.edges)) := by
  unfold missedBy edgesMissed
  dsimp only
  have hmetatype : OntologyRecord.metatype ≠ .relationshipPair := by decide
  have hrelationship : OntologyRecord.relationship ≠ .relationshipPair := by decide
  rw [Asking.missed_of_ne failsWith_readSchema hmetatype,
    Asking.missed_of_ne failsWith_readSchema hrelationship, Nat.zero_add, Nat.add_zero]

/-- If every edge is replied the pair of its own container, only the ids of their relationships
are missed as such. -/
theorem missedBy_relationship
    (hreplies : asking.replies (questionsFor .relationshipPair .ok
      (pairsAsked s produced.edges)) =
        (pairsAsked s produced.edges).map (answerFor .relationshipPair .ok)) :
    missedBy s asking produced (.notFound .relationship id) =
      asking.missed (.missing .relationship id)
        (questionsFor .relationship readSchema (ownKeysAsked s produced.edges)) := by
  unfold missedBy edgesMissed
  dsimp only
  have hmetatype : OntologyRecord.metatype ≠ .relationship := by decide
  rw [Asking.missed_of_ne failsWith_readSchema hmetatype,
    Asking.missed_of_ne failsWith_ok (by decide), hreplies, allKeysAsked_eq, Nat.zero_add,
    Nat.zero_add]

end MissedBy

variable {s : IngestSetting} {produced : Produced}

section

variable [PatternEngine]

/-- Whether an ingest that keeps answers finds out as often as one that asks afresh that the
ontology does not have a record that is needed. -/
def MissesAlike (s : IngestSetting) (produced : Produced) : Prop :=
  ∀ cause, missedBy s .afresh produced cause = missedBy s .once produced cause

theorem MissesAlike.nodes (h : MissesAlike s produced)
    (hvalidated : s.config.validateProperties = true) {p q : Pending Node}
    (hp : p ∈ produced.nodes) (hq : q ∈ produced.nodes) :
    s.ontology.store.AgreesOnNodes p.record q.record := by
  intro hid
  have hcount := h (.notFound .metatype p.record.metatypeId)
  rw [missedBy_metatype, missedBy_metatype, nodesAsked, if_pos hvalidated] at hcount
  have hsome := Asking.isSome_eq_of_missed failsWith_readSchema hcount
    (List.mem_map_of_mem hp) (List.mem_map_of_mem hq) rfl hid.symm
  dsimp only at hsome
  rw [← hid] at hsome ⊢
  exact OntologyStore.metatypeKeys?_eq_of_isSome hsome

theorem MissesAlike.pairs (h : MissesAlike s produced) {p q : Pending Edge}
    (hp : p ∈ produced.edges) (hq : q ∈ produced.edges)
    (hid : p.record.pairId = q.record.pairId) :
    s.ontology.store.pair? p.record.containerId p.record.pairId =
      s.ontology.store.pair? q.record.containerId q.record.pairId := by
  have hcount := h (.notFound .relationshipPair p.record.pairId)
  rw [missedBy_relationshipPair, missedBy_relationshipPair] at hcount
  have hsome := Asking.isSome_eq_of_missed failsWith_ok hcount
    (List.mem_map_of_mem hp) (List.mem_map_of_mem hq) rfl hid.symm
  dsimp only at hsome
  rw [← hid] at hsome ⊢
  exact OntologyStore.pair?_eq_of_isSome hsome

omit [PatternEngine] in
/-- An edge that has a pair asks for the keys of the relationship of this pair. -/
theorem mem_ownKeysAsked (hvalidated : s.config.validateProperties = true)
    {ps : List (Pending Edge)} {p : Pending Edge} (hp : p ∈ ps) {pair : RelationshipPair}
    (hpair : s.ontology.store.pair? p.record.containerId p.record.pairId = some pair) :
    (pair.relationshipId, s.ontology.store.relationshipKeys? p.record.containerId
      pair.relationshipId) ∈ ownKeysAsked s ps := by
  refine List.mem_flatMap.2 ⟨p, hp, ?_⟩
  simp [keysAsked, answerFor, hpair, hvalidated]

/-- The ids that are missed tell whether records ask alike. -/
theorem MissesAlike.isCoherent (h : MissesAlike s produced) :
    produced.IsCoherent s.ontology.store s.config.validateProperties where
  nodes hvalidated _ hp _ hq := h.nodes hvalidated hp hq
  edges p hp q hq := by
    refine ⟨h.pairs hp hq, fun hvalidated pair pair' hpair hpair' hid => ?_⟩
    have hagree : ∀ a ∈ pairsAsked s produced.edges, ∀ b ∈ pairsAsked s produced.edges,
        a.1 = b.1 → a.2 = b.2 := by
      intro a ha b hb hab
      obtain ⟨x, hx, rfl⟩ := List.mem_map.1 ha
      obtain ⟨y, hy, rfl⟩ := List.mem_map.1 hb
      exact h.pairs hx hy hab
    have hcount := h (.notFound .relationship pair.relationshipId)
    rw [missedBy_relationship s .afresh produced _ (Asking.replies_afresh _),
      missedBy_relationship s .once produced _ (Asking.replies_of_agree hagree)] at hcount
    have hsome := Asking.isSome_eq_of_missed failsWith_readSchema hcount
      (mem_ownKeysAsked hvalidated hp hpair) (mem_ownKeysAsked hvalidated hq hpair') rfl hid.symm
    dsimp only at hsome
    rw [← hid] at hsome ⊢
    exact OntologyStore.relationshipKeys?_eq_of_isSome hsome

end

/-! ## Records of one container -/

variable {mapping : TypeMapping} {staged : StagedData} {c : String}

theorem belongsTo_producedFor (t : Transformation) (o : OntologyStore) (item : Item) :
    (t.producedFor o staged item).BelongsTo t.containerId := by
  have hfailure (f : RecordFailure) : Produced.BelongsTo t.containerId { failures := [f] } :=
    ⟨by simp, by simp⟩
  cases item with
  | malformed cause => exact hfailure _
  | unlisted e => exact hfailure _
  | branch target index =>
    unfold Transformation.producedFor
    dsimp only
    cases hrecord : t.generate o target staged index with
    | error e => exact hfailure _
    | ok record =>
      cases record with
      | node n =>
        have hcontainer : n.containerId = t.containerId :=
          Transformation.containerId_of_produce hrecord
        exact ⟨by simpa using hcontainer, by simp⟩
      | edge x =>
        have hcontainer : x.containerId = t.containerId :=
          Transformation.containerId_of_produce hrecord
        exact ⟨by simp, by simpa using hcontainer⟩

theorem belongsTo_produced (o : OntologyStore)
    (h : ∀ t ∈ mapping.liveTransformations, t.containerId = c) :
    (mapping.produced o staged).BelongsTo c := by
  have hparts : ∀ part ∈ mapping.parts o staged, part.BelongsTo c := by
    intro part hpart
    obtain ⟨⟨t, item⟩, hentry, rfl⟩ := List.mem_map.1 hpart
    obtain ⟨t', ht', hitem⟩ := List.mem_flatMap.1 hentry
    obtain ⟨_, -, heq⟩ := List.mem_map.1 hitem
    cases heq
    exact h t ht' ▸ belongsTo_producedFor t o item
  constructor
  · intro n hn
    obtain ⟨part, hpart, hn⟩ := List.mem_flatMap.1 hn
    exact (hparts part hpart).nodes n hn
  · intro x hx
    obtain ⟨part, hpart, hx⟩ := List.mem_flatMap.1 hx
    exact (hparts part hpart).edges x hx

/-- The records of a mapping for one container ask alike. -/
theorem asksAlike_of_containerId (h : ∀ t ∈ mapping.liveTransformations, t.containerId = c) :
    AsksAlike s mapping staged := by
  intro _
  have hproduced : (mapping.produced s.ontology.store staged).BelongsTo c := belongsTo_produced _ h
  refine ⟨fun _ p hp q hq hid => ?_, fun p hp q hq => ⟨fun hid => ?_, fun _ _ _ _ _ hid => ?_⟩⟩
  · rw [hproduced.nodes p hp, hproduced.nodes q hq, hid]
  · rw [hproduced.edges p hp, hproduced.edges q hq, hid]
  · rw [hproduced.edges p hp, hproduced.edges q hq, hid]

end Ingest

/-! ## Ingests with and without memos -/

namespace Sample

/-- The metatype of the stops of a container. -/
def stopType : Metatype := { id := some "stop", name := "stop" }

/-- There is one metatype, that of the stops of the container `c`. -/
def stopSetting : IngestSetting :=
  { ontology := { store := .ofSnapshot "c" { metatypes := [stopType] } }
    config := { requireActive := false, requireShape := false } }

/-- Every payload is a stop of the container `c`, and one of the container `e`. -/
def sharedMapping : TypeMapping :=
  { transformations := [.toNode "c" "stop", .toNode "e" "stop"] }

end Sample

namespace GraphStore

open Ingest

variable {s : IngestSetting} {mapping : TypeMapping} {staged : StagedData}

section

variable [Supply] [PatternEngine]

/-- Whether no ingest of a payload into any store can be told from the one that asks the
ontology afresh for every record, neither by its report nor by the graph that is committed. -/
def HidesMemos (s : IngestSetting) (mapping : TypeMapping) (staged : StagedData) : Prop :=
  ∀ (g : GraphStore) (isCancelled : Bool),
    let kept := g.ingest s mapping staged isCancelled
    let asked := ingestBy .afresh g s mapping staged isCancelled
    kept.1 = asked.1 ∧ kept.2.committed = asked.2.committed

/-- Where everything is served, a mapping that passes the checks is ingested into the empty
store. -/
theorem exists_report (hserved : ∀ m, ¬ s.IsOut m)
    (hcheck : checkMapping s.config mapping staged = .ok ()) :
    ∃ report, (ingest {} s mapping staged false).1 = .ok report ∧
      ∃ t, (run s mapping staged).run.run (opened {}) = (.ok report, t) := by
  rcases ingest_cases (g := {}) rfl s mapping staged with
    ⟨report, t, hrun, hingest⟩ | ⟨e, t, hrun, -⟩
  · exact ⟨report, by rw [hingest], t, hrun⟩
  · have hserves := (serves_run s mapping staged (opened {})).result hserved
    rw [hrun] at hserves
    rcases hserves with ⟨_, _, _, hok, -⟩ | ⟨e, -, hfailed | hunsound⟩
    · contradiction
    · rw [hcheck] at hfailed
      contradiction
    · exact absurd Graph.isSound_empty hunsound

theorem run_of_ingestBy {asking : Asking} {report : IngestReport}
    (h : (ingestBy asking {} s mapping staged false).1 = .ok report) :
    ∃ t, (runBy asking s mapping staged).run.run (opened {}) = (.ok report, t) := by
  unfold ingestBy at h
  rcases hrun : (runBy asking s mapping staged).run.run (opened {}) with ⟨e | report', t⟩
  · simp [hrun] at h
  · simp only [hrun] at h
    cases h
    exact ⟨t, rfl⟩

/-- If it cannot be told from reports that answers are kept, records are missed alike whether
they are or not. -/
theorem HidesMemos.missesAlike (h : HidesMemos s mapping staged) (hserved : ∀ m, ¬ s.IsOut m)
    (hcheck : checkMapping s.config mapping staged = .ok ()) :
    MissesAlike s (mapping.produced s.ontology.store staged) := by
  obtain ⟨report, hkept, t, hrun⟩ := exists_report hserved hcheck
  have hasked := (h {} false).1
  rw [hkept] at hasked
  obtain ⟨t', hrun'⟩ := run_of_ingestBy hasked.symm
  rw [← runBy_once] at hrun
  intro cause
  have hcount := returns_runBy_missed _ _ _ _ _ _ _ hrun cause
  have hcount' := returns_runBy_missed _ _ _ _ _ _ _ hrun' cause
  exact Nat.add_left_cancel (hcount'.symm.trans hcount)

/-- That answers are kept cannot be told from any ingest of a payload if the records with one id
ask alike. Where all methods are served, they do ask alike if it cannot be told. -/
theorem hidesMemos_iff_asksAlike (s : IngestSetting) (mapping : TypeMapping)
    (staged : StagedData) :
    (AsksAlike s mapping staged → HidesMemos s mapping staged) ∧
      ((∀ m, ¬ s.IsOut m) → HidesMemos s mapping staged → AsksAlike s mapping staged) := by
  constructor
  · intro h g isCancelled
    dsimp only
    rw [ingestBy_afresh h g isCancelled]
    exact ⟨rfl, rfl⟩
  · intro hserved h hcheck
    exact (h.missesAlike hserved hcheck).isCoherent

end

/-- The stop that follows itself and its edge belong to one container. -/
theorem hidesMemos_sample : HidesMemos Sample.stopSetting Sample.mapping (Sample.stop "b" "b") :=
  (hidesMemos_iff_asksAlike _ _ _).1 (asksAlike_of_containerId (c := "c") (by decide +kernel))

/-- It can be told that answers are kept if nodes of one metatype belong to two containers: the
second node is admitted with the keys that were found for the first, but there is no such
metatype in its own container. -/
theorem not_hidesMemos : ¬ ∀ s mapping staged, HidesMemos s mapping staged := by
  intro h
  have hsame := (h Sample.stopSetting Sample.sharedMapping (Sample.stop "a" "b") {} false).1
  exact absurd (congrArg (fun r => r.toOption.map (·.failures.length)) hsame) (by decide +kernel)

end GraphStore

end TypedGraph
