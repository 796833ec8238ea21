import TypedGraph.Proofs.Outages
import TypedGraph.Proofs.Writing

/-!
# Which connections are permitted

The check before an edge is written passes exactly if the connection is permitted: the
nodes are of the metatypes of the pair and live, and every live edge of the pair that
obstructs the connection is the one to be replaced (`Connection.answers_check`).
-/
namespace TypedGraph

/-- Whether an edge of a pair obstructs another one between two nodes: it joins the same
nodes, or the cardinality of the pair admits one edge only at the node they share. -/
def RelationshipPair.Obstructs (p : RelationshipPair) (originId destinationId : String)
    (x : Edge) : Prop :=
  x.origin.nodeId = some originId ∧ x.destination.nodeId = some destinationId ∨
    p.cardinality.oneFromOrigin ∧ x.origin.nodeId = some originId ∨
    p.cardinality.oneIntoDestination ∧ x.destination.nodeId = some destinationId

namespace Connection

open Access

/-- Whether an edge may connect two nodes in a graph once the edge `replaced` is gone. -/
def Permits (g : Graph) (pair : RelationshipPair) (origin destination : Node)
    (replaced : Option String) : Prop :=
  ∃ originId destinationId, checkNodes pair origin destination = .ok (originId, destinationId) ∧
    ∀ x ∈ g.liveEdges, x.pairId = pair.id.getD "" → pair.Obstructs originId destinationId x →
      ∃ id, replaced = some id ∧ x.id = some id

theorem checkNodes_ok {pair : RelationshipPair} {origin destination : Node}
    {originId destinationId : String}
    (h : checkNodes pair origin destination = .ok (originId, destinationId)) :
    origin.id = some originId ∧ destination.id = some destinationId ∧
      origin.archived = false ∧ destination.archived = false := by
  unfold checkNodes at h
  split at h
  · contradiction
  split at h
  · contradiction
  split at h
  · contradiction
  · contradiction
  split at h
  · contradiction
  split at h
  · contradiction
  cases h
  simp_all

theorem checkNodes_metatypes {pair : RelationshipPair} {origin destination : Node}
    {ids : String × String} (h : checkNodes pair origin destination = .ok ids) :
    origin.metatypeId = pair.originMetatypeId ∧
      destination.metatypeId = pair.destinationMetatypeId := by
  unfold checkNodes at h
  split at h
  · contradiction
  split at h
  · contradiction
  simp_all

theorem checkNodes_ne_lookup {pair : RelationshipPair} {origin destination : Node}
    (cause : StorageError) : checkNodes pair origin destination ≠ .error (.lookup cause) := by
  unfold checkNodes
  split
  · simp
  split
  · simp
  split
  · simp
  · simp
  split
  · simp
  split <;> simp

variable {replaced : Option String}

/-- Whether every edge of a list is the one to be replaced. -/
def AllReplaced (replaced : Option String) (edges : List Edge) : Prop :=
  ∀ x ∈ edges, ∃ id, replaced = some id ∧ x.id = some id

theorem firstOther?_eq_none {edges : List Edge} :
    firstOther? replaced edges = none ↔ AllReplaced replaced edges := by
  cases replaced <;> simp [firstOther?, AllReplaced]

/-- A connection is permitted if the lookups find no edge but the one to be replaced. -/
theorem permits_iff {g : Graph} {pair : RelationshipPair} {origin destination : Node}
    {originId destinationId : String}
    (h : checkNodes pair origin destination = .ok (originId, destinationId)) :
    Permits g pair origin destination replaced ↔
      AllReplaced replaced (g.edgesBetween (pair.id.getD "") originId destinationId) ∧
        (pair.cardinality.oneFromOrigin →
          AllReplaced replaced (g.edgesFrom (pair.id.getD "") originId)) ∧
        (pair.cardinality.oneIntoDestination →
          AllReplaced replaced (g.edgesInto (pair.id.getD "") destinationId)) := by
  simp only [AllReplaced, Graph.edgesBetween, Graph.edgesFrom, Graph.edgesInto, List.mem_filter,
    Bool.and_eq_true, beq_iff_eq]
  constructor
  · rintro ⟨o, d, hids, hall⟩
    rw [h] at hids
    cases hids
    refine ⟨fun x hx => ?_, fun hc x hx => ?_, fun hc x hx => ?_⟩
    · exact hall x hx.1 hx.2.1.1 (.inl ⟨hx.2.1.2, hx.2.2⟩)
    · exact hall x hx.1 hx.2.1 (.inr (.inl ⟨hc, hx.2.2⟩))
    · exact hall x hx.1 hx.2.1 (.inr (.inr ⟨hc, hx.2.2⟩))
  · rintro ⟨hbetween, hfrom, hinto⟩
    refine ⟨originId, destinationId, h, fun x hx hpair hobstructs => ?_⟩
    rcases hobstructs with ⟨ho, hd⟩ | ⟨hc, ho⟩ | ⟨hc, hd⟩
    · exact hbetween x ⟨hx, ⟨hpair, ho⟩, hd⟩
    · exact hfrom hc x ⟨hx, hpair, ho⟩
    · exact hinto hc x ⟨hx, hpair, hd⟩

section Check

variable {s : IngestSetting} {P : Transaction → Prop}
  {edges : Access Transaction StorageError (List Edge)} {found : List Edge}
  {refusal : Edge → ConnectionError}

/-- A refusal stands for an edge that is not the one to be replaced. -/
theorem answers_refuseOther
    (hedges : Answers P s.IsOut StorageError.Tells edges (fun r => r = .ok found))
    (hrefusal : ∀ x cause, refusal x ≠ .lookup cause) :
    Answers P s.IsOut ConnectionError.Tells (refuseOther replaced edges refusal) fun r =>
      (r = .ok () ∧ AllReplaced replaced found) ∨
        ∃ cause, r = .error cause ∧ (∀ c, cause ≠ .lookup c) ∧ ¬ AllReplaced replaced found := by
  refine hedges.outcome_bind (fun r hr => ?_) fun m e _ he => ?_
  · subst hr
    simp only [← firstOther?_eq_none]
    cases h : firstOther? replaced found with
    | none => exact .pure (.inl ⟨rfl, rfl⟩)
    | some x => exact .throw (.inr ⟨_, rfl, hrefusal x, by simp⟩)
  · obtain ⟨hm, rfl⟩ := he
    exact ⟨_, rfl, hm, rfl⟩

/-- A refusal that depends on the pair, with what comes after it. -/
theorem answers_refuseOther_if {b : Bool} {k : Unit → Access Transaction ConnectionError Unit}
    {Q : Except ConnectionError Unit → Prop}
    (hedges : Answers P s.IsOut StorageError.Tells edges (fun r => r = .ok found))
    (hrefusal : ∀ x cause, refusal x ≠ .lookup cause)
    (hk : (b → AllReplaced replaced found) → Answers P s.IsOut ConnectionError.Tells (k ()) Q)
    (he : ∀ cause, (∀ c, cause ≠ .lookup c) → ¬ (b → AllReplaced replaced found) →
      Q (.error cause)) :
    Answers P s.IsOut ConnectionError.Tells
      (if b = true then refuseOther replaced edges refusal >>= k else k ()) Q := by
  cases b with
  | false => exact hk (by simp)
  | true =>
    refine (answers_refuseOther hedges hrefusal).bind (fun _ hr => ?_) fun cause hr => ?_
    · rcases hr with ⟨-, hall⟩ | ⟨cause, hr, -⟩
      · exact hk fun _ => hall
      · contradiction
    · rcases hr with ⟨hr, -⟩ | ⟨cause, hr, hcause, hall⟩
      · contradiction
      · cases hr
        exact he cause hcause fun h => hall (h rfl)

theorem answers_check (g : Graph) (pair : RelationshipPair) (origin destination : Node)
    (replaced : Option String) :
    Answers (fun t => t.graph = g) s.IsOut ConnectionError.Tells
      (check s.outage pair origin destination replaced) fun r =>
        (r = .ok () ∧ Permits g pair origin destination replaced) ∨
          ∃ cause, r = .error cause ∧ (∀ c, cause ≠ .lookup c) ∧
            ¬ Permits g pair origin destination replaced := by
  have hread {m : Method} (hm : m.isOntology = false) (f : Graph → List Edge) :
      Answers (fun t => t.graph = g) s.IsOut StorageError.Tells (Transaction.read s.outage m f)
        (fun r => r = .ok (f g)) :=
    Transaction.answers_read hm (fun _ h => h) fun t ht => by rw [ht]
  cases hids : checkNodes pair origin destination with
  | error cause =>
    refine Answers.bind (R := fun r => r = .error cause) (.ofResult (by rw [hids]; rfl))
      (fun _ h => by contradiction) fun e he => .inr ⟨e, rfl, ?_, ?_⟩
    · cases he
      intro c hc
      exact checkNodes_ne_lookup c (hc ▸ hids)
    · rintro ⟨o, d, h, -⟩
      rw [hids] at h
      contradiction
  | ok ids =>
    obtain ⟨originId, destinationId⟩ := ids
    rw [permits_iff hids]
    refine Answers.bind (R := fun r => r = .ok (originId, destinationId))
      (.ofResult (by rw [hids]; rfl)) (fun ids h => ?_) fun e he => by contradiction
    cases h
    refine (answers_refuseOther (hread (m := .edgesBetween) rfl _) (by simp)).bind
      (fun _ hr => ?_) fun cause hr => ?_
    · rcases hr with ⟨-, hbetween⟩ | ⟨_, hr, -⟩
      · refine answers_refuseOther_if (hread (m := .edgesFromOrigin) rfl _) (by simp)
          (fun hfrom => ?_) fun cause hcause hfrom => ?_
        · split
          · rename_i hc
            refine (answers_refuseOther (hread (m := .edgesIntoDestination) rfl _) (by simp)).mono
              fun r hr => ?_
            rcases hr with ⟨rfl, hinto⟩ | ⟨cause, rfl, hcause, hinto⟩
            · exact .inl ⟨rfl, hbetween, hfrom, fun _ => hinto⟩
            · exact .inr ⟨cause, rfl, hcause, fun h => hinto (h.2.2 hc)⟩
          · rename_i hc
            exact .pure (.inl ⟨rfl, hbetween, hfrom, fun h => absurd h hc⟩)
        · exact .inr ⟨cause, rfl, hcause, fun h => hfrom h.2.1⟩
      · contradiction
    · rcases hr with ⟨hr, -⟩ | ⟨cause, hr, hcause, hbetween⟩
      · contradiction
      · cases hr
        exact .inr ⟨cause, rfl, hcause, fun h => hbetween h.1⟩

end Check

end Connection

end TypedGraph
