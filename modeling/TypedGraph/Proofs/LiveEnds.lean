import TypedGraph.Graph.Counting
import TypedGraph.Pattern.Engine
import TypedGraph.Proofs.WellFormed

/-!
# Live edges at archived nodes

A live edge is written between live nodes only, and archiving a node archives the edges
that end at it. A node can also be archived by a call that puts it, and this call does not
look at the edges. So a live edge may come to end at an archived node
(`GraphStore.not_liveEnds`), but it does so only by such a call: the ends of live edges
are live throughout a history if and only if every call that puts archived nodes spares
those at which live edges end (`GraphStore.liveEnds_iff`).
-/
namespace TypedGraph

open Access

namespace Graph

/-- Whether the ends of live edges are stored nodes that are live. -/
def LiveEnds (g : Graph) : Prop :=
  ∀ key x, g.edges.get? key = some x → x.archived = false →
    x.EndsIn g.nodes fun _ n => n.archived = false

/-- Whether no live node of a graph is archived in another one while a live edge ends at it. -/
def Spares (g g' : Graph) : Prop :=
  ∀ id n n', g.nodes.get? id = some n → n.archived = false →
    g'.nodes.get? id = some n' → n'.archived = true →
    ∀ key x, g'.edges.get? key = some x → x.archived = false → touches id x = false

/-- A sound graph whose edges end at stored nodes, at live ones if they are live. -/
structure IsLively (g : Graph) : Prop extends g.IsSound where
  ends : g.EndsAt fun x _ n => x.archived = false → n.archived = false

variable {g g' : Graph}

theorem isLively_empty : IsLively {} := ⟨isSound_empty, endsAt_empty⟩

theorem IsLively.liveEnds (h : g.IsLively) : g.LiveEnds := by
  intro key x hx hlive
  exact (h.ends key x hx).mono fun _ _ hn => hn hlive

theorem touches_iff {id : String} {x : Edge} :
    touches id x = true ↔ ∃ which, (x.side which).nodeId = some id := by
  constructor
  · intro h
    rcases Bool.or_eq_true_iff.1 h with h | h
    · exact ⟨.origin, beq_iff_eq.1 h⟩
    · exact ⟨.destination, beq_iff_eq.1 h⟩
  · rintro ⟨which, h⟩
    cases which <;> simp_all [touches, Edge.side]

/-- Where live edges end at live nodes, no node was archived at which one ends. -/
theorem LiveEnds.spares (h : g'.LiveEnds) : g.Spares g' := by
  intro id n n' _ _ hn' harchived key x hx hxlive
  by_cases htouches : touches id x = true
  · obtain ⟨which, hid⟩ := touches_iff.1 htouches
    obtain ⟨id', m, hid', hm, hmlive⟩ := h key x hx hxlive which
    cases hid'.symm.trans hid
    cases hm.symm.trans hn'
    rw [harchived] at hmlive
    contradiction
  · simpa using htouches

variable [Supply]

/-- Every write but that of an archived node keeps the ends of live edges live. -/
theorem keptByWrites_isLively : KeptByWrites (fun n => n.archived = false) IsLively where
  sound _ h := h.toIsSound
  putNode t n hn h := by
    refine ⟨Transaction.isSound_withNode h.toIsSound n, h.ends.withNode fun x _ _ => ?_⟩
    rw [← hn]
    exact Transaction.stamped_archived
  putEdge t x ids hjoined hfree h := by
    refine ⟨Transaction.isSound_withEdge h.toIsSound x, h.ends.withEdge ?_⟩
    have harchived : (t.storedEdge x).archived = x.archived := Transaction.stamped_archived
    rw [harchived]
    exact Transaction.endsIn_of_joinedNodes hjoined
  archiveNode g id g' hg h :=
    ⟨isSound_archiveNode? h.toIsSound hg, h.ends.archiveNode? (fun _ _ _ => by simp) hg⟩
  archiveEdge g id g' hg h :=
    ⟨isSound_archiveEdge? h.toIsSound hg, h.ends.archiveEdge? (fun _ _ _ => by simp) hg⟩

omit [Supply] in
/-- Live edges keep their live ends where only nodes are written that spare them. -/
theorem IsLively.of_spares (h : g.IsLively) (hg' : g'.IsSound) (hedges : g'.edges = g.edges)
    (hwithin : g.Within g') (hspares : g.Spares g') : g'.IsLively := by
  refine ⟨hg', fun key x hx which => ?_⟩
  obtain ⟨id, n, hid, hn, hlive⟩ := h.ends key x (hedges ▸ hx) which
  obtain ⟨n', hn'⟩ := hwithin.node hn
  refine ⟨id, n', hid, hn', fun hxlive => ?_⟩
  by_cases harchived : n'.archived = true
  · have huntouched := hspares id n n' hn (hlive hxlive) hn' harchived key x hx hxlive
    rw [touches_iff.2 ⟨which, hid⟩] at huntouched
    contradiction
  · simpa using harchived

end Graph

/-! ## Calls that put archived nodes -/

theorem Step.keeps_edges [Supply] [PatternEngine] (outage : Outage) (nodes : List Node)
    (edges : Table Edge) :
    (call outage (.putNodes nodes)).Keeps fun g => g.edges = edges := by
  have hwrite (t : Transaction) (ht : t.graph.edges = edges) :
      (t.withNodes nodes).graph.edges = edges := by
    rw [Transaction.withNodes_edges, ht]
  have hkeeps : Access.Keeps (fun g => g.edges = edges) (Transaction.putNodes outage nodes) :=
    Transaction.keeps_putNodes hwrite
  exact hkeeps.bind fun _ _ ht => ht

namespace GraphStore

variable {g : GraphStore}

variable [Supply] [PatternEngine]

/-- A step may change the ends of live edges only by putting nodes that are archived. -/
theorem isLively_step (h : g.All Graph.IsLively) (step : Step)
    (hspares : ∀ outage nodes, step = .call outage (.putNodes nodes) →
      (∃ n ∈ nodes, n.archived = true) → g.current.Spares (g.step step).current) :
    (g.step step).All Graph.IsLively := by
  by_cases hputs : step.PutsOnly fun n => n.archived = false
  · exact All.step h (Graph.keptByWrites_isLively.step (fun _ hn => hn) hputs)
  · cases step with
    | call outage c =>
      cases c with
      | putNodes nodes =>
        have hcurrent := All.current h
        have harchived : ∃ n ∈ nodes, n.archived = true := by
          simpa [Step.PutsOnly] using hputs
        have hspared := hspares outage nodes rfl harchived
        -- The call may still fail, or its transaction may be dropped. What it leaves of the
        -- edges and of the stored ids is the same in all these cases.
        have hkept : ¬ (Step.call outage (.putNodes nodes)).Discards := id
        have hedges := current_step (I := fun u => u.edges = g.current.edges) rfl
          (Step.keeps_edges outage nodes g.current.edges) hkept
        have hwithin := current_step ⟨hcurrent.toIsSound, Graph.within_refl g.current⟩
          (Step.keeps_within _ g.current) hkept
        exact all_step h.1 (hcurrent.of_spares hwithin.1 hedges hwithin.2 hspared)
      | _ => exact absurd trivial hputs
    | _ => exact absurd trivial hputs

/-- Live edges end at live nodes after a history in which calls that put archived nodes
spare those at which live edges end. -/
theorem isLively_after {steps : List Step} (h : g.All Graph.IsLively)
    (hspares : ∀ before outage nodes, before ++ [.call outage (.putNodes nodes)] <+: steps →
      (∃ n ∈ nodes, n.archived = true) → (g.after before).current.Spares
        (g.after (before ++ [.call outage (.putNodes nodes)])).current) :
    (g.after steps).All Graph.IsLively := by
  refine after_induction h fun before step hpart hbefore => isLively_step hbefore step ?_
  rintro outage nodes rfl harchived
  rw [← after_concat]
  exact hspares before outage nodes hpart harchived

/-- The ends of live edges are live throughout a history if and only if no call that puts
archived nodes archives one at which a live edge ends. -/
theorem liveEnds_iff (steps : List Step) :
    (∀ before, before <+: steps → (after {} before).All Graph.LiveEnds) ↔
      ∀ before outage nodes, before ++ [.call outage (.putNodes nodes)] <+: steps →
        (∃ n ∈ nodes, n.archived = true) → (after {} before).current.Spares
          (after {} (before ++ [.call outage (.putNodes nodes)])).current := by
  constructor
  · intro hlive before outage nodes hpart _
    exact (All.current (hlive _ hpart)).spares
  · intro hspares before hbefore
    have hempty : All Graph.IsLively {} := ⟨Graph.isLively_empty, nofun⟩
    have hlively := isLively_after hempty fun front outage nodes hpart =>
      hspares front outage nodes (hpart.trans hbefore)
    exact hlively.mono fun _ h => h.liveEnds

end GraphStore

/-! ## An archived stop -/

namespace Sample

/-- The stop `a` comes before the stop `b`. -/
def edge : Edge :=
  { id := some "e", containerId := "c", createdAt := some (.reading 1), pairId := "next"
    origin := { nodeId := some "a" }, destination := { nodeId := some "b" } }

/-- Two stops are stored, then the edge between them, then one of the stops as archived. -/
def archivingSteps : List Step :=
  [.call {} (.putNodes [node "a", node "b"]), .call {} (.putEdges [edge]),
   .call {} (.putNodes [{ node "a" with archived := true }])]

end Sample

/-- A live edge may come to end at an archived node. -/
theorem GraphStore.not_liveEnds : ¬ ∀ steps, (GraphStore.after {} steps).All Graph.LiveEnds := by
  intro h
  have hedge : (after {} Sample.archivingSteps).committed.edges.get? "e" = some Sample.edge := by
    decide +kernel
  have hnode : (after {} Sample.archivingSteps).committed.nodes.get? "a" =
      some { Sample.node "a" with archived := true } := by
    decide +kernel
  obtain ⟨id, n, hid, hn, hlive⟩ := (h Sample.archivingSteps).1 "e" _ hedge rfl .origin
  cases hid
  rw [hnode] at hn
  cases hn
  contradiction

end TypedGraph
