import TypedGraph.Proofs.Ingests
import TypedGraph.Proofs.WellFormed

/-!
# States that are reached

A transaction is begun on a graph that a history has committed, and changed by calls. So is every
transaction that a history leaves open (`GraphStore.isReached_working`), and so is the one that an
ingest writes to, at every moment between two of its records (`Ingest.isReached_write`).
-/
namespace TypedGraph

open Access

variable [Supply] [PatternEngine]

/-- The states that transactions come to. The record of the calls does not matter. -/
inductive Transaction.IsReached : Transaction → Prop
  | begun (steps : List Step) (calls : List Method) :
    IsReached ⟨(GraphStore.after {} steps).committed, (GraphStore.after {} steps).drawn, calls⟩
  | called {t : Transaction} (outage : Outage) (c : Call) (calls : List Method)
    (reached : t.IsReached) : IsReached { ((c.run outage).run.run t).2 with calls := calls }

omit [Supply] [PatternEngine] in
theorem Access.run_discard {σ ε α : Type} (x : Access σ ε α) (t : σ) :
    ((discard x).run.run t).2 = (x.run.run t).2 := by
  change ((x >>= fun _ => pure ()).run.run t).2 = _
  rcases run_bind_cases x (fun _ => pure ()) t with ⟨a, t', hx, hall⟩ | ⟨e, t', hx, hall⟩
  · rw [hall, hx, run_pure]
  · rw [hall, hx]

/-! ## Open transactions -/

namespace GraphStore

variable {g : GraphStore}

/-- A transaction that is open after a step was open before and is as it was, or the step began
it, or called it. -/
theorem open_cases (step : Step) {graph : Graph} (hopen : (g.step step).working = some graph) :
    g.step step = g ∨ graph = g.committed ∧ (g.step step).drawn = g.drawn ∨
      ∃ outage c before, g.working = some before ∧
        g.step step = (g.runOpen before (Call.run outage c)).2 := by
  cases step with
  | begin outage =>
    cases hbegin : g.begin outage with
    | error e =>
      refine .inl ?_
      rw [step, hbegin]
      rfl
    | ok g' =>
      obtain ⟨-, rfl⟩ := begin_ok hbegin
      rw [step, hbegin] at hopen ⊢
      cases hopen
      exact .inr (.inl ⟨rfl, rfl⟩)
  | commit outage =>
    rw [step, working_commit] at hopen
    contradiction
  | rollback =>
    cases hrollback : g.rollback with
    | error e =>
      refine .inl ?_
      rw [step, hrollback]
      rfl
    | ok g' =>
      rw [step, hrollback] at hopen
      have hclosed : g'.working = some graph := hopen
      rw [working_rollback hrollback] at hclosed
      contradiction
  | call outage c =>
    cases hworking : g.working with
    | none =>
      rw [step, working_perform_of_idle hworking] at hopen
      contradiction
    | some before =>
      exact .inr (.inr ⟨outage, c, before, rfl, by simp only [step, perform, hworking]⟩)
  | ingest s mapping staged isCancelled =>
    cases hworking : g.working with
    | none =>
      rw [step, working_ingest_of_idle hworking] at hopen
      contradiction
    | some before => exact .inl (ingest_of_open hworking s mapping staged isCancelled)

/-- Every transaction that a history leaves open is reached. -/
theorem isReached_working (steps : List Step) {graph : Graph}
    (hopen : (GraphStore.after {} steps).working = some graph) (calls : List Method) :
    Transaction.IsReached ⟨graph, (GraphStore.after {} steps).drawn, calls⟩ := by
  refine after_induction (g := {}) (P := fun g => ∀ graph, g.working = some graph →
    ∀ calls, Transaction.IsReached ⟨graph, g.drawn, calls⟩) nofun
    (fun before step _ hbefore graph hopen calls => ?_) graph hopen calls
  rcases open_cases step hopen with heq | ⟨rfl, hdrawn⟩ | ⟨outage, c, worked, hworked, heq⟩
  · rw [heq] at hopen ⊢
    exact hbefore graph hopen calls
  · rw [hdrawn]
    exact .begun before calls
  · rw [heq] at hopen ⊢
    cases hopen
    exact .called outage c calls (hbefore worked hworked [])

end GraphStore

/-! ## Writing -/

namespace Transaction

variable {t : Transaction}

theorem IsReached.isSound (h : t.IsReached) : t.graph.IsSound := by
  induction h with
  | begun steps calls => exact (GraphStore.isSound_after steps).1
  | called outage c calls reached ih =>
    have hkeeps : (Step.call outage c).Keeps Graph.IsSound := Step.keeps_isSound _
    exact hkeeps _ ih

theorem IsReached.withCalls (h : t.IsReached) (calls : List Method) :
    IsReached { t with calls := calls } := by
  cases h with
  | begun steps => exact .begun steps calls
  | called outage c _ reached => exact .called outage c calls reached

omit [PatternEngine] in
theorem run_putNodes (nodes : List Node) (t : Transaction) :
    (((Call.putNodes nodes).run {}).run.run t).2 =
      (KeepsCalls.record .putNodes t).withNodes nodes := by
  rw [Call.run, run_discard, putNodes, run_call_of_notMem (by simp), run_mapM_putNode]

theorem IsReached.withNodes (h : t.IsReached) (nodes : List Node) :
    (t.content.withNodes nodes).IsReached := by
  have hcall := h.called {} (.putNodes nodes) []
  rw [run_putNodes] at hcall
  have hcontent : t.content.withNodes nodes =
      ((KeepsCalls.record .putNodes t).withNodes nodes).content := by
    rw [← withNodes_content]
    rfl
  rw [hcontent]
  exact hcall

omit [PatternEngine] in
/-- A call with one edge ends as the write of this edge. -/
theorem run_putEdges_single (x : Edge) (t : Transaction) :
    (((Call.putEdges [x]).run {}).run.run t).2 =
      ((Transaction.putEdge x).run.run (KeepsCalls.record .putEdges t)).2 := by
  rw [Call.run, run_discard, putEdges, run_call_of_notMem (by simp), if_neg (by decide),
    List.mapM_cons]
  rcases hput : (Transaction.putEdge x).run.run (KeepsCalls.record .putEdges t) with ⟨e | y, t'⟩
  · rw [run_bind_of_error hput]
  · rw [run_bind_of_ok hput]
    rfl

/-- What an attempt at an edge between live nodes comes to is reached. -/
theorem IsReached.attempted (h : t.IsReached) {s : IngestSetting} {a : Attempt}
    {outcome : Except RecordError Edge} {t' : Transaction}
    (horigin : LiveIn t.graph.nodes a.origin) (hdestination : LiveIn t.graph.nodes a.destination)
    (hattempted : Ingest.Attempted s (.ok a) t outcome t') : t'.IsReached := by
  have hcall := h.called {} (.putEdges [a.joined]) t.calls
  rw [run_putEdges_single] at hcall
  cases hattempted with
  | refused => exact h
  | dropped => exact h
  | clashing permitted loud clash =>
    obtain ⟨ids, hids⟩ :=
      Ingest.joinedNodes_of_isPermitted h.isSound horigin hdestination permitted
    rw [run_putEdge_of_obstacle (t := KeepsCalls.record .putEdges t) hids clash] at hcall
    exact hcall
  | written permitted loud free =>
    obtain ⟨ids, hids⟩ :=
      Ingest.joinedNodes_of_isPermitted h.isSound horigin hdestination permitted
    rw [run_putEdge_of_free (t := KeepsCalls.record .putEdges t) hids free] at hcall
    exact hcall

end Transaction

namespace Ingest

variable {s : IngestSetting} {t t' : Transaction}

/-- What attempts at edges between live nodes come to is reached. -/
theorem Made.isReached {plan : List (Pending (Except RecordError Attempt))}
    {outcomes : List (Pending (Except RecordError Edge))} (h : Made s plan t outcomes t')
    (hreached : t.IsReached)
    (hlive : ∀ p ∈ plan, ∀ a, p.record = .ok a →
      LiveIn t.graph.nodes a.origin ∧ LiveIn t.graph.nodes a.destination) : t'.IsReached := by
  let hasNodes (u : Transaction) : Prop := u.IsReached ∧ u.graph.nodes = t.graph.nodes
  have hend : hasNodes t' := h.keeps ⟨hreached, rfl⟩ fun p hp u outcome u' hattempted hbefore => by
    refine ⟨?_, hattempted.nodes.trans hbefore.2⟩
    cases hrecord : p.record with
    | error e =>
      rw [hrecord] at hattempted
      cases hattempted
      exact hbefore.1
    | ok a =>
      obtain ⟨horigin, hdestination⟩ := hlive p hp a hrecord
      have hnodes := hbefore.2
      rw [← hnodes] at horigin hdestination
      rw [hrecord] at hattempted
      exact hbefore.1.attempted horigin hdestination hattempted
  exact hend.1

/-- The transaction that an ingest writes to is reached after the nodes and any number of the
edges. -/
theorem isReached_write {prepared : Prepared} {report : IngestReport}
    (h : (write s prepared).run.run t = (.ok report, t')) (hreached : t.IsReached) :
    t'.IsReached := by
  obtain ⟨calls, -, hsurfaces⟩ := serves_write (s := s) prepared t
  rw [h] at hsurfaces
  rcases hsurfaces with ⟨-, ⟨_, -, plan, outcomes, -, hplanned, hmade⟩ | ⟨_, he, -⟩⟩ |
    ⟨_, _, _, _, _, _, he, -⟩
  · refine (hmade.isReached (hreached.withNodes prepared.nodes) fun p hp a ha => ?_).withCalls
      t'.calls
    obtain ⟨q, -, hfor⟩ := hplanned.attempts p hp a ha
    exact ⟨hfor.origin.live, hfor.destination.live⟩
  · contradiction
  · contradiction

end Ingest

end TypedGraph
