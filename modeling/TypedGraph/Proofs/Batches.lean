import TypedGraph.Graph.Counting
import TypedGraph.Proofs.Histories
import TypedGraph.Proofs.NodesTwice

/-!
# Calls with many edges

A call that puts edges writes one after the other. It stops at the first that is refused, and
the edges before that one stay written: the call and a call with only these leave the same
graph (`GraphStore.putEdges_keeps_front`). It is the transaction that is all or nothing, and
rolling it back undoes them.
-/
namespace TypedGraph

namespace Access

variable {σ ε α β : Type}

/-- A computation over a list fails with the first element, or with one of the others after it
has succeeded with the first, or succeeds with all. -/
theorem run_mapM_cons_cases (f : α → Access σ ε β) (a : α) (as : List α) (t : σ) :
    (∃ e t', (f a).run.run t = (.error e, t') ∧
      ((a :: as).mapM f).run.run t = (.error e, t')) ∨
    ∃ b t₁, (f a).run.run t = (.ok b, t₁) ∧
      ((∃ e t', (as.mapM f).run.run t₁ = (.error e, t') ∧
        ((a :: as).mapM f).run.run t = (.error e, t')) ∨
      ∃ bs t', (as.mapM f).run.run t₁ = (.ok bs, t') ∧
        ((a :: as).mapM f).run.run t = (.ok (b :: bs), t')) := by
  rw [List.mapM_cons]
  rcases hfirst : (f a).run.run t with ⟨e | b, t₁⟩
  · exact .inl ⟨e, t₁, rfl, run_bind_of_error hfirst _⟩
  · rw [run_bind_of_ok hfirst]
    rcases hothers : (as.mapM f).run.run t₁ with ⟨e | bs, t'⟩
    · exact .inr ⟨b, t₁, rfl, .inl ⟨e, t', hothers, run_bind_of_error hothers _⟩⟩
    · exact .inr ⟨b, t₁, rfl, .inr ⟨bs, t', hothers, run_bind_of_ok hothers _⟩⟩

/-- A computation over a list that fails has succeeded on a front part of the list, and failed
at the next element. -/
theorem exists_front_of_run_mapM {f : α → Access σ ε β} {as : List α} {t t' : σ} {e : ε}
    (h : (as.mapM f).run.run t = (.error e, t')) :
    ∃ front a back bs t₁, as = front ++ a :: back ∧
      (front.mapM f).run.run t = (.ok bs, t₁) ∧ (f a).run.run t₁ = (.error e, t') := by
  induction as generalizing t with
  | nil =>
    have hnil : (pure [] : Access σ ε (List β)).run.run t = (.error e, t') := h
    rw [run_pure] at hnil
    cases hnil
  | cons a as ih =>
    rcases run_mapM_cons_cases f a as t with
      ⟨e', t₁, ha, hall⟩ | ⟨b, t₁, ha, ⟨e', t₂, has, hall⟩ | ⟨bs, t₂, has, hall⟩⟩
    all_goals
      rw [hall] at h
      cases h
    · exact ⟨[], a, as, [], t, rfl, rfl, ha⟩
    · obtain ⟨front, x, back, bs, t₂, rfl, hfront, hx⟩ := ih has
      have hcons : ((a :: front).mapM f).run.run t = (.ok (b :: bs), t₂) := by
        rw [List.mapM_cons, run_bind_of_ok ha, run_bind_of_ok hfront, run_pure]
      exact ⟨a :: front, x, back, b :: bs, t₂, rfl, hcons, hx⟩

end Access

/-- A graph after edges were stored, one after the other, under their ids. -/
def Graph.withEdges (g : Graph) (stored : List Edge) : Graph :=
  { g with edges := g.edges.insertAll (stored.map fun x => (x.id.getD "", x)) }

@[simp] theorem Graph.withEdges_nil (g : Graph) : g.withEdges [] = g := rfl

theorem Graph.withEdges_cons (g : Graph) (x : Edge) (stored : List Edge) :
    g.withEdges (x :: stored) = (g.insertEdge x).withEdges stored := rfl

namespace Transaction

open Access

variable {t t' : Transaction} {x : Edge} {edges stored : List Edge} {e : StorageError}
  {outage : Outage}

variable [Supply]

/-- An edge that is refused leaves the graph as it is. -/
theorem run_putEdge_error (h : (putEdge x).run.run t = (.error e, t')) :
    t'.graph = t.graph ∧ t'.calls = t.calls := by
  cases hjoined : joinedNodes t.graph x with
  | error cause =>
    rw [run_putEdge_of_unusable hjoined] at h
    cases h
    exact ⟨rfl, rfl⟩
  | ok ids =>
    cases hy : t.obstacle? x with
    | some y =>
      rw [run_putEdge_of_obstacle hjoined hy] at h
      cases h
      exact ⟨rfl, rfl⟩
    | none =>
      rw [run_putEdge_of_free hjoined hy] at h
      cases h

theorem run_putEdge_ok {y : Edge} (h : (putEdge x).run.run t = (.ok y, t')) :
    t'.graph = t.graph.insertEdge y ∧ t'.calls = t.calls := by
  cases hjoined : joinedNodes t.graph x with
  | error cause =>
    rw [run_putEdge_of_unusable hjoined] at h
    cases h
  | ok ids =>
    cases hy : t.obstacle? x with
    | some y =>
      rw [run_putEdge_of_obstacle hjoined hy] at h
      cases h
    | none =>
      rw [run_putEdge_of_free hjoined hy] at h
      cases h
      exact ⟨rfl, rfl⟩

/-- Edges that are all written are stored one after the other. -/
theorem run_mapM_putEdge_ok (h : (edges.mapM putEdge).run.run t = (.ok stored, t')) :
    stored.length = edges.length ∧ t'.graph = t.graph.withEdges stored ∧ t'.calls = t.calls := by
  induction edges generalizing t stored with
  | nil =>
    have hnil : (pure [] : Access Transaction StorageError (List Edge)).run.run t =
        (.ok stored, t') := h
    rw [run_pure] at hnil
    cases hnil
    exact ⟨rfl, rfl, rfl⟩
  | cons x edges ih =>
    rcases run_mapM_cons_cases putEdge x edges t with
      ⟨e, t₁, -, hall⟩ | ⟨y, t₁, hx, ⟨e, t₂, -, hall⟩ | ⟨ys, t₂, hedges, hall⟩⟩
    all_goals
      rw [hall] at h
      cases h
    have hfirst := run_putEdge_ok hx
    have hothers := ih hedges
    rw [Graph.withEdges_cons, ← hfirst.1, ← hfirst.2]
    exact ⟨congrArg (· + 1) hothers.1, hothers.2⟩

end Transaction

namespace GraphStore

open Access Transaction

variable {g g' : GraphStore} {graph : Graph} {outage : Outage} {edges : List Edge}
  {e : StorageError}

/-- A store whose open transaction has come to a state. -/
def reaching (g : GraphStore) (t : Transaction) : GraphStore :=
  { g with drawn := t.drawn, working := some t.graph }

theorem reaching_of_open (hopen : g.working = some graph) :
    g.reaching { graph, drawn := g.drawn } = g := by
  cases g
  cases hopen
  rfl

/-- The transaction in which a call that puts edges begins to write. -/
def puttingEdges (graph : Graph) (drawn : Drawn) : Transaction := ⟨graph, drawn, [.putEdges]⟩

variable [Supply]

/-- In an open transaction, a call that puts edges writes one after the other. -/
theorem perform_putEdges (hopen : g.working = some graph) (hserved : .putEdges ∉ outage.methods)
    (hspoken : outage.silentEdges = false) {edges : List Edge} {r : Except StorageError (List Edge)}
    {t : Transaction}
    (h : (edges.mapM putEdge).run.run (puttingEdges graph g.drawn) = (r, t)) :
    g.perform outage id (putEdges outage edges) = (r, g.reaching t) := by
  have hcall : (putEdges outage edges).run.run { graph, drawn := g.drawn } = (r, t) := by
    rw [putEdges, run_call_of_notMem hserved, hspoken]
    exact h
  simp only [perform, hopen, runOpen, hcall, reaching]

/-- A call that puts edges and is out leaves all as it is. -/
theorem perform_putEdges_of_out (hopen : g.working = some graph)
    (hout : .putEdges ∈ outage.methods) (edges : List Edge) :
    g.perform outage id (putEdges outage edges) =
      (.error (.backend Method.putEdges.unavailable), g) := by
  have hcall := run_call_of_mem hout StorageError.backend
    (if outage.silentEdges then pure [] else edges.mapM putEdge)
    ({ graph, drawn := g.drawn } : Transaction)
  have hstays := reaching_of_open hopen
  simp only [perform, hopen, runOpen, putEdges, hcall]
  exact congrArg _ hstays

/-- A call that puts edges and fails either is out, and changes nothing, or stops at an edge
that is refused: it leaves the transaction as the call with only the edges before that one,
which succeeds, and then a call with the refused edge alone. So what is published by a commit
are the edges before, while a rollback leaves no trace of them, and a call with one edge is
all or nothing. -/
theorem putEdges_keeps_front (hopen : g.working = some graph)
    (h : g.perform outage id (putEdges outage edges) = (.error e, g')) :
    g'.committed = g.committed ∧
    g'.rollback = .ok { g with drawn := g'.drawn, working := none } ∧
    (edges.length ≤ 1 → g'.working = g.working) ∧
    (.putEdges ∈ outage.methods ∧ g' = g ∨
      ∃ front x back stored g₁, edges = front ++ x :: back ∧
        g.perform outage id (putEdges outage front) = (.ok stored, g₁) ∧
        g₁.perform outage id (putEdges outage [x]) = (.error e, g') ∧
        stored.length = front.length ∧ g'.working = g₁.working ∧
        ∀ outage', .commit ∉ outage'.methods →
          (g'.commit outage').2.committed = graph.withEdges stored) := by
  by_cases hserved : .putEdges ∈ outage.methods
  · rw [perform_putEdges_of_out hopen hserved] at h
    cases h
    exact ⟨rfl, by simp [rollback, hopen], fun _ => rfl, .inl ⟨hserved, rfl⟩⟩
  cases hspoken : outage.silentEdges with
  | true =>
    have hcall : (putEdges outage edges).run.run { graph, drawn := g.drawn } =
        (.ok [], puttingEdges graph g.drawn) := by
      rw [putEdges, run_call_of_notMem hserved, hspoken]
      rfl
    simp only [perform, hopen, runOpen, hcall] at h
    cases h
  | false =>
    rcases hrun : (edges.mapM putEdge).run.run (puttingEdges graph g.drawn) with ⟨r, t'⟩
    have hended := perform_putEdges hopen hserved hspoken hrun
    rw [h] at hended
    cases hended
    obtain ⟨front, x, back, stored, t, rfl, hfront, hx⟩ := exists_front_of_run_mapM hrun
    obtain ⟨hlength, hgraph, hcalls⟩ := run_mapM_putEdge_ok hfront
    have hrefused := run_putEdge_error hx
    have hkept : t'.graph = graph.withEdges stored := hrefused.1.trans hgraph
    have hbefore : g.perform outage id (putEdges outage front) = (.ok stored, g.reaching t) :=
      perform_putEdges hopen hserved hspoken hfront
    have halone : ([x].mapM putEdge).run.run (puttingEdges t.graph t.drawn) = (.error e, t') := by
      have ht : puttingEdges t.graph t.drawn = t := by
        cases t
        cases hcalls
        rfl
      rw [ht, List.mapM_cons, run_bind_of_error hx]
    have hlast : (g.reaching t).perform outage id (putEdges outage [x]) =
        (.error e, g.reaching t') :=
      perform_putEdges (g := g.reaching t) rfl hserved hspoken halone
    refine ⟨rfl, rfl, fun hone => ?_, .inr ⟨front, x, back, stored, _, rfl, hbefore, hlast, hlength,
      congrArg some hrefused.1, fun outage' hcommit => ?_⟩⟩
    · have hnone : stored = [] := by
        simp only [List.length_append, List.length_cons] at hone
        exact List.eq_nil_of_length_eq_zero (by omega)
      show some t'.graph = g.working
      rw [hkept, hnone, hopen, Graph.withEdges_nil]
    · simp [commit, reaching, hcommit, hkept]

end GraphStore

namespace Sample

/-- An edge from the stop `a` to the stop `b`. -/
def parallel (id : String) : Edge :=
  { id := some id, containerId := "c", pairId := "next", origin := { nodeId := some "a" }
    destination := { nodeId := some "b" } }

/-- A store with two stops in its open transaction. -/
def joining : GraphStore := { working := some { nodes := [("a", node "a"), ("b", node "b")] } }

end Sample

namespace GraphStore

open Transaction

theorem error_of_isOk_eq_false {ε α : Type} (ended : Except ε α × GraphStore)
    (h : ended.1.isOk = false) : ∃ e, ended = (.error e, ended.2) := by
  obtain ⟨e | a, g⟩ := ended
  · exact ⟨e, rfl⟩
  · contradiction

/-- The second of two parallel edges is refused, and the first is published by a commit. -/
theorem putEdges_keeps_front_sample :
    let edges := [Sample.parallel "x", Sample.parallel "y"]
    let ended := Sample.joining.perform {} id (putEdges {} edges)
    ended.1.isOk = false ∧ ended.2.rollback = .ok { drawn := ended.2.drawn } ∧
      (ended.2.commit {}).2.committed.edges.keys = ["x"] ∧
      ∃ front x back, edges = front ++ x :: back ∧
        ended.2.working = (Sample.joining.perform {} id (putEdges {} front)).2.working := by
  intro edges ended
  have hfails : ended.1.isOk = false := by decide +kernel
  obtain ⟨e, hended⟩ := error_of_isOk_eq_false ended hfails
  obtain ⟨-, hrollback, -, hout | ⟨front, x, back, stored, g₁, hedges, hfront, -, -, hsame, -⟩⟩ :=
    putEdges_keeps_front rfl hended
  · exact absurd hout.1 (by decide)
  · refine ⟨hfails, hrollback, by decide +kernel, front, x, back, hedges, ?_⟩
    rw [hfront]
    exact hsame

/-- A call that fails may leave the transaction changed. -/
theorem not_working_eq_of_putEdges_error :
    ¬ ∀ (g g' : GraphStore) (graph : Graph) (outage : Outage) (edges : List Edge)
        (e : StorageError), g.working = some graph →
      g.perform outage id (putEdges outage edges) = (.error e, g') → g'.working = g.working := by
  intro h
  obtain ⟨e, hended⟩ := error_of_isOk_eq_false
    (Sample.joining.perform {} id (putEdges {} [Sample.parallel "x", Sample.parallel "y"]))
    (by decide +kernel)
  have hsame := h Sample.joining _ _ {} _ e rfl hended
  exact absurd hsame (by decide +kernel)

end GraphStore

end TypedGraph
