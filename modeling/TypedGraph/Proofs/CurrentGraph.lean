import TypedGraph.Proofs.Histories

/-!
# The current graph

The current graph of a store is the one that calls see: the copy of the open transaction,
or else the committed graph. A step keeps what it keeps of the current graph unless it
discards the work of the open transaction (`GraphStore.current_step`), and so does a
history of such steps. What is true of the committed graph before a step, and of the
current one after it, is true of every graph after it (`GraphStore.all_step`).
-/
namespace TypedGraph

open Access

/-- Whether a step throws away what the open transaction wrote. -/
def Step.Discards : Step → Prop
  | rollback => True
  | commit outage => .commit ∈ outage.methods
  | _ => False

namespace GraphStore

/-- The graph that calls see: the copy of the open transaction, or else the committed one. -/
def current (g : GraphStore) : Graph := g.working.getD g.committed

variable {I : Graph → Prop} {g : GraphStore}

theorem current_of_working {graph : Graph} (h : g.working = some graph) : g.current = graph := by
  simp [current, h]

theorem current_of_idle (h : g.working = none) : g.current = g.committed := by
  simp [current, h]

theorem All.mono {I' : Graph → Prop} (h : g.All I) (hI : ∀ graph, I graph → I' graph) :
    g.All I' :=
  ⟨hI _ h.1, fun graph hgraph => hI graph (h.2 graph hgraph)⟩

theorem All.current (h : g.All I) : I g.current := by
  cases hg : g.working with
  | none =>
    rw [current_of_idle hg]
    exact h.1
  | some graph =>
    rw [current_of_working hg]
    exact h.2 graph hg

variable [Supply] [PatternEngine]

/-- A step ends with no open transaction, or leaves the committed graph as it is. -/
theorem idle_or_committed_eq (g : GraphStore) (step : Step) :
    (g.step step).working = none ∨ (g.step step).committed = g.committed := by
  cases step with
  | begin outage =>
    refine .inr ?_
    simp only [GraphStore.step, GraphStore.begin]
    split
    · rfl
    split <;> rfl
  | commit outage => exact .inl (working_commit g outage)
  | rollback =>
    refine .inr ?_
    simp only [GraphStore.step, GraphStore.rollback]
    split <;> rfl
  | call outage c =>
    cases hg : g.working with
    | none => exact .inl (working_perform_of_idle hg outage id (c.run outage))
    | some graph =>
      refine .inr ?_
      simp only [GraphStore.step, GraphStore.perform, hg]
      rfl
  | ingest s mapping staged isCancelled =>
    cases hg : g.working with
    | none => exact .inl (working_ingest_of_idle hg s mapping staged isCancelled)
    | some graph =>
      refine .inr ?_
      rw [GraphStore.step, ingest_of_open hg]

/-- All graphs after a step are as `I` says if the committed one before it was, and the
current one is. -/
theorem all_step {step : Step} (hcommitted : I g.committed)
    (hcurrent : I (g.step step).current) : (g.step step).All I := by
  rcases g.idle_or_committed_eq step with hidle | heq
  · rw [current_of_idle hidle] at hcurrent
    exact ⟨hcurrent, fun graph h => by rw [hidle] at h; contradiction⟩
  · refine ⟨heq ▸ hcommitted, fun graph h => ?_⟩
    rwa [current_of_working h] at hcurrent

omit [PatternEngine] [Supply] in
theorem current_perform {ε α : Type} {calls : Access Transaction ε α} (hg : I g.current)
    (hcalls : Keeps I calls) (outage : Outage) (asError : StorageError → ε) :
    I (g.perform outage asError calls).2.current := by
  unfold GraphStore.perform
  split
  · rename_i graph hgraph
    rw [current_of_working hgraph] at hg
    exact hcalls { graph, drawn := g.drawn } hg
  rename_i hidle
  rw [current_of_idle hidle] at hg
  split
  · rw [current_of_idle hidle]
    exact hg
  have hopen : (g.runOpen g.committed calls).2.committed = g.committed ∧
      ∃ graph, (g.runOpen g.committed calls).2.working = some graph ∧ I graph :=
    ⟨rfl, _, rfl, hcalls { graph := g.committed, drawn := g.drawn } hg⟩
  generalize g.runOpen g.committed calls = ended at hopen ⊢
  obtain ⟨r, g'⟩ := ended
  obtain ⟨hcommitted, graph, hworking, hgraph⟩ := hopen
  dsimp only at hcommitted hworking
  cases r with
  | error e =>
    rw [current_of_idle rfl]
    exact hcommitted ▸ hg
  | ok a =>
    have hclosed := working_commit g' outage
    have hcommit : I (g'.commit outage).2.committed := by
      unfold GraphStore.commit
      rw [hworking]
      dsimp only
      split
      · exact hcommitted ▸ hg
      · exact hgraph
    dsimp only
    generalize g'.commit outage = closed at hclosed hcommit ⊢
    obtain ⟨r, g''⟩ := closed
    split
    · rename_i heq
      cases heq
      rw [current_of_idle hclosed]
      exact hcommit
    · rename_i heq
      cases heq
      rw [current_of_idle hclosed]
      exact hcommit

/-- What a step keeps is true of the current graph after it, unless it discards the one
before it. -/
theorem current_step {step : Step} (hg : I g.current) (hstep : step.Keeps I)
    (hkept : ¬ step.Discards) : I (g.step step).current := by
  cases step with
  | begin outage =>
    simp only [GraphStore.step, GraphStore.begin]
    split
    · exact hg
    · rename_i hidle
      have hidle : g.working = none := by simpa using hidle
      split
      · exact hg
      · rw [current_of_idle hidle] at hg
        exact hg
  | commit outage =>
    have hserved : .commit ∉ outage.methods := hkept
    simp only [GraphStore.step, GraphStore.commit]
    split
    · exact hg
    · rename_i graph hgraph
      rw [if_neg (by simpa using hserved)]
      rw [current_of_working hgraph] at hg
      exact hg
  | rollback => exact absurd trivial hkept
  | call outage c => exact current_perform hg hstep outage id
  | ingest s mapping staged isCancelled =>
    cases isCancelled with
    | true => exact hg
    | false =>
      cases hidle : g.working with
      | some graph =>
        simp only [GraphStore.step, GraphStore.ingest, hidle]
        exact hg
      | none =>
        rw [current_of_idle hidle] at hg
        rcases ingest_cases hidle s mapping staged with
          ⟨report, t, hrun, hingest⟩ | ⟨e, t, -, hingest⟩
        · simp only [GraphStore.step, hingest]
          have hend := hstep _ _ _ hrun hg
          simpa only [current, hidle, Option.getD_none] using hend
        · simp only [GraphStore.step, hingest]
          simpa only [current, hidle, Option.getD_none] using hg

theorem current_after {steps : List Step} (hg : I g.current)
    (hsteps : ∀ step ∈ steps, step.Keeps I) (hkept : ∀ step ∈ steps, ¬ step.Discards) :
    I (g.after steps).current := by
  refine after_induction (P := fun g => I g.current) hg fun before step hpart hbefore => ?_
  have hmem := mem_of_concat hpart
  exact current_step hbefore (hsteps step hmem) (hkept step hmem)

end GraphStore

end TypedGraph
