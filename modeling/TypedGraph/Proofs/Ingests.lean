import TypedGraph.Ingest.Store
import TypedGraph.Proofs.Attempts

/-!
# What an ingest does

An ingest into a sound graph ends only if a method is out or the mapping does not pass the
checks; otherwise it writes the nodes, makes the attempts planned for the edges, and
reports what became of them (`Ingest.serves_run`). So it is atomic, and no outage is
hidden in its report.
-/
namespace TypedGraph

open Access

namespace Transaction

variable {s : IngestSetting} {t : Transaction}

variable [Supply]

/-- The calls recorded do not matter for what is stored. -/
theorem storedNodes_content (nodes : List Node) (t : Transaction) :
    t.content.storedNodes nodes = t.storedNodes nodes := by
  induction nodes generalizing t with
  | nil => rfl
  | cons n nodes ih => exact congrArg (t.storedNode n :: ·) (ih (t.withNode n))

theorem withNodes_content (nodes : List Node) (t : Transaction) :
    t.content.withNodes nodes = (t.withNodes nodes).content := by
  induction nodes generalizing t with
  | nil => rfl
  | cons n nodes ih => exact ih (t.withNode n)

theorem serves_putNodes (nodes : List Node) (t : Transaction) :
    Serves s.IsOut StorageError.Tells (putNodes s.outage nodes) t fun r t' =>
      r = .ok (t.content.storedNodes nodes) ∧ t'.content = t.content.withNodes nodes := by
  have hrun := run_mapM_putNode (ε := StorageError) nodes (KeepsCalls.record .putNodes t)
  refine Serves.call (by rfl) ⟨rfl, rfl⟩ (.of_run hrun (withNodes_calls _ _) ⟨?_, ?_⟩)
  · rw [← storedNodes_content]
    rfl
  · rw [← withNodes_content]
    rfl

end Transaction

namespace Ingest

variable {s : IngestSetting} {mapping : TypeMapping} {staged : StagedData}

variable [Supply] [PatternEngine]

/-- What an ingest did to a transaction that was not ended: it prepared records, wrote the
nodes, and made the attempts planned for the edges. -/
structure Ingested (s : IngestSetting) (mapping : TypeMapping) (staged : StagedData)
    (t : Transaction) (prepared : Prepared)
    (plan : List (Pending (Except RecordError Attempt)))
    (outcomes : List (Pending (Except RecordError Edge))) (t' : Transaction) : Prop where
  checked : checkMapping s.config mapping staged = .ok ()
  produced : ∃ produced, production s mapping staged = .ok produced ∧ produced.IsSound ∧
    PreparedFrom produced prepared
  started : ∀ t : Transaction, ((start s mapping staged).run.run t).1 = .ok prepared
  planned : Planned s (t.withNodes prepared.nodes).graph.nodes {} prepared.edges plan
  made : Made s plan (t.withNodes prepared.nodes) outcomes t'

/-- The report on what an ingest did. -/
def reportOf (t : Transaction) (prepared : Prepared)
    (outcomes : List (Pending (Except RecordError Edge))) : IngestReport :=
  ⟨t.storedNodes prepared.nodes, writtenEdges outcomes, prepared.failures ++ failedEdges outcomes⟩

theorem serves_write (prepared : Prepared) (t : Transaction) :
    Serves s.IsOut IngestError.Tells (write s prepared) t fun r t' =>
      (∃ report, r = .ok report ∧ ∃ plan outcomes, report = reportOf t.content prepared outcomes ∧
        Planned s (t.content.withNodes prepared.nodes).graph.nodes {} prepared.edges
          plan ∧
        Made s plan (t.content.withNodes prepared.nodes) outcomes t'.content) ∨
        ∃ e, r = .error e ∧ ¬ t.graph.IsSound := by
  refine Serves.outcome_bind (Transaction.serves_putNodes prepared.nodes t) (fun r t₁ h => ?_)
    fun m e _ he => ⟨_, rfl, IngestError.Tells.ofStorage he⟩
  obtain ⟨rfl, h₁⟩ := h
  have hgraph := Transaction.graph_eq h₁
  have ht₁ : HasNodes (t.content.withNodes prepared.nodes).graph.nodes t₁ := by
    rw [HasNodes, hgraph]
  rw [ofResult_ok, pure_bind]
  refine (serves_writeEdges (EdgeMemo.isSound_empty _) prepared.edges ht₁).bind_cases
    (fun ended t₂ h => ?_) fun e _ hunsound => .inr ⟨e, rfl, fun h => hunsound ?_⟩
  · obtain ⟨plan, outcomes, rfl, hplan, hmade⟩ := h
    rw [h₁] at hmade
    exact .pure (.inl ⟨_, rfl, plan, outcomes, rfl, hplan, hmade⟩)
  · rw [hgraph]
    exact Transaction.isSound_withNodes (t := t.content) h prepared.nodes

omit [Supply] in
/-- What is prepared in one run is prepared in every run. -/
theorem serves_start (t : Transaction) :
    Serves s.IsOut IngestError.Tells (start s mapping staged) t fun r t' =>
      (∃ prepared, r = .ok prepared ∧ t'.content = t.content ∧
        checkMapping s.config mapping staged = .ok () ∧
        (∃ produced, production s mapping staged = .ok produced ∧ produced.IsSound ∧
          PreparedFrom produced prepared) ∧
        ∀ t : Transaction, ((start s mapping staged).run.run t).1 = .ok prepared) ∨
        ∃ e, r = .error e ∧ checkMapping s.config mapping staged = .error e := by
  refine answers_start.with_runs.serves trivial fun r t' hr hg hd => ?_
  obtain ⟨⟨produced, prepared, rfl, hcheck, hproduced⟩ | hfailed, hruns⟩ := hr
  · exact .inl ⟨prepared, rfl, Transaction.content_congr hg hd, hcheck, ⟨produced, hproduced⟩,
      fun t => (hruns t trivial).1⟩
  · exact .inr hfailed

/-- An ingest does what it is to do, unless a method is out, the mapping does not pass the
checks, or the graph is not sound. -/
theorem serves_run (s : IngestSetting) (mapping : TypeMapping) (staged : StagedData)
    (t : Transaction) :
    Serves s.IsOut IngestError.Tells (run s mapping staged) t fun r t' =>
      (∃ prepared plan outcomes, r = .ok (reportOf t.content prepared outcomes) ∧
        Ingested s mapping staged t.content prepared plan outcomes t'.content) ∨
        ∃ e, r = .error e ∧
          (checkMapping s.config mapping staged = .error e ∨ ¬ t.graph.IsSound) := by
  refine (serves_start t).bind_cases (fun prepared t₁ h => ?_)
    fun e _ hfailed => .inr ⟨e, rfl, .inl hfailed⟩
  obtain ⟨h₁, hcheck, hproduced, hruns⟩ := h
  refine (serves_write prepared t₁).bind_cases (fun report t₂ h => ?_)
    fun e _ hunsound => .inr ⟨e, rfl, .inr ?_⟩
  · rw [h₁] at h
    obtain ⟨plan, outcomes, rfl, hplan, hmade⟩ := h
    exact .call (by rfl) rfl (.pure (.inl ⟨prepared, plan, outcomes, rfl, hcheck, hproduced, hruns,
      hplan, hmade⟩))
  · rwa [Transaction.graph_eq h₁] at hunsound

/-- What an ingest did that ended with a report. -/
theorem ingested_of_run {t t' : Transaction} {report : IngestReport}
    (h : (run s mapping staged).run.run t = (.ok report, t')) :
    ∃ prepared plan outcomes, report = reportOf t.content prepared outcomes ∧
      Ingested s mapping staged t.content prepared plan outcomes t'.content := by
  obtain ⟨calls, -, hsurfaces⟩ := serves_run s mapping staged t
  rw [h] at hsurfaces
  rcases hsurfaces with ⟨-, ⟨prepared, plan, outcomes, heq, h⟩ | ⟨_, he, -⟩⟩ |
    ⟨_, _, _, _, _, _, he, -⟩
  · cases heq
    exact ⟨prepared, plan, outcomes, rfl, h⟩
  · contradiction
  · contradiction

section Ingested

variable {t t' : Transaction} {prepared : Prepared}
  {plan : List (Pending (Except RecordError Attempt))}
  {outcomes : List (Pending (Except RecordError Edge))}

theorem Ingested.isSound (h : Ingested s mapping staged t prepared plan outcomes t')
    (ht : t.graph.IsSound) : t'.graph.IsSound :=
  h.made.isSound (Transaction.isSound_withNodes ht prepared.nodes)

/-- The nodes that an ingest writes are new, and so not archived. -/
theorem Ingested.archived_nodes (h : Ingested s mapping staged t prepared plan outcomes t')
    {n : Node} (hn : n ∈ prepared.nodes) : n.archived = false := by
  obtain ⟨produced, -, hsound, hfrom⟩ := h.produced
  obtain ⟨p, hp, properties, rfl⟩ := hfrom.nodes n hn
  exact (hsound.nodes p hp).archived

/-- What is true once the nodes are written, and kept by every edge that is written after
them, is true in the end. -/
theorem Ingested.keeps {I : Graph → Prop}
    (h : Ingested s mapping staged t prepared plan outcomes t')
    (hnodes : I (t.withNodes prepared.nodes).graph)
    (hedge : ∀ p ∈ plan, ∀ a, p.record = .ok a → ∀ u : Transaction,
      u.graph.nodes = (t.withNodes prepared.nodes).graph.nodes → a.IsPermitted u.graph →
      u.obstacle? a.joined = none → I u.graph → I (u.withEdge a.joined).graph) :
    I t'.graph := by
  have hend := h.made.keeps
    (I := fun u => u.graph.nodes = (t.withNodes prepared.nodes).graph.nodes ∧ I u.graph)
    ⟨rfl, hnodes⟩ fun p hp u outcome u' hattempted ⟨hu, hI⟩ => ?_
  · exact hend.2
  refine ⟨hattempted.nodes.trans hu, ?_⟩
  cases hrecord : p.record with
  | error e =>
    rw [hrecord] at hattempted
    cases hattempted
    exact hI
  | ok a =>
    rw [hrecord] at hattempted
    cases hattempted with
    | written permitted loud free => exact hedge p hp a hrecord u hu permitted free hI
    | _ => exact hI

/-- A failure in the report is one of a record, or of an attempt that was made. -/
theorem Ingested.failure_cases (h : Ingested s mapping staged t prepared plan outcomes t')
    {f : RecordFailure} (hf : f ∈ (reportOf t prepared outcomes).failures) :
    f.error.IsOwn ∨ ∃ p ∈ plan, ∃ u u', (t.graph.IsSound → u.graph.IsSound) ∧
      Attempted s p.record u (.error f.error) u' := by
  rcases List.mem_append.1 hf with hf | hf
  · obtain ⟨produced, -, -, hfrom⟩ := h.produced
    exact .inl (hfrom.failures f hf)
  · obtain ⟨q, hq, hfq⟩ := List.mem_filterMap.1 hf
    obtain ⟨p, hp, u, u', hu, hattempted⟩ := h.made.attempted_of_mem
      (I := fun u => t.graph.IsSound → u.graph.IsSound)
      (fun ht => Transaction.isSound_withNodes ht prepared.nodes)
      (fun _ _ _ _ _ hattempted hu ht => hattempted.isSound (hu ht)) hq
    cases hrecord : q.record with
    | ok x =>
      rw [hrecord] at hfq
      contradiction
    | error e =>
      rw [hrecord] at hfq hattempted
      cases hfq
      exact .inr ⟨p, hp, u, u', hu, hattempted⟩

end Ingested

end Ingest

/-! ## Ingests into a store -/

namespace GraphStore

/-- The transaction that is begun in a store. -/
def opened (g : GraphStore) : Transaction := { graph := g.committed, drawn := g.drawn }

variable [Supply] [PatternEngine]

/-- While no transaction is open an ingest commits what it did, or nothing. -/
theorem ingest_cases {g : GraphStore} (hg : g.working = none) (s : IngestSetting)
    (mapping : TypeMapping) (staged : StagedData) :
    (∃ report t, (Ingest.run s mapping staged).run.run g.opened = (.ok report, t) ∧
      g.ingest s mapping staged false =
        (.ok report, { g with committed := t.graph, drawn := t.drawn })) ∨
      ∃ e t, (Ingest.run s mapping staged).run.run g.opened = (.error e, t) ∧
        g.ingest s mapping staged false = (.error (.failed e), { g with drawn := t.drawn }) := by
  unfold ingest ingestAlone
  rw [hg, ← opened]
  rcases (Ingest.run s mapping staged).run.run g.opened with ⟨e | report, t⟩
  · exact .inr ⟨e, t, rfl, rfl⟩
  · exact .inl ⟨report, t, rfl, rfl⟩

/-- An ingest that finds a transaction open leaves the store as it is. -/
theorem ingest_of_open {g : GraphStore} {graph : Graph} (hopen : g.working = some graph)
    (s : IngestSetting) (mapping : TypeMapping) (staged : StagedData) (isCancelled : Bool) :
    (g.ingest s mapping staged isCancelled).2 = g := by
  cases isCancelled with
  | true => rfl
  | false => simp only [ingest, hopen, Bool.false_eq_true, if_false]

/-- No ingest leaves a transaction open. -/
theorem working_ingest_of_idle {g : GraphStore} (hidle : g.working = none) (s : IngestSetting)
    (mapping : TypeMapping) (staged : StagedData) (isCancelled : Bool) :
    (g.ingest s mapping staged isCancelled).2.working = none := by
  cases isCancelled with
  | true => exact hidle
  | false =>
    rcases ingest_cases hidle s mapping staged with ⟨report, t, -, hingest⟩ | ⟨e, t, -, hingest⟩
    all_goals
      rw [hingest]
      exact hidle

/-- An ingest that ends with a report commits what it did. -/
theorem ingest_ok {g g' : GraphStore} {s : IngestSetting} {mapping : TypeMapping}
    {staged : StagedData} {isCancelled : Bool} {report : IngestReport}
    (h : g.ingest s mapping staged isCancelled = (.ok report, g')) :
    ∃ t, (Ingest.run s mapping staged).run.run g.opened = (.ok report, t) ∧
      g'.opened = t.content ∧ g'.committed = t.graph := by
  cases isCancelled with
  | true => simp [ingest] at h
  | false =>
    cases hg : g.working with
    | some graph => simp [ingest, hg] at h
    | none =>
      rcases ingest_cases hg s mapping staged with
        ⟨report', t, hrun, hingest⟩ | ⟨e, t, hrun, hingest⟩
      · rw [hingest] at h
        cases h
        exact ⟨t, hrun, rfl, rfl⟩
      · rw [hingest] at h
        cases h

omit [Supply] [PatternEngine] in
theorem ingest_of_isOk (ended : Except IngestRefusal IngestReport × GraphStore)
    (h : ended.1.isOk) : ∃ report, ended = (.ok report, ended.2) := by
  obtain ⟨r, g'⟩ := ended
  cases r with
  | error e => contradiction
  | ok report => exact ⟨report, rfl⟩

end GraphStore

end TypedGraph
