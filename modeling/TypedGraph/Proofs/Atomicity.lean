import TypedGraph.Proofs.Ingests

/-!
# Ingests under faults

An ingest into a store ends with the error of the first call that is not served. An ingest
that ends without a report leaves the committed graph as it was and the store free for the
next transaction, and no failure in a report hides an outage (`GraphStore.ingest_atomic`).
-/
namespace TypedGraph

open Access

theorem Method.unavailable_ne (m : Method) : m.unavailable ≠ "edge write returned nothing" := by
  cases m <;> decide

namespace Ingest

variable {s : IngestSetting} {mapping : TypeMapping} {staged : StagedData}

variable [Supply]

/-- An attempt fails with an error of its own, or that its edge clashes with another one or
was dropped. -/
theorem Attempted.not_isOutage {x : Except RecordError Attempt} {e : RecordError}
    {t t' : Transaction} (h : Attempted s x t (.error e) t') (hx : ∀ e, x = .error e → e.IsOwn) :
    ¬ e.IsOutage := by
  cases h with
  | unplanned => exact (hx e rfl).not_isOutage
  | @refused a t cause own =>
    cases cause with
    | lookup c => exact absurd rfl (own c)
    | _ => exact id
  | dropped =>
    rintro ⟨m, hm⟩
    exact m.unavailable_ne hm.symm
  | clashing => exact id

variable [PatternEngine]

theorem Ingested.not_isOutage {t t' : Transaction} {prepared : Prepared}
    {plan : List (Pending (Except RecordError Attempt))}
    {outcomes : List (Pending (Except RecordError Edge))}
    (h : Ingested s mapping staged t prepared plan outcomes t') {f : RecordFailure}
    (hf : f ∈ (reportOf t prepared outcomes).failures) : ¬ f.error.IsOutage := by
  rcases h.failure_cases hf with hown | ⟨p, hp, u, u', -, hattempted⟩
  · exact hown.not_isOutage
  · exact hattempted.not_isOutage (h.planned.errors p hp)

end Ingest

namespace GraphStore

variable [Supply] [PatternEngine]

/-- The calls that an ingest makes while no transaction is open, the latest first. -/
def ingestCalls (g : GraphStore) (s : IngestSetting) (mapping : TypeMapping) (staged : StagedData)
    (isCancelled : Bool) : List Method :=
  if isCancelled then [] else ((Ingest.run s mapping staged).run.run g.opened).2.calls

omit [Supply] [PatternEngine] in
theorem begin_of_idle {g : GraphStore} {outage : Outage} (hg : g.working = none)
    (h : .begin ∉ outage.methods) :
    g.begin outage = .ok { g with working := some g.committed } := by
  simp [begin, hg, h]

/-- Whatever is out, an ingest fails with the error of any call that is not served, leaves
the graph as it was if it fails, and hides no outage in its report. -/
theorem ingest_atomic (committed : Graph) (drawn : Drawn) (s : IngestSetting)
    (mapping : TypeMapping) (staged : StagedData) (isCancelled : Bool) :
    let g : GraphStore := { committed, drawn }
    let ended := g.ingest s mapping staged isCancelled
    (∀ m ∈ g.ingestCalls s mapping staged isCancelled, s.IsOut m →
      ended.1 = .error (.failed (.ofOutage m))) ∧
    (∀ refusal, ended.1 = .error refusal → ended.2.committed = committed ∧
      ∀ outage : Outage, .begin ∉ outage.methods →
        ended.2.begin outage = .ok { ended.2 with working := some committed }) ∧
    ∀ report, ended.1 = .ok report → ∀ f ∈ report.failures, ¬ f.error.IsOutage := by
  intro g ended
  cases isCancelled with
  | true =>
    exact ⟨by simp [ingestCalls], fun _ _ => ⟨rfl, fun _ h => begin_of_idle rfl h⟩, nofun⟩
  | false =>
    obtain ⟨calls, hcalls, hsurfaces⟩ := Ingest.serves_run s mapping staged g.opened
    have hmade : g.ingestCalls s mapping staged false = calls :=
      hcalls.trans (List.append_nil calls)
    rw [hmade]
    unfold ended
    rcases ingest_cases (g := g) rfl s mapping staged with
      ⟨report, t, hrun, hingest⟩ | ⟨e, t, hrun, hingest⟩
    all_goals
      rw [hrun] at hsurfaces
      rw [hingest]
      refine ⟨fun m hm hout => ?_, fun refusal h => ?_, fun report' h => ?_⟩
    · obtain ⟨e, he, -⟩ := hsurfaces.of_mem hm hout
      contradiction
    · contradiction
    · cases h
      obtain ⟨prepared, plan, outcomes, rfl, h⟩ := Ingest.ingested_of_run hrun
      exact fun f hf => h.not_isOutage hf
    · obtain ⟨e', he, htells⟩ := hsurfaces.of_mem hm hout
      cases he
      rw [show e = _ from htells]
    · exact ⟨rfl, fun outage hbegin => begin_of_idle rfl hbegin⟩
    · contradiction

end GraphStore

end TypedGraph
