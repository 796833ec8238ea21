import TypedGraph.Graph.Store
import TypedGraph.Ingest.Basic

/-!
# Ingesting into a graph store

An ingest into a store commits all that it wrote, or leaves the committed graph as it
is. While another transaction is open it gets as far as the beginning of its own, and
waits there until its time is up.
-/
namespace TypedGraph

/-- Why an ingest into a store yields no report. -/
inductive IngestRefusal where
  /-- Another transaction is open, and there is no limit to the wait. -/
  | locked
  | failed (cause : IngestError)
deriving DecidableEq, Repr

namespace GraphStore

variable [Supply] [PatternEngine]

/-- Ingests a payload into a store without an open transaction. -/
def ingestAlone (g : GraphStore) (s : IngestSetting) (mapping : TypeMapping)
    (staged : StagedData) : Except IngestError IngestReport × GraphStore :=
  match (Ingest.run s mapping staged).run.run { graph := g.committed, drawn := g.drawn } with
  | (.ok report, t) => (.ok report, { g with committed := t.graph, drawn := t.drawn })
  | (.error cause, t) => (.error cause, { g with drawn := t.drawn })

/-- How an ingest ends that has to wait for an open transaction. -/
def waitForLock (s : IngestSetting) (mapping : TypeMapping) (staged : StagedData) :
    IngestRefusal :=
  match ((Ingest.start s mapping staged : Access (List Method) _ _).run.run []).1 with
  | .error cause => .failed cause
  | .ok _ =>
    match s.config.timeout with
    | some milliseconds => .failed (.timedOut milliseconds)
    | none => .locked

/-- Ingests a payload into a store. One that is cancelled beforehand does nothing. -/
def ingest (g : GraphStore) (s : IngestSetting) (mapping : TypeMapping) (staged : StagedData)
    (isCancelled : Bool) : Except IngestRefusal IngestReport × GraphStore :=
  if isCancelled then (.error (.failed .cancelled), g)
  else
    match g.working with
    | some _ => (.error (waitForLock s mapping staged), g)
    | none =>
      let (result, g) := g.ingestAlone s mapping staged
      (result.mapError .failed, g)

end GraphStore

end TypedGraph
