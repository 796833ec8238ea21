import TypedGraph.Table

/-!
# Calls on the stores

The ontology and the graph live in stores, and a program reaches them by calling
their methods. A store may fail to serve some of its methods: such an outage answers
every call of the method with an error of the store and does nothing else. Calls are
counted, so that it can be said which ones a program makes.
-/
namespace TypedGraph

/-- The methods of the stores. -/
inductive Method where
  | metatype
  | metatypeByName
  | metatypeKeys
  | metatypeKey
  | relationshipPair
  | relationshipKeys
  | relationshipKey
  | begin
  | commit
  | findNode
  | findNodeByComposite
  | findNodeByExternal
  | findNodes
  | findEdgeByComposite
  | edgesFromOrigin
  | edgesIntoDestination
  | edgesBetween
  | putNodes
  | putEdges
  | archiveNode
  | archiveEdge
deriving DecidableEq, Repr, Inhabited

namespace Method

def names : List (String × Method) :=
  [("metatype", metatype), ("metatype_by_name", metatypeByName), ("metatype_keys", metatypeKeys),
   ("metatype_key", metatypeKey), ("relationship_pair", relationshipPair),
   ("relationship_keys", relationshipKeys), ("relationship_key", relationshipKey),
   ("begin", begin), ("commit", commit), ("find_node", findNode),
   ("find_node_by_composite_id", findNodeByComposite),
   ("find_node_by_original_id", findNodeByExternal), ("find_nodes", findNodes),
   ("find_edge_by_composite_id", findEdgeByComposite),
   ("edges_by_pair_and_origin", edgesFromOrigin),
   ("edges_by_pair_and_destination", edgesIntoDestination),
   ("edges_by_pair_origin_destination", edgesBetween),
   ("create_or_update_nodes", putNodes), ("create_or_update_edges", putEdges),
   ("archive_node", archiveNode), ("archive_edge", archiveEdge)]

def name (m : Method) : String := ((names.find? fun row => row.2 = m).map (·.1)).getD ""

/-- What a store says when it does not serve a method. -/
def unavailable (m : Method) : String := m.name ++ " unavailable"

end Method

/-- The methods that are not served. -/
structure Outage where
  methods : List Method := []
  /-- Whether writing edges does nothing and reports no edge, without an error. -/
  silentEdges : Bool := false
deriving DecidableEq, Repr, Inhabited

namespace Outage

/-- The outage of the methods with the given names; other names mean nothing. -/
def ofNames (names : List String) : Outage where
  methods := names.filterMap fun name => Method.names.lookup name
  silentEdges := names.contains "create_or_update_edges_returns_nothing"

end Outage

/-- A computation that calls stores: it keeps a state with the calls made so far, also
when it ends in an error. -/
abbrev Access (σ ε : Type) := ExceptT ε (StateM σ)

/-- A state that keeps the calls made so far, the latest first. -/
class KeepsCalls (σ : Type) where
  record : Method → σ → σ

instance : KeepsCalls (List Method) := ⟨List.cons⟩

namespace Access

variable {σ ε α : Type}

/-- Calls a method: the call is recorded, and answered unless the method is out. -/
def call [KeepsCalls σ] (outage : Outage) (m : Method) (failure : String → ε)
    (answer : Access σ ε α) : Access σ ε α := do
  modify (KeepsCalls.record m)
  if outage.methods.contains m then throw (failure m.unavailable) else answer

theorem run_call_of_mem [KeepsCalls σ] {outage : Outage} {m : Method} (h : m ∈ outage.methods)
    (failure : String → ε) (answer : Access σ ε α) (s : σ) :
    (call outage m failure answer).run.run s =
      (.error (failure m.unavailable), KeepsCalls.record m s) := by
  simp [call, h]
  rfl

theorem run_call_of_notMem [KeepsCalls σ] {outage : Outage} {m : Method} (h : m ∉ outage.methods)
    (failure : String → ε) (answer : Access σ ε α) (s : σ) :
    (call outage m failure answer).run.run s = answer.run.run (KeepsCalls.record m s) := by
  simp [call, h]
  rfl

/-- Runs a computation and goes on with its result, be it a value or an error. -/
def outcome {ε' : Type} (x : Access σ ε α) : Access σ ε' (Except ε α) := ExceptT.lift x.run

theorem run_outcome {ε' : Type} (x : Access σ ε α) (s : σ) :
    (outcome x : Access σ ε' (Except ε α)).run.run s = (.ok (x.run.run s).1, (x.run.run s).2) := rfl

/-- Ends in the error of a result, seen as another kind of error, or goes on with its value. -/
def ofResult {ε' : Type} (asError : ε' → ε) : Except ε' α → Access σ ε α
  | .ok a => pure a
  | .error e => throw (asError e)

end Access

end TypedGraph
