import TypedGraph.Graph.Timestamp

/-!
# Supplies

A graph takes two things from outside: ids for new records, and the time. A supply holds
both as they come. No id comes twice, while a clock may show anything, the same instant
again included.
-/
namespace TypedGraph

/-- The ids that are drawn and the readings of the clock, each by its number. -/
class Supply where
  drawnId : Nat → String
  reading : Nat → Timestamp
  drawnId_inj : ∀ {m n : Nat}, drawnId m = drawnId n → m = n

/-- How many ids were drawn, and how often the clock was read. -/
structure Drawn where
  ids : Nat := 0
  readings : Nat := 0
deriving DecidableEq, Repr, Inhabited

end TypedGraph
