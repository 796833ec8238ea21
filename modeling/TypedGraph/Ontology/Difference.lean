/-!
# What a replacement changes

When a collection is replaced as a whole, the members of the new one that the old
one had not are added, and those of the old one that the new one has not removed.
Members are told apart by their identity; one without identity is like no other.
-/
namespace TypedGraph

/-- The members added and removed. -/
structure Difference (α : Type) where
  added : List α
  removed : List α
deriving DecidableEq, Repr

namespace Difference

variable {α : Type}

/-- Whether no member of `others` has the identity of `a`. -/
def isNew (identity : α → Option String) (others : List α) (a : α) : Bool :=
  match identity a with
  | some id => !others.any fun b => identity b == some id
  | none => true

/-- The difference between an old and a new collection. -/
def between (identity : α → Option String) (old new : List α) : Difference α :=
  ⟨new.filter (isNew identity old), old.filter (isNew identity new)⟩

def isEmpty (d : Difference α) : Bool := d.added.isEmpty && d.removed.isEmpty

end Difference

end TypedGraph
