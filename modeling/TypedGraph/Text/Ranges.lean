/-!
# Sets of characters as ranges

A set of code points is an array of inclusive ranges. Tables of ranges are kept
as text: ranges in hexadecimal, `41-5a` or a single `5f`, separated by blanks.
-/
namespace TypedGraph.Text

/-- Inclusive ranges of code points. -/
structure Ranges where
  ranges : Array (Nat × Nat)
deriving DecidableEq, Repr, Inhabited

/-- The natural written in lower-case hexadecimal digits. -/
def readHex (s : String) : Nat :=
  s.toList.foldl (fun n c =>
    16 * n + (if '0' ≤ c ∧ c ≤ '9' then c.toNat - '0'.toNat else c.toNat - 'a'.toNat + 10)) 0

namespace Ranges

def empty : Ranges := ⟨#[]⟩

/-- Reads a table of ranges. -/
def read (table : String) : Ranges :=
  if table.isEmpty then empty
  else ⟨((table.splitOn " ").map fun range =>
    match range.splitOn "-" with
    | [low, high] => (readHex low, readHex high)
    | _ => (readHex range, readHex range)).toArray⟩

def contains (set : Ranges) (n : Nat) : Bool :=
  set.ranges.any fun (low, high) => low ≤ n && n ≤ high

def union (a b : Ranges) : Ranges := ⟨a.ranges ++ b.ranges⟩

/-- The number of ranges. -/
def size (set : Ranges) : Nat := set.ranges.size

end Ranges

end TypedGraph.Text
