import TypedGraph.Calendar.Reading
import TypedGraph.Json.Codec

/-!
# Time stamps

A record is stamped with the instant of its creation. It is read from a document or else
from a clock; what a clock shows may be known by the number of the reading alone, and is
then written `<now>`.
-/
namespace TypedGraph

/-- When a record was created. -/
inductive Timestamp where
  /-- What a clock showed when it was read for the `n`th time. -/
  | reading (n : Nat)
  | instant (t : Calendar.Instant)
deriving DecidableEq, Repr, Inhabited

namespace Timestamp

def text : Timestamp → String
  | reading _ => "<now>"
  | instant t => t.render .fitting

def codec : Codec Timestamp where
  read? j := (j.string?.bind Calendar.timestamp?).map instant
  write t := .string t.text

end Timestamp

end TypedGraph
