import TypedGraph.Digest.Base64
import TypedGraph.Digest.Sha256
import TypedGraph.Json.Codec
import TypedGraph.Json.Display

/-!
# The shape of a payload

The shape of a payload is described by tokens, one for each leaf: the keys on the
way to it and the kind of its value. A list is a leaf; if its first item is an
object, the fields of that object follow with paths of their own. The fingerprint
of a payload is the digest of its sorted tokens.

Some keys may be dropped at every depth, and others be described by their values.
-/
namespace TypedGraph

/-- The keys that are treated apart. -/
structure ShapeOptions where
  /-- Keys that are dropped with everything below them. -/
  stopNodes : List String := []
  /-- Keys whose leaf is described by its text. -/
  valueNodes : List String := []
deriving DecidableEq, Repr, Inhabited

namespace Shape

/-- The kind of a value. -/
def kind : Json → String
  | .string _ => "string"
  | .number _ => "number"
  | .bool _ => "boolean"
  | .array _ => "list"
  | .null => "object"
  | .object _ => "object"

/-- The path of a key below a path. -/
def below (parent key : String) : String := if parent.isEmpty then key else parent ++ "." ++ key

/-- The token of a leaf. -/
def leafToken (options : ShapeOptions) (path key : String) (leaf : Json) : String :=
  path ++ ":" ++ (if options.valueNodes.contains key then leaf.display else kind leaf)

mutual

/-- The tokens of the value at a path, whose last key is `key`. -/
def valueTokens (options : ShapeOptions) (path key : String) : Json → List String
  | .object [] => [leafToken options path key (.object [])]
  | .object (entry :: rest) => entriesTokens options path (entry :: rest)
  | .array items => (path ++ ":list") :: sampleTokens options items
  | leaf => [leafToken options path key leaf]

/-- The tokens of the first item of a list, if it is an object. -/
def sampleTokens (options : ShapeOptions) : List Json → List String
  | .object entries :: _ => entriesTokens options "" entries
  | _ => []

/-- The tokens of the entries of an object below a path. -/
def entriesTokens (options : ShapeOptions) (parent : String) : List (String × Json) → List String
  | [] => []
  | (key, value) :: rest =>
    (if options.stopNodes.contains key then []
      else valueTokens options (below parent key) key value) ++
      entriesTokens options parent rest

end

/-- The tokens of a payload, in the order of its entries. -/
def tokens (options : ShapeOptions) : Json → List String
  | .object entries => entriesTokens options "" entries
  | .array items => ":list" :: sampleTokens options items
  | scalar => [":" ++ kind scalar]

/-- The tokens in their order, one after the other. -/
def digestText (options : ShapeOptions) (payload : Json) : String :=
  String.join ((tokens options payload).mergeSort fun a b => decide (a ≤ b))

/-- The fingerprint of a payload. -/
def fingerprint (options : ShapeOptions) (payload : Json) : String :=
  Digest.base64 (Digest.sha256 (digestText options payload).toUTF8.data.toList)

end Shape

namespace ShapeOptions

def isEmpty (options : ShapeOptions) : Bool :=
  options.stopNodes.isEmpty && options.valueNodes.isEmpty

def stopNodesField : Field (List String) := .defaulted "stop_nodes" (.list .text) []

def valueNodesField : Field (List String) := .defaulted "value_nodes" (.list .text) []

def codec : Codec ShapeOptions := .record [stopNodesField.name, valueNodesField.name]
  (fun e => do
    return { stopNodes := ← stopNodesField.read? e, valueNodes := ← valueNodesField.read? e })
  (fun o => stopNodesField.write o.stopNodes ++ valueNodesField.write o.valueNodes)

end ShapeOptions

end TypedGraph
