import TypedGraph.Proofs.Digests
import TypedGraph.Proofs.Shapes

/-!
# The places that tokens describe

The traversal of a payload meets entries of objects at certain places, each with a path,
and leaves one token at every place that is no object with entries of its own. So the
tokens of a payload are those of its places, one after the other (`tokens_eq`), and what
is said about the tokens of a payload can be said about a list of places.

The fingerprint is the digest of the sorted tokens as one text. Two payloads have one
fingerprint if these texts are the same, and otherwise only if the texts collide
(`fingerprint_eq_iff`).
-/
namespace TypedGraph.Shape

/-- An entry of an object, with the path under which it is described. -/
structure Place where
  path : String
  key : String
  value : Json
deriving DecidableEq, Repr

mutual

/-- The places below a value at a path. -/
def placesBelow (dropped : List String) (path : String) : Json → List Place
  | .object entries => placesOf dropped path entries
  | .array items => samplePlaces dropped items
  | _ => []

/-- The places in the first item of a list, if it is an object. -/
def samplePlaces (dropped : List String) : List Json → List Place
  | .object entries :: _ => placesOf dropped "" entries
  | _ => []

/-- The places of entries below a path, each with those below it. -/
def placesOf (dropped : List String) (parent : String) : List (String × Json) → List Place
  | [] => []
  | (key, value) :: rest =>
    (if dropped.contains key then []
      else ⟨below parent key, key, value⟩ :: placesBelow dropped (below parent key) value) ++
      placesOf dropped parent rest

end

/-- The token of a place, unless it is an object with entries. -/
def Place.tokens (options : ShapeOptions) (p : Place) : List String :=
  match p.value with
  | .object (_ :: _) => []
  | .array _ => [p.path ++ ":list"]
  | leaf => [leafToken options p.path p.key leaf]

/-- The token of a payload as a whole, unless it is an object. -/
def headTokens : Json → List String
  | .object _ => []
  | value => [":" ++ kind value]

variable {options options' : ShapeOptions} {a b : Json}

mutual

/-- The tokens of a value are those of its place and of the places below. -/
theorem valueTokens_eq (path key : String) : (value : Json) →
    valueTokens options path key value =
      Place.tokens options ⟨path, key, value⟩ ++
        (placesBelow options.stopNodes path value).flatMap (Place.tokens options)
  | .object [] => by simp [valueTokens, Place.tokens, placesBelow, placesOf]
  | .object (entry :: rest) => by
    simp [valueTokens, Place.tokens, placesBelow, entriesTokens_eq path (entry :: rest)]
  | .array items => by simp [valueTokens, Place.tokens, placesBelow, sampleTokens_eq items]
  | .null | .bool _ | .number _ | .string _ => by simp [valueTokens, Place.tokens, placesBelow]

theorem sampleTokens_eq : (items : List Json) →
    sampleTokens options items =
      (samplePlaces options.stopNodes items).flatMap (Place.tokens options)
  | .object entries :: _ => by simp [sampleTokens, samplePlaces, entriesTokens_eq "" entries]
  | [] | .null :: _ | .bool _ :: _ | .number _ :: _ | .string _ :: _ | .array _ :: _ => by
    simp [sampleTokens, samplePlaces]

theorem entriesTokens_eq (parent : String) : (entries : List (String × Json)) →
    entriesTokens options parent entries =
      (placesOf options.stopNodes parent entries).flatMap (Place.tokens options)
  | [] => by simp [entriesTokens, placesOf]
  | (key, value) :: rest => by
    rw [entriesTokens, placesOf, List.flatMap_append, entriesTokens_eq parent rest,
      valueTokens_eq (below parent key) key value]
    split <;> simp

end

/-- The tokens of a payload are those of its places, after its own. -/
theorem tokens_eq (options : ShapeOptions) (payload : Json) :
    tokens options payload = headTokens payload ++
      (placesBelow options.stopNodes "" payload).flatMap (Place.tokens options) := by
  cases payload with
  | object entries => simp [tokens, headTokens, placesBelow, entriesTokens_eq]
  | array items =>
    have hlist : (":list" : String) = ":" ++ kind (.array items) := rfl
    simp [tokens, headTokens, placesBelow, sampleTokens_eq, hlist]
  | _ => simp [tokens, headTokens, placesBelow]

/-- The bytes of which the fingerprint is the digest. -/
def digestBytes (options : ShapeOptions) (payload : Json) : List UInt8 :=
  (digestText options payload).toUTF8.data.toList

theorem digestBytes_eq_iff :
    digestBytes options a = digestBytes options' b ↔
      digestText options a = digestText options' b := by
  constructor
  · intro h
    have hbytes : (digestText options a).toByteArray = (digestText options' b).toByteArray :=
      ByteArray.ext (Array.toList_inj.1 h)
    exact String.toByteArray_inj.1 hbytes
  · intro h
    rw [digestBytes, digestBytes, h]

theorem fingerprint_eq_iff :
    fingerprint options a = fingerprint options' b ↔
      digestText options a = digestText options' b ∨
        Digest.Collide (digestBytes options a) (digestBytes options' b) := by
  rw [← digestBytes_eq_iff]
  exact Digest.base64_sha256_eq_iff

end TypedGraph.Shape
