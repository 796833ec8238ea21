import TypedGraph.Shape
import Mathlib.Data.List.Sort
import Mathlib.Order.Defs.LinearOrder

/-!
# Payloads of one shape

Two payloads have one shape if their leaves are of the same kinds, their objects have the
same keys and their lists begin alike. What a list holds after its first item is no part
of its shape, and neither are its length and the values of the leaves, apart from leaves
under keys that are described by their texts. The derivation that two values have one
shape mirrors the traversal that collects the tokens, so by induction on it both have the
same tokens up to their order. The fingerprint sorts them, and so it depends on the shape
alone (`fingerprint_of_sameShape`).
-/
namespace TypedGraph.Shape

/-- Whether a value is a scalar, null or an object without entries. -/
def IsLeaf : Json → Prop
  | .array _ | .object (_ :: _) => False
  | .null | .bool _ | .number _ | .string _ | .object [] => True

/-- Whether a value is an object. -/
def IsObject : Json → Prop
  | .object _ => True
  | .null | .bool _ | .number _ | .string _ | .array _ => False

/-- Whether a list begins with an object, so that its first item is described. -/
def IsSampled : List Json → Prop
  | .object _ :: _ => True
  | _ => False

mutual

/-- Whether two values have one shape, leaves under the keys `texts` having one text too. -/
inductive SameShape (texts : List String) : Json → Json → Prop
  | leaf {a b : Json} (left : IsLeaf a) (right : IsLeaf b) (kinds : kind a = kind b) :
      SameShape texts a b
  | object {as bs : List (String × Json)} (fields : SameFields texts as bs) :
      SameShape texts (.object as) (.object bs)
  | sampled {as bs : List (String × Json)} {xs ys : List Json} (fields : SameFields texts as bs) :
      SameShape texts (.array (.object as :: xs)) (.array (.object bs :: ys))
  | unsampled {xs ys : List Json} (left : ¬ IsSampled xs) (right : ¬ IsSampled ys) :
      SameShape texts (.array xs) (.array ys)

/-- Whether two lists of entries have the same keys, in any order, and values of one shape
under each of them. -/
inductive SameFields (texts : List String) :
    List (String × Json) → List (String × Json) → Prop
  | nil : SameFields texts [] []
  | cons {key : String} {a b : Json} {as bs : List (String × Json)}
      (value : SameShape texts a b) (text : key ∈ texts → IsLeaf a → a.display = b.display)
      (fields : SameFields texts as bs) : SameFields texts ((key, a) :: as) ((key, b) :: bs)
  | reorder {as as' bs bs' : List (String × Json)} (left : as.Perm as') (right : bs.Perm bs')
      (fields : SameFields texts as bs) : SameFields texts as' bs'

end

theorem SameFields.length_eq {texts : List String} {as bs : List (String × Json)} :
    SameFields texts as bs → as.length = bs.length
  | .nil => rfl
  | .cons _ _ fields => congrArg (· + 1) fields.length_eq
  | .reorder left right fields => left.length_eq.symm.trans (fields.length_eq.trans right.length_eq)

variable {options : ShapeOptions}

/-- The tokens of one entry of an object. -/
def entryTokens (options : ShapeOptions) (parent : String) (entry : String × Json) :
    List String :=
  if options.stopNodes.contains entry.1 then []
  else valueTokens options (below parent entry.1) entry.1 entry.2

theorem entriesTokens_eq_flatMap (parent : String) (entries : List (String × Json)) :
    entriesTokens options parent entries = entries.flatMap (entryTokens options parent) := by
  induction entries with
  | nil => simp [entriesTokens]
  | cons entry entries ih => rw [entriesTokens, ih, List.flatMap_cons, entryTokens]

theorem valueTokens_of_isLeaf {a : Json} (h : IsLeaf a) (path key : String) :
    valueTokens options path key a = [leafToken options path key a] := by
  cases a with
  | array items => exact h.elim
  | object entries =>
    cases entries with
    | nil => rw [valueTokens]
    | cons entry entries => exact h.elim
  | _ => simp [valueTokens]

theorem valueTokens_object {entries : List (String × Json)} (h : entries ≠ [])
    (path key : String) :
    valueTokens options path key (.object entries) = entriesTokens options path entries := by
  cases entries with
  | nil => exact absurd rfl h
  | cons entry entries => rw [valueTokens]

theorem sampleTokens_of_not_isSampled {items : List Json} (h : ¬ IsSampled items) :
    sampleTokens options items = [] := by
  cases items with
  | nil => simp [sampleTokens]
  | cons item items =>
    cases item with
    | object entries => exact absurd trivial h
    | _ => simp [sampleTokens]

theorem leafToken_congr {a b : Json} {key : String} (kinds : kind a = kind b)
    (text : key ∈ options.valueNodes → a.display = b.display) (path : String) :
    leafToken options path key a = leafToken options path key b := by
  unfold leafToken
  by_cases h : key ∈ options.valueNodes
  · rw [text h, kinds]
  · simp [h, kinds]

mutual

/-- Values of one shape have the same tokens. -/
theorem SameShape.valueTokens_perm {a b : Json} :
    SameShape options.valueNodes a b → (path key : String) →
    (key ∈ options.valueNodes → IsLeaf a → a.display = b.display) →
    (valueTokens options path key a).Perm (valueTokens options path key b)
  | .leaf left right kinds, path, key, text => by
    rw [valueTokens_of_isLeaf left, valueTokens_of_isLeaf right,
      leafToken_congr kinds fun h => text h left]
  | @SameShape.object _ as bs fields, path, key, _ => by
    by_cases h : as = []
    · have h' : bs = [] := List.eq_nil_of_length_eq_zero (by simp [← fields.length_eq, h])
      rw [h, h']
    · have h' : bs ≠ [] := fun hbs => h (List.eq_nil_of_length_eq_zero (by
        simp [fields.length_eq, hbs]))
      rw [valueTokens_object h, valueTokens_object h']
      exact fields.entriesTokens_perm path
  | .sampled fields, path, key, _ => by
    simp only [valueTokens, sampleTokens]
    exact (fields.entriesTokens_perm "").cons _
  | .unsampled left right, path, key, _ => by
    simp only [valueTokens, sampleTokens_of_not_isSampled left,
      sampleTokens_of_not_isSampled right]
    exact List.Perm.refl _

/-- Entries with the same keys and values of one shape have the same tokens. -/
theorem SameFields.entriesTokens_perm {as bs : List (String × Json)} :
    SameFields options.valueNodes as bs → (parent : String) →
    (entriesTokens options parent as).Perm (entriesTokens options parent bs)
  | .nil, _ => List.Perm.refl _
  | @SameFields.cons _ key _ _ _ _ value text fields, parent => by
    simp only [entriesTokens]
    refine List.Perm.append ?_ (fields.entriesTokens_perm parent)
    by_cases stop : options.stopNodes.contains key = true
    · rw [if_pos stop, if_pos stop]
    · rw [if_neg stop, if_neg stop]
      exact value.valueTokens_perm (below parent key) key text
  | .reorder left right fields, parent => by
    have h := fields.entriesTokens_perm parent
    simp only [entriesTokens_eq_flatMap] at h ⊢
    exact ((left.flatMap_right _).symm.trans h).trans (right.flatMap_right _)

end

theorem eq_of_isLeaf_of_isObject {a : Json} (h : IsLeaf a) (object : IsObject a) :
    a = .object [] := by
  cases a with
  | object entries =>
    cases entries with
    | nil => rfl
    | cons entry entries => exact h.elim
  | _ => exact object.elim

theorem tokens_of_isLeaf {a : Json} (h : IsLeaf a) (scalar : ¬ IsObject a) :
    tokens options a = [":" ++ kind a] := by
  cases a with
  | array items => exact h.elim
  | object entries => exact absurd trivial scalar
  | _ => rfl

/-- Payloads of one shape have the same tokens, if both are objects or neither is: an
empty object has no tokens as a payload, while null has one. -/
theorem tokens_perm {a b : Json} (h : SameShape options.valueNodes a b)
    (objects : IsObject a ↔ IsObject b) : (tokens options a).Perm (tokens options b) := by
  cases h with
  | leaf left right kinds =>
    by_cases object : IsObject a
    · rw [eq_of_isLeaf_of_isObject left object,
        eq_of_isLeaf_of_isObject right (objects.1 object)]
    · rw [tokens_of_isLeaf left object, tokens_of_isLeaf right (mt objects.2 object), kinds]
  | object fields => exact fields.entriesTokens_perm ""
  | sampled fields =>
    simp only [tokens, sampleTokens]
    exact (fields.entriesTokens_perm "").cons _
  | unsampled left right =>
    simp only [tokens, sampleTokens_of_not_isSampled left, sampleTokens_of_not_isSampled right]
    exact List.Perm.refl _

/-- The tokens of a payload in their order. -/
def sortedTokens (options : ShapeOptions) (payload : Json) : List String :=
  (tokens options payload).mergeSort fun a b => decide (a ≤ b)

theorem sortedTokens_perm (options : ShapeOptions) (payload : Json) :
    (sortedTokens options payload).Perm (tokens options payload) :=
  List.mergeSort_perm _ _

theorem sorted_sortedTokens (options : ShapeOptions) (payload : Json) :
    (sortedTokens options payload).Pairwise (· ≤ ·) :=
  List.pairwise_mergeSort' (· ≤ ·) _

theorem eq_sortedTokens {options : ShapeOptions} {payload : Json} {ts : List String}
    (h : ts.Perm (tokens options payload)) (sorted : ts.Pairwise (· ≤ ·)) :
    ts = sortedTokens options payload :=
  (h.trans (sortedTokens_perm options payload).symm).eq_of_pairwise' sorted
    (sorted_sortedTokens options payload)

theorem sortedTokens_of_perm {options options' : ShapeOptions} {a b : Json}
    (h : (tokens options a).Perm (tokens options' b)) :
    sortedTokens options a = sortedTokens options' b :=
  eq_sortedTokens ((sortedTokens_perm options a).trans h) (sorted_sortedTokens options a)

theorem digestText_eq (options : ShapeOptions) (payload : Json) :
    digestText options payload = String.join (sortedTokens options payload) := rfl

theorem digestText_of_perm {a b : Json} (h : (tokens options a).Perm (tokens options b)) :
    digestText options a = digestText options b := by
  rw [digestText_eq, digestText_eq, sortedTokens_of_perm h]

/-- The fingerprint depends on the shape of a payload alone. -/
theorem fingerprint_of_sameShape {a b : Json} (h : SameShape options.valueNodes a b)
    (objects : IsObject a ↔ IsObject b) : fingerprint options a = fingerprint options b := by
  rw [fingerprint, fingerprint, digestText_of_perm (tokens_perm h objects)]

namespace Sample

/-- Options that drop one key and describe another by its text. -/
def apart : ShapeOptions where
  stopNodes := ["secret"]
  valueNodes := ["type"]

/-- An order of two parts. -/
def order : Json := .object
  [("id", .int 1),
    ("parts", .array [.object [("note", .null), ("sku", .string "a")], .object []]),
    ("secret", .object [("pin", .bool true)]), ("tags", .array []), ("type", .string "order")]

/-- Another order, with other values and lists of other lengths. -/
def another : Json := .object
  [("id", .int 99), ("parts", .array [.object [("note", .object []), ("sku", .string "b")]]),
    ("secret", .object [("pin", .bool false)]), ("tags", .array [.int 3, .object []]),
    ("type", .string "order")]

theorem sameShape_order : SameShape apart.valueNodes order another := by
  have hid : "id" ∉ apart.valueNodes := by decide
  have hnote : "note" ∉ apart.valueNodes := by decide
  have hsku : "sku" ∉ apart.valueNodes := by decide
  have hpin : "pin" ∉ apart.valueNodes := by decide
  refine .object (.cons (.leaf trivial trivial rfl) (absurd · hid) ?_)
  refine .cons (.sampled (.cons (.leaf trivial trivial rfl) (absurd · hnote)
    (.cons (.leaf trivial trivial rfl) (absurd · hsku) .nil))) (fun _ => False.elim) ?_
  refine .cons (.object (.cons (.leaf trivial trivial rfl) (absurd · hpin) .nil))
    (fun _ => False.elim) ?_
  refine .cons (.unsampled id id) (fun _ => False.elim) ?_
  exact .cons (.leaf trivial trivial rfl) (fun _ _ => rfl) .nil

end Sample

theorem fingerprint_of_sameShape_sample :
    Sample.order ≠ Sample.another ∧
      SameShape Sample.apart.valueNodes Sample.order Sample.another ∧
      (IsObject Sample.order ↔ IsObject Sample.another) ∧
      fingerprint Sample.apart Sample.order = fingerprint Sample.apart Sample.another :=
  ⟨by decide, Sample.sameShape_order, Iff.rfl,
    fingerprint_of_sameShape Sample.sameShape_order Iff.rfl⟩

end TypedGraph.Shape
