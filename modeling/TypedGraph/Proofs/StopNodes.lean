import TypedGraph.Proofs.Places
import Mathlib.Algebra.GroupWithZero.Nat
import Mathlib.Algebra.Order.BigOperators.Group.List
import Mathlib.Algebra.Order.Group.Nat

/-!
# Dropping keys

Keys that are dropped on the way through a payload might as well be removed from it first:
the same places are described, at each of them what is left of its value
(`placesBelow_without`). Only an object that loses all its entries is described otherwise:
removed first, they leave an empty object, which has a token of its own, while the
traversal has met an object with entries and has found none to describe. So the two
fingerprints are the same if every object that is met keeps an entry, and no other payload
has the same text of tokens (`digestText_without_iff`).
-/
namespace TypedGraph

namespace Json

mutual

/-- A value without the entries of some keys, at every depth. -/
def without (keys : List String) : Json → Json
  | .object entries => .object (withoutEntries keys entries)
  | .array items => .array (withoutItems keys items)
  | .null => .null
  | .bool b => .bool b
  | .number n => .number n
  | .string s => .string s

def withoutItems (keys : List String) : List Json → List Json
  | [] => []
  | item :: rest => without keys item :: withoutItems keys rest

def withoutEntries (keys : List String) : List (String × Json) → List (String × Json)
  | [] => []
  | (key, value) :: rest =>
    if keys.contains key then withoutEntries keys rest
    else (key, without keys value) :: withoutEntries keys rest

end

theorem withoutEntries_eq_nil {keys : List String} {entries : List (String × Json)} :
    withoutEntries keys entries = [] ↔ ∀ entry ∈ entries, entry.1 ∈ keys := by
  induction entries with
  | nil => simp [withoutEntries]
  | cons entry entries ih =>
    by_cases h : entry.1 ∈ keys <;> simp [withoutEntries, h, ih]

end Json

namespace Shape

open Digest (Collide)

variable {dropped : List String} {payload : Json}

/-- A place with what is left of its value. -/
def Place.without (p : Place) (keys : List String) : Place :=
  { p with value := p.value.without keys }

mutual

/-- Keys may be removed before the places below a value are described. -/
theorem placesBelow_without (path : String) : (value : Json) →
    placesBelow [] path (value.without dropped) =
      (placesBelow dropped path value).map (·.without dropped)
  | .object entries => by simp [Json.without, placesBelow, placesOf_without path entries]
  | .array items => by simp [Json.without, placesBelow, samplePlaces_without items]
  | .null | .bool _ | .number _ | .string _ => by simp [Json.without, placesBelow]

theorem samplePlaces_without : (items : List Json) →
    samplePlaces [] (Json.withoutItems dropped items) =
      (samplePlaces dropped items).map (·.without dropped)
  | .object entries :: _ => by
    simp [Json.withoutItems, Json.without, samplePlaces, placesOf_without "" entries]
  | [] | .null :: _ | .bool _ :: _ | .number _ :: _ | .string _ :: _ | .array _ :: _ => by
    simp [Json.withoutItems, Json.without, samplePlaces]

theorem placesOf_without (parent : String) : (entries : List (String × Json)) →
    placesOf [] parent (Json.withoutEntries dropped entries) =
      (placesOf dropped parent entries).map (·.without dropped)
  | [] => by simp [Json.withoutEntries, placesOf]
  | (key, value) :: rest => by
    have hrest := placesOf_without parent rest
    by_cases h : key ∈ dropped
    · simp [Json.withoutEntries, placesOf, h, hrest]
    · have hvalue := placesBelow_without (below parent key) value
      simp [Json.withoutEntries, placesOf, h, hrest, hvalue, Place.without]

end

theorem headTokens_without : headTokens (payload.without dropped) = headTokens payload := by
  cases payload <;> simp [Json.without, headTokens, kind]

/-- Whether a place is an object all of whose entries are dropped. -/
def Place.IsEmptied (dropped : List String) (p : Place) : Prop :=
  ∃ entries, p.value = .object entries ∧ entries ≠ [] ∧ ∀ entry ∈ entries, entry.1 ∈ dropped

theorem Place.tokens_of_isEmptied {p : Place} (h : p.IsEmptied dropped) :
    p.tokens { stopNodes := dropped } = [] ∧
      (p.without dropped).tokens {} = [p.path ++ ":object"] := by
  obtain ⟨path, key, value⟩ := p
  obtain ⟨entries, rfl, hne, hdropped⟩ := h
  constructor
  · cases entries with
    | nil => exact absurd rfl hne
    | cons entry entries => simp [Place.tokens]
  · have hempty : Json.withoutEntries dropped entries = [] := Json.withoutEntries_eq_nil.2 hdropped
    simp [Place.without, Json.without, hempty, Place.tokens, leafToken, kind, String.append_assoc]

theorem Place.tokens_without {p : Place} (h : ¬ p.IsEmptied dropped) :
    (p.without dropped).tokens {} = p.tokens { stopNodes := dropped } := by
  obtain ⟨path, key, value⟩ := p
  cases value with
  | object entries =>
    cases entries with
    | nil => simp [Place.without, Json.without, Json.withoutEntries, Place.tokens, leafToken]
    | cons entry entries =>
      have hkept : Json.withoutEntries dropped (entry :: entries) ≠ [] := by
        intro hempty
        exact h ⟨entry :: entries, rfl, by simp, Json.withoutEntries_eq_nil.1 hempty⟩
      obtain ⟨entry', entries', hcons⟩ := List.exists_cons_of_ne_nil hkept
      simp [Place.without, Json.without, hcons, Place.tokens]
  | _ => simp [Place.without, Json.without, Place.tokens, leafToken, kind]

/-- Whether every object that is met keeps an entry, if it has any. -/
def KeepsObjects (dropped : List String) (payload : Json) : Prop :=
  ∀ p ∈ placesBelow dropped "" payload, ¬ p.IsEmptied dropped

/-- The number of characters of tokens. -/
def textLength (tokens : List String) : Nat := (tokens.map String.length).sum

theorem textLength_flatMap (places : List Place) (f : Place → List String) :
    textLength (places.flatMap f) = (places.map fun p => textLength (f p)).sum := by
  induction places with
  | nil => rfl
  | cons p places ih =>
    simp only [textLength] at ih
    simp [textLength, ih]

theorem length_digestText (options : ShapeOptions) (payload : Json) :
    (digestText options payload).length = textLength (headTokens payload) +
      ((placesBelow options.stopNodes "" payload).map fun p => textLength (p.tokens options)).sum := by
  have hperm := (sortedTokens_perm options payload).map String.length
  rw [digestText_eq, String.length_join, hperm.sum_eq, tokens_eq, List.map_append,
    List.sum_append, ← textLength_flatMap]
  rfl

theorem digestText_of_keepsObjects (h : KeepsObjects dropped payload) :
    digestText { stopNodes := dropped } payload = digestText {} (payload.without dropped) := by
  have hplaces : ((placesBelow dropped "" payload).map (·.without dropped)).flatMap
      (Place.tokens {}) = (placesBelow dropped "" payload).flatMap
        (Place.tokens { stopNodes := dropped }) := by
    rw [List.flatMap_map]
    exact List.flatMap_congr fun p hp => Place.tokens_without (h p hp)
  have htokens : tokens { stopNodes := dropped } payload = tokens {} (payload.without dropped) := by
    rw [tokens_eq, tokens_eq, headTokens_without, placesBelow_without, hplaces]
  rw [digestText_eq, digestText_eq, sortedTokens_of_perm (.of_eq htokens)]

/-- An object that loses all its entries makes the text longer. -/
theorem length_lt_of_not_keepsObjects (h : ¬ KeepsObjects dropped payload) :
    (digestText { stopNodes := dropped } payload).length <
      (digestText {} (payload.without dropped)).length := by
  have hle : ∀ p ∈ placesBelow dropped "" payload,
      textLength (p.tokens { stopNodes := dropped }) ≤
        textLength ((p.without dropped).tokens {}) := by
    intro p _
    by_cases hp : p.IsEmptied dropped
    · simp [(Place.tokens_of_isEmptied hp).1, textLength]
    · rw [Place.tokens_without hp]
  have hlt : ∃ p ∈ placesBelow dropped "" payload,
      textLength (p.tokens { stopNodes := dropped }) <
        textLength ((p.without dropped).tokens {}) := by
    obtain ⟨p, hp, hemptied⟩ : ∃ p ∈ placesBelow dropped "" payload, p.IsEmptied dropped := by
      simpa [KeepsObjects] using h
    obtain ⟨hbefore, hafter⟩ := Place.tokens_of_isEmptied hemptied
    have hlength : 0 < (p.path ++ ":object").length := by
      rw [String.length_append]
      exact Nat.add_pos_right _ (by decide)
    exact ⟨p, hp, by simpa [hbefore, hafter, textLength] using hlength⟩
  have hsum := List.sum_lt_sum _ _ hle hlt
  rw [length_digestText, length_digestText, headTokens_without, placesBelow_without, List.map_map]
  exact Nat.add_lt_add_left hsum _

theorem digestText_without_iff :
    digestText { stopNodes := dropped } payload = digestText {} (payload.without dropped) ↔
      KeepsObjects dropped payload := by
  constructor
  · intro h
    by_contra hkeeps
    have hlt := length_lt_of_not_keepsObjects hkeeps
    rw [h] at hlt
    exact absurd hlt (lt_irrefl _)
  · exact digestText_of_keepsObjects

/-- Dropped keys behave as if they were removed if every object that is met keeps an entry, and
otherwise only if the two texts of tokens collide. -/
theorem fingerprint_without_iff (dropped : List String) (payload : Json) :
    fingerprint { stopNodes := dropped } payload = fingerprint {} (payload.without dropped) ↔
      KeepsObjects dropped payload ∨
        Collide (digestBytes { stopNodes := dropped } payload)
          (digestBytes {} (payload.without dropped)) := by
  rw [fingerprint_eq_iff, digestText_without_iff]

/-- Dropping all the entries of an object is not the same as removing them: here nothing is left
to describe, while removing them leaves an empty object. -/
theorem not_removes : ¬ ∀ dropped payload,
    fingerprint { stopNodes := dropped } payload = fingerprint {} (payload.without dropped) := by
  intro h
  have hemptied := h ["s"] (.object [("a", .object [("s", .int 1)])])
  revert hemptied
  decide +kernel

end Shape

end TypedGraph
