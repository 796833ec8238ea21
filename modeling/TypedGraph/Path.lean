import TypedGraph.Decimal.Reading
import TypedGraph.Json.Basic

/-!
# Paths into a payload

A path is a sequence of hops separated by dots. A hop is the key of an object, an
element of a list by its number, or the marker `[]`, which stands for "the current
element" of a list and takes the next number from an index vector. Marker and
number may also be glued to the key before them, as in `items[].sku` and
`items[2]`. Over a list a key that is no number stands for the marker.

A dot joins two paths (`hops_append_dot`), following both is following one after the
other (`follow_append`), and a longer index vector changes nothing that is reached
without its end (`follow_index_append`).
-/
namespace TypedGraph

/-- One hop of a path. -/
inductive Hop where
  | key (name : String)
  | element (i : Nat)
  | each
deriving DecidableEq, Repr

namespace Path

open Decimal

/-- A place in a list, as it is written. -/
def place? (cs : List Char) : Option Nat := boundedNatural? (Nat.pow 2 64) cs

/-- The parts of a text between its dots. -/
def splitDots : List Char → List (List Char)
  | [] => [[]]
  | c :: rest =>
    if c = '.' then [] :: splitDots rest
    else match splitDots rest with
      | part :: parts => (c :: part) :: parts
      | [] => [[c]]

theorem splitDots_ne_nil (cs : List Char) : splitDots cs ≠ [] := by
  cases cs with
  | nil => simp [splitDots]
  | cons c rest =>
    simp only [splitDots]
    split
    · simp
    · split <;> simp

@[simp] theorem splitDots_append_dot (front back : List Char) :
    splitDots (front ++ '.' :: back) = splitDots front ++ splitDots back := by
  induction front with
  | nil => simp [splitDots]
  | cons c rest ih =>
    simp only [List.cons_append, splitDots, ih]
    split
    · rfl
    · cases h : splitDots rest with
      | nil => exact absurd h (splitDots_ne_nil rest)
      | cons part parts => rfl

/-- The text in front of a glued marker. -/
def beforeMarker? (part : List Char) : Option (List Char) :=
  match part.reverse with
  | ']' :: '[' :: name => some name.reverse
  | _ => none

/-- The text in front of a glued number, and the number. The number stands between
the last opening bracket and a closing one at the end. -/
def beforeNumber? (part : List Char) : Option (List Char × Nat) :=
  match part.reverse with
  | ']' :: body =>
    match body.dropWhile (· != '[') with
    | '[' :: name => (place? (body.takeWhile (· != '[')).reverse).map fun i => (name.reverse, i)
    | _ => none
  | _ => none

/-- A key, unless it is empty. -/
def keyHop (name : List Char) : List Hop :=
  if name.isEmpty then [] else [.key (String.ofList name)]

/-- The hops of one part of a path. -/
def hopsOfPart (part : List Char) : List Hop :=
  match beforeMarker? part with
  | some name => keyHop name ++ [.each]
  | none =>
    match beforeNumber? part with
    | some (name, i) => keyHop name ++ [.element i]
    | none => keyHop part

/-- The hops of a path; empty parts are skipped. -/
def hopsOfChars (cs : List Char) : List Hop := (splitDots cs).flatMap hopsOfPart

def hops (path : String) : List Hop := hopsOfChars path.toList

/-- A dot joins two paths. -/
theorem hops_append_dot (front back : String) :
    hops (front ++ "." ++ back) = hops front ++ hops back := by
  simp [hops, hopsOfChars]

/-- The place that an index vector gives for the current element of a list. -/
def current? : List Nat → Option (Nat × List Nat)
  | i :: index => some (i, index)
  | [] => none

theorem current?_append {index left : List Nat} {i : Nat}
    (h : current? index = some (i, left)) (more : List Nat) :
    current? (index ++ more) = some (i, left ++ more) := by
  cases index with
  | nil => simp [current?] at h
  | cons j index => simp_all [current?]

/-- The place that a hop takes in a list, and what is left of the index vector. -/
def placeOf? (index : List Nat) : Hop → Option (Nat × List Nat)
  | .element i => some (i, index)
  | .key name => ((place? name.toList).map (·, index)).or (current? index)
  | .each => current? index

theorem placeOf?_append {hop : Hop} {index left : List Nat} {i : Nat}
    (h : placeOf? index hop = some (i, left)) (more : List Nat) :
    placeOf? (index ++ more) hop = some (i, left ++ more) := by
  cases hop with
  | element j => simp_all [placeOf?]
  | each => exact current?_append h more
  | key name =>
    simp only [placeOf?] at h ⊢
    cases hj : place? name.toList with
    | some j => simp_all
    | none => simpa using current?_append (by simpa [hj] using h) more

/-- Takes one hop: the value reached and what is left of the index vector. -/
def step (hop : Hop) : Json → List Nat → Option (Json × List Nat)
  | .array items, index => (placeOf? index hop).bind fun (i, left) => items[i]?.map (·, left)
  | .object entries, index =>
    match hop with
    | .key name => (Table.get? entries name).map (·, index)
    | .element _ | .each => none
  | _, _ => none

/-- A hop takes the same way however much of the index vector follows. -/
theorem step_append {hop : Hop} {value reached : Json} {index left : List Nat}
    (h : step hop value index = some (reached, left)) (more : List Nat) :
    step hop value (index ++ more) = some (reached, left ++ more) := by
  cases value with
  | array items =>
    simp only [step] at h ⊢
    obtain ⟨⟨i, rest⟩, hp, hi⟩ := Option.bind_eq_some_iff.1 h
    rw [placeOf?_append hp]
    simp_all
  | object entries => cases hop <;> simp_all [step]
  | _ => simp [step] at h

/-- Follows hops from a value. -/
def follow : List Hop → Json → List Nat → Option (Json × List Nat)
  | [], value, index => some (value, index)
  | hop :: hops, value, index => do
    let (value, index) ← step hop value index
    follow hops value index

theorem follow_append (front back : List Hop) (value : Json) (index : List Nat) :
    follow (front ++ back) value index =
      (follow front value index).bind fun (value, index) => follow back value index := by
  induction front generalizing value index with
  | nil => rfl
  | cons hop front ih =>
    simp only [List.cons_append, follow, bind]
    cases step hop value index with
    | none => rfl
    | some reached => exact ih ..

/-- What hops reach does not depend on what follows in the index vector. -/
theorem follow_index_append {hops : List Hop} {value reached : Json} {index left : List Nat}
    (h : follow hops value index = some (reached, left)) (more : List Nat) :
    follow hops value (index ++ more) = some (reached, left ++ more) := by
  induction hops generalizing value index with
  | nil => simp_all [follow]
  | cons hop hops ih =>
    simp only [follow, bind] at h ⊢
    obtain ⟨⟨v, ix⟩, hs, hf⟩ := Option.bind_eq_some_iff.1 h
    rw [step_append hs]
    exact ih hf

/-- The value that a path reaches with an index vector. -/
def resolve (payload : Json) (path : String) (index : List Nat) : Option Json :=
  (follow (hops path) payload index).map (·.1)

end Path

end TypedGraph
