import TypedGraph.Mapping.Error

/-!
# Branches of a payload

The root array of a transformation leads through nested lists, and every element of
the innermost lists is a branch. A branch is told by its places in the lists, from the
outermost to the innermost one. Where a level is no list, there is an error in place of
the branches below, and the other branches are not affected.
-/
namespace TypedGraph

/-- The branches of a payload, and the errors at the levels that are no lists. -/
structure Expansion where
  branches : List (List Nat) := []
  errors : List BranchError := []
deriving DecidableEq, Repr

namespace Expansion

/-- Expands the levels below the places `index`. -/
def below (payload : Json) : (levels : List String) → (index : List Nat) → Expansion
  | [], index => { branches := [index] }
  | path :: levels, index =>
    match Path.resolve payload path index with
    | some (.array items) =>
      let parts := (List.range items.length).map fun i => below payload levels (index ++ [i])
      { branches := parts.flatMap Expansion.branches, errors := parts.flatMap Expansion.errors }
    | _ => { errors := [⟨index, .malformedRootArray path index⟩] }

/-- A branch has one place for each level. -/
theorem length_of_mem_branches {payload : Json} {levels : List String} {index branch : List Nat}
    (h : branch ∈ (below payload levels index).branches) :
    branch.length = index.length + levels.length := by
  induction levels generalizing index with
  | nil => simp_all [below]
  | cons path levels ih =>
    simp only [below] at h
    split at h
    · simp only [List.mem_flatMap, List.mem_map] at h
      obtain ⟨_, ⟨i, _, rfl⟩, h⟩ := h
      simp only [ih h, List.length_append, List.length_cons, List.length_nil]
      omega
    · simp at h

/-- Expands all levels of a root array. -/
def ofLevels (payload : Json) (levels : List String) : Expansion := below payload levels []

end Expansion

end TypedGraph
