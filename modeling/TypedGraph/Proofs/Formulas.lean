import TypedGraph.Condition

/-!
# Conditions as formulas

A condition is the left-associated formula of its own comparison and its tagged parts: `OR`
joins a part to everything before it by disjunction and `AND` by conjunction, and each part is
a formula of the same kind. A formula holds or not by all of its comparisons. The evaluation
of a condition, which passes over parts that cannot change its result, agrees with it
(`evaluate_iff_formula`).
-/
namespace TypedGraph

/-- Disjunctions and conjunctions of comparisons of what paths reach, or fail to reach. -/
inductive Formula where
  | comparison (key : String) (operator : Operator) (value : Json)
  | or (left right : Formula)
  | and (left right : Formula)
deriving DecidableEq, Repr

/-- Whether a formula holds of a branch of a payload. -/
def Formula.Holds (payload : Json) (index : List Nat) : Formula → Prop
  | comparison key operator value =>
    Condition.compareValues operator (Path.resolve payload key index) value = true
  | or left right => left.Holds payload index ∨ right.Holds payload index
  | and left right => left.Holds payload index ∧ right.Holds payload index

/-- The formula that a connective makes of two. -/
def Connective.join : Connective → Formula → Formula → Formula
  | .or, left, right => .or left right
  | .and, left, right => .and left right

namespace Condition

mutual

/-- The formula that a condition means. -/
def formula : Condition → Formula
  | ⟨_, key, operator, value, parts⟩ => joinFormulas parts (.comparison key operator value)

/-- Joins the formulas of parts to what stands before them, from left to right. A part without
a connective is left out. -/
def joinFormulas : List Condition → Formula → Formula
  | [], left => left
  | part :: rest, left =>
    joinFormulas rest <| match part.connective with
      | some connective => connective.join left (formula part)
      | none => left

end

mutual

/-- A condition without the parts, at any depth, that have no connective. -/
def tagged : Condition → Condition
  | ⟨connective, key, operator, value, parts⟩ =>
    ⟨connective, key, operator, value, taggedParts parts⟩

def taggedParts : List Condition → List Condition
  | [] => []
  | part :: rest =>
    match part.connective with
    | some _ => tagged part :: taggedParts rest
    | none => taggedParts rest

end

/-- A condition with one more part behind the others. -/
def withPart (c part : Condition) : Condition := { c with parts := c.parts ++ [part] }

/-! ## Formulas -/

theorem joinFormulas_append (front back : List Condition) (left : Formula) :
    joinFormulas (front ++ back) left = joinFormulas back (joinFormulas front left) := by
  induction front generalizing left with
  | nil => simp only [List.nil_append, joinFormulas]
  | cons part front ih => simp only [List.cons_append, joinFormulas, ih]

/-- The last part is joined to the formula of all that stands before it. -/
theorem formula_withPart (c part : Condition) :
    (c.withPart part).formula = match part.connective with
      | some connective => connective.join c.formula part.formula
      | none => c.formula := by
  cases c
  simp only [withPart, formula, joinFormulas_append, joinFormulas]

@[simp] theorem connective_tagged (c : Condition) : c.tagged.connective = c.connective := by
  cases c
  rw [tagged]

@[simp] theorem key_tagged (c : Condition) : c.tagged.key = c.key := by
  cases c
  rw [tagged]

mutual

theorem formula_tagged (c : Condition) : c.tagged.formula = c.formula := by
  obtain ⟨_, key, operator, value, parts⟩ := c
  rw [tagged, formula, formula]
  exact joinFormulas_taggedParts parts _

theorem joinFormulas_taggedParts (parts : List Condition) (left : Formula) :
    joinFormulas (taggedParts parts) left = joinFormulas parts left := by
  cases parts with
  | nil => rfl
  | cons part rest =>
    cases hconnective : part.connective with
    | some connective =>
      simp only [taggedParts, joinFormulas, hconnective, connective_tagged, formula_tagged part]
      exact joinFormulas_taggedParts rest _
    | none =>
      simp only [taggedParts, joinFormulas, hconnective]
      exact joinFormulas_taggedParts rest left

end

/-! ## Evaluation -/

variable {payload : Json} {index : List Nat}

mutual

theorem evaluatePart_iff (c : Condition) :
    evaluatePart payload index c = true ↔ c.formula.Holds payload index := by
  obtain ⟨_, key, operator, value, parts⟩ := c
  rw [evaluatePart, formula]
  exact joinParts_iff parts Iff.rfl

/-- Parts that are passed over would not have changed the result. -/
theorem joinParts_iff (parts : List Condition) {result : Bool} {left : Formula}
    (h : result = true ↔ left.Holds payload index) :
    joinParts payload index parts result = true ↔
      (joinFormulas parts left).Holds payload index := by
  cases parts with
  | nil => simpa only [joinParts, joinFormulas] using h
  | cons part rest =>
    have hpart := evaluatePart_iff part
    rw [joinParts, joinFormulas]
    apply joinParts_iff rest
    cases part.connective with
    | none => exact h
    | some connective =>
      cases connective with
      | or =>
        change (if result then true else evaluatePart payload index part) = true ↔
          left.Holds payload index ∨ part.formula.Holds payload index
        rw [← h, ← hpart]
        cases result <;> simp
      | and =>
        change (if result then evaluatePart payload index part else false) = true ↔
          left.Holds payload index ∧ part.formula.Holds payload index
        rw [← h, ← hpart]
        cases result <;> simp

end

/-- A condition on the outside holds if its own key reaches something that counts as true and
its formula holds. -/
theorem evaluate_iff (c : Condition) :
    c.evaluate payload index = true ↔
      (∃ v, Path.resolve payload c.key index = some v ∧ v.isTruthy = true) ∧
        c.formula.Holds payload index := by
  rw [evaluate, ← evaluatePart_iff]
  cases Path.resolve payload c.key index <;> simp

/-- The formula of a condition begins with its own comparison and goes on with its parts, each
joined to all before it. A condition has the value of its formula if its key reaches something
that counts as true, and else it is false. Parts without a connective have no influence. One of
several conditions holds if one of them does, or there are none. -/
theorem evaluate_iff_formula (payload : Json) (index : List Nat) :
    (∀ key operator value,
      (simple key operator value).formula = .comparison key operator value) ∧
    (∀ c part : Condition, (c.withPart part).formula = match part.connective with
      | some connective => connective.join c.formula part.formula
      | none => c.formula) ∧
    (∀ c : Condition, c.evaluate payload index = true ↔
      (∃ v, Path.resolve payload c.key index = some v ∧ v.isTruthy = true) ∧
        c.formula.Holds payload index) ∧
    (∀ c : Condition, c.tagged.evaluate payload index = c.evaluate payload index) ∧
    ∀ conditions : List Condition, anyHolds conditions payload index = true ↔
      conditions = [] ∨ ∃ c ∈ conditions, c.evaluate payload index = true := by
  refine ⟨fun _ _ _ => rfl, formula_withPart, evaluate_iff, fun c => ?_, fun conditions => ?_⟩
  · rw [Bool.eq_iff_iff, evaluate_iff, evaluate_iff, key_tagged, formula_tagged]
  · simp only [anyHolds, Bool.or_eq_true, List.isEmpty_iff, List.any_eq_true]

example (a b c d : String) :
    ((((simple a .present .null).orElse (simple b .present .null)).withPart
      (simple c .present .null)).andAlso (simple d .present .null)).formula =
      .and (.or (.comparison a .present .null) (.comparison b .present .null))
        (.comparison d .present .null) := rfl

end Condition

end TypedGraph
