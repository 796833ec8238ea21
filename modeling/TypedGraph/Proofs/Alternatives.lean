import TypedGraph.Proofs.Formulas

/-!
# Alternatives of a condition

`orElse` and `andAlso` put one more part behind a condition. For the parts of a condition they
are disjunction and conjunction. For a condition on the outside they are so behind a gate: its
own key has to reach something that counts as true (`IsOpen`), and a condition whose gate is
closed is false whatever stands behind it. So an alternative is passed over exactly where the
gate is closed (`evaluate_orElse_iff_of_gate`).
-/
namespace TypedGraph.Condition

/-- The key of a condition reaches something that counts as true. -/
def IsOpen (c : Condition) (payload : Json) (index : List Nat) : Prop :=
  ∃ v, Path.resolve payload c.key index = some v ∧ v.isTruthy = true

variable {payload : Json} {index : List Nat}

theorem isOpen_congr {c d : Condition} (h : c.key = d.key) :
    c.IsOpen payload index ↔ d.IsOpen payload index := by
  simp only [IsOpen, h]

@[simp] theorem isOpen_orElse (c part : Condition) :
    (c.orElse part).IsOpen payload index ↔ c.IsOpen payload index :=
  isOpen_congr rfl

@[simp] theorem isOpen_andAlso (c part : Condition) :
    (c.andAlso part).IsOpen payload index ↔ c.IsOpen payload index :=
  isOpen_congr rfl

/-- The gate, and then the value that the condition has as a part. -/
theorem evaluate_iff_isOpen (c : Condition) :
    c.evaluate payload index = true ↔
      c.IsOpen payload index ∧ evaluatePart payload index c = true := by
  rw [evaluate_iff, evaluatePart_iff, IsOpen]

theorem evaluate_andAlso (c part : Condition) :
    (c.andAlso part).evaluate payload index = true ↔
      c.evaluate payload index = true ∧ evaluatePart payload index part = true := by
  simp only [evaluate_iff_isOpen, isOpen_andAlso, evaluatePart_andAlso, Bool.and_eq_true,
    and_assoc]

theorem evaluate_orElse (c part : Condition) :
    (c.orElse part).evaluate payload index = true ↔
      c.evaluate payload index = true ∨
        c.IsOpen payload index ∧ evaluatePart payload index part = true := by
  simp only [evaluate_iff_isOpen, isOpen_orElse, evaluatePart_orElse, Bool.or_eq_true,
    and_or_left]

/-! ## Many alternatives -/

/-- A condition with alternatives behind it, one after the other. -/
def orElseAll (c : Condition) (alternatives : List Condition) : Condition :=
  alternatives.foldl orElse c

/-- Each alternative is joined to all before it, so that the first is one more way for the
condition that the others follow. -/
theorem evaluate_orElseAll (c : Condition) (alternatives : List Condition) :
    (c.orElseAll alternatives).evaluate payload index = true ↔
      c.evaluate payload index = true ∨
        c.IsOpen payload index ∧ ∃ part ∈ alternatives, evaluatePart payload index part = true := by
  induction alternatives generalizing c with
  | nil => simp [orElseAll]
  | cons part rest ih =>
    have hrest := ih (c.orElse part)
    rw [isOpen_orElse, evaluate_orElse] at hrest
    show ((c.orElse part).orElseAll rest).evaluate payload index = true ↔ _
    rw [hrest, or_assoc, ← and_or_left]
    simp only [List.mem_cons, exists_eq_or_imp]

/-- Whatever stands behind a closed gate is without influence. -/
theorem isOpen_of_evaluate {c : Condition} {parts : List Condition}
    (h : { c with parts := parts }.evaluate payload index = true) : c.IsOpen payload index :=
  (isOpen_congr rfl).1 ((evaluate_iff_isOpen _).1 h).1

/-- A part that every payload meets. -/
def always : Condition :=
  (simple "" .present .null).orElse (simple "" .notEqual .null)

theorem evaluatePart_always : evaluatePart payload index always = true := by
  rw [always, evaluatePart_orElse]
  cases hreached : Path.resolve payload "" index <;>
    simp [simple, evaluatePart, joinParts, compareValues, hreached]

/-- An open gate is one that some alternative makes use of. -/
theorem isOpen_iff_exists_orElse (c : Condition) :
    c.IsOpen payload index ↔ ∃ part, (c.orElse part).evaluate payload index = true := by
  constructor
  · intro hopen
    exact ⟨always, (evaluate_orElse c always).2 (.inr ⟨hopen, evaluatePart_always⟩)⟩
  · rintro ⟨part, hpart⟩
    exact isOpen_of_evaluate hpart

/-- A condition with one more part joined by "and" has the conjunction of the two values, and
with alternatives joined by "or" it holds if it did before, or if its own key reaches something
that counts as true and one of the alternatives holds as a part. Where the key reaches no such
thing, and only there, the condition is false with whatever parts it has, and so every
alternative is passed over. As a part of another condition, no condition has a gate. -/
theorem evaluate_orElse_iff_of_gate (c : Condition) (payload : Json) (index : List Nat) :
    (∀ part, (c.andAlso part).evaluate payload index = true ↔
      c.evaluate payload index = true ∧ evaluatePart payload index part = true) ∧
    (∀ part, (c.orElse part).evaluate payload index = true ↔
      c.evaluate payload index = true ∨
        c.IsOpen payload index ∧ evaluatePart payload index part = true) ∧
    (∀ alternatives, (c.orElseAll alternatives).evaluate payload index = true ↔
      c.evaluate payload index = true ∨
        c.IsOpen payload index ∧
          ∃ part ∈ alternatives, evaluatePart payload index part = true) ∧
    (c.IsOpen payload index ↔ ∃ part, (c.orElse part).evaluate payload index = true) ∧
    (c.IsOpen payload index ↔ ∃ parts, { c with parts := parts }.evaluate payload index = true) ∧
    ∀ part, evaluatePart payload index (c.orElse part) =
        (evaluatePart payload index c || evaluatePart payload index part) ∧
      evaluatePart payload index (c.andAlso part) =
        (evaluatePart payload index c && evaluatePart payload index part) := by
  have hgate : c.IsOpen payload index ↔ ∃ part, (c.orElse part).evaluate payload index = true :=
    isOpen_iff_exists_orElse c
  have hparts : c.IsOpen payload index ↔
      ∃ parts, { c with parts := parts }.evaluate payload index = true := by
    constructor
    · intro hopen
      obtain ⟨part, hpart⟩ := hgate.1 hopen
      exact ⟨_, hpart⟩
    · rintro ⟨parts, h⟩
      exact isOpen_of_evaluate h
  exact ⟨evaluate_andAlso c, evaluate_orElse c, evaluate_orElseAll c, hgate, hparts,
    fun part => ⟨evaluatePart_orElse payload index c part,
      evaluatePart_andAlso payload index c part⟩⟩

/-- An alternative that holds does not open the gate: the key `a` reaches nothing in this
payload, and the part behind it holds. -/
theorem not_evaluate_orElse_of_part :
    ¬ ∀ (c part : Condition) (payload : Json) (index : List Nat),
      c.evaluate payload index = true ∨ evaluatePart payload index part = true →
        (c.orElse part).evaluate payload index = true := by
  intro h
  have hvalue := h (simple "a" .equal (.number (.int 1))) (simple "b" .equal (.number (.int 1)))
    (.object [("b", .number (.int 1))]) [] (.inr (by decide +kernel))
  exact absurd hvalue (by decide +kernel)

end TypedGraph.Condition
