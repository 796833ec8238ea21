import TypedGraph.Ingest.Ends
import TypedGraph.Proofs.Calls
import TypedGraph.Proofs.RunningText

/-!
# Nodes selected by a property

A filter compares properties in running text. So it selects the nodes whose property is taken for
the value of the filter there, which is not the same as to be equal to it, and neither are the
nodes that are found by the parameters of an end of an edge (`NodeFilter.selects_by_property`).
-/
namespace TypedGraph

open Access

/-- Whether a node has a property that is taken for a value in running text. -/
def Node.Shows (n : Node) (name : String) (value : Json) : Prop :=
  ∃ found, n.properties.get? name = some found ∧ found.ReadsAs value

theorem NodeCondition.holds_property {n : Node} {name : String} {value : Json} :
    (NodeCondition.property name value).holds n = true ↔ n.Shows name value := by
  simp only [holds, Node.Shows, ← Json.display_eq_iff]
  cases n.properties.get? name <;> simp

theorem NodeFilter.selects_iff {f : NodeFilter} {n : Node} : f.selects n = true ↔
    n.archived = false ∧ n.containerId = f.containerId ∧ ∀ c ∈ f.conditions, c.holds n = true := by
  simp [selects, and_assoc]

namespace Ingest

variable {o : Ontology} {outage : Outage} {containerId : String}

/-- Whether a node has the property that a parameter asks for. -/
def IsMetBy (p : ConnectionParameter) (n : Node) : Prop :=
  ∃ name value, p.property = some name ∧ p.value = some value ∧ value ≠ .null ∧ n.Shows name value

theorem returns_parameterCondition (p : ConnectionParameter) :
    Returns (parameterCondition o containerId p) fun r => p.kind = .property →
      ∀ condition, r = some condition → ∀ n, condition.holds n = true → IsMetBy p n := by
  by_cases hkind : p.kind = .property
  · unfold parameterCondition
    split
    · exact .pure nofun
    · exact .pure nofun
    · rename_i value hnull hvalue
      rw [hkind]
      refine .pure fun _ condition hcondition n hholds => ?_
      obtain ⟨name, hname, rfl⟩ := Option.map_eq_some_iff.1 hcondition
      exact ⟨name, value, hname, hvalue, hnull, NodeCondition.holds_property.1 hholds⟩
  · exact fun _ _ _ _ hproperty => absurd hproperty hkind

theorem returns_parameterConditions (ps : List ConnectionParameter) :
    Returns (parameterConditions o containerId ps) fun r => ∀ conditions, r = some conditions →
      ∀ n : Node, (∀ c ∈ conditions, c.holds n = true) →
        ∀ p ∈ ps, p.kind = .property → IsMetBy p n := by
  induction ps with
  | nil => exact .pure (by simp)
  | cons p ps ih =>
    refine (returns_parameterCondition p).bind fun first hfirst => ?_
    cases first with
    | none => exact .pure nofun
    | some condition =>
      refine ih.bind fun rest hrest => .pure fun conditions hconditions n hholds => ?_
      obtain ⟨conditions, rfl, rfl⟩ := Option.map_eq_some_iff.1 hconditions
      rw [List.forall_mem_cons] at hholds ⊢
      exact ⟨fun hkind => hfirst hkind condition rfl n hholds.1, hrest conditions rfl n hholds.2⟩

theorem returns_findNodes (f : NodeFilter) :
    Returns (Transaction.findNodes outage f) fun found => ∀ n ∈ found, f.selects n = true := by
  refine Returns.call fun t found t' hrun => ?_
  cases hrun
  exact fun n hn => (List.mem_filter.1 hn).2

theorem returns_findMatchingNodes (ps : List ConnectionParameter) :
    Returns (findMatchingNodes o outage containerId ps) fun found => ∀ n ∈ found,
      n.archived = false ∧ n.containerId = containerId ∧
        ∀ p ∈ ps, p.kind = .property → IsMetBy p n := by
  refine (returns_parameterConditions ps).bind fun conditions hconditions => ?_
  cases conditions with
  | none => exact .pure (by simp)
  | some conditions =>
    refine (returns_findNodes _).outcome.bind fun r hr => ?_
    cases r with
    | error cause => exact .throw
    | ok found =>
      refine .pure fun n hn => ?_
      obtain ⟨hlive, hcontainer, hholds⟩ := NodeFilter.selects_iff.1 (hr found rfl n hn)
      exact ⟨hlive, hcontainer, hconditions conditions rfl n hholds⟩

end Ingest

/-- A filter with a condition on a property selects the live nodes of its container whose property
is taken for the value in running text. Where the ends of an edge are found by parameters, the
property that a parameter asks for is taken for its value, and that is not `null`. -/
theorem NodeFilter.selects_by_property (containerId : String) :
    (∀ name value n, ({ containerId, conditions := [.property name value] } : NodeFilter).selects n =
        true ↔ n.archived = false ∧ n.containerId = containerId ∧ n.Shows name value) ∧
      ∀ o outage ps, Returns (Ingest.findMatchingNodes o outage containerId ps) fun found =>
        ∀ n ∈ found, n.archived = false ∧ n.containerId = containerId ∧
          ∀ p ∈ ps, p.kind = .property → Ingest.IsMetBy p n := by
  refine ⟨fun name value n => ?_, fun o outage ps => Ingest.returns_findMatchingNodes ps⟩
  rw [selects_iff, List.forall_mem_singleton, NodeCondition.holds_property]

/-- A stop with its equipment, an object. -/
def equippedStop : Node :=
  { containerId := "city", metatypeId := "stop",
    properties := [("equipment", .object [("benches", .int 2)])] }

/-- Selected by a property are also nodes with another object. -/
theorem NodeFilter.not_selects_by_property :
    ¬ ∀ containerId name value n,
      ({ containerId, conditions := [.property name value] } : NodeFilter).selects n = true →
        ∃ found, n.properties.get? name = some found ∧
          (found = value ∨ found.IsScalar ∧ value.IsScalar ∧ found.display = value.display) := by
  intro h
  obtain ⟨found, hfound, hcases⟩ :=
    h "city" "equipment" (.object [("shelter", .bool true)]) equippedStop (by decide)
  cases hfound
  rcases hcases with heq | ⟨hscalar, -⟩
  · simp at heq
  · cases hscalar

end TypedGraph
