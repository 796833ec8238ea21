import TypedGraph.Schema

/-!
# Applying schemas again

A schema is applied to the properties that it has filled with its defaults. Filling them
once more changes nothing, since every property with a default is there by then. So what
a schema returns it returns again for what it has returned (`CompiledSchema.apply_again`).
-/
namespace TypedGraph

namespace Table

variable {α : Type} {t : Table α} {key name : String} {value : α}

theorem contains_insert_self : (t.insert key value).contains key = true := by
  simp [contains, get?_insert]

theorem contains_insert (h : t.contains name = true) :
    (t.insert key value).contains name = true := by
  unfold contains at h ⊢
  rw [get?_insert]
  split
  · rfl
  · exact h

end Table

namespace CompiledSchema

/-- Sets a default where there is no value. -/
def setDefault (properties : Entries) (default : String × Json) : Entries :=
  if properties.contains default.1 then properties else properties.insert default.1 default.2

theorem withDefaults_eq (schema : CompiledSchema) (properties : Entries) :
    schema.withDefaults properties = schema.defaults.foldl setDefault properties := rfl

variable {properties : Entries} {defaults : List (String × Json)} {name : String}

theorem contains_setDefault (default : String × Json) :
    (setDefault properties default).contains default.1 = true := by
  unfold setDefault
  by_cases h : properties.contains default.1 = true
  · rw [if_pos h]
    exact h
  · rw [if_neg h]
    exact Table.contains_insert_self

theorem contains_setDefault_of_contains (h : properties.contains name = true)
    (default : String × Json) : (setDefault properties default).contains name = true := by
  unfold setDefault
  split
  · exact h
  · exact Table.contains_insert h

theorem contains_foldl_of_contains (h : properties.contains name = true) :
    (defaults.foldl setDefault properties).contains name = true := by
  induction defaults generalizing properties with
  | nil => exact h
  | cons default defaults ih => exact ih (contains_setDefault_of_contains h default)

/-- A property with a default has a value once the defaults are set. -/
theorem contains_foldl {default : String × Json} (hmem : default ∈ defaults) :
    (defaults.foldl setDefault properties).contains default.1 = true := by
  induction defaults generalizing properties with
  | nil => simp at hmem
  | cons first defaults ih =>
    rw [List.foldl_cons]
    rcases List.mem_cons.1 hmem with rfl | hmem
    · exact contains_foldl_of_contains (contains_setDefault default)
    · exact ih hmem

/-- Where every property with a default has a value, no default is set. -/
theorem foldl_setDefault_eq (h : ∀ default ∈ defaults, properties.contains default.1 = true) :
    defaults.foldl setDefault properties = properties := by
  induction defaults with
  | nil => rfl
  | cons first defaults ih =>
    have hfirst : setDefault properties first = properties := if_pos (h first (by simp))
    rw [List.foldl_cons, hfirst]
    exact ih fun default hmem => h default (by simp [hmem])

variable {schema : CompiledSchema} {p q : Entries}

theorem withDefaults_withDefaults (schema : CompiledSchema) (p : Entries) :
    schema.withDefaults (schema.withDefaults p) = schema.withDefaults p := by
  rw [withDefaults_eq schema (schema.withDefaults p)]
  exact foldl_setDefault_eq fun default hmem => contains_foldl hmem

theorem withDefaults_of_apply (h : schema.apply (.object p) = .ok q) :
    schema.withDefaults p = q := by
  unfold apply at h
  dsimp only at h
  split at h
  · contradiction
  · split at h
    · contradiction
    · exact Except.ok.inj h

/-- What a schema returns it returns for itself. -/
theorem apply_again (h : schema.apply (.object p) = .ok q) : schema.apply (.object q) = .ok q := by
  have hq := withDefaults_of_apply h
  have hsame : schema.apply (.object q) = schema.apply (.object p) := by
    simp only [apply]
    rw [← hq, withDefaults_withDefaults]
  rw [hsame, h]

end CompiledSchema

end TypedGraph
