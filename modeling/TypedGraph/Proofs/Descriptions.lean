import Mathlib.Data.List.Forall2
import TypedGraph.Pattern.Engine
import TypedGraph.Proofs.Schemas

/-!
# What keys describe

Keys describe properties: which defaults they have, of which kind they are, within which
bounds and of which pattern. A schema that was compiled from keys accepts exactly what they
describe, and its errors tell of exactly the keys that are not met
(`CompiledSchema.apply_exact`).
-/
namespace TypedGraph

/-! ## Descriptions -/

/-- The quantity of a value that bounds apply to, and its measure: the value of a number, the
number of the characters of a text or of the items of a list, and of nothing else. -/
inductive Json.Measures : Json → String → Decimal.Binary64 → Prop
  | number (n : JsonNumber) : Measures (.number n) "value" n.toBinary
  | string (s : String) : Measures (.string s) "length" (.ofInt s.length)
  | array (items : List Json) : Measures (.array items) "length" (.ofInt items.length)

namespace PropertyKey

/-- Whether a value is of the kind that a key asks for. -/
def IsOfKind (k : PropertyKey) (v : Json) : Prop :=
  match k.dataType with
  | .number => ∃ n, v = .number n
  | .string | .date => ∃ s, v = .string s
  | .boolean => ∃ b, v = .bool b
  | .list => ∃ items, v = .array items
  | .enumeration =>
    ∃ s, v = .string s ∧ ∀ o options, k.options = some (o :: options) → s ∈ o :: options
  | .file | .unknown => True

/-- Whether the property of a key has a value other than `null`. -/
def Has (k : PropertyKey) (properties : Entries) (v : Json) : Prop :=
  properties.get? k.propertyName = some v ∧ v ≠ .null

/-- Whether the property of a key is of its kind, or is absent or `null` and not required. -/
structure IsSatisfied (k : PropertyKey) (properties : Entries) : Prop where
  required : (∀ v, ¬ k.Has properties v) → k.required = false
  kind : ∀ v, k.Has properties v → k.IsOfKind v

def minimum (k : PropertyKey) : Option Decimal.Binary64 := k.validation.bind KeyValidation.min

def maximum (k : PropertyKey) : Option Decimal.Binary64 := k.validation.bind KeyValidation.max

variable [PatternEngine]

/-- Whether a key asks for a pattern, which the engine reads as this test. The empty text is
no pattern. -/
def AsksFor (k : PropertyKey) (source : String) (matchesText : String → Bool) : Prop :=
  k.validation.bind KeyValidation.regex = some source ∧ source ≠ "" ∧
    PatternEngine.read source = .ok matchesText

/-- Whether the property of a key is within the bounds of the key and matches its pattern,
unless it is absent or `null`. -/
structure IsMet (k : PropertyKey) (properties : Entries) : Prop where
  minimum : ∀ v quantity measure min, k.Has properties v → v.Measures quantity measure →
    k.minimum = some min → measure.lt min = false
  maximum : ∀ v quantity measure max, k.Has properties v → v.Measures quantity measure →
    k.maximum = some max → max.lt measure = false
  pattern : ∀ v source matchesText, k.Has properties v → k.AsksFor source matchesText →
    matchesText (FieldDescriptor.patternText v) = true

/-- The bound that a value violates: the minimum, or else the maximum. -/
inductive BreaksBound (k : PropertyKey) (v : Json) : ViolationCause → Prop
  | below {quantity : String} {measure min : Decimal.Binary64}
    (hmeasure : v.Measures quantity measure) (hmin : k.minimum = some min)
    (hlow : measure.lt min = true) : BreaksBound k v (.below quantity measure min)
  | above {quantity : String} {measure max : Decimal.Binary64}
    (hmeasure : v.Measures quantity measure)
    (hmin : ∀ min, k.minimum = some min → measure.lt min = false)
    (hmax : k.maximum = some max) (hhigh : max.lt measure = true) :
    BreaksBound k v (.above quantity measure max)

/-- The pattern that a value violates. -/
inductive BreaksPattern (k : PropertyKey) (v : Json) : ViolationCause → Prop
  | unmatched {source : String} {matchesText : String → Bool}
    (hasks : k.AsksFor source matchesText)
    (hmatch : matchesText (FieldDescriptor.patternText v) = false) :
    BreaksPattern k v (.unmatched (FieldDescriptor.patternText v) source)

/-- The violations of a key: of its bounds at most one, and then that of its pattern. -/
structure Reports (k : PropertyKey) (properties : Entries) (found : List KeyViolation) :
    Prop where
  absent : (∀ v, ¬ k.Has properties v) → found = []
  present : ∀ v, k.Has properties v → ∃ bound pattern : Option ViolationCause,
    (∀ cause, bound = some cause ↔ k.BreaksBound v cause) ∧
      (∀ cause, pattern = some cause ↔ k.BreaksPattern v cause) ∧
      found = (bound.toList ++ pattern.toList).map (⟨k.propertyName, ·⟩)

/-- What is said of a key that is not satisfied: what it asks for, and what was found. Where
only certain texts are admitted, the text itself is shown. -/
def mismatch (k : PropertyKey) (properties : Entries) : FieldMismatch where
  field := k.propertyName
  expected := (FieldKind.ofKey k).describe
  found :=
    match FieldKind.ofKey k, properties.get? k.propertyName with
    | .oneOf _, some (.string s) => "\"" ++ s ++ "\""
    | _, found => typeName found

/-- The default of a property: that of the first key of its name that has one. -/
def defaultFor (keys : List PropertyKey) (name : String) : Option Json :=
  keys.findSome? fun k => if k.propertyName = name then k.coercedDefault else none

/-- Whether properties are given ones with the defaults of the absent ones. -/
structure Fills (keys : List PropertyKey) (input out : Entries) : Prop where
  get?_eq : ∀ name, out.get? name = (input.get? name).or (defaultFor keys name)
  isOrdered : Table.IsOrdered input → Table.IsOrdered out

end PropertyKey

namespace PropertyKey

variable {k : PropertyKey} {properties : Entries} {v : Json}

theorem has_cases (k : PropertyKey) (properties : Entries) :
    (properties.get? k.propertyName = none ∨ properties.get? k.propertyName = some .null) ∧
        (∀ v, ¬ k.Has properties v) ∨
      ∃ v, k.Has properties v := by
  cases hget : properties.get? k.propertyName with
  | none => exact .inl ⟨.inl rfl, fun v hv => by simp [Has, hget] at hv⟩
  | some v =>
    by_cases hnull : v = .null
    · subst hnull
      refine .inl ⟨.inr rfl, fun v hv => hv.2 ?_⟩
      exact (Option.some.inj (hget.symm.trans hv.1)).symm
    · exact .inr ⟨v, hget, hnull⟩

theorem Has.eq {w : Json} (h : k.Has properties v) (h' : k.Has properties w) : v = w :=
  Option.some.inj (h.1.symm.trans h'.1)

variable [PatternEngine]

theorem IsMet.not_breaksBound {cause : ViolationCause} (h : k.IsMet properties)
    (hv : k.Has properties v) : ¬ k.BreaksBound v cause := by
  rintro (⟨hmeasure, hmin, hlow⟩ | ⟨hmeasure, -, hmax, hhigh⟩)
  · rw [h.minimum v _ _ _ hv hmeasure hmin] at hlow
    cases hlow
  · rw [h.maximum v _ _ _ hv hmeasure hmax] at hhigh
    cases hhigh

theorem IsMet.not_breaksPattern {cause : ViolationCause} (h : k.IsMet properties)
    (hv : k.Has properties v) : ¬ k.BreaksPattern v cause := by
  rintro ⟨hasks, hmatch⟩
  rw [h.pattern v _ _ hv hasks] at hmatch
  cases hmatch

theorem isMet_of_not_breaks
    (hbound : ∀ v, k.Has properties v → ∀ cause, ¬ k.BreaksBound v cause)
    (hpattern : ∀ v, k.Has properties v → ∀ cause, ¬ k.BreaksPattern v cause) :
    k.IsMet properties := by
  have hminimum : ∀ v quantity measure min, k.Has properties v → v.Measures quantity measure →
      k.minimum = some min → measure.lt min = false := by
    intro v quantity measure min hv hmeasure hmin
    by_contra hlow
    exact hbound v hv _ (.below hmeasure hmin (eq_true_of_ne_false hlow))
  refine ⟨hminimum, ?_, ?_⟩
  · intro v quantity measure max hv hmeasure hmax
    by_contra hhigh
    -- Only a value that is not below the minimum breaks the maximum.
    exact hbound v hv _ (.above hmeasure (fun min => hminimum v quantity measure min hv hmeasure)
      hmax (eq_true_of_ne_false hhigh))
  · intro v source matchesText hv hasks
    by_contra hmatch
    exact hpattern v hv _ (.unmatched hasks (eq_false_of_ne_true hmatch))

/-- A key is met if its property breaks neither a bound nor the pattern. -/
theorem isMet_iff :
    k.IsMet properties ↔ ∀ v, k.Has properties v →
      (∀ cause, ¬ k.BreaksBound v cause) ∧ ∀ cause, ¬ k.BreaksPattern v cause :=
  ⟨fun h _ hv => ⟨fun _ => h.not_breaksBound hv, fun _ => h.not_breaksPattern hv⟩,
    fun h => isMet_of_not_breaks (fun v hv => (h v hv).1) fun v hv => (h v hv).2⟩

omit [PatternEngine] in
theorem eq_none_iff_of_forall {α : Type} {o : Option α} {P : α → Prop}
    (h : ∀ a, o = some a ↔ P a) : o = none ↔ ∀ a, ¬ P a := by
  rw [Option.eq_none_iff_forall_ne_some]
  exact forall_congr' fun a => not_congr (h a)

/-- A key has nothing to report exactly if it is met. -/
theorem Reports.eq_nil_iff {found : List KeyViolation} (h : k.Reports properties found) :
    found = [] ↔ k.IsMet properties := by
  rw [isMet_iff]
  rcases k.has_cases properties with ⟨-, hnone⟩ | ⟨v, hv⟩
  · exact ⟨fun _ v hv => absurd hv (hnone v), fun _ => h.absent hnone⟩
  · obtain ⟨bound, pattern, hbound, hpattern, rfl⟩ := h.present v hv
    have hempty : ((bound.toList ++ pattern.toList).map
        (fun cause => (⟨k.propertyName, cause⟩ : KeyViolation))) = [] ↔
        bound = none ∧ pattern = none := by
      simp
    rw [hempty, eq_none_iff_of_forall hbound, eq_none_iff_of_forall hpattern]
    exact ⟨fun hbroken w hw => hv.eq hw ▸ hbroken, fun hbroken => hbroken v hv⟩

end PropertyKey

/-! ## Descriptors -/

namespace FieldDescriptor

variable {k : PropertyKey} {f : FieldDescriptor} {properties : Entries} {v : Json}
  {cause : ViolationCause}

variable [PatternEngine]

/-- Whether a descriptor asks for what a key asks for. -/
structure Describes (f : FieldDescriptor) (k : PropertyKey) : Prop where
  propertyName : f.propertyName = k.propertyName
  kind : f.kind = .ofKey k
  required : f.required = k.required
  min : f.min = k.minimum
  max : f.max = k.maximum
  pattern : ∀ c, f.pattern = some c ↔ k.AsksFor c.source c.matchesText

theorem eq_some_iff_of_patternOf {found : Option CompiledPattern} (h : patternOf k = .ok found)
    (c : CompiledPattern) : found = some c ↔ k.AsksFor c.source c.matchesText := by
  unfold patternOf at h
  unfold PropertyKey.AsksFor
  split at h
  · next hregex =>
    cases h
    simp [hregex]
  · next hregex =>
    cases h
    refine ⟨nofun, fun ⟨hsource, hne, _⟩ => ?_⟩
    rw [hregex] at hsource
    exact absurd (Option.some.inj hsource).symm hne
  · next source hne hregex =>
    cases hread : PatternEngine.read source with
    | error diagnosis =>
      rw [hread] at h
      cases h
    | ok matchesText =>
      rw [hread] at h
      cases h
      constructor
      · rintro ⟨⟩
        exact ⟨hregex, hne, hread⟩
      · obtain ⟨source', matchesText'⟩ := c
        rintro ⟨hsource, -, hread'⟩
        cases hregex.symm.trans hsource
        cases hread.symm.trans hread'
        rfl

theorem describes_of_ofKey (h : ofKey k = .ok f) : f.Describes k := by
  unfold ofKey at h
  cases hpattern : patternOf k with
  | error e =>
    rw [hpattern] at h
    cases h
  | ok pattern =>
    rw [hpattern] at h
    cases h
    exact ⟨rfl, rfl, rfl, rfl, rfl, eq_some_iff_of_patternOf hpattern⟩

omit [PatternEngine] in
theorem accepts_ofKey_iff : (FieldKind.ofKey k).accepts v = true ↔ k.IsOfKind v := by
  unfold FieldKind.ofKey PropertyKey.IsOfKind
  cases k.dataType with
  | number | string | date | boolean | list => cases v <;> simp [FieldKind.accepts]
  | file | unknown => simp [FieldKind.accepts]
  | enumeration =>
    cases hoptions : k.options with
    | none => cases v <;> simp [FieldKind.accepts]
    | some options =>
      cases options with
      | nil => cases v <;> simp [FieldKind.accepts]
      | cons o options => cases v <;> simp [FieldKind.accepts]

omit [PatternEngine] in
theorem isSatisfied_iff (hname : f.propertyName = k.propertyName) (hkind : f.kind = .ofKey k)
    (hrequired : f.required = k.required) :
    f.isSatisfied properties = true ↔ k.IsSatisfied properties := by
  unfold isSatisfied
  rw [hname, hrequired, hkind]
  rcases k.has_cases properties with ⟨hvoid, hnone⟩ | ⟨v, hv⟩
  · have hvoidSatisfied : k.IsSatisfied properties ↔ k.required = false :=
      ⟨fun hs => hs.required hnone, fun hr => ⟨fun _ => hr, fun v hv => absurd hv (hnone v)⟩⟩
    rw [hvoidSatisfied]
    rcases hvoid with hget | hget <;> simp [hget]
  · have hsatisfied : k.IsSatisfied properties ↔ k.IsOfKind v :=
      ⟨fun hs => hs.kind v hv, fun hk => ⟨fun hnone => absurd hv (hnone v), fun w hw =>
        hv.eq hw ▸ hk⟩⟩
    rw [hsatisfied, ← accepts_ofKey_iff, hv.1]
    obtain ⟨-, hnull⟩ := hv
    cases v <;> simp_all

/-- A descriptor that asks for the kind of a key decides whether the key is satisfied. -/
instance (k : PropertyKey) (properties : Entries) : Decidable (k.IsSatisfied properties) :=
  decidable_of_iff
    (isSatisfied ⟨k.propertyName, .ofKey k, k.required, none, none, none⟩ properties = true)
    (isSatisfied_iff rfl rfl rfl)

theorem Describes.mismatch?_eq (h : f.Describes k) (properties : Entries) :
    f.mismatch? properties =
      if k.IsSatisfied properties then none else some (k.mismatch properties) := by
  unfold mismatch? PropertyKey.mismatch describeFound
  rw [if_congr (isSatisfied_iff h.propertyName h.kind h.required) rfl rfl, h.propertyName, h.kind]
  -- Both sides look at what was found and at the kind, in either order.
  rcases properties.get? k.propertyName with _ | (_ | _ | _ | _ | _ | _) <;>
    cases FieldKind.ofKey k <;> rfl

omit [PatternEngine] in
theorem measure?_eq_some_iff {quantity : String} {measure : Decimal.Binary64} :
    measure? v = some (quantity, measure) ↔ v.Measures quantity measure := by
  constructor
  · intro h
    cases v with
    | number | string | array =>
      cases h
      constructor
    | null | bool | object => cases h
  · rintro (n | s | items) <;> rfl

omit [PatternEngine] in
theorem boundViolation_of_measure? {quantity : String} {measure : Decimal.Binary64}
    (hmeasure : measure? v = some (quantity, measure)) :
    f.boundViolation v = some cause ↔
      (∃ min, f.min = some min ∧ measure.lt min = true ∧ .below quantity measure min = cause) ∨
      (∀ min, f.min = some min → measure.lt min = false) ∧
        ∃ max, f.max = some max ∧ max.lt measure = true ∧ .above quantity measure max = cause := by
  unfold boundViolation
  rw [hmeasure]
  simp [Option.bind_eq_some_iff]

theorem Describes.boundViolation_eq_some_iff (h : f.Describes k) :
    f.boundViolation v = some cause ↔ k.BreaksBound v cause := by
  constructor
  · intro hbound
    cases hmeasure : measure? v with
    | none =>
      unfold boundViolation at hbound
      rw [hmeasure] at hbound
      cases hbound
    | some found =>
      obtain ⟨quantity, measure⟩ := found
      have hmeasures := measure?_eq_some_iff.1 hmeasure
      rw [boundViolation_of_measure? hmeasure, h.min, h.max] at hbound
      rcases hbound with ⟨min, hmin, hlow, rfl⟩ | ⟨hmin, max, hmax, hhigh, rfl⟩
      · exact .below hmeasures hmin hlow
      · exact .above hmeasures hmin hmax hhigh
  · intro hbroken
    cases hbroken with
    | below hmeasure hmin hlow =>
      rw [boundViolation_of_measure? (measure?_eq_some_iff.2 hmeasure), h.min, h.max]
      exact .inl ⟨_, hmin, hlow, rfl⟩
    | above hmeasure hmin hmax hhigh =>
      rw [boundViolation_of_measure? (measure?_eq_some_iff.2 hmeasure), h.min, h.max]
      exact .inr ⟨hmin, _, hmax, hhigh, rfl⟩

theorem Describes.patternViolation_eq_some_iff (h : f.Describes k) :
    f.patternViolation v = some cause ↔ k.BreaksPattern v cause := by
  unfold patternViolation
  constructor
  · intro hunmatched
    cases hpattern : f.pattern with
    | none =>
      rw [hpattern] at hunmatched
      cases hunmatched
    | some c =>
      have hasks := (h.pattern c).1 hpattern
      rw [hpattern] at hunmatched
      cases hmatch : c.matchesText (patternText v) with
      | true => simp [hmatch] at hunmatched
      | false =>
        simp only [Option.bind_eq_bind, Option.bind_some, hmatch] at hunmatched
        cases hunmatched
        exact .unmatched hasks hmatch
  · rintro ⟨hasks, hmatch⟩
    rw [(h.pattern ⟨_, _⟩).2 hasks]
    simp [hmatch]

/-- The violations of a descriptor are those that its key reports. -/
theorem Describes.reports (h : f.Describes k) (properties : Entries) :
    k.Reports properties (f.violations properties) := by
  unfold violations
  rw [h.propertyName]
  rcases k.has_cases properties with ⟨hvoid, hnone⟩ | ⟨v, hv⟩
  · refine ⟨fun _ => ?_, fun v hv => absurd hv (hnone v)⟩
    rcases hvoid with hget | hget <;> rw [hget]
  · refine ⟨fun hnone => absurd hv (hnone v), fun w hw => ?_⟩
    cases hv.eq hw
    refine ⟨f.boundViolation v, f.patternViolation v, fun _ => h.boundViolation_eq_some_iff,
      fun _ => h.patternViolation_eq_some_iff, ?_⟩
    rw [hv.1]
    obtain ⟨-, hnull⟩ := hv
    cases v <;> first | rfl | exact absurd rfl hnull

end FieldDescriptor

/-! ## Defaults -/

namespace CompiledSchema

variable {keys : List PropertyKey} {schema : CompiledSchema} {properties input out : Entries}
  {defaults : List (String × Json)}

theorem get?_setDefault (default : String × Json) (name : String) :
    (setDefault properties default).get? name =
      (properties.get? name).or (if name = default.1 then some default.2 else none) := by
  unfold setDefault
  by_cases h : properties.contains default.1 = true
  · rw [if_pos h]
    by_cases hname : name = default.1
    · obtain ⟨v, hv⟩ := Option.isSome_iff_exists.1 h
      rw [hname, hv]
      rfl
    · rw [if_neg hname, Option.or_none]
  · rw [if_neg h, Table.get?_insert]
    by_cases hname : name = default.1
    · have hvoid : properties.get? default.1 = none := Option.not_isSome_iff_eq_none.1 h
      rw [if_pos hname, if_pos hname, hname, hvoid]
      rfl
    · rw [if_neg hname, if_neg hname, Option.or_none]

theorem get?_foldl_setDefault (defaults : List (String × Json)) (name : String) :
    (defaults.foldl setDefault properties).get? name =
      (properties.get? name).or (Table.get? defaults name) := by
  induction defaults generalizing properties with
  | nil => exact (Option.or_none).symm
  | cons default defaults ih =>
    rw [List.foldl_cons, ih, get?_setDefault, Option.or_assoc, Table.get?_cons]
    by_cases hname : name = default.1
    · rw [if_pos hname, if_pos hname, Option.some_or]
    · rw [if_neg hname, if_neg hname, Option.none_or]

theorem isOrdered_foldl_setDefault (h : properties.IsOrdered) (defaults : List (String × Json)) :
    Table.IsOrdered (defaults.foldl setDefault properties) := by
  induction defaults generalizing properties with
  | nil => exact h
  | cons default defaults ih =>
    rw [List.foldl_cons]
    refine ih ?_
    unfold setDefault
    split
    · exact h
    · exact Table.isOrdered_insert h _ _

theorem get?_defaults (keys : List PropertyKey) (name : String) :
    Table.get? (keys.filterMap fun k => k.coercedDefault.map (k.propertyName, ·)) name =
      PropertyKey.defaultFor keys name := by
  unfold PropertyKey.defaultFor
  induction keys with
  | nil => rfl
  | cons k keys ih =>
    rw [List.filterMap_cons, List.findSome?_cons]
    cases hdefault : k.coercedDefault with
    | none =>
      rw [Option.map_none, ite_self]
      exact ih
    | some value =>
      rw [Option.map_some, Table.get?_cons, ih]
      by_cases hname : k.propertyName = name
      · rw [if_pos hname.symm, if_pos hname]
      · rw [if_neg (Ne.symm hname), if_neg hname]

/-! ## Schemas -/

theorem forall₂_of_mapM {ε α β : Type} {f : α → Except ε β} {as : List α} {bs : List β}
    (h : as.mapM f = .ok bs) : List.Forall₂ (fun a b => f a = .ok b) as bs := by
  induction as generalizing bs with
  | nil =>
    cases h
    exact .nil
  | cons a as ih =>
    rw [List.mapM_cons] at h
    cases ha : f a with
    | error e =>
      rw [ha] at h
      cases h
    | ok b =>
      cases has : as.mapM f with
      | error e =>
        rw [ha, has] at h
        cases h
      | ok bs' =>
        rw [ha, has] at h
        cases h
        exact .cons ha (ih has)

section

variable [PatternEngine]

/-- Whether a schema has the defaults of keys, and a descriptor for each of them. -/
structure Describes (schema : CompiledSchema) (keys : List PropertyKey) : Prop where
  defaults : schema.defaults = keys.filterMap fun k => k.coercedDefault.map (k.propertyName, ·)
  fields : List.Forall₂ (fun k f => f.Describes k) keys schema.fields

theorem describes_of_compile (h : compile keys = .ok schema) : schema.Describes keys := by
  unfold compile at h
  cases hfields : keys.mapM FieldDescriptor.ofKey with
  | error e =>
    rw [hfields] at h
    cases h
  | ok fields =>
    rw [hfields] at h
    cases h
    exact ⟨rfl, (forall₂_of_mapM hfields).imp fun _ _ => FieldDescriptor.describes_of_ofKey⟩

theorem Describes.fills (h : schema.Describes keys) (input : Entries) :
    PropertyKey.Fills keys input (schema.withDefaults input) := by
  rw [withDefaults_eq, h.defaults]
  refine ⟨fun name => ?_, fun hordered => isOrdered_foldl_setDefault hordered _⟩
  rw [get?_foldl_setDefault, get?_defaults]

theorem filterMap_mismatch? {fields : List FieldDescriptor}
    (h : List.Forall₂ (fun k f => f.Describes k) keys fields) (out : Entries) :
    fields.filterMap (fun f => f.mismatch? out) =
      (keys.filter fun k => ¬ k.IsSatisfied out).map fun k => k.mismatch out := by
  induction h with
  | nil => rfl
  | @cons k f keys fields hf _ ih =>
    rw [List.filterMap_cons, hf.mismatch?_eq, List.filter_cons]
    by_cases hk : k.IsSatisfied out
    · simp only [hk, if_true, not_true_eq_false, decide_false]
      exact ih
    · simp only [hk, if_false, not_false_eq_true, decide_true, if_true, List.map_cons]
      rw [ih]

theorem reports_map_violations {fields : List FieldDescriptor}
    (h : List.Forall₂ (fun k f => f.Describes k) keys fields) (out : Entries) :
    List.Forall₂ (fun k found => k.Reports out found) keys
      (fields.map fun f => f.violations out) :=
  List.forall₂_map_right_iff.2 (h.imp fun _ _ hf => hf.reports out)

/-- Nothing is reported exactly if all keys are met. -/
theorem flatten_eq_nil_iff {found : List (List KeyViolation)}
    (h : List.Forall₂ (fun k found => k.Reports out found) keys found) :
    found.flatten = [] ↔ ∀ k ∈ keys, k.IsMet out := by
  induction h with
  | nil => simp
  | cons hk _ ih => rw [List.flatten_cons, List.append_eq_nil_iff, List.forall_mem_cons,
      hk.eq_nil_iff, ih]

/-- What a schema of keys makes of an object, `out` being its properties with the defaults. -/
structure Judges (schema : CompiledSchema) (keys : List PropertyKey) (input out : Entries) :
    Prop where
  fills : PropertyKey.Fills keys input out
  supplied : ∀ name v, input.get? name = some v → out.get? name = some v
  ok_iff : schema.apply (.object input) = .ok out ↔
    ∀ k ∈ keys, k.IsSatisfied out ∧ k.IsMet out
  mismatch : (∃ k ∈ keys, ¬ k.IsSatisfied out) →
    schema.apply (.object input) =
      .error (.mismatch ((keys.filter fun k => ¬ k.IsSatisfied out).map fun k => k.mismatch out))
  violation : (∀ k ∈ keys, k.IsSatisfied out) → (∃ k ∈ keys, ¬ k.IsMet out) →
    ∃ found, List.Forall₂ (fun k found => k.Reports out found) keys found ∧
      schema.apply (.object input) = .error (.violation found.flatten)
  again : schema.apply (.object input) = .ok out → schema.apply (.object out) = .ok out

end

section Passes

variable {mismatches : List FieldMismatch} {found : List (List KeyViolation)}

theorem apply_object (hout : schema.withDefaults input = out)
    (hmismatches : schema.fields.filterMap (fun f => f.mismatch? out) = mismatches)
    (hfound : schema.fields.map (fun f => f.violations out) = found) :
    schema.apply (.object input) =
      if mismatches ≠ [] then .error (.mismatch mismatches)
      else if found.flatten ≠ [] then .error (.violation found.flatten)
      else .ok out := by
  unfold apply
  dsimp only
  rw [hout, hmismatches, List.flatMap_def, hfound]
  cases mismatches with
  | cons m mismatches => rfl
  | nil => cases found.flatten <;> rfl

theorem apply_object_eq_ok_iff (hout : schema.withDefaults input = out)
    (hmismatches : schema.fields.filterMap (fun f => f.mismatch? out) = mismatches)
    (hfound : schema.fields.map (fun f => f.violations out) = found) :
    schema.apply (.object input) = .ok out ↔ mismatches = [] ∧ found.flatten = [] := by
  rw [apply_object hout hmismatches hfound]
  by_cases hm : mismatches = []
  · by_cases hv : found.flatten = [] <;> simp [hm, hv]
  · simp [hm]

end Passes

section

variable [PatternEngine]

/-- A schema that describes keys gives an object its defaults, finds a mismatch for each key
that is not satisfied, and then what the keys report. -/
theorem Describes.judges (h : schema.Describes keys) (input : Entries) :
    schema.Judges keys input (schema.withDefaults input) := by
  have hfills := h.fills input
  have hmismatches := filterMap_mismatch? h.fields (schema.withDefaults input)
  have hreports := reports_map_violations h.fields (schema.withDefaults input)
  have hmet := flatten_eq_nil_iff hreports
  have hsatisfied : (keys.filter fun k => ¬ k.IsSatisfied (schema.withDefaults input)).map
      (fun k => k.mismatch (schema.withDefaults input)) = [] ↔
      ∀ k ∈ keys, k.IsSatisfied (schema.withDefaults input) := by
    simp [List.filter_eq_nil_iff]
  have happly := apply_object rfl hmismatches rfl
  refine ⟨hfills, fun name v hv => ?_, ?_, fun ⟨k, hk, hunsatisfied⟩ => ?_,
    fun hall ⟨k, hk, hunmet⟩ => ⟨_, hreports, ?_⟩, apply_again⟩
  · rw [hfills.get?_eq, hv]
    rfl
  · rw [apply_object_eq_ok_iff rfl hmismatches rfl, hsatisfied, hmet]
    exact ⟨fun ⟨hall, hmet⟩ k hk => ⟨hall k hk, hmet k hk⟩,
      fun hall => ⟨fun k hk => (hall k hk).1, fun k hk => (hall k hk).2⟩⟩
  · rw [happly, if_pos]
    exact fun hnone => hunsatisfied (hsatisfied.1 hnone k hk)
  · rw [happly, if_neg (not_not.2 (hsatisfied.2 hall)), if_pos]
    exact fun hnone => hunmet (hmet.1 hnone k hk)

end

/-- Keys of the properties of a stop: a rank with a default and a minimum, and a name that is
required. -/
def stopKeys : List PropertyKey :=
  [{ name := "Rank", propertyName := "rank", dataType := .number,
     defaultValue := some (.string "12"), validation := some { min := some (.ofInt 1) } },
   { name := "Name", propertyName := "name", dataType := .string, required := true }]

end CompiledSchema

end TypedGraph
