import Mathlib.Data.List.Nodup
import Mathlib.Data.List.Perm.Basic
import TypedGraph.Pattern.Engine
import TypedGraph.Proofs.Descriptions

/-!
# Keys in another order

Keys may share a property, and where it is absent it takes the default of the first of them that
has one. So their order matters where they have different defaults for an absent property, and
some choice of the defaults is accepted; and it matters nowhere else
(`CompiledSchema.ignoresOrder_iff`).
-/
namespace TypedGraph

namespace Table

variable {α : Type}

/-- The values of two keys may be set in either order. -/
theorem insert_comm {key other : String} (h : key ≠ other) (t : Table α) (v w : α) :
    (t.insert key v).insert other w = (t.insert other w).insert key v := by
  induction t with
  | nil =>
    simp only [insert]
    grind [String.lt_asymm, String.not_lt, String.le_antisymm]
  | cons row t ih =>
    -- Each key stands before the row, at it or behind it.
    simp only [insert]
    grind [insert, String.lt_asymm, String.lt_trans, String.not_lt, String.le_antisymm]

theorem contains_insert_of_ne {t : Table α} {key other : String} {v : α} (h : other ≠ key) :
    (t.insert key v).contains other = t.contains other := by
  unfold contains
  rw [get?_insert, if_neg h]

end Table

namespace PropertyKey

variable {keys keys' : List PropertyKey} {k : PropertyKey} {input out p q : Entries}
  {name : String} {v : Json}

/-- Whether keys have different defaults for a property that is absent. -/
def HaveRivals (keys : List PropertyKey) (input : Entries) : Prop :=
  ∃ k ∈ keys, ∃ l ∈ keys, k.propertyName = l.propertyName ∧ input.get? k.propertyName = none ∧
    ∃ v w, k.coercedDefault = some v ∧ l.coercedDefault = some w ∧ v ≠ w

/-- Whether properties are given ones together with one of the defaults of each absent one that
has any. -/
structure MayFill (keys : List PropertyKey) (input out : Entries) : Prop where
  given : ∀ name v, input.get? name = some v → out.get? name = some v
  default : ∀ name v, input.get? name = none → out.get? name = some v →
    ∃ k ∈ keys, k.propertyName = name ∧ k.coercedDefault = some v
  complete : ∀ k ∈ keys, out.get? k.propertyName = none → k.coercedDefault = none

section

variable [PatternEngine]

/-- Whether properties are accepted with some choice of the defaults. -/
def CanAccept (keys : List PropertyKey) (input : Entries) : Prop :=
  ∃ out, MayFill keys input out ∧ ∀ k ∈ keys, k.IsSatisfied out ∧ k.IsMet out

theorem CanAccept.perm (h : CanAccept keys' input) (hperm : keys'.Perm keys) :
    CanAccept keys input := by
  obtain ⟨out, hfill, hall⟩ := h
  refine ⟨out, ⟨hfill.given, fun name v hnone hv => ?_, fun k hk => ?_⟩, fun k hk => ?_⟩
  · obtain ⟨k, hk, hdefault⟩ := hfill.default name v hnone hv
    exact ⟨k, hperm.mem_iff.1 hk, hdefault⟩
  · exact hfill.complete k (hperm.mem_iff.2 hk)
  · exact hall k (hperm.mem_iff.2 hk)

omit [PatternEngine] in
theorem has_congr (h : p.get? k.propertyName = q.get? k.propertyName) (v : Json) :
    k.Has p v ↔ k.Has q v := by
  rw [Has, Has, h]

omit [PatternEngine] in
theorem IsSatisfied.congr (hp : k.IsSatisfied p)
    (h : p.get? k.propertyName = q.get? k.propertyName) : k.IsSatisfied q :=
  ⟨fun hnone => hp.required fun v hv => hnone v ((has_congr h v).1 hv),
    fun v hv => hp.kind v ((has_congr h v).2 hv)⟩

theorem IsMet.congr (hp : k.IsMet p) (h : p.get? k.propertyName = q.get? k.propertyName) :
    k.IsMet q :=
  ⟨fun v quantity measure min hv => hp.minimum v quantity measure min ((has_congr h v).2 hv),
    fun v quantity measure max hv => hp.maximum v quantity measure max ((has_congr h v).2 hv),
    fun v source pattern hv => hp.pattern v source pattern ((has_congr h v).2 hv)⟩

end

theorem exists_of_defaultFor_eq_some (h : defaultFor keys name = some v) :
    ∃ k ∈ keys, k.propertyName = name ∧ k.coercedDefault = some v := by
  obtain ⟨k, hk, hv⟩ := List.exists_of_findSome?_eq_some h
  split at hv
  · exact ⟨k, hk, ‹_›, hv⟩
  · cases hv

theorem defaultFor_eq_none_iff :
    defaultFor keys name = none ↔ ∀ k ∈ keys, k.propertyName = name → k.coercedDefault = none := by
  simp [defaultFor, List.findSome?_eq_none_iff]

theorem defaultFor_append :
    defaultFor (keys ++ keys') name = (defaultFor keys name).or (defaultFor keys' name) :=
  List.findSome?_append

theorem defaultFor_cons_self (hv : k.coercedDefault = some v) :
    defaultFor (k :: keys) k.propertyName = some v := by
  simp [defaultFor, hv]

theorem Fills.mayFill (h : Fills keys input out) : MayFill keys input out := by
  refine ⟨fun name v hv => ?_, fun name v hnone hv => ?_, fun k hk hnone => ?_⟩
  · rw [h.get?_eq, hv]
    rfl
  · rw [h.get?_eq, hnone] at hv
    exact exists_of_defaultFor_eq_some hv
  · rw [h.get?_eq, Option.or_eq_none_iff] at hnone
    exact defaultFor_eq_none_iff.1 hnone.2 k hk rfl

/-- Every choice of defaults is made by some order: the keys with the chosen ones first. -/
theorem MayFill.exists_perm (h : MayFill keys input out) : ∃ keys', keys'.Perm keys ∧
    ∀ name, (input.get? name).or (defaultFor keys' name) = out.get? name := by
  let chosen (k : PropertyKey) : Bool :=
    k.coercedDefault.isSome && k.coercedDefault == out.get? k.propertyName
  refine ⟨_, List.filter_append_perm chosen keys, fun name => ?_⟩
  cases hinput : input.get? name with
  | some v => exact (h.given name v hinput).symm
  | none =>
    rw [Option.none_or]
    cases hout : out.get? name with
    | none =>
      refine defaultFor_eq_none_iff.2 fun k hk hname => h.complete k ?_ (hname ▸ hout)
      exact (List.filter_append_perm chosen keys).mem_iff.1 hk
    | some v =>
      obtain ⟨k, hk, hname, hv⟩ := h.default name v hinput hout
      have hfirst : defaultFor (keys.filter chosen) name = some v := by
        cases hdefault : defaultFor (keys.filter chosen) name with
        | none =>
          have hchosen : k ∈ keys.filter chosen := by simp [chosen, hk, hv, hname, hout]
          have := defaultFor_eq_none_iff.1 hdefault k hchosen hname
          simp [this] at hv
        | some w =>
          obtain ⟨l, hl, hname', hw⟩ := exists_of_defaultFor_eq_some hdefault
          have hchosen : chosen l = true := (List.mem_filter.1 hl).2
          simp only [chosen, hw, hname', hout] at hchosen
          simpa using hchosen
      rw [defaultFor_append, hfirst, Option.some_or]

end PropertyKey

namespace CompiledSchema

variable {keys keys' : List PropertyKey} {schema schema' : CompiledSchema} {input out p : Entries}

section

variable [PatternEngine]

/-- Whether a payload is accepted, and completed in the same way, whatever the order of the
keys. -/
def IgnoresOrder (keys : List PropertyKey) (payload : Json) : Prop :=
  ∀ keys' schema schema', keys'.Perm keys → compile keys = .ok schema →
    compile keys' = .ok schema' →
      ∀ out, schema'.apply payload = .ok out ↔ schema.apply payload = .ok out

theorem Describes.mem_defaults (h : schema.Describes keys) {d : String × Json} :
    d ∈ schema.defaults ↔ ∃ k ∈ keys, k.propertyName = d.1 ∧ k.coercedDefault = some d.2 := by
  simp only [h.defaults, List.mem_filterMap, Option.map_eq_some_iff, Prod.ext_iff]
  grind

omit [PatternEngine] in
theorem setDefault_comm {x y : String × Json} (h : x.1 = y.1 → x.2 = y.2) (p : Entries) :
    setDefault (setDefault p x) y = setDefault (setDefault p y) x := by
  by_cases hname : x.1 = y.1
  · rw [Prod.ext hname (h hname)]
  · unfold setDefault
    by_cases hx : p.contains x.1 = true <;> by_cases hy : p.contains y.1 = true <;>
      simp [hx, hy, Table.contains_insert_of_ne, hname, Ne.symm hname, Table.insert_comm hname]

omit [PatternEngine] in
/-- The defaults of given properties are not set. -/
theorem foldl_setDefault_filter (defaults : List (String × Json))
    (h : ∀ name, input.contains name = true → p.contains name = true) :
    (defaults.filter fun d => !input.contains d.1).foldl setDefault p =
      defaults.foldl setDefault p := by
  induction defaults generalizing p with
  | nil => rfl
  | cons d defaults ih =>
    by_cases hd : input.contains d.1 = true
    · have hset : setDefault p d = p := if_pos (h _ hd)
      rw [List.filter_cons_of_neg (by simp [hd]), List.foldl_cons, hset, ih h]
    · rw [List.filter_cons_of_pos (by simp [hd]), List.foldl_cons, List.foldl_cons]
      exact ih fun name hname => contains_setDefault_of_contains (h name hname) d

/-- Keys without rivals fill in the same defaults in every order. -/
theorem withDefaults_eq_of_perm (hperm : keys'.Perm keys) (h : schema.Describes keys)
    (h' : schema'.Describes keys') (hrivals : ¬ PropertyKey.HaveRivals keys input) :
    schema'.withDefaults input = schema.withDefaults input := by
  have hdefaults : schema'.defaults.Perm schema.defaults := by
    rw [h.defaults, h'.defaults]
    exact hperm.filterMap _
  rw [withDefaults_eq, withDefaults_eq, ← foldl_setDefault_filter _ fun _ => id,
    ← foldl_setDefault_filter schema.defaults fun _ => id]
  refine (hdefaults.filter _).foldl_eq' (fun x hx y hy p => setDefault_comm ?_ p) input
  intro hname
  obtain ⟨hx, habsent⟩ := List.mem_filter.1 hx
  obtain ⟨k, hk, hkname, hv⟩ := h'.mem_defaults.1 hx
  obtain ⟨l, hl, hlname, hw⟩ := h'.mem_defaults.1 (List.mem_filter.1 hy).1
  by_contra hne
  refine hrivals ⟨k, hperm.mem_iff.1 hk, l, hperm.mem_iff.1 hl, ?_, ?_, _, _, hv, hw, hne⟩
  · rw [hkname, hname, hlname]
  · rw [hkname]
    simpa [Table.contains] using habsent

omit [PatternEngine] in
theorem exists_mapM_eq_ok_iff {ε α β : Type} {f : α → Except ε β} {as : List α} :
    (∃ bs, as.mapM f = .ok bs) ↔ ∀ a ∈ as, ∃ b, f a = .ok b := by
  induction as with
  | nil => exact ⟨fun _ _ h => (by cases h), fun _ => ⟨[], rfl⟩⟩
  | cons a as ih =>
    rw [List.forall_mem_cons, ← ih, List.mapM_cons]
    cases f a with
    | error e => exact ⟨fun ⟨_, h⟩ => (by cases h), fun ⟨⟨_, h⟩, _⟩ => (by cases h)⟩
    | ok b =>
      cases as.mapM f with
      | error e => exact ⟨fun ⟨_, h⟩ => (by cases h), fun ⟨_, _, h⟩ => (by cases h)⟩
      | ok bs => exact ⟨fun _ => ⟨⟨b, rfl⟩, bs, rfl⟩, fun _ => ⟨b :: bs, rfl⟩⟩

theorem exists_compile_iff : (∃ schema, compile keys = .ok schema) ↔
    ∀ k ∈ keys, ∃ f, FieldDescriptor.ofKey k = .ok f := by
  rw [← exists_mapM_eq_ok_iff]
  unfold compile
  cases keys.mapM FieldDescriptor.ofKey with
  | error e => exact ⟨fun ⟨_, h⟩ => (by cases h), fun ⟨_, h⟩ => (by cases h)⟩
  | ok fields => exact ⟨fun _ => ⟨fields, rfl⟩, fun _ => ⟨_, rfl⟩⟩

theorem exists_compile_of_perm (hperm : keys'.Perm keys) (h : compile keys = .ok schema) :
    ∃ schema', compile keys' = .ok schema' :=
  exists_compile_iff.2 fun k hk => exists_compile_iff.1 ⟨_, h⟩ k (hperm.mem_iff.1 hk)

theorem Describes.apply_eq_ok_iff (h : schema.Describes keys) :
    schema.apply (.object input) = .ok out ↔
      schema.withDefaults input = out ∧ ∀ k ∈ keys, k.IsSatisfied out ∧ k.IsMet out := by
  constructor
  · intro happly
    cases withDefaults_of_apply happly
    exact ⟨rfl, (h.judges input).ok_iff.1 happly⟩
  · rintro ⟨rfl, hall⟩
    exact (h.judges input).ok_iff.2 hall

/-- An order exists for each acceptable choice of the defaults. -/
theorem exists_apply_of_canAccept (h : compile keys = .ok schema)
    (haccept : PropertyKey.CanAccept keys input) : ∃ keys' schema' out, keys'.Perm keys ∧
      compile keys' = .ok schema' ∧ schema'.apply (.object input) = .ok out := by
  obtain ⟨out, hfill, hall⟩ := haccept
  obtain ⟨keys', hperm, hget⟩ := hfill.exists_perm
  obtain ⟨schema', hcompile⟩ := exists_compile_of_perm hperm h
  have hdescribes := describes_of_compile hcompile
  refine ⟨keys', schema', _, hperm, hcompile, hdescribes.apply_eq_ok_iff.2 ⟨rfl, fun k hk => ?_⟩⟩
  have hsame : out.get? k.propertyName = (schema'.withDefaults input).get? k.propertyName := by
    rw [(hdescribes.fills input).get?_eq, hget]
  obtain ⟨hsatisfied, hmet⟩ := hall k (hperm.mem_iff.1 hk)
  exact ⟨hsatisfied.congr hsame, hmet.congr hsame⟩

theorem Describes.canAccept (h : schema.Describes keys)
    (happly : schema.apply (.object input) = .ok out) : PropertyKey.CanAccept keys input := by
  obtain ⟨rfl, hall⟩ := h.apply_eq_ok_iff.1 happly
  exact ⟨_, (h.fills input).mayFill, hall⟩

/-- The default of any key is taken by some order. -/
theorem get?_of_ignoresOrder (h : compile keys = .ok schema)
    (hignores : IgnoresOrder keys (.object input))
    (happly : schema.apply (.object input) = .ok out) {k : PropertyKey} {v : Json} (hk : k ∈ keys)
    (hv : k.coercedDefault = some v) (habsent : input.get? k.propertyName = none) :
    out.get? k.propertyName = some v := by
  have hperm : (k :: keys.erase k).Perm keys := (List.perm_cons_erase hk).symm
  obtain ⟨schema', hcompile⟩ := exists_compile_of_perm hperm h
  have happly' := (hignores _ _ _ hperm h hcompile out).2 happly
  obtain ⟨rfl, -⟩ := (describes_of_compile hcompile).apply_eq_ok_iff.1 happly'
  rw [((describes_of_compile hcompile).fills input).get?_eq, habsent, Option.none_or,
    PropertyKey.defaultFor_cons_self hv]

theorem ignoresOrder_of_not_haveRivals (h : ¬ PropertyKey.HaveRivals keys input) :
    IgnoresOrder keys (.object input) := by
  intro keys' schema schema' hperm hcompile hcompile' out
  have hdescribes := describes_of_compile hcompile
  have hdescribes' := describes_of_compile hcompile'
  rw [hdescribes.apply_eq_ok_iff, hdescribes'.apply_eq_ok_iff,
    withDefaults_eq_of_perm hperm hdescribes hdescribes' h]
  exact and_congr_right fun _ => forall_congr' fun k => imp_congr_left hperm.mem_iff

/-- Where no choice of the defaults is accepted, every order refuses. -/
theorem ignoresOrder_of_not_canAccept (h : ¬ PropertyKey.CanAccept keys input) :
    IgnoresOrder keys (.object input) := by
  intro keys' schema schema' hperm hcompile hcompile' out
  refine ⟨fun happly => absurd ?_ h, fun happly => ?_⟩
  · exact ((describes_of_compile hcompile').canAccept happly).perm hperm
  · exact absurd ((describes_of_compile hcompile).canAccept happly) h

theorem ignoresOrder_of_forall {payload : Json} (h : ∀ input, payload = .object input →
    PropertyKey.CanAccept keys input → ¬ PropertyKey.HaveRivals keys input) :
    IgnoresOrder keys payload := by
  cases payload with
  | object input =>
    by_cases haccept : PropertyKey.CanAccept keys input
    · exact ignoresOrder_of_not_haveRivals (h input rfl haccept)
    · exact ignoresOrder_of_not_canAccept haccept
  | null | bool | number | string | array =>
    -- Nothing but an object is accepted.
    exact fun _ _ _ _ _ _ _ => ⟨nofun, nofun⟩

/-- The order of the keys is irrelevant to a payload unless some choice of the defaults is
accepted and there is a choice: an absent property for which keys have different defaults. So it
is irrelevant to every payload if no two keys share a property. -/
theorem ignoresOrder_iff (h : compile keys = .ok schema) :
    (∀ payload, IgnoresOrder keys payload ↔ ∀ input, payload = .object input →
      PropertyKey.CanAccept keys input → ¬ PropertyKey.HaveRivals keys input) ∧
    ((keys.map PropertyKey.propertyName).Nodup → ∀ payload, IgnoresOrder keys payload) := by
  refine ⟨fun payload => ⟨?_, fun h => ?_⟩, fun hnodup payload => ?_⟩
  · rintro hignores input rfl haccept ⟨k, hk, l, hl, hname, habsent, v, w, hv, hw, hne⟩
    obtain ⟨keys', schema', out, hperm, hcompile, happly⟩ := exists_apply_of_canAccept h haccept
    have hok := (hignores _ _ _ hperm h hcompile out).1 happly
    have hgetv := get?_of_ignoresOrder h hignores hok hk hv habsent
    have hgetw := get?_of_ignoresOrder h hignores hok hl hw (hname ▸ habsent)
    rw [← hname, hgetv] at hgetw
    exact hne (Option.some.inj hgetw)
  · exact ignoresOrder_of_forall h
  · refine ignoresOrder_of_forall fun input _ _ => ?_
    rintro ⟨k, hk, l, hl, hname, -, v, w, hv, hw, hne⟩
    have hsame : k = l := List.inj_on_of_nodup_map hnodup hk hl hname
    rw [hsame, hw] at hv
    exact hne (Option.some.inj hv).symm

end

/-- Two keys for the size of a stop, one of any size and one of a class, with defaults of their
own. -/
def sizeKeys : List PropertyKey :=
  [{ name := "Size", propertyName := "size", dataType := .string,
     defaultValue := some (.string "medium") },
   { name := "Class", propertyName := "size", dataType := .enumeration,
     options := some ["small", "large"], defaultValue := some (.string "small") }]

theorem ignoresOrder_iff_sizeKeys : (∃ schema, compile sizeKeys = .ok schema) ∧
    IgnoresOrder sizeKeys (.object [("size", .string "large")]) ∧
    (stopKeys.map PropertyKey.propertyName).Nodup ∧ IgnoresOrder stopKeys (.object []) := by
  have hnodup : (stopKeys.map PropertyKey.propertyName).Nodup := by decide
  refine ⟨⟨_, rfl⟩, ((ignoresOrder_iff rfl).1 _).2 ?_, hnodup, (ignoresOrder_iff rfl).2 hnodup _⟩
  rintro input hinput - ⟨k, hk, l, -, -, habsent, -⟩
  cases hinput
  simp only [sizeKeys, List.mem_cons, List.not_mem_nil, or_false] at hk
  rcases hk with rfl | rfl <;> cases habsent

/-- With the key of the class first the empty payload is accepted, with the other one first it is
not. -/
theorem not_ignoresOrder :
    ¬ ∀ keys schema, compile keys = .ok schema → ∀ payload, IgnoresOrder keys payload := by
  intro h
  have hperm : (sizeKeys.reverse).Perm sizeKeys := List.reverse_perm _
  have hsame := h sizeKeys _ rfl (.object []) _ _ _ hperm rfl rfl [("size", .string "small")]
  have hrefused := hsame.1 (by rfl)
  cases hrefused

end CompiledSchema

end TypedGraph
