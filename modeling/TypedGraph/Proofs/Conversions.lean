import TypedGraph.Conversion
import TypedGraph.Pattern.Engine
import TypedGraph.Proofs.Descriptions

/-!
# Conversions and schemas

A value that a conversion leaves alone, and a value that it yields, is of the data type
(`Conversion.fits_of_result?`). Such a value is of the kind that a key of the data type asks for,
so a schema never finds a mismatch in it on account of such a key
(`Conversion.convert_agrees`).
-/
namespace TypedGraph

/-- Whether a value is of a data type. Dates, files and members of enumerations are texts. -/
def DataType.Fits (t : DataType) (v : Json) : Prop :=
  match t with
  | .number => ∃ n, v = .number n
  | .string | .date | .enumeration | .file => ∃ s, v = .string s
  | .boolean => ∃ b, v = .bool b
  | .list => ∃ items, v = .array items
  | .unknown => v ≠ .null

/-- Whether a key takes all values of a data type. An enumeration does without options. -/
structure PropertyKey.Takes (k : PropertyKey) (t : DataType) : Prop where
  dataType : k.dataType = t
  options : t = .enumeration → k.options = none ∨ k.options = some []

namespace DataType.Fits

variable {t : DataType} {v : Json} {k : PropertyKey} {properties : Entries}

theorem ne_null (h : t.Fits v) : v ≠ .null := by
  rintro rfl
  cases t <;> simp [Fits] at h

theorem isOfKind (h : t.Fits v) (hk : k.Takes t) : k.IsOfKind v := by
  obtain ⟨rfl, hoptions⟩ := hk
  unfold Fits at h
  unfold PropertyKey.IsOfKind
  cases htype : k.dataType with
  | number | string | date | boolean | list => simpa only [htype] using h
  | file | unknown => trivial
  | enumeration =>
    rw [htype] at h
    obtain ⟨s, rfl⟩ := h
    refine ⟨s, rfl, fun o options hsome => ?_⟩
    rcases hoptions htype with hnone | hempty <;> simp_all

theorem isSatisfied (h : t.Fits v) (hk : k.Takes t)
    (hget : properties.get? k.propertyName = some v) : k.IsSatisfied properties := by
  have hhas : k.Has properties v := ⟨hget, h.ne_null⟩
  exact ⟨fun hnone => absurd hhas (hnone v), fun w hw => hhas.eq hw ▸ h.isOfKind hk⟩

end DataType.Fits

namespace CompiledSchema

variable [PatternEngine]

/-- The mismatches that a schema reports are those of the keys that are not satisfied. -/
theorem Judges.mismatches_eq {schema : CompiledSchema} {keys : List PropertyKey}
    {input out : Entries} {mismatches : List FieldMismatch} (h : schema.Judges keys input out)
    (happly : schema.apply (.object input) = .error (.mismatch mismatches)) :
    mismatches = (keys.filter fun k => ¬ k.IsSatisfied out).map fun k => k.mismatch out := by
  by_cases hall : ∀ k ∈ keys, k.IsSatisfied out
  · by_cases hmet : ∀ k ∈ keys, k.IsMet out
    · have hok := h.ok_iff.2 fun k hk => ⟨hall k hk, hmet k hk⟩
      cases happly.symm.trans hok
    · obtain ⟨found, -, hviolation⟩ := h.violation hall (by simpa using hmet)
      cases happly.symm.trans hviolation
  · have hmismatch := h.mismatch (by simpa using hall)
    cases happly.symm.trans hmismatch
    rfl

end CompiledSchema

namespace Conversion

variable {t : DataType} {value v : Json}

/-- What may be said of the conversion of a value: nothing, the value that stands for it, or why
there is none. -/
inductive Answers (given : Json) : Option Conversion → Prop
  | untouched : Answers given none
  | converted (v : Json) : Answers given (some { given, converted := some v, error := none })
  | failed (error : String) : Answers given (some { given, converted := none, error := some error })

/-- The value that a conversion leaves alone or yields. -/
def result? (t : DataType) (value : Option Json) : Option Json :=
  match convert t value with
  | none => value
  | some conversion => conversion.converted

/-- Whether keys of a data type take a value: it is of their kind, and where a schema finds a
mismatch in a property with this value, that is on account of another key. -/
structure Agrees [PatternEngine] (t : DataType) (v : Json) : Prop where
  kind : ∀ k : PropertyKey, k.Takes t → (FieldKind.ofKey k).accepts v = true
  mismatch : ∀ keys schema input mismatches, CompiledSchema.compile keys = .ok schema →
    schema.apply (.object input) = .error (.mismatch mismatches) →
      ∀ m ∈ mismatches, Table.get? input m.field = some v →
        ∃ k ∈ keys, k.propertyName = m.field ∧ ¬ k.Takes t

theorem convert_cases (t : DataType) (value : Option Json) :
    (∃ failure : Failure,
      convert t value = some { given := value.getD .null, error := some failure.message }) ∨
    ∃ v, value = some v ∧ v ≠ .null ∧ convert t value = (attempt t v).map fun
      | .ok converted => { given := v, converted := some converted }
      | .error failure => { given := v, error := some failure.message } := by
  unfold convert
  split
  · exact .inl ⟨.noValue, rfl⟩
  · exact .inl ⟨.noValue, rfl⟩
  · exact .inl ⟨.noValue, rfl⟩
  · next v hnull _ => exact .inr ⟨v, rfl, hnull, rfl⟩

theorem answers_convert (t : DataType) (value : Option Json) :
    Answers (value.getD .null) (convert t value) := by
  rcases convert_cases t value with ⟨failure, hfailed⟩ | ⟨v, rfl, -, hattempt⟩
  · rw [hfailed]
    exact .failed _
  · rw [hattempt]
    cases attempt t v with
    | none => exact .untouched
    | some outcome =>
      cases outcome with
      | error failure => exact .failed _
      | ok w => exact .converted w

theorem number?_eq_number {s : String} (h : number? s = some v) : ∃ n, v = .number n := by
  unfold number? at h
  obtain ⟨x, -, h⟩ := Option.bind_eq_some_iff.1 h
  split at h
  · cases hwhole : Json.ofWhole? x with
    | none =>
      rw [hwhole] at h
      exact ⟨_, (Option.some.inj h).symm⟩
    | some w =>
      obtain ⟨n, -, hn⟩ := Option.bind_eq_some_iff.1 hwhole
      split at hn <;> cases hn
      rw [hwhole] at h
      exact ⟨.int n, (Option.some.inj h).symm⟩
  · cases h

theorem fits_of_attempt_eq_none (hnull : value ≠ .null) (h : attempt t value = none) :
    t.Fits value := by
  cases t with
  | unknown => exact hnull
  | number | string | boolean | enumeration | file | list =>
    cases value <;> first | exact ⟨_, rfl⟩ | cases h
  | date =>
    -- A date is always written anew.
    unfold attempt at h
    split at h <;> first | contradiction | split at h <;> contradiction

/-- A conversion to a number or a date yields what was read, if anything was. -/
theorem elim_eq_ok {α : Type} {read : Option α} {failure : Failure} {f : α → Except Failure Json}
    (h : some (read.elim (.error failure) f) = some (.ok v)) :
    ∃ a, read = some a ∧ f a = .ok v := by
  cases read with
  | none => cases h
  | some a => exact ⟨a, rfl, Option.some.inj h⟩

theorem fits_of_attempt_eq_ok (h : attempt t value = some (.ok v)) : t.Fits v := by
  cases t with
  | unknown => cases h
  | string | enumeration | file | list => cases value <;> cases h <;> exact ⟨_, rfl⟩
  | boolean => cases value <;> cases h <;> exact ⟨_, rfl⟩
  | number =>
    cases value with
    | string s =>
      obtain ⟨w, hread, hw⟩ := elim_eq_ok h
      cases hw
      exact number?_eq_number hread
    | null | bool | number | array | object => cases h
  | date =>
    cases value with
    | number n =>
      cases n with
      | int n =>
        simp only [attempt] at h
        split at h
        · obtain ⟨instant, -, hv⟩ := elim_eq_ok h
          cases hv
          exact ⟨_, rfl⟩
        · cases h
      | float x => cases h
    | string s =>
      obtain ⟨instant, -, hv⟩ := elim_eq_ok h
      cases hv
      exact ⟨_, rfl⟩
    | null | bool | array | object => cases h

/-- What a conversion leaves alone or yields is of the data type. -/
theorem fits_of_result? {given : Option Json} (h : result? t given = some v) : t.Fits v := by
  unfold result? at h
  rcases convert_cases t given with ⟨failure, hfailed⟩ | ⟨w, rfl, hnull, hattempt⟩
  · rw [hfailed] at h
    cases h
  · rw [hattempt] at h
    cases hw : attempt t w with
    | none =>
      rw [hw] at h
      cases h
      exact fits_of_attempt_eq_none hnull hw
    | some outcome =>
      rw [hw] at h
      cases outcome with
      | error failure => cases h
      | ok w' =>
        cases h
        exact fits_of_attempt_eq_ok hw

section

variable [PatternEngine]

theorem agrees_of_fits (h : t.Fits v) : Agrees t v := by
  refine ⟨fun k hk => FieldDescriptor.accepts_ofKey_iff.2 (h.isOfKind hk), ?_⟩
  intro keys schema input mismatches hcompile happly m hm hget
  have hjudges := (CompiledSchema.describes_of_compile hcompile).judges input
  cases hjudges.mismatches_eq happly
  obtain ⟨k, hk, rfl⟩ := List.mem_map.1 hm
  obtain ⟨hmem, hk⟩ := List.mem_filter.1 hk
  have hout := hjudges.supplied _ _ hget
  exact ⟨k, hmem, rfl, fun htakes => of_decide_eq_true hk (h.isSatisfied htakes hout)⟩

/-- Conversions and schemas agree on data types. A conversion leaves a value alone, yields a value
or tells why there is none, and nothing else; and what it leaves alone or yields is taken by the
keys of the data type. -/
theorem convert_agrees (t : DataType) (value : Option Json) :
    Answers (value.getD .null) (convert t value) ∧
      ∀ v, result? t value = some v → Agrees t v :=
  ⟨answers_convert t value, fun _ h => agrees_of_fits (fits_of_result? h)⟩

end

/-- The day on which a stop is served first. -/
def startKey : PropertyKey :=
  { name := "Start", propertyName := "start", dataType := .date, required := true }

theorem convert_agrees_startKey :
    result? .date (some (.string "2024-01-02")) = some (.string "2024-01-02T00:00:00.000Z") ∧
      (FieldKind.ofKey startKey).accepts (.string "2024-01-02T00:00:00.000Z") = true := by
  have hresult : result? .date (some (.string "2024-01-02")) =
      some (.string "2024-01-02T00:00:00.000Z") := by decide +kernel
  exact ⟨hresult, ((convert_agrees _ _).2 _ hresult).kind startKey ⟨rfl, nofun⟩⟩

end Conversion

end TypedGraph
