import Mathlib.Algebra.Group.Nat.Defs
import TypedGraph.Proofs.Conversions

/-!
# Numbers from texts

The text of a number is read in two places: where a value is converted to a number, and where the
default of a number key is a text. Both read the binary number of the trimmed text, and take the
number of a document that it becomes (`Json.IsNumberOf`): an integer if it is whole and below
`2^53`, else a float, and none for what is not finite. So a default is the number that its text is
converted to, and it stays a text exactly if the conversion fails (`Conversion.coercions_agree`).
-/
namespace TypedGraph

open Decimal (Binary64)

/-! ## Binary numbers in documents -/

namespace Json

variable {x : Binary64} {v : Json}

/-- Whether a document is the number that a binary number becomes. Nothing is the number of an
infinity or of `nan`. -/
inductive IsNumberOf (x : Binary64) : Json → Prop
  | whole {n : Int} : x.toInt? = some n → n.natAbs < 2 ^ 53 → IsNumberOf x (.int n)
  | float : x.isFinite = true → (∀ n, x.toInt? = some n → 2 ^ 53 ≤ n.natAbs) →
      IsNumberOf x (.number (.float x))

theorem isFinite_of_toInt? {n : Int} (h : x.toInt? = some n) : x.isFinite = true := by
  cases x with
  | nan | infinity => cases h
  | finite => rfl

theorem ofWhole?_eq_some_iff :
    ofWhole? x = some v ↔ ∃ n, x.toInt? = some n ∧ n.natAbs < 2 ^ 53 ∧ v = .int n := by
  simp only [ofWhole?, Option.bind_eq_some_iff, Option.ite_none_right_eq_some, Option.some.injEq,
    Nat.pow_eq, eq_comm (a := v)]

theorem ofWhole?_eq_none_iff :
    ofWhole? x = none ↔ ∀ n, x.toInt? = some n → 2 ^ 53 ≤ n.natAbs := by
  simp only [ofWhole?, Option.bind_eq_none_iff, ite_eq_right_iff, reduceCtorEq, Nat.pow_eq,
    imp_false, Nat.not_lt]

theorem isNumberOf_iff :
    IsNumberOf x v ↔ ofWhole? x = some v ∨
      ofWhole? x = none ∧ x.isFinite = true ∧ v = .number (.float x) := by
  rw [ofWhole?_eq_some_iff, ofWhole?_eq_none_iff]
  constructor
  · rintro (⟨hn, hsmall⟩ | ⟨hfinite, hlarge⟩)
    · exact .inl ⟨_, hn, hsmall, rfl⟩
    · exact .inr ⟨hlarge, hfinite, rfl⟩
  · rintro (⟨n, hn, hsmall, rfl⟩ | ⟨hlarge, hfinite, rfl⟩)
    · exact .whole hn hsmall
    · exact .float hfinite hlarge

theorem exists_isNumberOf_iff : (∃ v, IsNumberOf x v) ↔ x.isFinite = true := by
  constructor
  · rintro ⟨v, ⟨hn, -⟩ | ⟨hfinite, -⟩⟩
    · exact isFinite_of_toInt? hn
    · exact hfinite
  · intro hfinite
    cases hwhole : ofWhole? x with
    | some v => exact ⟨v, isNumberOf_iff.2 (.inl hwhole)⟩
    | none => exact ⟨_, isNumberOf_iff.2 (.inr ⟨hwhole, hfinite, rfl⟩)⟩

/-- Finiteness may be tested before wholeness, as a conversion does. -/
theorem ite_isFinite_eq_some_iff :
    (if x.isFinite then some ((ofWhole? x).getD (.number (.float x))) else none) = some v ↔
      IsNumberOf x v := by
  rw [isNumberOf_iff]
  cases hwhole : ofWhole? x with
  | some w =>
    obtain ⟨n, hn, -⟩ := ofWhole?_eq_some_iff.1 hwhole
    simp [isFinite_of_toInt? hn]
  | none => simp [eq_comm (a := v)]

/-- Wholeness may be tested before finiteness, as a default does. -/
theorem ofWhole?_orElse_eq_some_iff :
    (ofWhole? x <|> ofFinite? x) = some v ↔ IsNumberOf x v := by
  rw [isNumberOf_iff]
  cases hwhole : ofWhole? x with
  | some w => simp
  | none => simp [ofFinite?, eq_comm (a := v)]

end Json

/-! ## The two readings of a text -/

/-- Whether a text stands for a number of a document, white space around it ignored. -/
def Json.IsNumberIn (s : String) (v : Json) : Prop :=
  ∃ x, Decimal.number? (Text.trim s.toList) = some x ∧ Json.IsNumberOf x v

/-- The key with a text as the default of a number. -/
def PropertyKey.withNumberText (k : PropertyKey) (s : String) : PropertyKey :=
  { k with dataType := .number, defaultValue := some (.string s) }

namespace Conversion

variable {s : String} {v : Json}

theorem number?_eq_some_iff : number? s = some v ↔ Json.IsNumberIn s v := by
  simp only [number?, Json.IsNumberIn, Option.bind_eq_bind, Option.bind_eq_some_iff,
    Json.ite_isFinite_eq_some_iff]

theorem number?_eq_none_iff :
    number? s = none ↔
      ∀ x, Decimal.number? (Text.trim s.toList) = some x → x.isFinite = false := by
  simp only [Option.eq_none_iff_forall_ne_some, ne_eq, number?_eq_some_iff, Json.IsNumberIn,
    ← Bool.not_eq_true, ← Json.exists_isNumberOf_iff]
  grind

/-- The default of a number key is the number of its text, or the text. -/
theorem coercedDefault_withNumberText (k : PropertyKey) (s : String) :
    (k.withNumberText s).coercedDefault = some ((number? s).getD (.string s)) := by
  have hsame : number? s = (Decimal.number? (Text.trim s.toList)).bind fun x =>
      (Json.ofWhole? x <|> Json.ofFinite? x) := by
    refine Option.ext fun v => ?_
    simp only [number?_eq_some_iff, Json.IsNumberIn, Option.bind_eq_some_iff,
      Json.ofWhole?_orElse_eq_some_iff]
  rw [hsame]
  simp only [PropertyKey.coercedDefault, PropertyKey.withNumberText]
  cases Decimal.number? (Text.trim s.toList) <;> rfl

/-- What is told of a value that an attempt was made to convert. -/
def ofAttempt (given : Json) : Except Failure Json → Conversion
  | .ok converted => { given, converted := some converted }
  | .error failure => { given, error := some failure.message }

theorem convert_eq_map_attempt {t : DataType} (hnull : v ≠ .null) (hword : v ≠ .string "null") :
    convert t (some v) = (attempt t v).map (ofAttempt v) := by
  unfold convert
  split <;> rename_i heq <;> cases heq
  · exact absurd rfl hnull
  · exact absurd rfl hword
  · refine congrArg (Option.map · _) (funext fun outcome => ?_)
    cases outcome <;> rfl

theorem convert_text {t : DataType} (h : s ≠ "null") :
    convert t (some (.string s)) = (attempt t (.string s)).map (ofAttempt (.string s)) := by
  refine convert_eq_map_attempt (fun hnull => ?_) fun hword => h (Json.string.inj hword)
  cases hnull

theorem number?_null : number? "null" = none := by decide +kernel

/-- A text is converted to its number, or the conversion fails. The text `null` is refused before
it is read, but it is no number either. -/
theorem convert_number_text (s : String) :
    ∃ c, convert .number (some (.string s)) = some c ∧ c.converted = number? s ∧
      (c.converted = none ↔ c.error.isSome = true) := by
  by_cases hs : s = "null"
  · rw [hs, number?_null]
    exact ⟨_, rfl, rfl, by simp⟩
  · rw [convert_text hs, attempt]
    cases number? s with
    | none => exact ⟨_, rfl, rfl, by simp [ofAttempt]⟩
    | some v => exact ⟨_, rfl, rfl, by simp [ofAttempt]⟩

/-- Whether the default that a number key takes from a text is in step with the conversion of the
text. -/
structure IsInStep (c : Conversion) (k : PropertyKey) (s : String) : Prop where
  /-- The conversion yields the number of the text. -/
  number : ∀ v, c.converted = some v ↔ Json.IsNumberIn s v
  /-- It fails where it yields nothing. -/
  failed : c.error.isSome = true ↔ c.converted = none
  /-- It fails for what is no number at all, and for the infinities and `nan`. -/
  notFinite : c.converted = none ↔
    ∀ x, Decimal.number? (Text.trim s.toList) = some x → x.isFinite = false
  /-- The default is what the conversion yields. -/
  coerced : ∀ v, c.converted = some v → (k.withNumberText s).coercedDefault = some v
  /-- The default stays a text exactly if the conversion fails. -/
  keptText : (k.withNumberText s).coercedDefault = some (.string s) ↔ c.converted = none

/-- The default of a number key is what its text is converted to, and it stays a text exactly if
the conversion fails. -/
theorem coercions_agree (k : PropertyKey) (s : String) :
    ∃ c, convert .number (some (.string s)) = some c ∧ c.IsInStep k s := by
  obtain ⟨c, hconvert, hnumber, hfailed⟩ := convert_number_text s
  have hdefault := coercedDefault_withNumberText k s
  rw [← hnumber] at hdefault
  refine ⟨c, hconvert, ?_⟩
  constructor
  case number =>
    intro v
    rw [hnumber, number?_eq_some_iff]
  case failed => exact hfailed.symm
  case notFinite => rw [hnumber, number?_eq_none_iff]
  case coerced =>
    intro v hv
    rw [hdefault, hv, Option.getD_some]
  case keptText =>
    rw [hdefault]
    cases hconverted : c.converted with
    | none => simp
    | some v =>
      -- A number is no text.
      obtain ⟨n, rfl⟩ := number?_eq_number (hnumber.symm.trans hconverted)
      simp

example : number? " -0 " = some (.int 0) ∧ number? "1e999" = none := by decide +kernel

end Conversion

end TypedGraph
