import Mathlib.Data.List.TakeWhile
import TypedGraph.Proofs.Coercions
import TypedGraph.Proofs.Comparisons
import TypedGraph.Proofs.Instants

/-!
# Whole numbers from texts

The text of a whole number is read as the binary number nearest to it (`Decimal.number?_toString`).
So a text of 64 bits becomes the integer that it is the text of if that is below `2^53`, and from
there on a float: the nearest one, which is another number unless 53 significant bits hold it
(`Conversion.integerTexts_read`).
-/
namespace TypedGraph

namespace Decimal

variable {m k : Nat} {cs : List Char}

/-! ## Digits -/

theorem digitsValue_toDigits (m : Nat) : digitsValue 0 (Nat.toDigits 10 m) = m := by
  rw [digitsValue_eq isDigit_of_mem_toDigits, Nat.ofDigitChars_ten_toDigits]

theorem decimal?_toDigits (m : Nat) : decimal? (Nat.toDigits 10 m) = some ⟨m, 0⟩ := by
  have hspan : spanDigits (Nat.toDigits 10 m) = (Nat.toDigits 10 m, []) := by
    rw [spanDigits, List.takeWhile_eq_self_iff.2 isDigit_of_mem_toDigits,
      List.dropWhile_eq_nil_iff.2 isDigit_of_mem_toDigits]
  have hsome : (Nat.toDigits 10 m).isEmpty = false := by simp
  simp [decimal?, hspan, hsome, exponentPart?, digitsValue_toDigits]

theorem spanSign_of_isDigit (h : ∀ c ∈ cs, isDigit c = true) : spanSign cs = (false, cs) := by
  unfold spanSign
  split
  · exact absurd (h _ (List.mem_cons_self ..)) (by decide)
  · exact absurd (h _ (List.mem_cons_self ..)) (by decide)
  · rfl

/-! ## The nearest binary number -/

namespace Binary64

theorem le_nearestNat_of_two_pow_le (h : 2 ^ k ≤ m) : 2 ^ k ≤ nearestNat m := by
  have hpower : nearestNat (2 ^ k) = 2 ^ k := by
    have hscaled := nearestNat_mul_two_pow 1 k
    rwa [nearestNat_eq_self (n := 1) (by decide), Nat.one_mul] at hscaled
  rw [← hpower]
  exact nearestNat_mono h

theorem ofRatio_of_two_pow_le (hk : Nat.pow 2 2098 ≤ 2 ^ k * one) (h : 2 ^ k ≤ m)
    (negative : Bool) : ofRatio negative m 1 = .infinity negative := by
  have hunits : Nat.pow 2 2098 ≤ nearestNat m * one :=
    hk.trans (Nat.mul_le_mul_right _ (le_nearestNat_of_two_pow_le h))
  rw [ofRatio, nearestUnits_mul_one]
  exact if_neg (Nat.not_lt.2 hunits)

/-- A decimal without exponent is rounded as the whole number that it is. -/
theorem ofDecimal_zero (negative : Bool) (m : Nat) :
    ofDecimal negative m 0 = ofRatio negative m 1 := by
  by_cases hzero : m = 0
  · rw [hzero]
    cases negative <;> decide +kernel
  have hsize : ¬ (m = 0 ∨ (0 : Int) + digitCount m < -400) := by omega
  rw [ofDecimal]
  simp only [if_neg hsize]
  split
  · next hlong =>
    -- A number of more than 400 digits is beyond the largest binary number.
    have hten : 10 ^ 400 ≤ m := by
      rw [← Nat.not_lt, ← Nat.length_toDigits_le_iff (b := 10) (by omega) (by omega)]
      change ¬ digitCount m ≤ 400
      omega
    have htwo : 2 ^ 1024 ≤ 10 ^ 400 := by decide +kernel
    exact (ofRatio_of_two_pow_le (by decide +kernel) (htwo.trans hten) negative).symm
  · simp

/-- A whole number of 64 bits is rounded to a whole number. -/
theorem toInt?_ofInt {a : Int} (h : a.natAbs < 2 ^ 64) :
    (ofInt a).toInt? = some (nearestInt a) := by
  rw [ofInt_eq h, toInt?, nearestInt]
  simp only [Nat.mul_mod_left, Nat.mul_div_cancel _ one_pos, if_true, decide_eq_true_eq]

end Binary64

theorem toList_toString (n : Int) :
    (toString n).toList = (if n < 0 then ['-'] else []) ++ Nat.toDigits 10 n.natAbs := by
  cases n with
  | ofNat m =>
    have hnonneg : ¬ Int.ofNat m < 0 := Int.not_lt.2 (Int.natCast_nonneg m)
    rw [if_neg hnonneg]
    exact Nat.toList_repr
  | negSucc m =>
    rw [if_pos (Int.negSucc_lt_zero m)]
    change ("-" ++ Nat.repr (m + 1)).toList = _
    rw [String.toList_append, Nat.toList_repr]
    rfl

/-- The text of a whole number is read as the binary number nearest to it. -/
theorem number?_toString (n : Int) : number? (toString n).toList = some (.ofInt n) := by
  rw [toList_toString, number?, Binary64.ofInt]
  by_cases hn : n < 0
  · simp only [if_pos hn, List.singleton_append, spanSign, decimal?_toDigits,
      Binary64.ofDecimal_zero, decide_eq_true hn]
  · have hsign := spanSign_of_isDigit (isDigit_of_mem_toDigits (n := n.natAbs))
    simp only [if_neg hn, List.nil_append, hsign, decimal?_toDigits, Binary64.ofDecimal_zero,
      decide_eq_false hn]

theorem isBlank_of_mem_toString {n : Int} : ∀ c ∈ (toString n).toList, Text.isBlank c = false := by
  intro c hc
  rw [toList_toString, List.mem_append] at hc
  rcases hc with hc | hc
  · split at hc <;> simp at hc
    rw [hc]
    decide
  · exact Calendar.isBlank_of_isDigit (isDigit_of_mem_toDigits c hc)

end Decimal

/-! ## Integers of documents -/

open Decimal (Binary64)
open Decimal.Binary64 (nearestInt nearestNat_near gap_le toInt?_ofInt natAbs_nearestInt
  nearestNat_eq_self nearestNat_mono nearestInt_eq_self)
open Condition (IsWord)

variable {n : Int}

/-- The binary number of a whole number becomes an integer only below `2^53`. -/
theorem Json.isNumberOf_ofInt (h : IsWord n) :
    Json.IsNumberOf (.ofInt n)
      (if n.natAbs < 2 ^ 53 then .int n else .number (.float (.ofInt n))) := by
  have hint := toInt?_ofInt h.natAbs_lt
  split
  · next hsmall =>
    rw [nearestInt_eq_self hsmall.le] at hint
    exact .whole hint hsmall
  · next hlarge =>
    refine .float (Json.isFinite_of_toInt? hint) fun m hm => ?_
    obtain rfl : nearestInt n = m := Option.some.inj (hint.symm.trans hm)
    have hmono := nearestNat_mono (Nat.le_of_not_lt hlarge)
    rwa [nearestNat_eq_self (Nat.le_refl _), ← natAbs_nearestInt] at hmono

namespace Conversion

variable {s : String} {v : Json}

/-- Whether a text is read as a number wherever the text of a number is read: where it is
converted, and where it is the default of a key. -/
structure IsReadAs (s : String) (v : Json) : Prop where
  converted : convert .number (some (.string s)) = some { given := .string s, converted := some v }
  coerced : ∀ k : PropertyKey, (k.withNumberText s).coercedDefault = some v

theorem isReadAs_of_isNumberIn (h : Json.IsNumberIn s v) : IsReadAs s v := by
  rw [← number?_eq_some_iff] at h
  have hs : s ≠ "null" := by
    rintro rfl
    rw [number?_null] at h
    cases h
  constructor
  case converted =>
    rw [convert_text hs, attempt, h]
    rfl
  case coerced =>
    intro k
    rw [coercedDefault_withNumberText, h, Option.getD_some]

theorem IsReadAs.unique {w : Json} (hv : IsReadAs s v) (hw : IsReadAs s w) : v = w := by
  have hsame := hv.converted.symm.trans hw.converted
  simpa using hsame

theorem isReadAs_toString (h : IsWord n) :
    IsReadAs (toString n) (if n.natAbs < 2 ^ 53 then .int n else .number (.float (.ofInt n))) := by
  refine isReadAs_of_isNumberIn ⟨.ofInt n, ?_, Json.isNumberOf_ofInt h⟩
  rw [Text.trim_eq_self Decimal.isBlank_of_mem_toString, Decimal.number?_toString]

/-- The text of a whole number of 64 bits is read as this integer if it is below `2^53`, and only
then. From there on it is read as the float nearest to it, which is whole and at most `2^10`
away. -/
theorem integerTexts_read (h : IsWord n) :
    (IsReadAs (toString n) (.int n) ↔ n.natAbs < 2 ^ 53) ∧
      (2 ^ 53 ≤ n.natAbs →
        IsReadAs (toString n) (.number (.float (.ofInt n))) ∧
          (Binary64.ofInt n).toInt? = some (nearestInt n) ∧
          (n - nearestInt n).natAbs ≤ 2 ^ 10) := by
  have hread := isReadAs_toString h
  refine ⟨⟨fun hint => ?_, fun hsmall => ?_⟩, fun hlarge => ⟨?_, toInt?_ofInt h.natAbs_lt, ?_⟩⟩
  · by_contra hlarge
    rw [if_neg hlarge] at hread
    cases hint.unique hread
  · rwa [if_pos hsmall] at hread
  · rwa [if_neg (Nat.not_lt.2 hlarge)] at hread
  · have hnear := nearestNat_near n.natAbs
    have hgap := gap_le h.natAbs_lt
    unfold nearestInt
    split <;> omega

theorem integerTexts_read_two_pow :
    (IsWord (-9007199254740991) ∧
      IsReadAs (toString (-9007199254740991 : Int)) (.int (-9007199254740991))) ∧
    IsWord 9007199254740993 ∧
      IsReadAs (toString (9007199254740993 : Int))
        (.number (.float (.ofInt 9007199254740993))) ∧
      (Binary64.ofInt 9007199254740993).toInt? = some 9007199254740992 := by
  have hbelow : IsWord (-9007199254740991) := by decide
  have habove : IsWord 9007199254740993 := by decide
  have hnearest : nearestInt 9007199254740993 = 9007199254740992 := by decide +kernel
  obtain ⟨hread, hint, -⟩ := (integerTexts_read habove).2 (by decide)
  refine ⟨⟨hbelow, (integerTexts_read hbelow).1.2 (by decide)⟩, habove, hread, ?_⟩
  rwa [hnearest] at hint

/-- Above `2^53` the text of an integer is read as a float, and with another last digit. -/
theorem not_integerTexts_read :
    ¬ ∀ n : Int, -2 ^ 63 ≤ n → n < 2 ^ 63 → IsReadAs (toString n) (.int n) := by
  intro h
  have hint := h 9007199254740993 (by decide) (by decide)
  have hfloat := isReadAs_toString (show IsWord 9007199254740993 by decide)
  rw [if_neg (by decide)] at hfloat
  cases hint.unique hfloat

end Conversion

end TypedGraph
