import TypedGraph.Condition
import TypedGraph.Proofs.Rounding

/-!
# Comparing whole numbers

A condition compares two numbers as binary numbers, so two whole numbers as they are rounded to
53 significant bits (`comparesAs_nearestInt`). Rounding keeps the order and may only make two
numbers one. So the operators are exact for two whole numbers unless these are different and
rounded to the same one, and a list holds a number that it seems to hold unless it is another one
of the list that is rounded to the same (`comparesExactly_iff`).
-/
namespace TypedGraph.Condition

open Decimal.Binary64 (nearestInt nearestInt_mono order?_ofInt eq_of_nearestInt_eq
  natAbs_sub_le_of_nearestInt_eq)

/-- Whether a whole number fits into 64 bits, with a sign or without one. -/
def IsWord (n : Int) : Prop := -2 ^ 63 ≤ n ∧ n < 2 ^ 64

instance (n : Int) : Decidable (IsWord n) := inferInstanceAs (Decidable (_ ∧ _))

/-- Whether the operators tell of two whole numbers what is true of `x` and `y`. -/
structure ComparesAs (a b x y : Int) : Prop where
  equal : compareValues .equal (some (.int a)) (.int b) = true ↔ x = y
  notEqual : compareValues .notEqual (some (.int a)) (.int b) = true ↔ x ≠ y
  greater : compareValues .greater (some (.int a)) (.int b) = true ↔ x > y
  less : compareValues .less (some (.int a)) (.int b) = true ↔ x < y
  greaterOrEqual : compareValues .greaterOrEqual (some (.int a)) (.int b) = true ↔ x ≥ y
  lessOrEqual : compareValues .lessOrEqual (some (.int a)) (.int b) = true ↔ x ≤ y

/-- Whether the operators tell of two whole numbers what is true of them. -/
def ComparesExactly (a b : Int) : Prop := ComparesAs a b a b

/-- Whether a whole number is found in a list exactly if it is one of its items. -/
def FindsExactly (a : Int) (items : List Int) : Prop :=
  compareValues .member (some (.int a)) (.array (items.map .int)) = true ↔ a ∈ items

variable {a b : Int}

theorem IsWord.natAbs_lt (h : IsWord a) : a.natAbs < 2 ^ 64 := by
  obtain ⟨hlow, hhigh⟩ := h
  omega

theorem order?_number (x y : JsonNumber) :
    order? (.number x) (.number y) = x.toBinary.order? y.toBinary := rfl

theorem sameValue_number (x y : JsonNumber) :
    sameValue (.number x) (.number y) = x.toBinary.equal y.toBinary := rfl

theorem toBinary_int (n : Int) : (JsonNumber.int n).toBinary = .ofInt n := rfl

theorem order?_int (ha : IsWord a) (hb : IsWord b) :
    order? (.int a) (.int b) = some (compare (nearestInt a) (nearestInt b)) := by
  rw [Json.int, Json.int, order?_number, toBinary_int, toBinary_int,
    order?_ofInt ha.natAbs_lt hb.natAbs_lt]

theorem sameValue_int (ha : IsWord a) (hb : IsWord b) :
    sameValue (.int a) (.int b) = true ↔ nearestInt a = nearestInt b := by
  rw [Json.int, Json.int, sameValue_number, toBinary_int, toBinary_int, Decimal.Binary64.equal,
    order?_ofInt ha.natAbs_lt hb.natAbs_lt, beq_iff_eq, Option.some.injEq, Int.compare_eq_eq]

/-- The operators compare whole numbers as they are rounded. -/
theorem comparesAs_nearestInt (ha : IsWord a) (hb : IsWord b) :
    ComparesAs a b (nearestInt a) (nearestInt b) := by
  have hsame := sameValue_int ha hb
  have horder := order?_int ha hb
  constructor
  case equal => exact hsame
  case notEqual =>
    simp only [compareValues, Bool.not_eq_true', ← Bool.not_eq_true, hsame, ne_eq]
  case greater | less =>
    simp only [compareValues, horder, beq_iff_eq, Option.some.injEq, Int.compare_eq_lt,
      Int.compare_eq_gt]
  case greaterOrEqual | lessOrEqual =>
    simp only [compareValues, horder, Bool.or_eq_true, beq_iff_eq, Option.some.injEq,
      Int.compare_eq_lt, Int.compare_eq_gt, Int.compare_eq_eq]
    omega

/-- The operators are exact unless two different numbers are rounded to the same one. -/
theorem ComparesAs.exactly_iff (h : ComparesAs a b (nearestInt a) (nearestInt b)) :
    ComparesExactly a b ↔ (nearestInt a = nearestInt b → a = b) := by
  constructor
  · intro hexact hsame
    exact hexact.equal.1 (h.equal.2 hsame)
  · intro hinj
    have hab : a ≤ b → nearestInt a ≤ nearestInt b := nearestInt_mono
    have hba : b ≤ a → nearestInt b ≤ nearestInt a := nearestInt_mono
    have hself : a = b → nearestInt a = nearestInt b := congrArg _
    constructor
    case equal => exact h.equal.trans (by omega)
    case notEqual => exact h.notEqual.trans (by omega)
    case greater => exact h.greater.trans (by omega)
    case less => exact h.less.trans (by omega)
    case greaterOrEqual => exact h.greaterOrEqual.trans (by omega)
    case lessOrEqual => exact h.lessOrEqual.trans (by omega)

theorem member_array_int (value : Json) (items : List Int) :
    compareValues .member (some value) (.array (items.map .int)) = true ↔
      ∃ b ∈ items, sameValue value (.int b) = true := by
  rw [compareValues, isMember, List.any_map, List.any_eq_true]
  rfl

theorem member_int (ha : IsWord a) {items : List Int} (hitems : ∀ b ∈ items, IsWord b) :
    compareValues .member (some (.int a)) (.array (items.map .int)) = true ↔
      ∃ b ∈ items, nearestInt a = nearestInt b := by
  rw [member_array_int]
  exact exists_congr fun b => and_congr_right fun hb => sameValue_int ha (hitems b hb)

/-- Of whole numbers of 64 bits the operators tell what is true of the rounded ones. They are
exact for two numbers unless these are different and rounded to the same one, so always if one of
them is below `2^53` or if they are more than `2^11` apart; and for a list unless it lacks the
number and holds one that is rounded to the same. -/
theorem comparesExactly_iff (ha : IsWord a) :
    (∀ b, IsWord b →
      ComparesAs a b (nearestInt a) (nearestInt b) ∧
      (ComparesExactly a b ↔ (nearestInt a = nearestInt b → a = b)) ∧
      (a.natAbs < 2 ^ 53 ∨ b.natAbs < 2 ^ 53 ∨ 2 ^ 11 < (a - b).natAbs → ComparesExactly a b)) ∧
    ∀ items : List Int, (∀ b ∈ items, IsWord b) →
      (FindsExactly a items ↔ ((∃ b ∈ items, nearestInt a = nearestInt b) → a ∈ items)) := by
  refine ⟨fun b hb => ?_, fun items hitems => ?_⟩
  · have hcompares := comparesAs_nearestInt ha hb
    refine ⟨hcompares, hcompares.exactly_iff, fun hapart => hcompares.exactly_iff.2 fun hsame => ?_⟩
    rcases hapart with hsmall | hsmall | hfar
    · exact eq_of_nearestInt_eq hsmall hsame
    · exact (eq_of_nearestInt_eq hsmall hsame.symm).symm
    · have hnear := natAbs_sub_le_of_nearestInt_eq ha.natAbs_lt hb.natAbs_lt hsame
      omega
  · rw [FindsExactly, member_int ha hitems]
    exact ⟨fun h => h.1, fun h => ⟨h, fun hmem => ⟨a, hmem, rfl⟩⟩⟩

theorem comparesExactly_iff_two_pow :
    IsWord 9007199254740993 ∧
    ((IsWord 9007199254740992 ∧
      ComparesAs 9007199254740993 9007199254740992 9007199254740992 9007199254740992) ∧
      IsWord 9007199254740994 ∧ ComparesExactly 9007199254740993 9007199254740994) ∧
    (∀ b ∈ [7, 9007199254740994], IsWord b) ∧
      FindsExactly 9007199254740993 [7, 9007199254740994] := by
  have ha : IsWord 9007199254740993 := by decide
  have hbelow : IsWord 9007199254740992 := by decide
  have habove : IsWord 9007199254740994 := by decide
  have hitems : ∀ b ∈ [7, 9007199254740994], IsWord b := by decide
  have hodd : nearestInt 9007199254740993 = 9007199254740992 := by decide +kernel
  have heven : nearestInt 9007199254740992 = 9007199254740992 := by decide +kernel
  have hnext : nearestInt 9007199254740994 = 9007199254740994 := by decide +kernel
  have hseven : nearestInt 7 = 7 := by decide +kernel
  refine ⟨ha, ⟨⟨hbelow, ?_⟩, habove, ?_⟩, hitems, ?_⟩
  · have h := ((comparesExactly_iff ha).1 _ hbelow).1
    rwa [hodd, heven] at h
  · exact ((comparesExactly_iff ha).1 _ habove).2.1.2 (by rw [hodd, hnext]; decide)
  · exact ((comparesExactly_iff ha).2 _ hitems).2 (by simp [hodd, hnext, hseven])

/-- Above `2^53` a whole number may be told to be equal to the one below it. -/
theorem not_comparesExactly :
    ¬ ∀ a, IsWord a → (∀ b, IsWord b → ComparesExactly a b) ∧
      ∀ items : List Int, (∀ b ∈ items, IsWord b) → FindsExactly a items := by
  intro h
  have hexact := (h 9007199254740993 (by decide)).1 9007199254740992 (by decide)
  have hsame : compareValues .equal (some (.int 9007199254740993)) (.int 9007199254740992) = true :=
    by decide +kernel
  exact absurd (hexact.equal.1 hsame) (by decide)

end TypedGraph.Condition
