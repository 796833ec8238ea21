import Mathlib.Algebra.Order.Ring.Int
import Mathlib.Order.Compare
import TypedGraph.Decimal.Binary64

/-!
# Whole numbers as binary numbers

A binary number has 53 significant bits. Up to `2^53` every whole number is one; a larger one
is rounded to the nearest multiple of the gap between the binary numbers there
(`nearestInt`). Rounding keeps the order (`nearestInt_mono`), but it may make two numbers
one: never if one of them is below `2^53` (`eq_of_nearestInt_eq`), and of 64 bits only numbers that
are no more than `2^11` apart (`natAbs_sub_le_of_nearestInt_eq`).
-/
namespace TypedGraph.Decimal

variable {m n den : Nat}

/-! ## Quotients -/

theorem roundHalfEven_mul (q : Nat) (h : 0 < den) : roundHalfEven (q * den) den = q := by
  unfold roundHalfEven
  rw [Nat.mul_div_cancel q h, Nat.mul_mod_left, Nat.mul_zero, Nat.compare_eq_lt.2 h]

/-- A map that keeps the order strictly does not change comparisons. -/
theorem compare_map {α β : Type} [LinearOrder α] [LinearOrder β] {f : α → β} (h : StrictMono f)
    (a b : α) : compare (f a) (f b) = compare a b := by
  rw [← cmp_eq_compare, ← cmp_eq_compare, h.cmp_map_eq]

theorem roundHalfEven_mul_right (num den : Nat) {c : Nat} (h : 0 < c) :
    roundHalfEven (num * c) (den * c) = roundHalfEven num den := by
  have hdouble : 2 * (num % den * c) = 2 * (num % den) * c := (Nat.mul_assoc ..).symm
  have hcompare : compare (2 * (num % den) * c) (den * c) = compare (2 * (num % den)) den :=
    compare_map (f := (· * c)) (fun _ _ hlt => Nat.mul_lt_mul_of_pos_right hlt h) _ _
  simp only [roundHalfEven, Nat.mul_div_mul_right _ _ h, Nat.mul_mod_mul_right, hdouble, hcompare]

/-- A quotient is rounded down or up. -/
theorem roundHalfEven_cases (num den : Nat) :
    roundHalfEven num den = num / den ∧ 2 * (num % den) ≤ den ∨
      roundHalfEven num den = num / den + 1 ∧ den ≤ 2 * (num % den) := by
  unfold roundHalfEven
  dsimp only
  split <;> rename_i hc
  · rw [Nat.compare_eq_lt] at hc
    omega
  · rw [Nat.compare_eq_gt] at hc
    omega
  · rw [Nat.compare_eq_eq] at hc
    split <;> omega

theorem roundHalfEven_mono (h : m ≤ n) (den : Nat) :
    roundHalfEven m den ≤ roundHalfEven n den := by
  have hquotients : m / den ≤ n / den := Nat.div_le_div_right h
  have hm := roundHalfEven_cases m den
  have hn := roundHalfEven_cases n den
  by_cases hlt : m / den < n / den
  · omega
  · -- Of equal quotients the remainders decide, and of equal remainders nothing is left.
    have hsame : m / den = n / den := by omega
    have hremainders : m % den ≤ n % den := by
      have hdm := Nat.div_add_mod m den
      have hdn := Nat.div_add_mod n den
      rw [hsame] at hdm
      omega
    by_cases hequal : m % den = n % den
    · simp only [roundHalfEven, hsame, hequal, Nat.le_refl]
    · omega

namespace Binary64

/-! ## The gap at a number -/

theorem gap_pos (n : Nat) : 0 < gap n := Nat.pow_pos (by omega)

theorem gap_eq_one (h : n < 2 ^ 53) : gap n = 1 := by
  have hlog : n.log2 - 52 = 0 := by
    by_cases hzero : n = 0
    · rw [hzero]
      rfl
    · have := (Nat.log2_lt hzero).2 h
      omega
  rw [gap, hlog, Nat.pow_eq, Nat.pow_zero]

/-- From `2^53` on, the gap is the power of two that leaves 53 bits. -/
theorem exists_gap_eq (h : 2 ^ 53 ≤ n) :
    ∃ k, gap n = 2 ^ (k + 1) ∧ 2 ^ (k + 53) ≤ n ∧ n < 2 ^ (k + 54) := by
  have hzero : n ≠ 0 := by omega
  have hlog : 53 ≤ n.log2 := (Nat.le_log2 hzero).2 h
  obtain ⟨k, hk⟩ : ∃ k, n.log2 = k + 53 := ⟨n.log2 - 53, by omega⟩
  refine ⟨k, ?_, (Nat.log2_eq_iff hzero).1 hk⟩
  rw [gap, hk, Nat.pow_eq]
  congr 1

theorem le_mul_gap (n : Nat) : n ≤ 2 ^ 53 * gap n := by
  by_cases hn : n < 2 ^ 53
  · rw [gap_eq_one hn]
    omega
  · obtain ⟨k, hgap, -, hhigh⟩ := exists_gap_eq (Nat.le_of_not_lt hn)
    rw [hgap, ← Nat.pow_add, show 53 + (k + 1) = k + 54 by omega]
    exact hhigh.le

/-- The gap grows by doubling, and only at powers of two. -/
theorem gap_cases (h : m ≤ n) : gap m = gap n ∨ 2 * gap m ≤ gap n ∧ 2 ^ 52 * gap n ≤ n := by
  by_cases hn : n < 2 ^ 53
  · rw [gap_eq_one hn, gap_eq_one (by omega)]
    exact .inl rfl
  obtain ⟨k, hgap, hlow, hhigh⟩ := exists_gap_eq (Nat.le_of_not_lt hn)
  have hmany : 2 ^ 52 * 2 ^ (k + 1) ≤ n := by
    rw [← Nat.pow_add, show 52 + (k + 1) = k + 53 by omega]
    exact hlow
  rw [hgap]
  by_cases hm : m < 2 ^ 53
  · have := Nat.pow_pos (n := k) (show 0 < 2 by omega)
    rw [gap_eq_one hm]
    exact .inr ⟨by omega, hmany⟩
  · obtain ⟨j, hgap', hlow', -⟩ := exists_gap_eq (Nat.le_of_not_lt hm)
    have hjk : j + 53 < k + 54 := (Nat.pow_lt_pow_iff_right (show 1 < 2 by omega)).1
      ((hlow'.trans h).trans_lt hhigh)
    rw [hgap']
    by_cases hequal : j = k
    · exact .inl (by rw [hequal])
    · have hdouble : 2 ^ (j + 1 + 1) ≤ 2 ^ (k + 1) :=
        Nat.pow_le_pow_right (by omega) (by omega)
      exact .inr ⟨by omega, hmany⟩

theorem gap_le (h : n < 2 ^ 64) : gap n ≤ 2 ^ 11 := by
  rcases gap_cases (show n ≤ 2 ^ 64 - 1 by omega) with hgap | ⟨hgap, -⟩
  all_goals
    rw [show gap (2 ^ 64 - 1) = 2 ^ 11 by decide +kernel] at hgap
    omega

/-! ## The nearest whole number -/

/-- The natural that is nearest to another one among those with 53 significant bits, an even
number of gaps if there are two. -/
def nearestNat (n : Nat) : Nat := roundHalfEven n (gap n) * gap n

/-- A natural is half a gap away from the nearest one at most. -/
theorem nearestNat_near (n : Nat) :
    2 * nearestNat n ≤ 2 * n + gap n ∧ 2 * n ≤ 2 * nearestNat n + gap n :=
  roundHalfEven_near n (gap_pos n)

theorem nearestNat_le {q : Nat} (h : n ≤ q * gap n) : nearestNat n ≤ q * gap n := by
  have hmono := roundHalfEven_mono h (gap n)
  rw [roundHalfEven_mul q (gap_pos n)] at hmono
  exact Nat.mul_le_mul_right _ hmono

theorem le_nearestNat {q : Nat} (h : q * gap n ≤ n) : q * gap n ≤ nearestNat n := by
  have hmono := roundHalfEven_mono h (gap n)
  rw [roundHalfEven_mul q (gap_pos n)] at hmono
  exact Nat.mul_le_mul_right _ hmono

theorem nearestNat_mono (h : m ≤ n) : nearestNat m ≤ nearestNat n := by
  rcases gap_cases h with hgap | ⟨hgap, hn⟩
  · rw [nearestNat, nearestNat, hgap]
    exact Nat.mul_le_mul_right _ (roundHalfEven_mono h _)
  · -- A power of two lies between the two, which both roundings respect.
    calc nearestNat m ≤ 2 ^ 53 * gap m := nearestNat_le (le_mul_gap m)
      _ ≤ 2 ^ 52 * gap n := by omega
      _ ≤ nearestNat n := le_nearestNat hn

theorem nearestNat_eq_self (h : n ≤ 2 ^ 53) : nearestNat n = n := by
  by_cases hn : n = 2 ^ 53
  · rw [hn]
    decide +kernel
  · have hone := roundHalfEven_mul n Nat.one_pos
    rw [Nat.mul_one] at hone
    rw [nearestNat, gap_eq_one (by omega), hone, Nat.mul_one]

/-- A whole number rounded to 53 significant bits. -/
def nearestInt (n : Int) : Int :=
  if n < 0 then -(nearestNat n.natAbs : Int) else nearestNat n.natAbs

theorem natAbs_nearestInt (a : Int) : (nearestInt a).natAbs = nearestNat a.natAbs := by
  unfold nearestInt
  split <;> omega

theorem nearestInt_eq_self {a : Int} (h : a.natAbs ≤ 2 ^ 53) : nearestInt a = a := by
  rw [nearestInt, nearestNat_eq_self h]
  split <;> omega

theorem nearestInt_mono {a b : Int} (h : a ≤ b) : nearestInt a ≤ nearestInt b := by
  unfold nearestInt
  split <;> split
  · have := nearestNat_mono (show b.natAbs ≤ a.natAbs by omega)
    omega
  · omega
  · omega
  · have := nearestNat_mono (show a.natAbs ≤ b.natAbs by omega)
    omega

/-- A number below `2^53` is not made one with another one. -/
theorem eq_of_nearestInt_eq {a b : Int} (ha : a.natAbs < 2 ^ 53)
    (h : nearestInt a = nearestInt b) : a = b := by
  rw [nearestInt_eq_self ha.le] at h
  by_cases hb : b.natAbs ≤ 2 ^ 53
  · rw [h, nearestInt_eq_self hb]
  · have hlarge := nearestNat_mono (show 2 ^ 53 ≤ b.natAbs by omega)
    rw [nearestNat_eq_self (Nat.le_refl _), ← natAbs_nearestInt, ← h] at hlarge
    omega

/-- Numbers of 64 bits that are made one are close to each other. -/
theorem natAbs_sub_le_of_nearestInt_eq {a b : Int} (ha : a.natAbs < 2 ^ 64)
    (hb : b.natAbs < 2 ^ 64) (h : nearestInt a = nearestInt b) : (a - b).natAbs ≤ 2 ^ 11 := by
  have hnearA := nearestNat_near a.natAbs
  have hnearB := nearestNat_near b.natAbs
  have hgapA := gap_le ha
  have hgapB := gap_le hb
  unfold nearestInt at h
  split at h <;> split at h <;> omega

/-! ## Binary numbers of whole numbers -/

theorem log2_mul_two_pow (h : n ≠ 0) (k : Nat) : (n * 2 ^ k).log2 = n.log2 + k := by
  obtain ⟨hlow, hhigh⟩ := (Nat.log2_eq_iff h).1 rfl
  have hpos : 0 < 2 ^ k := Nat.pow_pos (by omega)
  rw [Nat.log2_eq_iff (Nat.mul_ne_zero h hpos.ne'), Nat.add_right_comm, Nat.pow_add, Nat.pow_add]
  exact ⟨Nat.mul_le_mul_right _ hlow, Nat.mul_lt_mul_of_pos_right hhigh hpos⟩

/-- Rounding is the same at every scale. -/
theorem nearestNat_mul_two_pow (n k : Nat) : nearestNat (n * 2 ^ k) = nearestNat n * 2 ^ k := by
  by_cases hzero : n = 0
  · rw [hzero, Nat.zero_mul, nearestNat_eq_self (Nat.zero_le _), Nat.zero_mul]
  have hlog := log2_mul_two_pow hzero k
  by_cases hn : n < 2 ^ 53
  · -- The gap at the product divides the power, and so the product.
    have hsmall : n.log2 < 53 := (Nat.log2_lt hzero).2 hn
    have hdvd : gap (n * 2 ^ k) ∣ n * 2 ^ k := by
      rw [gap, hlog, Nat.pow_eq]
      exact Nat.dvd_mul_left_of_dvd (Nat.pow_dvd_pow 2 (by omega)) n
    obtain ⟨q, hq⟩ := hdvd
    have hround := roundHalfEven_mul q (gap_pos (n * 2 ^ k))
    rw [Nat.mul_comm, ← hq] at hround
    rw [nearestNat_eq_self hn.le, nearestNat, hround, Nat.mul_comm, ← hq]
  · have hlarge : 53 ≤ n.log2 := (Nat.le_log2 hzero).2 (Nat.le_of_not_lt hn)
    have hgap : gap (n * 2 ^ k) = gap n * 2 ^ k := by
      rw [gap, gap, hlog, Nat.pow_eq, Nat.pow_eq, ← Nat.pow_add]
      congr 1
      omega
    rw [nearestNat, hgap, roundHalfEven_mul_right _ _ (Nat.pow_pos (by omega)), nearestNat,
      Nat.mul_assoc]

theorem exists_one_eq : ∃ k, one = 2 ^ k := by
  unfold one
  generalize 1074 = k
  exact ⟨k, Nat.pow_eq⟩

theorem one_pos : 0 < one := by
  obtain ⟨k, hk⟩ := exists_one_eq
  rw [hk]
  exact Nat.pow_pos (by omega)

theorem nearestUnits_mul_one (n : Nat) : nearestUnits (n * one) 1 = nearestNat n * one := by
  obtain ⟨k, hk⟩ := exists_one_eq
  have hunits : nearestUnits (n * one) 1 = nearestNat (n * one) := by
    rw [nearestUnits, Nat.div_one, Nat.one_mul, nearestNat]
  rw [hunits, hk, nearestNat_mul_two_pow]

theorem ofInt_eq {a : Int} (h : a.natAbs < 2 ^ 64) :
    ofInt a = .finite (a < 0) (nearestNat a.natAbs * one) := by
  have hsize : nearestNat a.natAbs ≤ 2 ^ 65 := by
    have hnear := nearestNat_near a.natAbs
    have hgap := gap_le h
    omega
  have hbound : nearestNat a.natAbs * one < Nat.pow 2 2098 := by
    calc nearestNat a.natAbs * one ≤ 2 ^ 65 * one := Nat.mul_le_mul_right _ hsize
      _ < Nat.pow 2 2098 := by decide +kernel
  rw [ofInt, ofRatio, nearestUnits_mul_one]
  exact if_pos hbound

theorem signedUnits_ofInt {a : Int} (h : a.natAbs < 2 ^ 64) :
    (ofInt a).signedUnits = some (nearestInt a * one) := by
  rw [ofInt_eq h, signedUnits, nearestInt]
  by_cases ha : a < 0
  · rw [decide_eq_true ha, if_pos rfl, if_pos ha, Int.natCast_mul, Int.neg_mul]
  · rw [decide_eq_false ha, if_neg Bool.false_ne_true, if_neg ha, Int.natCast_mul]

/-- Binary numbers of whole numbers of 64 bits are ordered as the rounded numbers are. -/
theorem order?_ofInt {a b : Int} (ha : a.natAbs < 2 ^ 64) (hb : b.natAbs < 2 ^ 64) :
    (ofInt a).order? (ofInt b) = some (compare (nearestInt a) (nearestInt b)) := by
  have hone : (0 : Int) < one := Int.natCast_pos.2 one_pos
  have hcompare := compare_map (f := fun x : Int => x * one)
    (fun _ _ hlt => Int.mul_lt_mul_of_pos_right hlt hone) (nearestInt a) (nearestInt b)
  simp only [order?, signedUnits_ofInt ha, signedUnits_ofInt hb]
  exact congrArg some hcompare

end Binary64

end TypedGraph.Decimal
