import TypedGraph.Digest.Base64
import TypedGraph.Digest.Sha256

/-!
# What a digest tells

Bytes are read back from their text in base 64, the fill characters telling how many there
are at the end. So the texts of two digests are equal only if the digests are
(`base64_sha256_eq_iff`). Digests of 32 bytes cannot tell all sequences of bytes apart: two
sequences may collide, and no statement below denies it.
-/
namespace TypedGraph.Digest

/-- The six bits of a character; those of the fill character are zero. -/
def bitsOf (c : Char) : Nat := alphabet.toList.idxOf c % 64

/-- The bytes of a sequence of characters in base 64. -/
def ofBase64Chars : List Char → List UInt8
  | p :: q :: r :: s :: rest =>
    let n := bitsOf p * 0x40000 + bitsOf q * 0x1000 + bitsOf r * 0x40 + bitsOf s
    let a := UInt8.ofNat (n / 0x10000)
    let b := UInt8.ofNat (n / 0x100)
    if r = '=' then [a]
    else if s = '=' then [a, b]
    else a :: b :: UInt8.ofNat n :: ofBase64Chars rest
  | _ => []

theorem alphabet_getD : ∀ i : Fin 64,
    alphabet.toList.idxOf (alphabet.getD i '=') = i ∧ alphabet.getD i '=' ≠ '=' := by
  decide +kernel

theorem bitsOf_sextet (n : Nat) : bitsOf (sextet n) = n % 64 := by
  have h : alphabet.toList.idxOf (sextet n) = n % 64 :=
    (alphabet_getD ⟨n % 64, Nat.mod_lt n (by omega)⟩).1
  rw [bitsOf, h, Nat.mod_mod]

theorem sextet_ne_fill (n : Nat) : sextet n ≠ '=' :=
  (alphabet_getD ⟨n % 64, Nat.mod_lt n (by omega)⟩).2

theorem bitsOf_fill : bitsOf '=' = 0 := by decide +kernel

theorem ofNat_eq {n : Nat} {a : UInt8} (h : n % 256 = a.toNat) : UInt8.ofNat n = a := by
  rw [← UInt8.toNat_inj, UInt8.toNat_ofNat', h]

/-- Bytes are read back from their characters. -/
theorem ofBase64Chars_base64Chars (bytes : List UInt8) :
    ofBase64Chars (base64Chars bytes) = bytes := by
  fun_induction base64Chars bytes with
  | case1 a b c rest n ih =>
    have := a.toNat_lt
    have := b.toNat_lt
    have := c.toNat_lt
    simp only [ofBase64Chars, bitsOf_sextet, sextet_ne_fill, if_false, ih]
    rw [ofNat_eq (a := a) (by omega), ofNat_eq (a := b) (by omega), ofNat_eq (a := c) (by omega)]
  | case2 a b n =>
    have := a.toNat_lt
    have := b.toNat_lt
    simp only [ofBase64Chars, bitsOf_sextet, bitsOf_fill, sextet_ne_fill, if_false, if_true]
    rw [ofNat_eq (a := a) (by omega), ofNat_eq (a := b) (by omega)]
  | case3 a n =>
    have := a.toNat_lt
    simp only [ofBase64Chars, bitsOf_sextet, bitsOf_fill, if_true]
    rw [ofNat_eq (a := a) (by omega)]
  | case4 => rfl

theorem base64_inj {xs ys : List UInt8} : base64 xs = base64 ys ↔ xs = ys := by
  constructor
  · intro h
    have hchars : base64Chars xs = base64Chars ys := String.ofList_injective h
    rw [← ofBase64Chars_base64Chars xs, ← ofBase64Chars_base64Chars ys, hchars]
  · intro h
    rw [h]

/-- Whether two different sequences of bytes have one digest. -/
def Collide (x y : List UInt8) : Prop := x ≠ y ∧ sha256 x = sha256 y

/-- Digests tell sequences of bytes apart, unless these collide. -/
theorem base64_sha256_eq_iff {x y : List UInt8} :
    base64 (sha256 x) = base64 (sha256 y) ↔ x = y ∨ Collide x y := by
  rw [base64_inj]
  constructor
  · intro h
    by_cases hxy : x = y
    · exact .inl hxy
    · exact .inr ⟨hxy, h⟩
  · rintro (rfl | h)
    · rfl
    · exact h.2

end TypedGraph.Digest
