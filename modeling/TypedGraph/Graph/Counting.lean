import TypedGraph.Graph.Supply

/-!
# Counted ids

Ids are drawn by counting. They are different since the number can be read back from the
digits at the end of an id (`countedId_inj`). The clock is not asked: its readings are told
apart by their numbers only.
-/
namespace TypedGraph

/-- The id with a number. -/
def countedId (n : Nat) : String :=
  let digits := Nat.toDigits 16 n
  "00000000-0000-4000-8000-" ++ String.ofList (List.replicate (12 - digits.length) '0' ++ digits)

/-- The number that a hexadecimal digit stands for. -/
def hexValue (c : Char) : Nat := if c.isDigit then c.toNat - 48 else c.toNat - 87

/-- The number that hexadecimal digits stand for. -/
def hexNumber (digits : List Char) : Nat := digits.foldl (fun n c => 16 * n + hexValue c) 0

theorem hexValue_digitChar : ∀ d < 16, hexValue d.digitChar = d := by decide

theorem hexNumber_toDigits (n : Nat) : hexNumber (Nat.toDigits 16 n) = n := by
  induction n using Nat.strongRecOn with
  | ind n ih =>
    rw [Nat.toDigits_eq_if (by omega)]
    split
    · rename_i h
      simp [hexNumber, hexValue_digitChar n h]
    · have hread := ih (n / 16) (by omega)
      have hdigit := hexValue_digitChar (n % 16) (by omega)
      rw [hexNumber] at hread ⊢
      rw [List.foldl_append, hread, List.foldl_cons, List.foldl_nil, hdigit]
      omega

/-- Leading zeros do not count. -/
theorem hexNumber_zeros (k : Nat) (digits : List Char) :
    hexNumber (List.replicate k '0' ++ digits) = hexNumber digits := by
  induction k with
  | zero => rfl
  | succ k ih => exact ih

theorem countedId_inj {m n : Nat} (h : countedId m = countedId n) : m = n := by
  unfold countedId at h
  generalize "00000000-0000-4000-8000-" = start at h
  have hdigits := congrArg String.toList h
  simp only [String.toList_append, String.toList_ofList, List.append_cancel_left_eq] at hdigits
  have hnumber := congrArg hexNumber hdigits
  rwa [hexNumber_zeros, hexNumber_zeros, hexNumber_toDigits, hexNumber_toDigits] at hnumber

/-- The supply of counted ids and numbered readings. -/
instance Supply.counting : Supply where
  drawnId := countedId
  reading := .reading
  drawnId_inj := countedId_inj

end TypedGraph
