/-!
# Bytes as text

Base 64 writes three bytes as four characters; one or two bytes at the end are
filled up with `=`.
-/
namespace TypedGraph.Digest

def alphabet : Array Char :=
  "ABCDEFGHIJKLMNOPQRSTUVWXYZabcdefghijklmnopqrstuvwxyz0123456789+/".toList.toArray

/-- The character of six bits. -/
def sextet (n : Nat) : Char := alphabet.getD (n % 64) '='

/-- The characters of a sequence of bytes. -/
def base64Chars : List UInt8 → List Char
  | a :: b :: c :: rest =>
    let n := a.toNat * 0x10000 + b.toNat * 0x100 + c.toNat
    sextet (n / 0x40000) :: sextet (n / 0x1000) :: sextet (n / 0x40) :: sextet n :: base64Chars rest
  | [a, b] =>
    let n := a.toNat * 0x10000 + b.toNat * 0x100
    [sextet (n / 0x40000), sextet (n / 0x1000), sextet (n / 0x40), '=']
  | [a] =>
    let n := a.toNat * 0x10000
    [sextet (n / 0x40000), sextet (n / 0x1000), '=', '=']
  | [] => []

/-- Three bytes, begun or whole, are four characters. -/
theorem length_base64Chars (bytes : List UInt8) :
    (base64Chars bytes).length = 4 * ((bytes.length + 2) / 3) := by
  fun_induction base64Chars bytes with
  | case1 a b c rest n ih =>
    simp only [List.length_cons, ih]
    omega
  | case2 | case3 | case4 => simp

/-- The bytes in base 64. -/
def base64 (bytes : List UInt8) : String := String.ofList (base64Chars bytes)

end TypedGraph.Digest
