/-!
# The digest SHA-256

The 256-bit digest of a sequence of bytes: the sequence is padded to whole blocks
of 64 bytes, and every block is mixed into a state of eight 32-bit words. All
additions of words are modulo `2^32`.
-/
namespace TypedGraph.Digest

/-- The first 32 bits of the fractional parts of the square roots of the first
eight primes. -/
def initialState : Array UInt32 :=
  #[0x6a09e667, 0xbb67ae85, 0x3c6ef372, 0xa54ff53a, 0x510e527f, 0x9b05688c, 0x1f83d9ab, 0x5be0cd19]

/-- The first 32 bits of the fractional parts of the cube roots of the first 64
primes. -/
def roundConstants : Array UInt32 :=
  #[0x428a2f98, 0x71374491, 0xb5c0fbcf, 0xe9b5dba5, 0x3956c25b, 0x59f111f1, 0x923f82a4, 0xab1c5ed5,
   0xd807aa98, 0x12835b01, 0x243185be, 0x550c7dc3, 0x72be5d74, 0x80deb1fe, 0x9bdc06a7, 0xc19bf174,
   0xe49b69c1, 0xefbe4786, 0x0fc19dc6, 0x240ca1cc, 0x2de92c6f, 0x4a7484aa, 0x5cb0a9dc, 0x76f988da,
   0x983e5152, 0xa831c66d, 0xb00327c8, 0xbf597fc7, 0xc6e00bf3, 0xd5a79147, 0x06ca6351, 0x14292967,
   0x27b70a85, 0x2e1b2138, 0x4d2c6dfc, 0x53380d13, 0x650a7354, 0x766a0abb, 0x81c2c92e, 0x92722c85,
   0xa2bfe8a1, 0xa81a664b, 0xc24b8b70, 0xc76c51a3, 0xd192e819, 0xd6990624, 0xf40e3585, 0x106aa070,
   0x19a4c116, 0x1e376c08, 0x2748774c, 0x34b0bcb5, 0x391c0cb3, 0x4ed8aa4a, 0x5b9cca4f, 0x682e6ff3,
   0x748f82ee, 0x78a5636f, 0x84c87814, 0x8cc70208, 0x90befffa, 0xa4506ceb, 0xbef9a3f7, 0xc67178f2]

def rotateRight (x : UInt32) (n : UInt32) : UInt32 := (x >>> n) ||| (x <<< (32 - n))

/-- A number as `count` bytes, the highest first. -/
def bigEndian (count n : Nat) : List UInt8 :=
  (List.range count).reverse.map fun i => UInt8.ofNat (n / Nat.pow 256 i % 256)

theorem length_bigEndian (count n : Nat) : (bigEndian count n).length = count := by
  simp [bigEndian]

/-- The bytes, a one bit, zeros, and the number of bits in eight bytes: whole blocks
of 64 bytes. -/
def padded (bytes : List UInt8) : List UInt8 :=
  let zeros := (119 - bytes.length % 64) % 64
  bytes ++ 0x80 :: List.replicate zeros 0 ++ bigEndian 8 (8 * bytes.length)

theorem length_padded (bytes : List UInt8) : (padded bytes).length % 64 = 0 := by
  simp only [padded, List.length_append, List.length_cons, List.length_replicate, length_bigEndian]
  omega

/-- The words of a sequence of bytes, the highest byte first. -/
def words : List UInt8 → List UInt32
  | a :: b :: c :: d :: rest =>
    ((a.toUInt32 <<< 24) ||| (b.toUInt32 <<< 16) ||| (c.toUInt32 <<< 8) ||| d.toUInt32) :: words rest
  | _ => []

/-- Extends the 16 words of a block by `count` further ones. -/
def schedule : Nat → Array UInt32 → Array UInt32
  | 0, w => w
  | count + 1, w =>
    let t := w.size
    let x := w.getD (t - 15) 0
    let y := w.getD (t - 2) 0
    let a := rotateRight x 7 ^^^ rotateRight x 18 ^^^ (x >>> 3)
    let b := rotateRight y 17 ^^^ rotateRight y 19 ^^^ (y >>> 10)
    schedule count (w.push (w.getD (t - 16) 0 + a + w.getD (t - 7) 0 + b))

/-- One round on the eight working words. -/
def round (s : Array UInt32) (word constant : UInt32) : Array UInt32 :=
  let a := s.getD 0 0; let b := s.getD 1 0; let c := s.getD 2 0; let d := s.getD 3 0
  let e := s.getD 4 0; let f := s.getD 5 0; let g := s.getD 6 0; let h := s.getD 7 0
  let x := rotateRight e 6 ^^^ rotateRight e 11 ^^^ rotateRight e 25
  let choice := (e &&& f) ^^^ ((~~~e) &&& g)
  let t := h + x + choice + constant + word
  let y := rotateRight a 2 ^^^ rotateRight a 13 ^^^ rotateRight a 22
  let majority := (a &&& b) ^^^ (a &&& c) ^^^ (b &&& c)
  #[t + (y + majority), a, b, c, d + t, e, f, g]

/-- Mixes one block of 16 words into the state. -/
def mix (state block : Array UInt32) : Array UInt32 :=
  let w := schedule 48 block
  let mixed := (w.zip roundConstants).foldl (fun s (word, constant) => round s word constant) state
  Array.zipWith (· + ·) state mixed

/-- Mixes all blocks into the state. -/
def mixAll : Nat → Array UInt32 → List UInt32 → Array UInt32
  | 0, state, _ => state
  | blocks + 1, state, ws => mixAll blocks (mix state (ws.take 16).toArray) (ws.drop 16)

/-- The digest of a sequence of bytes: 32 bytes. -/
def sha256 (bytes : List UInt8) : List UInt8 :=
  let ws := words (padded bytes)
  (mixAll (ws.length / 16) initialState ws).toList.flatMap fun word => bigEndian 4 word.toNat

end TypedGraph.Digest
