import TypedGraph.Decimal.Reading
import TypedGraph.Json.Basic

/-!
# Reading documents

`Json.parse?` reads a whole text as one document, keeping the entries of objects
as they are written. Numbers without fraction and exponent that fit 64 bits are
integers, all others binary floating-point numbers: as many leading digits as fit
64 bits are combined with the power of ten by rounded multiplication or division,
and a number beyond the largest one is refused. Documents that nest 128 levels
deep are refused as well.

The readers take a bound on their steps, which the length of the text supplies.
-/
namespace TypedGraph.Json

open Decimal

def isSpace (c : Char) : Bool := c = ' ' || c = '\n' || c = '\t' || c = '\r'

def skipSpace (cs : List Char) : List Char := cs.dropWhile isSpace

/-- The greatest natural of 64 bits. -/
def maxWord : Nat := Nat.pow 2 64 - 1

/-- The digits before the point: those that fit 64 bits as a number, the others
as a power of ten. -/
def wholePart (cs : List Char) : Nat × Int :=
  go 0 cs
where
  go : Nat → List Char → Nat × Int
    | n, [] => (n, 0)
    | n, c :: rest =>
      let m := digitsValue n [c]
      if m ≤ maxWord then go m rest else (n, rest.length + 1)

/-- Appends the digits behind the point as long as the number fits 64 bits. -/
def fractionPart : Nat × Int → List Char → Nat × Int
  | part, [] => part
  | (n, e), c :: rest =>
    let m := digitsValue n [c]
    if m ≤ maxWord then fractionPart (m, e - 1) rest else (n, e)

/-- Divides by a power of ten, at most 308 powers at a time. -/
def divideByPower (x : Binary64) (n : Nat) : Binary64 :=
  if n ≤ 308 then x.div (.ofInt (Nat.pow 10 n))
  else if x.isZero then x
  else divideByPower (x.div (.ofInt (Nat.pow 10 308))) (n - 308)
termination_by n

/-- `digits * 10^exponent`; `none` beyond the largest number. -/
def combine (digits : Nat) (exponent : Int) : Option Binary64 :=
  let x := Binary64.ofInt digits
  if exponent < 0 then some (divideByPower x exponent.natAbs)
  else if digits = 0 then some x
  else if exponent > 308 then none
  else
    let y := x.mul (.ofInt (Nat.pow 10 exponent.toNat))
    if y.isFinite then some y else none

/-- The number of a numeral with a sign, digits before and behind the point, and
an exponent if one is written. -/
def numberOf (negative : Bool) (whole : List Char) (fraction : Option (List Char))
    (exponent : Option Int) : Option JsonNumber := do
  let n := digitsValue 0 whole
  let signed (x : Binary64) : JsonNumber := .float (if negative then x.neg else x)
  if fraction.isNone && exponent.isNone && n ≤ maxWord then
    if !negative then return .int n
    else if 0 < n && n ≤ Nat.pow 2 63 then return .int (-n)
    else return signed (.ofInt n)
  else
    let (digits, e) := fractionPart (wholePart whole) (fraction.getD [])
    signed <$> combine digits (e + exponent.getD 0)

/-- The digits behind a point, if one follows. -/
def fraction? : List Char → Option (Option (List Char) × List Char)
  | '.' :: rest =>
    let (digits, rest) := spanDigits rest
    if digits.isEmpty then none else some (some digits, rest)
  | cs => some (none, cs)

/-- The exponent, if one follows. -/
def exponent? : List Char → Option (Option Int × List Char)
  | [] => some (none, [])
  | c :: rest =>
    if c = 'e' ∨ c = 'E' then
      let (negative, rest) := spanSign rest
      let (digits, rest) := spanDigits rest
      if digits.isEmpty then none
      else
        let n : Int := digitsValue 0 digits
        some (some (if negative then -n else n), rest)
    else some (none, c :: rest)

/-- Reads a number and returns what follows it. -/
def number? (cs : List Char) : Option (JsonNumber × List Char) := do
  let (negative, body) := match cs with
    | '-' :: rest => (true, rest)
    | _ => (false, cs)
  let (whole, rest) := spanDigits body
  if whole.isEmpty || (whole.length > 1 && whole.head? == some '0') then none
  else
    let (fraction, rest) ← fraction? rest
    let (exponent, rest) ← exponent? rest
    return (← numberOf negative whole fraction exponent, rest)

/-- The value of a hexadecimal digit. -/
def hexValue? (c : Char) : Option Nat :=
  if '0' ≤ c ∧ c ≤ '9' then some (c.toNat - '0'.toNat)
  else if 'a' ≤ c ∧ c ≤ 'f' then some (c.toNat - 'a'.toNat + 10)
  else if 'A' ≤ c ∧ c ≤ 'F' then some (c.toNat - 'A'.toNat + 10)
  else none

/-- Four hexadecimal digits. -/
def unit? : List Char → Option (Nat × List Char)
  | a :: b :: c :: d :: rest => do
    return ((((← hexValue? a) * 16 + (← hexValue? b)) * 16 + (← hexValue? c)) * 16 + (← hexValue? d), rest)
  | _ => none

/-- The character of a `\u` escape; a character beyond 16 bits takes two of them,
and half of such a pair stands for nothing. -/
def unicodeEscape? (cs : List Char) : Option (Char × List Char) := do
  let (high, rest) ← unit? cs
  if 0xD800 ≤ high ∧ high < 0xDC00 then
    match rest with
    | '\\' :: 'u' :: rest =>
      let (low, rest) ← unit? rest
      if 0xDC00 ≤ low ∧ low < 0xE000 then
        return (Char.ofNat (0x10000 + (high - 0xD800) * 0x400 + (low - 0xDC00)), rest)
      else none
    | _ => none
  else if 0xDC00 ≤ high ∧ high < 0xE000 then none
  else return (Char.ofNat high, rest)

/-- The character behind a backslash. -/
def escape? : List Char → Option (Char × List Char)
  | '"' :: rest => some ('"', rest)
  | '\\' :: rest => some ('\\', rest)
  | '/' :: rest => some ('/', rest)
  | 'b' :: rest => some (Char.ofNat 0x8, rest)
  | 'f' :: rest => some (Char.ofNat 0xC, rest)
  | 'n' :: rest => some ('\n', rest)
  | 'r' :: rest => some ('\r', rest)
  | 't' :: rest => some ('\t', rest)
  | 'u' :: rest => unicodeEscape? rest
  | _ => none

/-- The rest of a text behind its opening quote; `read` holds the characters read
so far, last first. -/
def text? : Nat → List Char → List Char → Option (String × List Char)
  | 0, _, _ => none
  | steps + 1, read, cs =>
    match cs with
    | [] => none
    | '"' :: rest => some (String.ofList read.reverse, rest)
    | '\\' :: rest =>
      match escape? rest with
      | some (c, rest) => text? steps (c :: read) rest
      | none => none
    | c :: rest => if c.toNat < 0x20 then none else text? steps (c :: read) rest

/-- What follows an expected word. -/
def word? (word : List Char) (cs : List Char) : Option (List Char) :=
  if word.isPrefixOf cs then some (cs.drop word.length) else none

mutual

/-- Reads a document behind optional space. `depth` levels may still be opened. -/
def value? : (steps depth : Nat) → List Char → Option (Json × List Char)
  | 0, _, _ => none
  | steps + 1, depth, cs =>
    match skipSpace cs with
    | [] => none
    | '[' :: rest =>
      if depth ≤ 1 then none
      else match skipSpace rest with
        | ']' :: rest => some (array [], rest)
        | rest => do
          let (items, rest) ← items? steps (depth - 1) rest
          return (array items, rest)
    | '\x7b' :: rest =>
      if depth ≤ 1 then none
      else match skipSpace rest with
        | '\x7d' :: rest => some (object [], rest)
        | rest => do
          let (entries, rest) ← entries? steps (depth - 1) rest
          return (object entries, rest)
    | '"' :: rest => do
      let (s, rest) ← text? (rest.length + 1) [] rest
      return (string s, rest)
    | 'n' :: rest => (word? ['u', 'l', 'l'] rest).map (null, ·)
    | 't' :: rest => (word? ['r', 'u', 'e'] rest).map (bool true, ·)
    | 'f' :: rest => (word? ['a', 'l', 's', 'e'] rest).map (bool false, ·)
    | cs => do
      let (n, rest) ← number? cs
      return (number n, rest)

/-- Reads the items of a list up to its closing bracket. -/
def items? : (steps depth : Nat) → List Char → Option (List Json × List Char)
  | 0, _, _ => none
  | steps + 1, depth, cs => do
    let (item, rest) ← value? steps depth cs
    match skipSpace rest with
    | ',' :: rest =>
      let (items, rest) ← items? steps depth rest
      return (item :: items, rest)
    | ']' :: rest => return ([item], rest)
    | _ => none

/-- Reads the entries of an object up to its closing brace. -/
def entries? : (steps depth : Nat) → List Char → Option (List (String × Json) × List Char)
  | 0, _, _ => none
  | steps + 1, depth, cs =>
    match skipSpace cs with
    | '"' :: rest => do
      let (key, rest) ← text? (rest.length + 1) [] rest
      match skipSpace rest with
      | ':' :: rest =>
        let (value, rest) ← value? steps depth rest
        match skipSpace rest with
        | ',' :: rest =>
          let (entries, rest) ← entries? steps depth rest
          return ((key, value) :: entries, rest)
        | '\x7d' :: rest => return ([(key, value)], rest)
        | _ => none
      | _ => none
    | _ => none

end

/-- Reads a text as one document, its objects as they are written. -/
def parse? (s : String) : Option Json := do
  let cs := s.toList
  let (value, rest) ← value? (2 * cs.length + 2) 128 cs
  if (skipSpace rest).isEmpty then some value else none

/-- Reads a text as one canonical document. -/
def parseCanonical? (s : String) : Option Json := (parse? s).map canonical

end TypedGraph.Json
