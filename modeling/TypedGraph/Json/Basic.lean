import TypedGraph.Decimal.Binary64
import TypedGraph.Table

/-!
# Documents

A document is a tree of objects, lists and scalars. Numbers are integers or
binary floating-point numbers, and the two stay apart: `5` is not `5.0`. The
entries of an object are kept as a list; `canonical` brings them into the order
of their keys, the last of two entries with one key winning. Payloads, properties
and everything the library produces are canonical, so that equal objects are
equal lists.
-/
namespace TypedGraph

/-- A number of a document. -/
inductive JsonNumber where
  | int (n : Int)
  | float (x : Decimal.Binary64)
deriving DecidableEq, Repr, Inhabited

/-- A document. -/
inductive Json where
  | null
  | bool (b : Bool)
  | number (n : JsonNumber)
  | string (s : String)
  | array (items : List Json)
  | object (entries : List (String × Json))
deriving Repr, Inhabited

namespace Json

mutual

/-- Decides whether two documents are the same, number kinds and order of entries included. -/
def decEq : (a b : Json) → Decidable (a = b)
  | null, b => match b with
    | null => isTrue rfl
    | bool _ | number _ | string _ | array _ | object _ => isFalse nofun
  | bool x, b => match b with
    | bool y => decidable_of_iff (x = y) (bool.injEq x y).symm.to_iff
    | null | number _ | string _ | array _ | object _ => isFalse nofun
  | number x, b => match b with
    | number y => decidable_of_iff (x = y) (number.injEq x y).symm.to_iff
    | null | bool _ | string _ | array _ | object _ => isFalse nofun
  | string x, b => match b with
    | string y => decidable_of_iff (x = y) (string.injEq x y).symm.to_iff
    | null | bool _ | number _ | array _ | object _ => isFalse nofun
  | array x, b => match b with
    | array y =>
      have := decEqItems x y
      decidable_of_iff (x = y) (array.injEq x y).symm.to_iff
    | null | bool _ | number _ | string _ | object _ => isFalse nofun
  | object x, b => match b with
    | object y =>
      have := decEqEntries x y
      decidable_of_iff (x = y) (object.injEq x y).symm.to_iff
    | null | bool _ | number _ | string _ | array _ => isFalse nofun

def decEqItems : (as bs : List Json) → Decidable (as = bs)
  | [], [] => isTrue rfl
  | [], _ :: _ => isFalse nofun
  | _ :: _, [] => isFalse nofun
  | a :: as, b :: bs =>
    have := decEq a b
    have := decEqItems as bs
    decidable_of_iff (a = b ∧ as = bs) (List.cons_eq_cons).symm

def decEqEntries : (as bs : List (String × Json)) → Decidable (as = bs)
  | [], [] => isTrue rfl
  | [], _ :: _ => isFalse nofun
  | _ :: _, [] => isFalse nofun
  | (j, a) :: as, (k, b) :: bs =>
    have := decEq a b
    have := decEqEntries as bs
    decidable_of_iff ((j = k ∧ a = b) ∧ as = bs) (by simp)

end

instance : DecidableEq Json := decEq

end Json

namespace JsonNumber

/-- The nearest binary floating-point number. -/
def toBinary : JsonNumber → Decimal.Binary64
  | int n => .ofInt n
  | float x => x

/-- Equality of numbers of one kind; an integer never equals a float. -/
def equal : JsonNumber → JsonNumber → Bool
  | int m, int n => m == n
  | float x, float y => x.equal y
  | _, _ => false

end JsonNumber

/-- The entries of an object. -/
abbrev Entries := Table Json

namespace Json

/-- The integer `n` as a document. -/
def int (n : Int) : Json := .number (.int n)

/-- The natural `n` as a document. -/
def nat (n : Nat) : Json := .int n

def isNull : Json → Bool
  | null => true
  | _ => false

def string? : Json → Option String
  | string s => some s
  | _ => none

def bool? : Json → Option Bool
  | bool b => some b
  | _ => none

/-- The object with the given settings. -/
def ofFields (settings : List (String × Json)) : Json := .object (Table.ofList settings)

mutual

/-- Equality of documents: numbers by value within their kind, all else by form. -/
def equal : Json → Json → Bool
  | null, null => true
  | bool a, bool b => a == b
  | number a, number b => a.equal b
  | string a, string b => a == b
  | array as, array bs => equalItems as bs
  | object as, object bs => equalEntries as bs
  | _, _ => false

def equalItems : List Json → List Json → Bool
  | [], [] => true
  | a :: as, b :: bs => equal a b && equalItems as bs
  | _, _ => false

def equalEntries : List (String × Json) → List (String × Json) → Bool
  | [], [] => true
  | (j, a) :: as, (k, b) :: bs => j == k && equal a b && equalEntries as bs
  | _, _ => false

end

mutual

/-- Brings the entries of every object into the order of their keys. -/
def canonical : Json → Json
  | array items => array (canonicalItems items)
  | object entries => object (Table.ofList (canonicalEntries entries))
  | scalar => scalar

def canonicalItems : List Json → List Json
  | [] => []
  | item :: rest => canonical item :: canonicalItems rest

def canonicalEntries : List (String × Json) → List (String × Json)
  | [] => []
  | (k, v) :: rest => (k, canonical v) :: canonicalEntries rest

end

end Json

end TypedGraph
