import TypedGraph.Text.Folding
import TypedGraph.Text.Property

/-!
# Patterns

A pattern denotes a set of texts in context: a match takes some characters and
may look at what stands around them. Only whether a pattern matches somewhere is
ever asked, so groups leave no trace and greed makes no difference.
-/
namespace TypedGraph

/-- A set of characters. -/
inductive CharSet where
  | empty
  | range (low high : Nat)
  | table (ranges : Text.Ranges)
  | union (a b : CharSet)
  | intersection (a b : CharSet)
  | difference (a b : CharSet)
  | symmetricDifference (a b : CharSet)
  | complement (a : CharSet)
  /-- All characters equal to one of the set up to case. -/
  | caseless (a : CharSet)
  /-- The same for the letters of ASCII only. -/
  | asciiCaseless (a : CharSet)
deriving Inhabited

namespace CharSet

/-- The letter of ASCII in the other case, if `n` is one. -/
def asciiVariants (n : Nat) : List Nat :=
  if 0x41 ≤ n ∧ n ≤ 0x5A then [n, n + 0x20]
  else if 0x61 ≤ n ∧ n ≤ 0x7A then [n, n - 0x20]
  else [n]

def contains : CharSet → Nat → Bool
  | empty, _ => false
  | range low high, n => low ≤ n && n ≤ high
  | table ranges, n => ranges.contains n
  | union a b, n => a.contains n || b.contains n
  | intersection a b, n => a.contains n && b.contains n
  | difference a b, n => a.contains n && !b.contains n
  | symmetricDifference a b, n => a.contains n != b.contains n
  | complement a, n => !a.contains n
  | caseless a, n => a.contains n || (Text.caseVariants n).any a.contains
  | asciiCaseless a, n => (asciiVariants n).any a.contains

/-- The number of ranges from which the set is made. -/
def rangeCount : CharSet → Nat
  | empty => 0
  | range .. => 1
  | table ranges => ranges.size
  | union a b | intersection a b | difference a b | symmetricDifference a b =>
    a.rangeCount + b.rangeCount
  | complement a => a.rangeCount + 1
  | caseless a | asciiCaseless a => 2 * a.rangeCount

def single (n : Nat) : CharSet := .range n n

def ofRanges (ranges : List (Nat × Nat)) : CharSet :=
  .table ⟨ranges.toArray⟩

end CharSet

/-- The places at which a pattern may look without taking a character. -/
inductive Look where
  | start
  | stop
  | lineStart (crlf : Bool)
  | lineStop (crlf : Bool)
  | wordBoundary (ascii negated : Bool)
  | wordStart (ascii : Bool)
  | wordStop (ascii : Bool)
  | wordStartHalf (ascii : Bool)
  | wordStopHalf (ascii : Bool)
deriving DecidableEq, Repr, Inhabited

/-- A pattern. -/
inductive Pattern where
  | empty
  | char (set : CharSet)
  | look (place : Look)
  | append (p q : Pattern)
  | either (p q : Pattern)
  /-- At least `least` times, and at most `most` times if there is such a bound. -/
  | repeated (p : Pattern) (least : Nat) (most : Option Nat)
deriving Inhabited

namespace Pattern

/-- The memory that a pattern takes when its repetitions are written out. -/
def footprint : Pattern → Nat
  | empty | look _ => 32
  | char set => if set.rangeCount ≤ 1 then 32 else 65 * set.rangeCount
  | append p q => p.footprint + q.footprint
  | either p q => p.footprint + q.footprint + 40
  | repeated p least most => p.footprint * max 1 (most.getD least) + 40

/-- Patterns whose footprint is greater are refused. -/
def footprintLimit : Nat := 10 * Nat.pow 2 20

end Pattern

end TypedGraph
