import TypedGraph.Pattern.Basic
import TypedGraph.Text.Category

/-!
# Matching

A pattern is run on a set of positions of a text at once: `advance p text S` is
the set of the positions at which a match of `p` can end that starts in `S`. A
repetition is run until the set no longer changes. Since a set holds at most one
more position than the text has characters, this takes no longer than the text.
-/
namespace TypedGraph.Pattern

/-- The characters of words: letters, marks, digits, joining punctuation and the
two joiners. -/
def wordRanges : Text.Ranges :=
  ["Mn", "Mc", "Me", "Nd", "Pc"].foldl (fun set name => set.union (Text.category name))
    ((Text.property "alphabetic").union (Text.property "joincontrol"))

def wordSet : CharSet := .table wordRanges

def asciiWordSet : CharSet := .ofRanges [(0x30, 0x39), (0x41, 0x5A), (0x5F, 0x5F), (0x61, 0x7A)]

/-- Whether the character at a position, if there is one, is in a set. -/
def holdsAt (set : CharSet) (text : Array Char) (i : Nat) : Bool :=
  match text[i]? with
  | some c => set.contains c.toNat
  | none => false

/-- Whether the character before a position, if there is one, is in a set. -/
def holdsBefore (set : CharSet) (text : Array Char) (i : Nat) : Bool :=
  i != 0 && holdsAt set text (i - 1)

/-- Whether a look succeeds at a position. -/
def looks (text : Array Char) (place : Look) (i : Nat) : Bool :=
  let isAt (c : Char) (i : Nat) : Bool := text[i]? == some c
  let isBefore (c : Char) : Bool := i != 0 && isAt c (i - 1)
  let word (ascii : Bool) : CharSet := if ascii then asciiWordSet else wordSet
  let before (ascii : Bool) : Bool := holdsBefore (word ascii) text i
  let after (ascii : Bool) : Bool := holdsAt (word ascii) text i
  match place with
  | .start => i == 0
  | .stop => i == text.size
  | .lineStart false => i == 0 || isBefore '\n'
  | .lineStart true => i == 0 || isBefore '\n' || (isBefore '\r' && !isAt '\n' i)
  | .lineStop false => i == text.size || isAt '\n' i
  | .lineStop true => i == text.size || isAt '\r' i || (isAt '\n' i && !isBefore '\r')
  | .wordBoundary ascii negated => (before ascii != after ascii) != negated
  | .wordStart ascii => !before ascii && after ascii
  | .wordStop ascii => before ascii && !after ascii
  | .wordStartHalf ascii => !before ascii
  | .wordStopHalf ascii => !after ascii

/-- Repeats a step up to `bound` times, stopping early at a set that it keeps. -/
def iterate (step : Array Bool → Array Bool) : Nat → Array Bool → Array Bool
  | 0, positions => positions
  | bound + 1, positions =>
    let next := step positions
    if next == positions then positions else iterate step bound next

/-- The positions at which a match that starts in `positions` can end. -/
def advance (text : Array Char) : Pattern → Array Bool → Array Bool
  | empty, positions => positions
  | char set, positions =>
    Array.ofFn fun (i : Fin (text.size + 1)) =>
      i.val != 0 && positions.getD (i.val - 1) false && holdsAt set text (i.val - 1)
  | look place, positions => positions.mapIdx fun i here => here && looks text place i
  | append p q, positions => advance text q (advance text p positions)
  | either p q, positions => Array.zipWith or (advance text p positions) (advance text q positions)
  | repeated p least most, positions =>
    let first := iterate (advance text p) least positions
    let more (positions : Array Bool) : Array Bool :=
      Array.zipWith or positions (advance text p positions)
    let bound := match most with
      | some most => min (most - least) (text.size + 1)
      | none => text.size + 1
    iterate more bound first

/-- Whether a pattern matches somewhere in a text. -/
def matchesText (p : Pattern) (s : String) : Bool :=
  let text := s.toList.toArray
  (p.advance text (Array.replicate (text.size + 1) true)).any id

end TypedGraph.Pattern
