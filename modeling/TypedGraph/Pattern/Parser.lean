import TypedGraph.Pattern.Named

/-!
# Reading patterns

Patterns are written as regular expressions without references and look-around:
literals, `.`, `^`, `$`, classes in brackets with the operations `&&`, `--` and
`~~`, escapes, groups, flags, alternatives, and the repetitions `*`, `+`, `?` and
`{m,n}`, each optionally lazy. A text that is no pattern, or whose repetitions
written out take too much room, is refused.

Flags hold from where they are set to the end of the enclosing group. Pieces
carry the depth to which they nest, which is bounded as well. The reader takes a
bound on its steps, supplied from the length of the text.
-/
namespace TypedGraph.Pattern

/-- Why a text is refused as a pattern. -/
inductive Refusal where
  | malformed
  | tooLarge
deriving DecidableEq, Repr

/-- The flags in force. -/
structure Flags where
  caseless : Bool := false
  multiLine : Bool := false
  dotAll : Bool := false
  unicode : Bool := true
  crlf : Bool := false
  /-- Blanks and comments in the pattern are skipped. -/
  spaced : Bool := false
deriving DecidableEq, Repr

/-- What is left to read, the flags, and the names of groups met so far. -/
structure State where
  rest : List Char
  flags : Flags
  names : List (List Char)

abbrev Reader := StateT State Option

/-- A pattern, how deeply it nests, and whether a repetition may follow it. -/
structure Piece where
  pattern : Pattern
  depth : Nat := 0
  repeatable : Bool := true

/-- The nesting that is still accepted. -/
def depthLimit : Nat := 250

namespace Reader

def fail {α : Type} : Reader α := fun _ => none

def flags : Reader Flags := return (← get).flags

def rest : Reader (List Char) := return (← get).rest

def peek : Reader (Option Char) := return (← get).rest.head?

def setRest (cs : List Char) : Reader Unit := modify fun s => { s with rest := cs }

def setFlags (f : Flags) : Reader Unit := modify fun s => { s with flags := f }

/-- Skips blanks, and comments up to the end of their line. -/
def dropSpaced : List Char → List Char
  | [] => []
  | c :: cs => if Text.isBlank c then dropSpaced cs else if c = '#' then dropComment cs else c :: cs
where
  dropComment : List Char → List Char
    | [] => []
    | c :: cs => if c = '\n' then dropSpaced cs else dropComment cs

/-- Skips blanks and comments where the flags say so. -/
def skipSpace : Reader Unit := do
  if (← flags).spaced then modify fun s => { s with rest := dropSpaced s.rest }

/-- Takes one character. -/
def next : Reader Char := do
  match ← rest with
  | [] => fail
  | c :: cs => setRest cs; return c

/-- Takes one character and what is skipped behind it. -/
def nextSpaced : Reader Char := do
  let c ← next
  skipSpace
  return c

/-- Takes a word if it stands next. -/
def takeWord (word : List Char) : Reader Bool := do
  let cs ← rest
  if word.isPrefixOf cs then setRest (cs.drop word.length); return true
  else return false

/-- Requires a character and what is skipped behind it. -/
def expect (c : Char) : Reader Unit := do
  if (← next) != c then fail

/-- The character that would follow the next one. -/
def peekSecond : Reader (Option Char) := do
  match ← rest with
  | _ :: cs => return (if (← flags).spaced then dropSpaced cs else cs).head?
  | [] => return none

end Reader

open Reader

/-- One element of a class or of a pattern, before it is known where it stands. -/
inductive Element where
  /-- A character; `byte` tells that it was written as two hexadecimal digits. -/
  | literal (c : Nat) (byte : Bool)
  | set (set : CharSet)
  | place (look : Look)

/-- Whether a set holds code points from 128 up to 255. -/
def beyondAscii (set : CharSet) : Bool := (List.range 128).any fun i => set.contains (i + 128)

/-- Where single bytes are meant, only sets of ASCII characters are accepted. -/
def checked (f : Flags) (set : CharSet) : Reader CharSet :=
  if !f.unicode && beyondAscii set then fail else return set

/-- The characters equal to those of a set under the flags. -/
def folded (f : Flags) (set : CharSet) : CharSet :=
  if f.caseless then (if f.unicode then .caseless set else .asciiCaseless set) else set

/-- The set of a literal outside of classes. -/
def literalSet (f : Flags) (c : Nat) (byte : Bool) : Reader CharSet :=
  if !f.unicode && byte && c > 0x7F then fail else return folded f (.single c)

/-- Up to `bound` hexadecimal digits read as a number. -/
def hexValue? (cs : List Char) : Option Nat :=
  cs.foldlM (fun n c =>
    if '0' ≤ c ∧ c ≤ '9' then some (16 * n + (c.toNat - '0'.toNat))
    else if 'a' ≤ c ∧ c ≤ 'f' then some (16 * n + (c.toNat - 'a'.toNat + 10))
    else if 'A' ≤ c ∧ c ≤ 'F' then some (16 * n + (c.toNat - 'A'.toNat + 10))
    else none) 0

/-- The code point written in hexadecimal digits. -/
def codePoint (digits : List Char) : Reader Nat :=
  match hexValue? digits with
  | some n => if !digits.isEmpty && (n < 0xD800 || (0xDFFF < n && n ≤ 0x10FFFF)) then return n else fail
  | none => fail

/-- Takes characters up to a closing brace. -/
def upToBrace : Nat → Reader (List Char)
  | 0 => fail
  | steps + 1 => do
    match ← peek with
    | none => fail
    | some '\x7d' => let _ ← next; return []
    | some _ =>
      let c ← nextSpaced
      return c :: (← upToBrace steps)

/-- Takes a fixed number of characters. -/
def exactly : Nat → Reader (List Char)
  | 0 => return []
  | n + 1 => do
    let c ← nextSpaced
    return c :: (← exactly n)

/-- A character by its number: digits in braces, or as many as the escape has. -/
def hexEscape (digits : Nat) : Reader Element := do
  let _ ← nextSpaced
  match ← peek with
  | none => fail
  | some '\x7b' =>
    let _ ← nextSpaced
    let text ← upToBrace ((← rest).length + 1)
    return .literal (← codePoint text) false
  | some _ => return .literal (← codePoint (← exactly digits)) (digits == 2)

/-- The set of a `\p` or `\P` escape. -/
def propertyEscape (negated : Bool) : Reader Element := do
  let _ ← nextSpaced
  let text ← match ← peek with
    | none => fail
    | some '\x7b' => do
      let _ ← nextSpaced
      upToBrace ((← rest).length + 1)
    | some '\\' => fail
    | some _ => do pure [← nextSpaced]
  let f ← flags
  if !f.unicode then fail
  match CharSet.described? text with
  | none => fail
  | some set => return .set (if negated then .complement (folded f set) else folded f set)

/-- The sets `\d`, `\s` and `\w` and their complements. -/
def perlClass (c : Char) : Reader Element := do
  let f ← flags
  let set : CharSet := match c.toLower with
    | 'd' => if f.unicode then .digits else .asciiDigits
    | 's' => if f.unicode then .blanks else .asciiBlanks
    | _ => if f.unicode then wordSet else asciiWordSet
  return .set (← checked f (if c.isUpper then .complement set else set))

/-- The letters and hyphens of a word in braces behind `\b`. -/
def boundaryWord : Nat → Reader (List Char)
  | 0 => fail
  | steps + 1 => do
    match ← peek with
    | none => fail
    | some c =>
      if c.isAlpha || c == '-' then
        let _ ← nextSpaced
        return c :: (← boundaryWord steps)
      else return []

/-- A word boundary, or one of its special forms in braces. -/
def boundary : Reader Element := do
  let ascii := !(← flags).unicode
  if (← peek) != some '\x7b' then return .place (.wordBoundary ascii false)
  else
    let here ← rest
    let _ ← nextSpaced
    match ← peek with
    | none => fail
    | some c =>
      if !(c.isAlpha || c == '-') then
        setRest here
        return .place (.wordBoundary ascii false)
      else
        let word ← boundaryWord ((← rest).length + 1)
        expect '\x7d'
        match String.ofList word with
        | "start" => return .place (.wordStart ascii)
        | "end" => return .place (.wordStop ascii)
        | "start-half" => return .place (.wordStartHalf ascii)
        | "end-half" => return .place (.wordStopHalf ascii)
        | _ => fail

/-- What stands behind a backslash. -/
def escape : Reader Element := do
  let _ ← next
  match ← peek with
  | none => fail
  | some 'x' => hexEscape 2
  | some 'u' => hexEscape 4
  | some 'U' => hexEscape 8
  | some 'p' => propertyEscape false
  | some 'P' => propertyEscape true
  | some c =>
    let _ ← next
    let ascii := !(← flags).unicode
    match c with
    | 'a' => return .literal 0x7 false
    | 'f' => return .literal 0xC false
    | 't' => return .literal 0x9 false
    | 'n' => return .literal 0xA false
    | 'r' => return .literal 0xD false
    | 'v' => return .literal 0xB false
    | 'A' => return .place .start
    | 'z' => return .place .stop
    | 'b' => boundary
    | 'B' => return .place (.wordBoundary ascii true)
    | '<' => return .place (.wordStart ascii)
    | '>' => return .place (.wordStop ascii)
    | 'd' | 's' | 'w' | 'D' | 'S' | 'W' => perlClass c
    | _ => if c.toNat ≤ 0x7F && !c.isAlphanum then return .literal c.toNat false else fail

/-- An element inside a class. -/
def classElement : Reader Element := do
  match ← peek with
  | none => fail
  | some '\\' => escape
  | some c => let _ ← next; return .literal c.toNat false

/-- The code point of an element that bounds a range in a class. -/
def bound : Element → Reader Nat
  | .literal c _ => do
    let f ← flags
    if !f.unicode && c > 0x7F then fail else return c
  | _ => fail

/-- An element or a range of a class. -/
def classRange : Reader CharSet := do
  let first ← classElement
  skipSpace
  let after ← peekSecond
  match ← peek with
  | none => fail
  | some c =>
    if c != '-' || after == some ']' || after == some '-' then
      match first with
      | .literal .. => return .single (← bound first)
      | .set set => return set
      | .place _ => fail
    else
      let _ ← nextSpaced
      let second ← classElement
      let low ← bound first
      let high ← bound second
      if low ≤ high then return .range low high else fail

/-- The name between `[:` and `:]`: what is left behind it, whether the class is
negated, and its set. -/
def asciiClass? (f : Flags) (cs : List Char) : Option (List Char × CharSet) :=
  match cs with
  | '[' :: ':' :: body =>
    let (negated, body) := match body with
      | '^' :: rest => (true, rest)
      | _ => (false, body)
    let name := body.takeWhile (· != ':')
    match body.dropWhile (· != ':') with
    | ':' :: ']' :: after =>
      (CharSet.asciiClass? (String.ofList name)).map fun set =>
        (after, if negated then .complement (folded f set) else folded f set)
    | _ => none
  | _ => none

/-- The operations between the parts of a class. -/
inductive ClassOperation where
  | intersection
  | difference
  | symmetricDifference

/-- The operation that stands next, if there is one. -/
def classOperation? : List Char → Option ClassOperation
  | '&' :: '&' :: _ => some .intersection
  | '-' :: '-' :: _ => some .difference
  | '~' :: '~' :: _ => some .symmetricDifference
  | _ => none

/-- Joins the part read last to those before it. -/
def applyOperation (f : Flags) : Option (CharSet × ClassOperation) → CharSet → CharSet
  | none, set => set
  | some (left, .intersection), set => .intersection (folded f left) (folded f set)
  | some (left, .difference), set => .difference (folded f left) (folded f set)
  | some (left, .symmetricDifference), set => .symmetricDifference (folded f left) (folded f set)

/-- A hyphen or a closing bracket at the start of a class stands for itself. -/
def leadingHyphens : Nat → CharSet → Nat → Reader (CharSet × Nat)
  | 0, _, _ => fail
  | steps + 1, set, count => do
    match ← peek with
    | none => fail
    | some '-' =>
      let _ ← nextSpaced
      leadingHyphens steps (.union set (.single '-'.toNat)) (count + 1)
    | some ']' =>
      if count = 0 then
        let _ ← nextSpaced
        if (← peek).isNone then fail
        return (.union set (.single ']'.toNat), 1)
      else return (set, count)
    | some _ => return (set, count)

mutual

/-- A class in brackets, with its depth. -/
def bracketed : Nat → Reader (CharSet × Nat)
  | 0 => fail
  | steps + 1 => do
    let _ ← nextSpaced
    let negated := (← peek) == some '^'
    if negated then
      let _ ← nextSpaced
    let (set, count) ← leadingHyphens ((← rest).length + 1) .empty 0
    let (set, depth) ← classParts steps none 0 set count 0
    let f ← flags
    let set := folded f set
    return (← checked f (if negated then .complement set else set), depth + 1)

/-- The parts of a class up to its closing bracket. `left` holds what stands before
the last operation and `leftDepth` its depth; `set`, `count` and `depth` belong to the
part that is being read. -/
def classParts : Nat → Option (CharSet × ClassOperation) → Nat → CharSet → Nat → Nat →
    Reader (CharSet × Nat)
  | 0, _, _, _, _, _ => fail
  | steps + 1, left, leftDepth, set, count, depth => do
    skipSpace
    let f ← flags
    let cs ← rest
    let partDepth := if count ≤ 1 then depth else depth + 1
    let joinedDepth := if left.isSome then max leftDepth partDepth + 1 else partDepth
    match cs with
    | [] => fail
    | '[' :: _ =>
      match asciiClass? f cs with
      | some (after, ascii) =>
        setRest after
        let ascii ← checked f ascii
        classParts steps left leftDepth (.union set ascii) (count + 1) depth
      | none =>
        let (inner, innerDepth) ← bracketed steps
        classParts steps left leftDepth (.union set inner) (count + 1) (max depth innerDepth)
    | ']' :: after =>
      setRest after
      return (applyOperation f left set, joinedDepth)
    | _ =>
      match classOperation? cs with
      | some operation =>
        setRest (cs.drop 2)
        classParts steps (some (applyOperation f left set, operation)) joinedDepth .empty 0 0
      | none =>
        let range ← classRange
        classParts steps left leftDepth (.union set range) (count + 1) depth

end

/-- The first character of a group's name. -/
def isNameStart (c : Char) : Bool := c == '_' || CharSet.contains (.table (Text.property "alphabetic")) c.toNat

/-- A later character of a group's name. -/
def isNameChar (c : Char) : Bool :=
  isNameStart c || c == '.' || c == '[' || c == ']' ||
    ["Nd", "Nl", "No"].any fun category => (Text.category category).contains c.toNat

/-- The name of a group up to `>`; no two groups have one name. -/
def groupName : Reader Unit := do
  let cs ← rest
  let name := cs.takeWhile (· != '>')
  match cs.dropWhile (· != '>') with
  | '>' :: after =>
    let fresh := !(← get).names.contains name
    let shaped := match name with
      | [] => false
      | c :: more => isNameStart c && more.all isNameChar
    if fresh && shaped then modify fun s => { s with rest := after, names := name :: s.names }
    else fail
  | _ => fail

/-- Sets a flag by its letter. -/
def withFlag (f : Flags) (value : Bool) : Char → Option Flags
  | 'i' => some { f with caseless := value }
  | 'm' => some { f with multiLine := value }
  | 's' => some { f with dotAll := value }
  | 'U' => some f
  | 'u' => some { f with unicode := value }
  | 'R' => some { f with crlf := value }
  | 'x' => some { f with spaced := value }
  | _ => none

/-- The letters of a group's flags up to `:` or `)`, which is left to read. `seen`
holds the letters and signs read so far. -/
def groupFlags : Nat → Flags → Bool → List Char → Reader (Flags × List Char)
  | 0, _, _, _ => fail
  | steps + 1, f, value, seen => do
    match ← peek with
    | none => fail
    | some c =>
      if c == ':' || c == ')' then
        if seen.head? == some '-' then fail else return (f, seen)
      else if seen.contains c then fail
      else
        let _ ← next
        if c == '-' then groupFlags steps f false (c :: seen)
        else
          match withFlag f value c with
          | none => fail
          | some f => groupFlags steps f value (c :: seen)

/-- How a group begins. -/
inductive Opening where
  /-- Flags alone, which hold for what follows. -/
  | setFlags (f : Flags)
  /-- A group with the flags inside it. -/
  | group (f : Flags)

/-- Reads a group from its parenthesis up to its contents. -/
def opening : Reader Opening := do
  let _ ← next
  skipSpace
  let f ← flags
  let cs ← rest
  if ["?=", "?!", "?<=", "?<!"].any fun mark => mark.toList.isPrefixOf cs then fail
  else if ← takeWord ['?', 'P', '<'] then groupName; return .group f
  else if ← takeWord ['?', '<'] then groupName; return .group f
  else if ← takeWord ['?'] then
    let (inner, seen) ← groupFlags ((← rest).length + 1) f true []
    let c ← next
    if c == ':' then return .group inner
    else if seen.isEmpty then fail
    else return .setFlags inner
  else return .group f

/-- The pattern of a look, or of a set or literal outside of classes. -/
def elementPattern : Element → Reader Pattern
  | .literal c byte => do return .char (← literalSet (← flags) c byte)
  | .set set => do return .char (← checked (← flags) set)
  | .place here => return .look here

/-- An element outside of classes, groups and repetitions. -/
def primitive : Reader Pattern := do
  let f ← flags
  match ← peek with
  | none => fail
  | some '\\' => elementPattern (← escape)
  | some '.' =>
    let _ ← next
    if !f.unicode then fail
    else if f.dotAll then return .char (.complement .empty)
    else if f.crlf then return .char (.complement (.ofRanges [(0xA, 0xA), (0xD, 0xD)]))
    else return .char (.complement (.single 0xA))
  | some '^' =>
    let _ ← next
    return .look (if f.multiLine then .lineStart f.crlf else .start)
  | some '$' =>
    let _ ← next
    return .look (if f.multiLine then .lineStop f.crlf else .stop)
  | some c =>
    let _ ← next
    return .char (folded f (.single c.toNat))

/-- A count of a repetition; blanks around its digits are skipped. -/
def count : Reader Nat := do
  let cs := (← rest).dropWhile Text.isBlank
  let (digits, after) ← spanCount cs.length cs
  setRest (after.dropWhile Text.isBlank)
  match digits with
  | [] => fail
  | _ =>
    let n := digits.foldl (fun n c => 10 * n + (c.toNat - '0'.toNat)) 0
    if n < Nat.pow 2 32 then return n else fail
where
  spanCount : Nat → List Char → Reader (List Char × List Char)
    | 0, cs => return ([], cs)
    | steps + 1, cs => do
      match cs with
      | c :: cs =>
        if c.isDigit then
          let cs := if (← flags).spaced then Reader.dropSpaced cs else cs
          let (digits, after) ← spanCount steps cs
          return (c :: digits, after)
        else return ([], c :: cs)
      | [] => return ([], [])

/-- The counts of a repetition in braces. -/
def counts : Reader (Nat × Option Nat) := do
  let _ ← nextSpaced
  let least ← count
  let result ← match ← peek with
    | some ',' => do
      let _ ← nextSpaced
      match ← peek with
      | none => fail
      | some '\x7d' => pure (least, none)
      | some _ => do
        let most ← count
        pure (least, some most)
    | _ => pure (least, some least)
  expect '\x7d'
  skipSpace
  match result with
  | (least, some most) => if least ≤ most then return result else fail
  | _ => return result

/-- Takes the mark of a lazy repetition. -/
def lazyMark : Reader Unit := do
  let _ ← takeWord ['?']

/-- Pieces in a row, given last first. -/
def joined (pieces : List Piece) : Piece :=
  match pieces with
  | [] => { pattern := .empty, repeatable := false }
  | [piece] => piece
  | _ =>
    { pattern := pieces.foldl (fun after piece => .append piece.pattern after) .empty
      depth := pieces.foldl (fun depth piece => max depth piece.depth) 0 + 1 }

/-- Alternatives, given last first. -/
def alternatives (pieces : List Piece) : Piece :=
  match pieces with
  | [] => { pattern := .empty, repeatable := false }
  | [piece] => piece
  | last :: others =>
    { pattern := others.foldl (fun after piece => .either piece.pattern after) last.pattern
      depth := pieces.foldl (fun depth piece => max depth piece.depth) 0 + 1 }

/-- Repeats the piece read last. -/
def repeatLast (least : Nat) (most : Option Nat) : List Piece → Reader (List Piece)
  | [] => fail
  | piece :: before =>
    if piece.repeatable then
      return { pattern := .repeated piece.pattern least most, depth := piece.depth + 1 } :: before
    else fail

mutual

/-- Alternatives up to the end of the text or of the group. `done` holds those read
before, last first. -/
def alternation : Nat → List Piece → Reader Piece
  | 0, _ => fail
  | steps + 1, done => do
    let piece ← sequence steps []
    match ← peek with
    | some '|' =>
      let _ ← next
      alternation steps (piece :: done)
    | _ => return alternatives (piece :: done)

/-- Pieces in a row up to `|`, `)` or the end. `done` holds those read before, last first. -/
def sequence : Nat → List Piece → Reader Piece
  | 0, _ => fail
  | steps + 1, done => do
    skipSpace
    match ← peek with
    | none | some '|' | some ')' => return joined done
    | some '(' =>
      let outer ← flags
      match ← opening with
      | .setFlags f =>
        setFlags f
        sequence steps ({ pattern := .empty, repeatable := false } :: done)
      | .group f =>
        setFlags f
        let inner ← alternation steps []
        expect ')'
        setFlags outer
        sequence steps ({ pattern := inner.pattern, depth := inner.depth + 1 } :: done)
    | some '[' =>
      let (set, depth) ← bracketed steps
      sequence steps ({ pattern := .char set, depth } :: done)
    | some '*' =>
      let _ ← next
      lazyMark
      sequence steps (← repeatLast 0 none done)
    | some '+' =>
      let _ ← next
      lazyMark
      sequence steps (← repeatLast 1 none done)
    | some '?' =>
      let _ ← next
      lazyMark
      sequence steps (← repeatLast 0 (some 1) done)
    | some '\x7b' =>
      let (least, most) ← counts
      lazyMark
      sequence steps (← repeatLast least most done)
    | some _ =>
      let pattern ← primitive
      sequence steps ({ pattern } :: done)

end

/-- Reads a whole text as a pattern. -/
def parse (s : String) : Except Refusal Pattern :=
  let cs := s.toList
  match (alternation (4 * cs.length + 8) []).run { rest := cs, flags := {}, names := [] } with
  | some (piece, state) =>
    if !state.rest.isEmpty || piece.depth > depthLimit then .error .malformed
    else if piece.pattern.footprint > footprintLimit then .error .tooLarge
    else .ok piece.pattern
  | none => .error .malformed

end TypedGraph.Pattern
