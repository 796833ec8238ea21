import TypedGraph.Decimal.Notation
import TypedGraph.Json.Basic

/-!
# Writing documents

Documents are written without blanks, or with every item and entry on a line of its
own. In a text the quote, the backslash and the
control characters are escaped, everything else stands for itself.
-/
namespace TypedGraph.Json

/-- A hexadecimal digit in lower case. -/
def hexDigit (n : Nat) : Char := Nat.digitChar (n % 16)

/-- A character as it stands inside quotes. -/
def escapeChar (c : Char) : List Char :=
  if c = '"' then ['\\', '"']
  else if c = '\\' then ['\\', '\\']
  else if c.toNat = 0x8 then ['\\', 'b']
  else if c.toNat = 0xC then ['\\', 'f']
  else if c = '\n' then ['\\', 'n']
  else if c = '\r' then ['\\', 'r']
  else if c = '\t' then ['\\', 't']
  else if c.toNat < 0x20 then ['\\', 'u', '0', '0', hexDigit (c.toNat / 16), hexDigit c.toNat]
  else [c]

/-- A text in quotes. -/
def quote (s : String) : String :=
  String.ofList ('"' :: (s.toList.flatMap escapeChar ++ ['"']))

/-- The text of a number. -/
def numberText : JsonNumber → String
  | .int n => toString n
  | .float x => Decimal.Style.document.render x

mutual

/-- The text of a document. -/
def compact : Json → String
  | null => "null"
  | bool b => if b then "true" else "false"
  | number n => numberText n
  | string s => quote s
  | array items => "[" ++ compactItems items ++ "]"
  | object entries => "\x7b" ++ compactEntries entries ++ "\x7d"

/-- The texts of the items, separated by commas. -/
def compactItems : List Json → String
  | [] => ""
  | [item] => compact item
  | item :: rest => compact item ++ "," ++ compactItems rest

/-- The keys and values of the entries, separated by commas. -/
def compactEntries : List (String × Json) → String
  | [] => ""
  | [(k, v)] => quote k ++ ":" ++ compact v
  | (k, v) :: rest => quote k ++ ":" ++ compact v ++ "," ++ compactEntries rest

end

/-- The beginning of a line at a depth. -/
def newLine (depth : Nat) : String := "\n" ++ String.ofList (List.replicate (2 * depth) ' ')

mutual

/-- The text of a document on several lines, those below it at a depth. -/
def prettyAt (depth : Nat) : Json → String
  | array (item :: rest) => "[" ++ prettyItems (depth + 1) (item :: rest) ++ newLine depth ++ "]"
  | object (entry :: rest) =>
    "\x7b" ++ prettyEntries (depth + 1) (entry :: rest) ++ newLine depth ++ "\x7d"
  | j => compact j

/-- The texts of the items, each on lines of its own. -/
def prettyItems (depth : Nat) : List Json → String
  | [] => ""
  | [item] => newLine depth ++ prettyAt depth item
  | item :: rest => newLine depth ++ prettyAt depth item ++ "," ++ prettyItems depth rest

/-- The keys and values of the entries, each on lines of its own. -/
def prettyEntries (depth : Nat) : List (String × Json) → String
  | [] => ""
  | [(k, v)] => newLine depth ++ quote k ++ ": " ++ prettyAt depth v
  | (k, v) :: rest =>
    newLine depth ++ quote k ++ ": " ++ prettyAt depth v ++ "," ++ prettyEntries depth rest

end

/-- The text of a document on several lines. -/
def pretty (j : Json) : String := prettyAt 0 j

end TypedGraph.Json
