import TypedGraph.Text.Category
import TypedGraph.Text.Property

/-!
# Quoted texts

The form in which a text stands in a message that shows it as a value: in quotes,
with the quote, the backslash and everything escaped that has no shape of its own
on paper.
-/
namespace TypedGraph.Text

/-- Characters that are not shown: controls, formats, unassigned and private
characters, and separators other than the blank. -/
def hiddenRanges : Ranges :=
  ["Cc", "Cf", "Co", "Cn", "Zl", "Zp", "Zs"].foldl (fun set name => set.union (category name)) .empty

def isHidden (c : Char) : Bool := c != ' ' && hiddenRanges.contains c.toNat

def extendingRanges : Ranges := property "graphemeextend"

/-- Characters that are drawn onto the one before them. -/
def isExtending (c : Char) : Bool := extendingRanges.contains c.toNat

/-- A character as it stands inside the quotes. -/
def quotedChar (c : Char) : List Char :=
  if c = '"' then ['\\', '"']
  else if c = '\\' then ['\\', '\\']
  else if c = '\n' then ['\\', 'n']
  else if c = '\r' then ['\\', 'r']
  else if c = '\t' then ['\\', 't']
  else if c.toNat = 0 then ['\\', '0']
  else if 0x20 ≤ c.toNat ∧ c.toNat < 0x7F then [c]
  else if isExtending c || isHidden c then
    ['\\', 'u', '\x7b'] ++ Nat.toDigits 16 c.toNat ++ ['\x7d']
  else [c]

/-- A text in quotes. -/
def quoted (s : String) : String :=
  String.ofList ('"' :: (s.toList.flatMap quotedChar ++ ['"']))

end TypedGraph.Text
