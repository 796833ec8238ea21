import TypedGraph.Pattern.Matching
import TypedGraph.Text.Blank
import TypedGraph.Text.Script

/-!
# Named sets of characters

The sets that a pattern calls by name: `\d`, `\s` and `\w`, the classes in
`[:…:]`, and general categories, scripts and binary properties in `\p{…}`. Names
of the last kind are compared without case, blanks, hyphens, underscores and a
leading `is`.
-/
namespace TypedGraph.CharSet

def digits : CharSet := .table (Text.category "Nd")

def blanks : CharSet := .ofRanges Text.blankRanges

def asciiDigits : CharSet := .range 0x30 0x39

def asciiBlanks : CharSet := .ofRanges [(0x9, 0xD), (0x20, 0x20)]

/-- The classes of ASCII characters. -/
def asciiClasses : List (String × List (Nat × Nat)) :=
  [("alnum", [(0x30, 0x39), (0x41, 0x5A), (0x61, 0x7A)]),
   ("alpha", [(0x41, 0x5A), (0x61, 0x7A)]),
   ("ascii", [(0x0, 0x7F)]),
   ("blank", [(0x9, 0x9), (0x20, 0x20)]),
   ("cntrl", [(0x0, 0x1F), (0x7F, 0x7F)]),
   ("digit", [(0x30, 0x39)]),
   ("graph", [(0x21, 0x7E)]),
   ("lower", [(0x61, 0x7A)]),
   ("print", [(0x20, 0x7E)]),
   ("punct", [(0x21, 0x2F), (0x3A, 0x40), (0x5B, 0x60), (0x7B, 0x7E)]),
   ("space", [(0x9, 0xD), (0x20, 0x20)]),
   ("upper", [(0x41, 0x5A)]),
   ("word", [(0x30, 0x39), (0x41, 0x5A), (0x5F, 0x5F), (0x61, 0x7A)]),
   ("xdigit", [(0x30, 0x39), (0x41, 0x46), (0x61, 0x66)])]

/-- A class of ASCII characters by its name. -/
def asciiClass? (name : String) : Option CharSet := (asciiClasses.lookup name).map ofRanges

/-- The names of the general categories and of their groups, with the two-letter
categories that each of them joins. -/
def categoryNames : List (List String × List String) :=
  [(["casedletter", "lc"], ["Lu", "Ll", "Lt"]),
   (["closepunctuation", "pe"], ["Pe"]),
   (["connectorpunctuation", "pc"], ["Pc"]),
   (["control", "cc", "cntrl"], ["Cc"]),
   (["currencysymbol", "sc"], ["Sc"]),
   (["dashpunctuation", "pd"], ["Pd"]),
   (["decimalnumber", "nd", "digit"], ["Nd"]),
   (["enclosingmark", "me"], ["Me"]),
   (["finalpunctuation", "pf"], ["Pf"]),
   (["format", "cf"], ["Cf"]),
   (["initialpunctuation", "pi"], ["Pi"]),
   (["letter", "l"], ["Lu", "Ll", "Lt", "Lm", "Lo"]),
   (["letternumber", "nl"], ["Nl"]),
   (["lineseparator", "zl"], ["Zl"]),
   (["lowercaseletter", "ll"], ["Ll"]),
   (["mark", "m", "combiningmark"], ["Mn", "Mc", "Me"]),
   (["mathsymbol", "sm"], ["Sm"]),
   (["modifierletter", "lm"], ["Lm"]),
   (["modifiersymbol", "sk"], ["Sk"]),
   (["nonspacingmark", "mn"], ["Mn"]),
   (["number", "n"], ["Nd", "Nl", "No"]),
   (["openpunctuation", "ps"], ["Ps"]),
   (["other", "c"], ["Cc", "Cf", "Co", "Cn"]),
   (["otherletter", "lo"], ["Lo"]),
   (["othernumber", "no"], ["No"]),
   (["otherpunctuation", "po"], ["Po"]),
   (["othersymbol", "so"], ["So"]),
   (["paragraphseparator", "zp"], ["Zp"]),
   (["privateuse", "co"], ["Co"]),
   (["punctuation", "p", "punct"], ["Pc", "Pd", "Ps", "Pe", "Pi", "Pf", "Po"]),
   (["separator", "z"], ["Zs", "Zl", "Zp"]),
   (["spaceseparator", "zs"], ["Zs"]),
   (["spacingmark", "mc"], ["Mc"]),
   (["symbol", "s"], ["Sm", "Sc", "Sk", "So"]),
   (["titlecaseletter", "lt"], ["Lt"]),
   (["unassigned", "cn"], ["Cn"]),
   (["uppercaseletter", "lu"], ["Lu"])]

/-- A general category or one of the sets `any`, `assigned` and `ascii`. -/
def category? (name : String) : Option CharSet :=
  match name with
  | "any" => some (.range 0 0x10FFFF)
  | "ascii" => some (.range 0 0x7F)
  | "assigned" => some (.complement (.table (Text.category "Cn")))
  | _ =>
    (categoryNames.find? fun entry => entry.1.contains name).map fun entry =>
      .table (entry.2.foldl (fun set short => set.union (Text.category short)) .empty)

def script? (name : String) : Option CharSet :=
  (Text.scriptTable.lookup ((Text.scriptAliases.lookup name).getD name)).map fun table =>
    .table (.read table)

def property? (name : String) : Option CharSet :=
  (Text.propertyTable.lookup ((Text.propertyAliases.lookup name).getD name)).map fun table =>
    .table (.read table)

/-- The form of a name in which names are compared. -/
def normalName (name : List Char) : String :=
  let lower := name.map Char.toLower
  let (hasIs, body) := match lower with
    | 'i' :: 's' :: rest => (true, rest)
    | _ => (false, lower)
  let kept := body.filter fun c => c != ' ' && c != '_' && c != '-' && c.toNat ≤ 0x7F
  if hasIs && kept == ['c'] then "isc" else String.ofList kept

/-- The set with a bare name: a binary property, else a category, else a script.
Three short names of properties without a table stand for categories. -/
def named? (name : String) : Option CharSet :=
  let asProperty := if name = "cf" ∨ name = "sc" ∨ name = "lc" then none else property? name
  asProperty <|> category? name <|> script? name

/-- The set of the characters at which a property has a value. -/
def valued? (property value : String) : Option CharSet :=
  if property = "gc" ∨ property = "generalcategory" then category? value
  else if property = "sc" ∨ property = "script" then script? value
  else none

/-- Splits a text at the first place where a mark stands. -/
def splitAt? (mark : List Char) : List Char → Option (List Char × List Char)
  | [] => none
  | c :: rest =>
    if mark.isPrefixOf (c :: rest) then some ([], (c :: rest).drop mark.length)
    else (splitAt? mark rest).map fun (before, after) => (c :: before, after)

/-- The set described by the text inside `\p{…}`. -/
def described? (text : List Char) : Option CharSet :=
  match splitAt? ['!', '='] text with
  | some (property, value) => (valued? (normalName property) (normalName value)).map .complement
  | none =>
    match splitAt? [':'] text <|> splitAt? ['='] text with
    | some (property, value) => valued? (normalName property) (normalName value)
    | none => named? (normalName text)

end TypedGraph.CharSet
