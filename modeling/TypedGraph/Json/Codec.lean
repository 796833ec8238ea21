import TypedGraph.Json.Basic

/-!
# Documents as records

A `Codec` reads values of a type from documents and writes them back. A record is
an object whose fields have codecs of their own: a required field has to be there,
an optional one may be absent or `null`, and a defaulted one may be absent only.
Fields of other names are ignored; no field of the record may be written twice.
-/
namespace TypedGraph

/-- A way to read a type from documents and to write it. -/
structure Codec (α : Type) where
  read? : Json → Option α
  write : α → Json

/-- A field of a record: its name, how it is read from the entries of an object, and
the entries with which it is written. -/
structure Field (α : Type) where
  name : String
  read? : Entries → Option α
  write : α → List (String × Json)

namespace Codec

/-- Any document, in canonical form. -/
def document : Codec Json := ⟨fun j => some j.canonical, id⟩

def text : Codec String := ⟨Json.string?, .string⟩

def bool : Codec Bool := ⟨Json.bool?, .bool⟩

/-- A natural of 64 bits. -/
def word : Codec Nat where
  read?
    | .number (.int n) => if 0 ≤ n ∧ n < Nat.pow 2 64 then some n.toNat else none
    | _ => none
  write n := .nat n

/-- A binary floating-point number, which may be written as an integer. -/
def binary : Codec Decimal.Binary64 where
  read?
    | .number n => some n.toBinary
    | _ => none
  write x := .number (.float x)

/-- The entries of an object. -/
def entries : Codec Entries where
  read? j := match j.canonical with
    | .object entries => some entries
    | _ => none
  write := .object

def list {α : Type} (item : Codec α) : Codec (List α) where
  read?
    | .array items => items.mapM item.read?
    | _ => none
  write values := .array (values.map item.write)

/-- A value for each key of an object, in the order of the keys. -/
def table {α : Type} (item : Codec α) : Codec (List (String × α)) where
  read? j := match j.canonical with
    | .object entries => entries.mapM fun (k, v) => (item.read? v).map (k, ·)
    | _ => none
  write rows := .object (rows.map fun (k, v) => (k, item.write v))

/-- A word of a fixed list, given by the words and what they stand for. The word as the only key of
an object, with the value `null`, is another form of it, which a reader of saved documents may
accept as well; it is never written and not read here. -/
def words {α : Type} [DecidableEq α] (table : List (String × α)) : Codec α where
  read? j := j.string?.bind fun word => table.lookup word
  write a := .string (((table.find? fun row => row.2 = a).map (·.1)).getD "")

/-- Whether none of the names is the key of two entries. -/
def namedOnce (names : List String) (entries : List (String × Json)) : Bool :=
  names.all fun name => (entries.countP fun e => e.1 == name) ≤ 1

/-- A record with fields of the given names. The list of the values of its fields is another form of
it, which a reader of saved documents may accept as well; it is never written and not read
here. -/
def record {α : Type} (names : List String) (read? : Entries → Option α)
    (write : α → List (String × Json)) : Codec α where
  read?
    | .object entries => if namedOnce names entries then read? entries else none
    | _ => none
  write a := .ofFields (write a)

end Codec

namespace Field

variable {α : Type}

/-- A field that has to be there. -/
def required (name : String) (codec : Codec α) : Field α where
  name
  read? entries := (entries.get? name).bind codec.read?
  write a := [(name, codec.write a)]

/-- A field that may be absent or `null`, and is left out when it has no value. -/
def optional (name : String) (codec : Codec α) : Field (Option α) where
  name
  read? entries := match entries.get? name with
    | none | some .null => some none
    | some j => (codec.read? j).map some
  write
    | some a => [(name, codec.write a)]
    | none => []

/-- A field that may be absent, and is always written. -/
def defaulted (name : String) (codec : Codec α) (default : α) : Field α where
  name
  read? entries := match entries.get? name with
    | none => some default
    | some j => codec.read? j
  write a := [(name, codec.write a)]

/-- A field that may be absent, and is left out when it is void. -/
def unlessVoid (name : String) (codec : Codec α) (default : α) (isVoid : α → Bool) : Field α where
  name
  read? entries := match entries.get? name with
    | none => some default
    | some j => codec.read? j
  write a := if isVoid a then [] else [(name, codec.write a)]

/-- A field that may be absent or `null` when it is read, and is written as `null`
when it has no value. -/
def nullable (name : String) (codec : Codec α) : Field (Option α) where
  name
  read? := (optional name codec).read?
  write
    | some a => [(name, codec.write a)]
    | none => [(name, .null)]

end Field

end TypedGraph
