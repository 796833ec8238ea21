import TypedGraph.Shape

/-!
# Arguments of the command line

The arguments name a command and its operands, with options before, between and behind
them. An option is written `--name value` or `--name=value`; a value of its own does not
begin with a hyphen, unless it is the hyphen alone. Behind `--` every argument is an
operand. The options `--log-level` and `--config` may stand before the command as well as
behind it, where they count more.
-/
namespace TypedGraph.CommandLine

/-- A command with its operands and options. -/
inductive Command where
  | fingerprint (payload : String) (options : ShapeOptions)
  | validate (keys payload : String)
  | transform (ontology mapping payload : String)
  | ingest (ontology mapping : String) (payloads : List String)
deriving DecidableEq, Repr, Inhabited

/-- What the arguments ask for. -/
structure Invocation where
  logLevel : Option String
  config : Option String
  command : Command
deriving DecidableEq, Repr, Inhabited

/-- Why the arguments lead to no command. -/
inductive Stop where
  | usage
  | help
  | version
deriving DecidableEq, Repr

/-- An option that takes a value. -/
structure OptionSpec where
  name : String
  /-- Whether the value is the path of a file, which cannot be empty. -/
  isPath : Bool := false
  isRepeatable : Bool := false
deriving DecidableEq, Repr

/-- The options that stand before a command or behind it. -/
def sharedOptions : List OptionSpec := [⟨"log-level", false, false⟩, ⟨"config", true, false⟩]

/-- Options and operands as they were read. -/
structure Matches where
  options : List (String × String) := []
  operands : List String := []
deriving DecidableEq, Repr, Inhabited

namespace Matches

/-- The value of an option. -/
def value? (m : Matches) (name : String) : Option String := m.options.lookup name

/-- All values of an option. -/
def values (m : Matches) (name : String) : List String :=
  m.options.filterMap fun (other, value) => if other == name then some value else none

/-- Takes the value of an option. -/
def addOption (m : Matches) (spec : OptionSpec) (value : String) : Except Stop Matches :=
  if spec.isPath && value.isEmpty then .error .usage
  else if !spec.isRepeatable && (m.value? spec.name).isSome then .error .usage
  else .ok { m with options := m.options ++ [(spec.name, value)] }

def addOperand (m : Matches) (operand : String) : Matches :=
  { m with operands := m.operands ++ [operand] }

end Matches

/-- The form of an argument. -/
inductive Form where
  /-- The argument `--`. -/
  | separator
  | long (name : String) (value : Option String)
  | short (letter : Char)
  | plain
deriving DecidableEq, Repr

def formOf (argument : String) : Form :=
  match argument.toList with
  | ['-', '-'] => .separator
  | '-' :: '-' :: body =>
    match body.span (· != '=') with
    | (name, _ :: value) => .long (String.ofList name) (some (String.ofList value))
    | (name, []) => .long (String.ofList name) none
  | '-' :: letter :: _ => .short letter
  | _ => .plain

/-- Whether an argument can be the value of the option before it. -/
def isValue (argument : String) : Bool := formOf argument == .plain

/-- What stands at a place of the command line. -/
structure Place where
  specs : List OptionSpec
  /-- Whether the version may be asked for. -/
  hasVersion : Bool
  /-- Whether the first argument that is no option ends the place. -/
  endsAtOperand : Bool

/-- Reads the arguments at a place; what is left behind its end is returned too. -/
def readPlace (place : Place) : List String → Matches → Except Stop (Matches × List String)
  | [], m => .ok (m, [])
  | argument :: rest, m =>
    match formOf argument with
    | .separator =>
      if place.endsAtOperand then .error .usage
      else .ok (rest.foldl Matches.addOperand m, [])
    | .short letter =>
      if letter == 'h' then .error .help
      else if place.hasVersion && letter == 'V' then .error .version
      else .error .usage
    | .plain =>
      if place.endsAtOperand then .ok (m, argument :: rest)
      else readPlace place rest (m.addOperand argument)
    | .long name value =>
      match place.specs.find? fun spec => spec.name == name with
      | none =>
        if value.isNone && name == "help" then .error .help
        else if value.isNone && place.hasVersion && name == "version" then .error .version
        else .error .usage
      | some spec =>
        match value, rest with
        | some value, rest => do readPlace place rest (← m.addOption spec value)
        | none, [] => .error .usage
        | none, value :: rest =>
          if isValue value then do readPlace place rest (← m.addOption spec value)
          else .error .usage

/-- A value that has to be there. -/
def need {α : Type} (value : Option α) : Except Stop α := value.elim (.error .usage) .ok

/-- The operand, if there is exactly one. -/
def oneOperand (m : Matches) : Except Stop String :=
  match m.operands with
  | [operand] => .ok operand
  | _ => .error .usage

/-- The options of a command. -/
def optionsOf (name : String) : Option (List OptionSpec) :=
  match name with
  | "fingerprint" => some [⟨"stop-node", false, true⟩, ⟨"value-node", false, true⟩]
  | "validate" => some [⟨"keys", true, false⟩]
  | "transform" => some [⟨"ontology", true, false⟩, ⟨"mapping", true, false⟩]
  | "ingest" => some [⟨"ontology", true, false⟩, ⟨"mapping", true, false⟩]
  | _ => none

/-- The command of a name with what was read behind it. -/
def commandOf (name : String) (m : Matches) : Except Stop Command := do
  match name with
  | "fingerprint" =>
    return .fingerprint (← oneOperand m) ⟨m.values "stop-node", m.values "value-node"⟩
  | "validate" => return .validate (← need (m.value? "keys")) (← oneOperand m)
  | "transform" =>
    return .transform (← need (m.value? "ontology")) (← need (m.value? "mapping")) (← oneOperand m)
  | "ingest" =>
    let ontology ← need (m.value? "ontology")
    let mapping ← need (m.value? "mapping")
    if m.operands.isEmpty then throw .usage else return .ingest ontology mapping m.operands
  | _ => throw .usage

/-- What is asked for with `help` and the arguments behind it. -/
def helpFor : List String → Stop
  | [] => .help
  | [name] => if (optionsOf name).isSome || name == "help" then .help else .usage
  | _ => .usage

/-- Reads the arguments of a call. -/
def parse (arguments : List String) : Except Stop Invocation := do
  let (outer, rest) ← readPlace ⟨sharedOptions, true, true⟩ arguments {}
  match rest with
  | [] => throw .usage
  | name :: rest =>
    match optionsOf name with
    | none => throw (if name == "help" then helpFor rest else .usage)
    | some specs =>
      let (inner, _) ← readPlace ⟨sharedOptions ++ specs, false, false⟩ rest {}
      if inner.operands.any String.isEmpty then throw .usage
      return {
        logLevel := inner.value? "log-level" <|> outer.value? "log-level"
        config := inner.value? "config" <|> outer.value? "config"
        command := ← commandOf name inner }

end TypedGraph.CommandLine
