import TypedGraph.CommandLine.Arguments
import TypedGraph.Graph.Counting
import TypedGraph.Ingest.Store
import TypedGraph.Json.Parser
import TypedGraph.Json.Printer
import TypedGraph.Pattern.Engine

/-!
# Running commands

A command reads its files, each of them a document, and ends with what it printed and
its exit code: zero if it did its work, two if the arguments make no sense, and one if
anything else went wrong.
-/
namespace TypedGraph.CommandLine

/-- The settings of a configuration file. -/
structure Settings where
  logLevel : Option String := none
  ingest : IngestConfig := {}
deriving DecidableEq, Repr, Inhabited

namespace Settings

def logLevelField : Field (Option String) := .nullable "log_level" .text

def ingestField : Field IngestConfig := .defaulted "ingest" IngestConfig.codec {}

def codec : Codec Settings := .record [logLevelField.name, ingestField.name]
  (fun e => do return { logLevel := ← logLevelField.read? e, ingest := ← ingestField.read? e })
  (fun s => logLevelField.write s.logLevel ++ ingestField.write s.ingest)

end Settings

/-- How a command ended. -/
structure Outcome where
  code : Nat := 0
  output : String := ""
  /-- The lines of messages. -/
  messages : List String := []
deriving DecidableEq, Repr, Inhabited

/-- The texts of files by their paths; none for a file that cannot be read. -/
abbrev Files := String → Option String

/-- Why a command fails: the first line of the message, and what is behind it. -/
structure Failure where
  context : String
  cause : Option String := none
deriving DecidableEq, Repr, Inhabited

namespace Failure

def messages (f : Failure) : List String :=
  ("Error: " ++ f.context) ::
    match f.cause with
    | some cause => ["", "Caused by:", "    " ++ cause]
    | none => []

end Failure

/-- Reads a file as a value. -/
def readFile {α : Type} (files : Files) (codec : Codec α) (what path : String) :
    Except Failure α :=
  match files path with
  | none => .error { context := "reading " ++ what ++ " " ++ path }
  | some text =>
    match (Json.parse? text).bind codec.read? with
    | none => .error { context := "parsing " ++ what ++ " " ++ path }
    | some a => .ok a

/-- Fills in what the transformations of a mapping file leave out: their container and
their mapping. -/
def adoptTransformation (mapping : TypeMapping) (t : Transformation) : Transformation :=
  { t with
    containerId := if t.containerId.isEmpty then mapping.containerId else t.containerId
    mappingId := t.mappingId <|> mapping.id }

/-- Reads a mapping file; a shape that is left out is that of the sample. -/
def readMapping (files : Files) (path : String) : Except Failure TypeMapping := do
  let mapping ← readFile files TypeMapping.codec "mapping" path
  let mapping := mapping.refreshIfUnset
  return { mapping with
    transformations := mapping.transformations.map (adoptTransformation mapping) }

/-- Reads an ontology file for the container of a mapping. -/
def readOntology (files : Files) (path : String) (mapping : TypeMapping) :
    Except Failure Ontology := do
  let snapshot ← readFile files OntologySnapshot.codec "ontology" path
  return { store := .ofSnapshot mapping.containerId snapshot }

/-- Reads a payload file as data of the source of a mapping. -/
def readStaged (files : Files) (path : String) (mapping : TypeMapping) :
    Except Failure StagedData := do
  return .ofPayload mapping.dataSourceId (← readFile files .document "payload" path)

/-- A document printed on lines of its own. -/
def printed (j : Json) : String := j.pretty ++ "\n"

/-- The end of a command that failed after printing some messages. -/
def failed (messages : List String) (f : Failure) : Outcome :=
  { code := 1, messages := messages ++ f.messages }

/-- The result of a transformation as a document. -/
def transformationResult (o : Ontology) (staged : StagedData) (t : Transformation) : Json :=
  let id := ("transformation", (t.id.map Json.string).getD .null)
  let index (i : List Nat) : String × Json := ("index", .array (i.map Json.nat))
  let run : Access (List Method) TransformError TransformOutput := t.apply o staged
  match (run.run.run []).1 with
  | .error error => .ofFields [id, ("error", .string error.message)]
  | .ok output =>
    .ofFields [id,
      ("records", .array (output.records.map fun r => .ofFields [index r.index,
        ("record", match r.record with
          | .node n => Node.codec.write n
          | .edge x => Edge.codec.write x)])),
      ("errors", .array (output.errors.map fun e => .ofFields [index e.index,
        ("error", .string e.error.message)]))]

/-- What an ingest of several payloads has come to. -/
structure IngestProgress where
  store : GraphStore := {}
  reports : List IngestReport := []
  messages : List String := []
deriving DecidableEq, Repr, Inhabited

/-- Ingests payload files one after the other, until one fails. -/
def ingestFiles (files : Files) (setting : IngestSetting) (mapping : TypeMapping) :
    List String → IngestProgress → IngestProgress × Option Failure
  | [], progress => (progress, none)
  | path :: rest, progress =>
    match readStaged files path mapping with
    | .error f => (progress, some f)
    | .ok staged =>
      match progress.store.ingestAlone setting mapping staged with
      | (.error cause, store) =>
        ({ progress with store },
          some { context := "ingesting " ++ path, cause := some cause.message })
      | (.ok report, store) =>
        let line := "Ingested " ++ path ++ ": " ++ toString report.nodes.length ++ " nodes, " ++
          toString report.edges.length ++ " edges, " ++ toString report.failures.length ++
          " failures"
        ingestFiles files setting mapping rest
          { store, reports := progress.reports ++ [report], messages := progress.messages ++ [line] }

/-- The outcome of an ingest of several payloads. -/
def ingestOutcome (progress : IngestProgress) : Outcome where
  output := printed (.ofFields
    [("reports", .array (progress.reports.map IngestReport.write)),
     ("graph", .ofFields
       [("nodes", .array (progress.store.committed.nodes.values.map Node.codec.write)),
        ("edges", .array (progress.store.committed.liveEdges.map Edge.codec.write))])])
  messages := progress.messages

/-- Runs a command. -/
def runCommand (files : Files) (settings : Settings) : Command → Except Failure Outcome
  | .fingerprint payload options => do
    let payload ← readFile files .document "payload" payload
    return { output := Shape.fingerprint options payload ++ "\n" }
  | .validate keys payload => do
    let keys ← readFile files (.list PropertyKey.codec) "keys" keys
    let value ← readFile files .document "payload" payload
    match TypedGraph.validate keys value with
    | .ok properties => return { output := printed (.object properties) }
    | .error error =>
      return failed ["Invalid " ++ error.message]
        { context := payload ++ " does not satisfy " ++ toString keys.length ++ " keys" }
  | .transform ontology mapping payload => do
    let mapping ← readMapping files mapping
    let ontology ← readOntology files ontology mapping
    let staged ← readStaged files payload mapping
    let warning := "Warning: payload does not match mapping " ++ mapping.id.getD "<unsaved>" ++
      " (inactive or different shape)"
    return {
      output := printed (.array
        (mapping.liveTransformations.map (transformationResult ontology staged)))
      messages := if mapping.fits staged.data then [] else [warning] }
  | .ingest ontology mapping payloads => do
    let mapping ← readMapping files mapping
    let ontology ← readOntology files ontology mapping
    let setting : IngestSetting := { ontology, config := settings.ingest }
    match ingestFiles files setting mapping payloads {} with
    | (progress, none) => return ingestOutcome progress
    | (progress, some f) => return failed progress.messages f

/-- Runs what the arguments ask for; the configuration is read before anything else. -/
def runInvocation (files : Files) (i : Invocation) : Outcome :=
  let result := do
    let settings ← match i.config with
      | some path => readFile files Settings.codec "config" path
      | none => pure {}
    runCommand files settings i.command
  match result with
  | .ok outcome => outcome
  | .error f => failed [] f

/-- How the program is called. -/
def usage : String :=
  "Usage: [--log-level LEVEL] [--config FILE] COMMAND\n\n" ++
  "Commands:\n" ++
  "  fingerprint [--stop-node KEY]... [--value-node KEY]... PAYLOAD\n" ++
  "  validate --keys FILE PAYLOAD\n" ++
  "  transform --ontology FILE --mapping FILE PAYLOAD\n" ++
  "  ingest --ontology FILE --mapping FILE PAYLOAD...\n"

/-- Runs the program with the given files and arguments. -/
def run (files : Files) (arguments : List String) : Outcome :=
  match parse arguments with
  | .ok i => runInvocation files i
  | .error .version => { output := "ontograph 0.3.0\n" }
  | .error .help => { output := usage }
  | .error .usage => { code := 2, messages := [usage] }

/-- The paths of the files that arguments name. -/
def paths (arguments : List String) : List String :=
  match parse arguments with
  | .error _ => []
  | .ok i => i.config.toList ++
    match i.command with
    | .fingerprint payload _ => [payload]
    | .validate keys payload => [keys, payload]
    | .transform ontology mapping payload => [ontology, mapping, payload]
    | .ingest ontology mapping payloads => ontology :: mapping :: payloads

end TypedGraph.CommandLine
