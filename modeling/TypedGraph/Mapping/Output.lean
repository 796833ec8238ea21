import TypedGraph.Conversion
import TypedGraph.Mapping.Basic
import TypedGraph.Mapping.Branch

/-!
# What transformations produce

Each branch of the payload that meets the conditions of a transformation produces one
record or one error. The keys of the transformation are looked up in the ontology
before, each of them once, and not at all if there is no such branch.
-/
namespace TypedGraph

/-- A record with the branch that produced it. -/
structure BranchRecord where
  index : List Nat
  record : GraphRecord
deriving DecidableEq, Repr, Inhabited

/-- What a transformation produces from one payload. -/
structure TransformOutput where
  records : List BranchRecord := []
  errors : List BranchError := []
deriving DecidableEq, Repr, Inhabited

namespace TransformOutput

def nodes (o : TransformOutput) : List Node := o.records.filterMap fun r => r.record.node?

def edges (o : TransformOutput) : List Edge := o.records.filterMap fun r => r.record.edge?

def isEmpty (o : TransformOutput) : Bool := o.records.isEmpty && o.errors.isEmpty

end TransformOutput

/-- The properties of a record while its keys are gone through. -/
structure PropertyDraft where
  properties : Entries := []
  log : ConversionLog := {}
deriving DecidableEq, Repr, Inhabited

namespace Transformation

/-- The target of a transformation all of whose key mappings have a destination. -/
def checkedTarget (t : Transformation) : Except Malformation Target := do
  let target ← t.target
  t.keys.forM fun m => discard m.destination
  return target

/-- The key that a key mapping fills in records of a target. A mapping to a key of the
other kind of records is of no concern. -/
def relevantKeyId (target : Target) (m : KeyMapping) : Option String :=
  match target, m.destination with
  | .node _, .ok (.metatypeKey id) => some id
  | .edge _, .ok (.relationshipKey id) => some id
  | _, _ => none

/-- The keys to look up, each of them once. -/
def keyIds (t : Transformation) (target : Target) : List String :=
  (t.keys.filterMap (relevantKeyId target)).eraseDups

section Lookup

variable {σ : Type} [KeepsCalls σ]

/-- Looks up a key of the records of a target. -/
def lookUpKey (o : Ontology) (t : Transformation) (target : Target) (id : String) :
    Access σ OntologyError PropertyKey :=
  match target with
  | .node _ => o.metatypeKey t.containerId id
  | .edge _ => o.relationshipKey t.containerId id

/-- Looks up keys; those that are not found are left out. -/
def fetchKeys (o : Ontology) (t : Transformation) (target : Target) :
    List String → Access σ TransformError (List (String × PropertyKey))
  | [] => return []
  | id :: rest => do
    match ← Access.outcome (lookUpKey o t target id) with
    | .ok key => return (id, key) :: (← fetchKeys o t target rest)
    | .error (.notFound _ _) => fetchKeys o t target rest
    | .error cause => throw (.ontology cause)

end Lookup

/-- The value that a key mapping takes from a branch. -/
def extract (payload : Json) (index : List Nat) (m : KeyMapping) : Option Json :=
  match m.path with
  | some path => Path.resolve payload path index
  | none => m.constant

/-- Converts a value to the type of a key and sets the property, or keeps record of why
it cannot be converted. -/
def setConverted (config : TransformationConfig) (key : PropertyKey) (value : Json)
    (draft : PropertyDraft) : Except TransformError PropertyDraft :=
  let name := key.propertyName
  match Conversion.convert key.dataType (some value) with
  | none => .ok { draft with properties := draft.properties.insert name value }
  | some conversion =>
    match conversion.converted with
    | some converted =>
      .ok {
        properties := draft.properties.insert name converted
        log := { draft.log with done := draft.log.done.insert name conversion } }
    | none =>
      if config.onConversionError.failsFor key.required then
        .error (.conversionFailed name (conversion.error.getD ""))
      else .ok { draft with
        log := { draft.log with failed := draft.log.failed.insert name conversion } }

/-- Sets the property of a key from what was extracted for it. -/
def setProperty (config : TransformationConfig) (key : PropertyKey) (extracted : Option Json)
    (draft : PropertyDraft) : Except TransformError PropertyDraft :=
  match extracted with
  | none =>
    if config.onMissing.failsFor key.required then
      .error (.missingRequiredKey key.propertyName)
    else .ok draft
  | some value =>
    if config.convertValues then setConverted config key value draft
    else .ok { draft with properties := draft.properties.insert key.propertyName value }

/-- Goes through key mappings in their order. -/
def draftProperties (t : Transformation) (target : Target) (keys : List (String × PropertyKey))
    (payload : Json) (index : List Nat) :
    List KeyMapping → PropertyDraft → Except TransformError PropertyDraft
  | [], draft => .ok draft
  | m :: rest, draft =>
    match relevantKeyId target m with
    | none => draftProperties t target keys payload index rest draft
    | some id =>
      match keys.lookup id with
      | none => .error (.lookupFailure id)
      | some key => do
        let draft ← setProperty t.config key (extract payload index m) draft
        draftProperties t target keys payload index rest draft

/-- The text of a composite identity. -/
def compositeId (containerId dataSourceId path value : String) : String :=
  containerId ++ "+" ++ dataSourceId ++ "+" ++ path ++ "+" ++ value

/-- The text of the value at a path, if there is a path and a value other than `null`. -/
def identityAt (payload : Json) (index : List Nat) (path : Option String) :
    Option (String × String) := do
  let path ← path
  let value ← Path.resolve payload path index
  if value.isNull then none else some (path, value.display)

/-- The data source of the records: that of the transformation, or else of the payload. -/
def effectiveDataSource (t : Transformation) (staged : StagedData) : String :=
  t.dataSourceId.getD staged.dataSourceId

/-- What nodes and edges of a branch have in common. -/
def recordBase (t : Transformation) (staged : StagedData) (index : List Nat)
    (draft : PropertyDraft) : RecordBase :=
  let dataSourceId := t.effectiveDataSource staged
  let identity := identityAt staged.data index t.uniqueKey
  { containerId := t.containerId
    properties := draft.properties
    externalId := identity.map (·.2)
    dataSourceId := some dataSourceId
    transformationId := t.id
    compositeId := identity.map fun (path, value) =>
      compositeId t.containerId dataSourceId path value
    importId := staged.importId
    stagingId := staged.id
    log := draft.log
    createdAt := staged.createdAt }

/-- Gives parameters with a path the value of a branch, or none if there is none. -/
def fillParameters (payload : Json) (index : List Nat) (parameters : List ConnectionParameter) :
    List ConnectionParameter :=
  parameters.map fun p =>
    match p.key with
    | some path => { p with value := Path.resolve payload path index }
    | none => p

/-- An end of the edge of a branch. -/
def edgeEnd (t : Transformation) (staged : StagedData) (index : List Nat) (which : End) :
    EdgeEnd :=
  let rule := t.side which
  let identity := identityAt staged.data index rule.path
  { externalId := identity.map (·.2)
    compositeId := identity.map fun (path, value) =>
      compositeId t.containerId (rule.dataSourceId.getD (t.effectiveDataSource staged)) path value
    metatypeId := rule.metatypeId
    dataSourceId := rule.dataSourceId
    parameters := fillParameters staged.data index rule.parameters }

/-- The record of a branch. -/
def produce (t : Transformation) (target : Target) (keys : List (String × PropertyKey))
    (staged : StagedData) (index : List Nat) : Except TransformError GraphRecord := do
  let draft ← draftProperties t target keys staged.data index t.keys {}
  let base := t.recordBase staged index draft
  match target with
  | .node metatypeId => return .node { toRecordBase := base, metatypeId }
  | .edge pairId =>
    return .edge {
      toRecordBase := base
      pairId
      origin := t.edgeEnd staged index .origin
      destination := t.edgeEnd staged index .destination }

/-- The records of branches, and the errors of those that have none. -/
def produceAll (t : Transformation) (target : Target) (keys : List (String × PropertyKey))
    (staged : StagedData) (branches : List (List Nat)) : TransformOutput :=
  let results := branches.map fun index => (index, t.produce target keys staged index)
  { records := results.filterMap fun
      | (index, .ok record) => some ⟨index, record⟩
      | (_, .error _) => none
    errors := results.filterMap fun
      | (_, .ok _) => none
      | (index, .error error) => some ⟨index, error⟩ }

/-- The branches of an expansion that meet the conditions. -/
def accepted (t : Transformation) (staged : StagedData) (branches : List (List Nat)) :
    List (List Nat) :=
  branches.filter fun index => Condition.anyHolds t.conditions staged.data index

/-- Applies a transformation to a payload. -/
def apply {σ : Type} [KeepsCalls σ] (t : Transformation) (o : Ontology) (staged : StagedData) :
    Access σ TransformError TransformOutput := do
  let target ← Access.ofResult .malformed t.checkedTarget
  let expansion := Expansion.ofLevels staged.data t.rootLevels
  let accepted := t.accepted staged expansion.branches
  if accepted.isEmpty then return { errors := expansion.errors }
  let keys ← fetchKeys o t target (t.keyIds target)
  let output := t.produceAll target keys staged accepted
  return { output with errors := expansion.errors ++ output.errors }

end Transformation

end TypedGraph
