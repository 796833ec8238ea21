import TypedGraph.Ontology.Difference
import TypedGraph.Ontology.Key

/-!
# Ontologies

An ontology declares the kinds of nodes (metatypes), the kinds of edges
(relationships), and which kind of edge may lead from which kind of node to which,
and how often (pairs). Every record belongs to a container.
-/
namespace TypedGraph

/-- A kind of nodes or of edges with the keys of its properties. -/
structure KeyedType where
  id : Option String := none
  containerId : String := ""
  name : String
  description : String := ""
  keys : List PropertyKey := []
  archived : Bool := false
deriving DecidableEq, Repr, Inhabited

/-- A kind of nodes. -/
abbrev Metatype := KeyedType

/-- A kind of edges. -/
abbrev Relationship := KeyedType

namespace KeyedType

def idField : Field (Option String) := .optional "id" .text

def containerIdField : Field String := .defaulted "container_id" .text ""

def nameField : Field String := .required "name" .text

def descriptionField : Field String := .defaulted "description" .text ""

def keysField : Field (List PropertyKey) := .defaulted "keys" (.list PropertyKey.codec) []

def archivedField : Field Bool := .defaulted "archived" .bool false

def codec : Codec KeyedType := .record
  [idField.name, containerIdField.name, nameField.name, descriptionField.name, keysField.name,
    archivedField.name]
  (fun e => do
    return {
      id := ← idField.read? e
      containerId := ← containerIdField.read? e
      name := ← nameField.read? e
      description := ← descriptionField.read? e
      keys := ← keysField.read? e
      archived := ← archivedField.read? e })
  (fun t =>
    idField.write t.id ++ containerIdField.write t.containerId ++ nameField.write t.name ++
    descriptionField.write t.description ++ keysField.write t.keys ++
    archivedField.write t.archived)

/-- Appends a key. -/
def addKey (t : KeyedType) (key : PropertyKey) : KeyedType := { t with keys := t.keys ++ [key] }

/-- Removes the first key with an id, and returns it. -/
def removeKey (t : KeyedType) (id : String) : Option PropertyKey × KeyedType :=
  match t.keys.find? fun k => k.id == some id with
  | some key => (some key, { t with keys := t.keys.eraseP fun k => k.id == some id })
  | none => (none, t)

/-- Replaces all keys, and tells what that changes. -/
def replaceKeys (t : KeyedType) (keys : List PropertyKey) : Difference PropertyKey × KeyedType :=
  (.between PropertyKey.id t.keys keys, { t with keys })

/-- The first key of a property. -/
def keyByProperty? (t : KeyedType) (propertyName : String) : Option PropertyKey :=
  t.keys.find? fun k => k.propertyName == propertyName

/-- The keys that are not archived. -/
def liveKeys (t : KeyedType) : List PropertyKey := t.keys.filter fun k => !k.archived

end KeyedType

/-- How many edges of a pair may leave one origin and enter one destination. -/
inductive Cardinality where
  | oneToOne
  | oneToMany
  | manyToOne
  | manyToMany
deriving DecidableEq, Repr, Inhabited

namespace Cardinality

def names : List (String × Cardinality) :=
  [("one:one", oneToOne), ("one:many", oneToMany), ("many:one", manyToOne),
   ("many:many", manyToMany)]

def text (c : Cardinality) : String := ((names.find? fun row => row.2 = c).map (·.1)).getD ""

def codec : Codec Cardinality := .words names

/-- Whether at most one edge may leave an origin. -/
def oneFromOrigin : Cardinality → Bool
  | oneToOne | manyToOne => true
  | oneToMany | manyToMany => false

/-- Whether at most one edge may enter a destination. -/
def oneIntoDestination : Cardinality → Bool
  | oneToOne | oneToMany => true
  | manyToOne | manyToMany => false

end Cardinality

/-- A relationship that may lead from nodes of one metatype to nodes of another. -/
structure RelationshipPair where
  id : Option String := none
  containerId : String := ""
  name : String
  description : String := ""
  originMetatypeId : String
  destinationMetatypeId : String
  relationshipId : String
  cardinality : Cardinality := .manyToMany
  archived : Bool := false
deriving DecidableEq, Repr, Inhabited

namespace RelationshipPair

def idField : Field (Option String) := .optional "id" .text

def containerIdField : Field String := .defaulted "container_id" .text ""

def nameField : Field String := .required "name" .text

def descriptionField : Field String := .defaulted "description" .text ""

def originField : Field String := .required "origin_metatype_id" .text

def destinationField : Field String := .required "destination_metatype_id" .text

def relationshipField : Field String := .required "relationship_id" .text

def cardinalityField : Field Cardinality :=
  .defaulted "relationship_type" Cardinality.codec .manyToMany

def archivedField : Field Bool := .defaulted "archived" .bool false

def codec : Codec RelationshipPair := .record
  [idField.name, containerIdField.name, nameField.name, descriptionField.name, originField.name,
    destinationField.name, relationshipField.name, cardinalityField.name, archivedField.name]
  (fun e => do
    return {
      id := ← idField.read? e
      containerId := ← containerIdField.read? e
      name := ← nameField.read? e
      description := ← descriptionField.read? e
      originMetatypeId := ← originField.read? e
      destinationMetatypeId := ← destinationField.read? e
      relationshipId := ← relationshipField.read? e
      cardinality := ← cardinalityField.read? e
      archived := ← archivedField.read? e })
  (fun p =>
    idField.write p.id ++ containerIdField.write p.containerId ++ nameField.write p.name ++
    descriptionField.write p.description ++ originField.write p.originMetatypeId ++
    destinationField.write p.destinationMetatypeId ++
    relationshipField.write p.relationshipId ++ cardinalityField.write p.cardinality ++
    archivedField.write p.archived)

end RelationshipPair

/-- A whole ontology in one document. -/
structure OntologySnapshot where
  metatypes : List Metatype := []
  relationships : List Relationship := []
  pairs : List RelationshipPair := []
deriving DecidableEq, Repr, Inhabited

namespace OntologySnapshot

def metatypesField : Field (List Metatype) := .defaulted "metatypes" (.list KeyedType.codec) []

def relationshipsField : Field (List Relationship) :=
  .defaulted "relationships" (.list KeyedType.codec) []

def pairsField : Field (List RelationshipPair) :=
  .defaulted "pairs" (.list RelationshipPair.codec) []

def codec : Codec OntologySnapshot := .record
  [metatypesField.name, relationshipsField.name, pairsField.name]
  (fun e => do
    return {
      metatypes := ← metatypesField.read? e
      relationships := ← relationshipsField.read? e
      pairs := ← pairsField.read? e })
  (fun o =>
    metatypesField.write o.metatypes ++ relationshipsField.write o.relationships ++
    pairsField.write o.pairs)

end OntologySnapshot

end TypedGraph
