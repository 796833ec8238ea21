import TypedGraph.Ontology.Basic

/-!
# Ontology stores

A store keeps the metatypes, relationships and pairs of all containers in tables by
their ids. A lookup is made for one container and sees its records only. Records that
are archived are not found, but a key is found by its id even if it is archived or
belongs to an archived type.
-/
namespace TypedGraph

/-- The records of an ontology by their ids. -/
structure OntologyStore where
  metatypes : Table Metatype := []
  relationships : Table Relationship := []
  pairs : Table RelationshipPair := []
deriving DecidableEq, Repr, Inhabited

namespace OntologyStore

/-- Adds a record to a table under its id; one without id cannot be referred to, and
is left out. -/
def insertById {α : Type} (t : Table α) (id : Option String) (a : α) : Table α :=
  match id with
  | some id => t.insert id a
  | none => t

theorem get?_insertById {α : Type} (t : Table α) (id : Option String) (a : α) (key : String) :
    (insertById t id a).get? key = if id = some key then some a else t.get? key := by
  cases id with
  | none => simp [insertById]
  | some id => simp [insertById, Table.get?_insert, eq_comm]

def insertMetatype (s : OntologyStore) (m : Metatype) : OntologyStore :=
  { s with metatypes := insertById s.metatypes m.id m }

def insertRelationship (s : OntologyStore) (r : Relationship) : OntologyStore :=
  { s with relationships := insertById s.relationships r.id r }

def insertPair (s : OntologyStore) (p : RelationshipPair) : OntologyStore :=
  { s with pairs := insertById s.pairs p.id p }

/-- The store of a snapshot. Records that name no container belong to the given one. -/
def ofSnapshot (containerId : String) (snapshot : OntologySnapshot) : OntologyStore :=
  let home (own : String) : String := if own.isEmpty then containerId else own
  let store := snapshot.metatypes.foldl
    (fun s m => s.insertMetatype { m with containerId := home m.containerId }) {}
  let store := snapshot.relationships.foldl
    (fun s r => s.insertRelationship { r with containerId := home r.containerId }) store
  snapshot.pairs.foldl (fun s p => s.insertPair { p with containerId := home p.containerId }) store

/-- A type of a container that is not archived. -/
def liveType? (types : Table KeyedType) (containerId id : String) : Option KeyedType :=
  (types.get? id).filter fun t => t.containerId == containerId && !t.archived

/-- The first key with an id among the types of a container. The order in which the types are gone
through is not settled where several of them have such a key; here it is the order of their
ids. -/
def key? (types : Table KeyedType) (containerId keyId : String) : Option PropertyKey :=
  ((types.values.filter fun t => t.containerId == containerId).flatMap KeyedType.keys).find?
    fun k => k.id == some keyId

def metatype? (s : OntologyStore) (containerId id : String) : Option Metatype :=
  liveType? s.metatypes containerId id

/-- The metatype of a name, the one with the least id if there are several. -/
def metatypeByName? (s : OntologyStore) (containerId name : String) : Option Metatype :=
  s.metatypes.values.find? fun m => m.containerId == containerId && !m.archived && m.name == name

/-- The keys of a metatype that are not archived. -/
def metatypeKeys? (s : OntologyStore) (containerId metatypeId : String) :
    Option (List PropertyKey) :=
  (s.metatype? containerId metatypeId).map KeyedType.liveKeys

def metatypeKey? (s : OntologyStore) (containerId keyId : String) : Option PropertyKey :=
  key? s.metatypes containerId keyId

def pair? (s : OntologyStore) (containerId id : String) : Option RelationshipPair :=
  (s.pairs.get? id).filter fun p => p.containerId == containerId && !p.archived

/-- The keys of a relationship that are not archived. -/
def relationshipKeys? (s : OntologyStore) (containerId relationshipId : String) :
    Option (List PropertyKey) :=
  (liveType? s.relationships containerId relationshipId).map KeyedType.liveKeys

def relationshipKey? (s : OntologyStore) (containerId keyId : String) : Option PropertyKey :=
  key? s.relationships containerId keyId

end OntologyStore

end TypedGraph
