import TypedGraph.Access
import TypedGraph.Ontology.Store

/-!
# Looking up the ontology

Programs look up an ontology by calling the methods of its store. A lookup finds a
record or reports that there is none; if the method is out, it reports that instead.
-/
namespace TypedGraph

/-- What is looked up in an ontology. -/
inductive OntologyRecord where
  | metatype
  | metatypeKey
  | relationshipPair
  | relationship
  | relationshipKey
deriving DecidableEq, Repr

def OntologyRecord.text : OntologyRecord → String
  | metatype => "metatype"
  | metatypeKey => "metatype key"
  | relationshipPair => "relationship pair"
  | relationship => "relationship"
  | relationshipKey => "relationship key"

/-- Why a lookup fails. -/
inductive OntologyError where
  | notFound (kind : OntologyRecord) (id : String)
  | backend (reason : String)
deriving DecidableEq, Repr

namespace OntologyError

def isNotFound : OntologyError → Bool
  | notFound _ _ => true
  | backend _ => false

def message : OntologyError → String
  | notFound kind id => kind.text ++ " `" ++ id ++ "` not found"
  | backend reason => "ontology backend error: " ++ reason

end OntologyError

/-- An ontology as programs reach it. -/
structure Ontology where
  store : OntologyStore := {}
  outage : Outage := {}
deriving DecidableEq, Repr, Inhabited

namespace Ontology

variable {σ α : Type} [KeepsCalls σ]

/-- Looks up a record by calling a method. -/
def lookUp (o : Ontology) (m : Method) (kind : OntologyRecord) (id : String)
    (found : Option α) : Access σ OntologyError α :=
  .call o.outage m .backend <|
    match found with
    | some a => pure a
    | none => throw (.notFound kind id)

def metatype (o : Ontology) (containerId id : String) : Access σ OntologyError Metatype :=
  o.lookUp .metatype .metatype id (o.store.metatype? containerId id)

def metatypeByName (o : Ontology) (containerId name : String) :
    Access σ OntologyError Metatype :=
  o.lookUp .metatypeByName .metatype name (o.store.metatypeByName? containerId name)

def metatypeKeys (o : Ontology) (containerId metatypeId : String) :
    Access σ OntologyError (List PropertyKey) :=
  o.lookUp .metatypeKeys .metatype metatypeId (o.store.metatypeKeys? containerId metatypeId)

def metatypeKey (o : Ontology) (containerId keyId : String) :
    Access σ OntologyError PropertyKey :=
  o.lookUp .metatypeKey .metatypeKey keyId (o.store.metatypeKey? containerId keyId)

def relationshipPair (o : Ontology) (containerId id : String) :
    Access σ OntologyError RelationshipPair :=
  o.lookUp .relationshipPair .relationshipPair id (o.store.pair? containerId id)

def relationshipKeys (o : Ontology) (containerId relationshipId : String) :
    Access σ OntologyError (List PropertyKey) :=
  o.lookUp .relationshipKeys .relationship relationshipId
    (o.store.relationshipKeys? containerId relationshipId)

def relationshipKey (o : Ontology) (containerId keyId : String) :
    Access σ OntologyError PropertyKey :=
  o.lookUp .relationshipKey .relationshipKey keyId (o.store.relationshipKey? containerId keyId)

end Ontology

end TypedGraph
