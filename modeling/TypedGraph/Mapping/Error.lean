import TypedGraph.Mapping.Transformation
import TypedGraph.Ontology.Lookup

/-!
# Failures of transformations

A transformation fails as a whole if it is malformed or the ontology is out; all other
failures concern a single branch.
-/
namespace TypedGraph

/-- The places of a branch in a message. -/
def indexText (index : List Nat) : String :=
  "[" ++ ", ".intercalate (index.map toString) ++ "]"

/-- Why a transformation or one of its branches fails. -/
inductive TransformError where
  | malformedRootArray (path : String) (index : List Nat)
  | malformed (cause : Malformation)
  | lookupFailure (keyId : String)
  | missingRequiredKey (property : String)
  | conversionFailed (property reason : String)
  | ontology (cause : OntologyError)
deriving DecidableEq, Repr

namespace TransformError

def message : TransformError → String
  | malformedRootArray path index =>
    "root array path `" ++ path ++ "` does not resolve to an array at index " ++ indexText index
  | malformed cause => "malformed transformation: " ++ cause.message
  | lookupFailure keyId => "ontology key `" ++ keyId ++ "` could not be resolved"
  | missingRequiredKey property => "no value in payload for required key `" ++ property ++ "`"
  | conversionFailed property reason =>
    "unable to convert value for `" ++ property ++ "`: " ++ reason
  | ontology cause => cause.message

end TransformError

/-- A branch without a record, and why. -/
structure BranchError where
  index : List Nat
  error : TransformError
deriving DecidableEq, Repr

end TypedGraph
