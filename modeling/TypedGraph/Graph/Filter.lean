import TypedGraph.Graph.Record
import TypedGraph.Json.Display

/-!
# Filters on nodes

A filter selects the nodes of one container that are not archived and meet all its
conditions. Properties are compared by their texts, so that `17` is found by `"17"`.
-/
namespace TypedGraph

/-- A condition on a node. -/
inductive NodeCondition where
  | id (value : String)
  | dataSource (value : String)
  | metatype (value : String)
  | externalId (value : String)
  | property (name : String) (value : Json)
deriving DecidableEq, Repr, Inhabited

/-- Whether a node meets a condition. -/
def NodeCondition.holds (n : Node) : NodeCondition → Bool
  | id value => n.id == some value
  | dataSource value => n.dataSourceId == some value
  | metatype value => n.metatypeId == value
  | externalId value => n.externalId == some value
  | property name value => (n.properties.get? name).any fun found => found.display == value.display

/-- A selection of nodes of a container. -/
structure NodeFilter where
  containerId : String
  conditions : List NodeCondition := []
deriving DecidableEq, Repr, Inhabited

/-- Whether a filter selects a node. -/
def NodeFilter.selects (f : NodeFilter) (n : Node) : Bool :=
  !n.archived && n.containerId == f.containerId && f.conditions.all fun c => c.holds n

end TypedGraph
