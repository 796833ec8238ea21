import TypedGraph.Main
import TypedGraph.Proofs.Calls
import TypedGraph.Proofs.Registers
import TypedGraph.Proofs.Writing
import TypedGraph.Proofs.Outages
import TypedGraph.Proofs.Connections
import TypedGraph.Proofs.Preparation
import TypedGraph.Proofs.Ends
import TypedGraph.Proofs.Plans
import TypedGraph.Proofs.Attempts
import TypedGraph.Proofs.Ingests
import TypedGraph.Proofs.Atomicity
import TypedGraph.Proofs.Histories
import TypedGraph.Proofs.EdgeEnds
import TypedGraph.Proofs.CurrentGraph
import TypedGraph.Proofs.WellFormed
import TypedGraph.Proofs.Conflicts
import TypedGraph.Proofs.Cardinality
import TypedGraph.Proofs.Enforcement
import TypedGraph.Proofs.NodesTwice
import TypedGraph.Proofs.EdgesTwice
import TypedGraph.Proofs.Idempotence
import TypedGraph.Proofs.LiveEnds
import TypedGraph.Proofs.TypedEnds
import TypedGraph.Proofs.Schemas
import TypedGraph.Proofs.Validation
import TypedGraph.Proofs.Validity
import TypedGraph.Proofs.Changes
import TypedGraph.Proofs.EdgePairs
import TypedGraph.Proofs.Production
import TypedGraph.Proofs.Shares
import TypedGraph.Proofs.Alike
import TypedGraph.Proofs.Memos
import TypedGraph.Proofs.Replies
import TypedGraph.Proofs.Forgetting
import TypedGraph.Proofs.Shapes
import TypedGraph.Proofs.Digests
import TypedGraph.Proofs.Places
import TypedGraph.Proofs.Advances
import TypedGraph.Proofs.Identities
import TypedGraph.Proofs.References
import TypedGraph.Proofs.Containers
import TypedGraph.Proofs.Separation
import TypedGraph.Proofs.StopNodes
import TypedGraph.Proofs.BranchPaths
import TypedGraph.Proofs.Markers
import TypedGraph.Proofs.Replacement
import TypedGraph.Proofs.Scopes
import TypedGraph.Proofs.Siblings
import TypedGraph.Proofs.Documents
import TypedGraph.Proofs.Codecs
import TypedGraph.Proofs.Days
import TypedGraph.Proofs.Instants
import TypedGraph.Proofs.Records
import TypedGraph.Proofs.Saving
import TypedGraph.Proofs.Refusals
import TypedGraph.Proofs.Descriptions
import TypedGraph.Proofs.Routes
import TypedGraph.Proofs.Expansions
import TypedGraph.Proofs.Spellings
import TypedGraph.Proofs.NestedLists
import TypedGraph.Proofs.Formulas
import TypedGraph.Proofs.Alternatives
import TypedGraph.Proofs.Batches
import TypedGraph.Proofs.CompositeIds
import TypedGraph.Proofs.Resolutions
import TypedGraph.Proofs.Reached
import TypedGraph.Proofs.Combinations
import TypedGraph.Proofs.Upserts
import TypedGraph.Proofs.Outcomes
import TypedGraph.Proofs.Listings
import TypedGraph.Proofs.ConversionLogs
import TypedGraph.Proofs.Policies
import TypedGraph.Proofs.Conversions
import TypedGraph.Proofs.KeyOrders
import TypedGraph.Proofs.RunningText
import TypedGraph.Proofs.Filters
import TypedGraph.Proofs.Rounding
import TypedGraph.Proofs.Comparisons
import TypedGraph.Proofs.Coercions
import TypedGraph.Proofs.IntegerTexts
import TypedGraph.Proofs.DateTexts
import TypedGraph.Proofs.Edits
