import SearchQuery.Builder
import SearchQuery.Clause
import SearchQuery.Decimal.Layout
import SearchQuery.Decimal.Literal
import SearchQuery.Decimal.Shortest
import SearchQuery.Dict
import SearchQuery.Error
import SearchQuery.Expansion
import SearchQuery.Generation
import SearchQuery.Inspect
import SearchQuery.Json.Basic
import SearchQuery.Json.Parser
import SearchQuery.Json.Printer
import SearchQuery.Json.Reading
import SearchQuery.Json.Token
import SearchQuery.Kind
import SearchQuery.MatchOption
import SearchQuery.Node
import SearchQuery.Proofs.Ancestors
import SearchQuery.Proofs.Atomicity
import SearchQuery.Proofs.Building
import SearchQuery.Proofs.ByteOrder
import SearchQuery.Proofs.Calls
import SearchQuery.Proofs.Composition
import SearchQuery.Proofs.Cycles
import SearchQuery.Proofs.Failure
import SearchQuery.Proofs.Faults
import SearchQuery.Proofs.FirstFault
import SearchQuery.Proofs.Footprint
import SearchQuery.Proofs.Graph
import SearchQuery.Proofs.Layout
import SearchQuery.Proofs.MinimumShouldMatch
import SearchQuery.Proofs.Nesting
import SearchQuery.Proofs.Operations
import SearchQuery.Proofs.Pinned
import SearchQuery.Proofs.PlainLayout
import SearchQuery.Proofs.Rendering
import SearchQuery.Proofs.SafeUpdates
import SearchQuery.Proofs.Session
import SearchQuery.Proofs.Sharing
import SearchQuery.Proofs.StandIn
import SearchQuery.Proofs.Success
import SearchQuery.Proofs.Templates
import SearchQuery.Proofs.Trace
import SearchQuery.Proofs.Updates
import SearchQuery.Proofs.Validity
import SearchQuery.Settings
import SearchQuery.Store
import SearchQuery.Template
import SearchQuery.Text.CharClass
import SearchQuery.Text.Quoted
import SearchQuery.Value
