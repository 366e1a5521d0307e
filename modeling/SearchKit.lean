import SearchKit.Main
import SearchKit.Proofs.Checked
import SearchKit.Proofs.Json.Entries
import SearchKit.Proofs.Query.Compilation
import SearchKit.Proofs.Text.Cutting
import SearchKit.Proofs.Text.LowerCase
import SearchKit.Proofs.Query.Predicates
import SearchKit.Proofs.Engine.Replies
import SearchKit.Proofs.Operations.BatchSearch
import SearchKit.Proofs.Operations.Paging
import SearchKit.Proofs.Json.Numbers
import SearchKit.Proofs.Json.Written
import SearchKit.Proofs.Json.RoundTrip
import SearchKit.Proofs.Query.Nesting
import SearchKit.Proofs.Query.RawMode
import SearchKit.Proofs.Binary64.DecimalText
import SearchKit.Proofs.Json.Unambiguous
import SearchKit.Proofs.Json.Lines
import SearchKit.Proofs.Json.Layout
import SearchKit.Proofs.Engine.BulkPayload
import SearchKit.Proofs.Engine.SearchPayload
import SearchKit.Proofs.Url.Encoding
import SearchKit.Proofs.Url.Paths
import SearchKit.Proofs.Url.AddedSegments
import SearchKit.Proofs.Url.LostSegments
import SearchKit.Proofs.Engine.Addressing
import SearchKit.Proofs.Url.Confinement
import SearchKit.Proofs.Engine.Confinement
import SearchKit.Proofs.Engine.Acceptance
import SearchKit.Proofs.Operations.SavingInOrder
import SearchKit.Proofs.Command.Reports
import SearchKit.Proofs.Result.Agreement
import SearchKit.Proofs.Operations.InTurn
import SearchKit.Proofs.Operations.Calls
import SearchKit.Proofs.Settings.Addresses
import SearchKit.Proofs.Engine.Turns
import SearchKit.Proofs.Json.Decoding
import SearchKit.Proofs.Request.RoundTrip
import SearchKit.Proofs.Result.Schema
import SearchKit.Proofs.Operations.Saving
import SearchKit.Proofs.Command.Preview
import SearchKit.Proofs.Operations.WholeAnswers
import SearchKit.Proofs.Query.WellFormed
import SearchKit.Proofs.Command.Endings
import SearchKit.Proofs.Result.WholeNumbers
import SearchKit.Proofs.Result.Highlighting
import SearchKit.Proofs.Query.LastSettings
import SearchKit.Proofs.Json.Reordering
import SearchKit.Proofs.Query.Decoding
import SearchKit.Proofs.Query.FieldNames
import SearchKit.Proofs.Query.RangeBounds
import SearchKit.Proofs.Result.LookedUp
import SearchKit.Proofs.Engine.Scopes
import SearchKit.Proofs.Request.SortKeys
import SearchKit.Proofs.Command.SortedSearch
import SearchKit.Proofs.Operations.Logging
import SearchKit.Proofs.Operations.SearchForms
import SearchKit.Proofs.Request.PageCounts
