import Workbook.Block.File
import Workbook.Command.Json
import Workbook.Graph.Mentions
import Workbook.Graph.Reach
import Workbook.Pattern.Basic
import Workbook.Proofs.Batch.Fresh
import Workbook.Proofs.Batch.Requests
import Workbook.Proofs.Session.Lasting
import Workbook.Report.Json
import Workbook.Resolution.Json
import Workbook.Settings.File
import Workbook.Worker
import Workbook.Proofs.Batch.Refusal
import Workbook.Proofs.Session.Parked
import Workbook.Proofs.Batch.Locality
import Workbook.Proofs.Batch.Groups
import Workbook.Proofs.Batch.Confluence
import Workbook.Proofs.Batch.Stale
import Workbook.Proofs.Session.ColdStart
import Workbook.Proofs.Store.Edits
import Workbook.Proofs.Graph.Arrange
import Workbook.Proofs.Batch.Idempotence
import Workbook.Proofs.Session.Failure
import Workbook.Proofs.Resolution.Tracking
import Workbook.Proofs.Session.Durable
import Workbook.Proofs.Store.Saved
import Workbook.Proofs.Reference.Brackets
import Workbook.Proofs.Resolution.Classification
import Workbook.Proofs.Session.Waking
import Workbook.Proofs.Batch.Statuses
import Workbook.Proofs.Batch.Dropped
import Workbook.Proofs.Session.Renaming
import Workbook.Proofs.Batch.Rounds
import Workbook.Proofs.Session.Rested
import Workbook.Proofs.Session.Coalescing
import Workbook.Proofs.Session.Spacing
import Workbook.Proofs.Graph.Indexed
import Workbook.Proofs.Session.Frozen
import Workbook.Proofs.Session.Deletion
import Workbook.Proofs.Batch.Story
import Workbook.Proofs.Store.Numbering
import Workbook.Proofs.Graph.Rebuild
import Workbook.Proofs.Json.Reports
import Workbook.Proofs.Settings.RoundTrip
