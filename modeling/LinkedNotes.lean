import LinkedNotes.Database.Closed
import LinkedNotes.Database.Connection
import LinkedNotes.Database.Pool
import LinkedNotes.Database.Settings
import LinkedNotes.Database.Wording
import LinkedNotes.Edit.Diff
import LinkedNotes.Edit.Ends
import LinkedNotes.Edit.Script
import LinkedNotes.Edit.Slide
import LinkedNotes.Edit.Snake
import LinkedNotes.Edit.Touch
import LinkedNotes.Fault
import LinkedNotes.Identifier
import LinkedNotes.Json.Printer
import LinkedNotes.Json.Reader
import LinkedNotes.Json.Value
import LinkedNotes.Keyed
import LinkedNotes.Note.Basic
import LinkedNotes.Note.Content
import LinkedNotes.Note.Json
import LinkedNotes.Note.Request
import LinkedNotes.Note.Resync
import LinkedNotes.Patch.Apply
import LinkedNotes.Patch.Fault
import LinkedNotes.Patch.Hunk
import LinkedNotes.Patch.Wire
import LinkedNotes.Proofs.Database.Pattern
import LinkedNotes.Proofs.Edit.Carried
import LinkedNotes.Proofs.Edit.Divide
import LinkedNotes.Proofs.Edit.Normal
import LinkedNotes.Proofs.Edit.Pass
import LinkedNotes.Proofs.Edit.Reach
import LinkedNotes.Proofs.Edit.Revisions
import LinkedNotes.Proofs.Edit.Search
import LinkedNotes.Proofs.Edit.Survival
import LinkedNotes.Proofs.Identifier
import LinkedNotes.Proofs.Json.ReadBack
import LinkedNotes.Proofs.Keyed
import LinkedNotes.Proofs.Note.Joined
import LinkedNotes.Proofs.Note.Json
import LinkedNotes.Proofs.Note.Skip
import LinkedNotes.Proofs.Note.Title
import LinkedNotes.Proofs.Patch.Context
import LinkedNotes.Proofs.Patch.Cutting
import LinkedNotes.Proofs.Patch.Grammar
import LinkedNotes.Proofs.Patch.Hunks
import LinkedNotes.Proofs.Patch.Lossless
import LinkedNotes.Proofs.Patch.Offsets
import LinkedNotes.Proofs.Patch.RoundTrip
import LinkedNotes.Proofs.Patch.Shifted
import LinkedNotes.Proofs.Patch.Wire
import LinkedNotes.Proofs.Service.Agreement
import LinkedNotes.Proofs.Store.Atomic
import LinkedNotes.Proofs.Store.Calls
import LinkedNotes.Proofs.Store.Direct
import LinkedNotes.Proofs.Store.Dropped
import LinkedNotes.Proofs.Store.Edited
import LinkedNotes.Proofs.Store.Frame
import LinkedNotes.Proofs.Store.Gathered
import LinkedNotes.Proofs.Store.Kept
import LinkedNotes.Proofs.Store.Keywords
import LinkedNotes.Proofs.Store.Lookups
import LinkedNotes.Proofs.Store.Merged
import LinkedNotes.Proofs.Store.Operations
import LinkedNotes.Proofs.Store.Outcomes
import LinkedNotes.Proofs.Store.Placed
import LinkedNotes.Proofs.Store.Projection
import LinkedNotes.Proofs.Store.Reachable
import LinkedNotes.Proofs.Store.Renewed
import LinkedNotes.Proofs.Store.Repeated
import LinkedNotes.Proofs.Store.Restored
import LinkedNotes.Proofs.Store.Resynced
import LinkedNotes.Proofs.Store.Reworded
import LinkedNotes.Proofs.Store.Session
import LinkedNotes.Proofs.Store.Supply
import LinkedNotes.Proofs.Store.Tidy
import LinkedNotes.Proofs.Store.Titles
import LinkedNotes.Proofs.Store.Untitled
import LinkedNotes.Proofs.Text.Decimal
import LinkedNotes.Proofs.Text.Distinct
import LinkedNotes.Proofs.Text.Line
import LinkedNotes.Proofs.Text.Occurrence
import LinkedNotes.Proofs.Text.Percent
import LinkedNotes.Proofs.Text.Utf8
import LinkedNotes.Proofs.Time.Spelling
import LinkedNotes.Proofs.Transaction.Asked
import LinkedNotes.Proofs.Transaction.Commit
import LinkedNotes.Proofs.Transaction.Course
import LinkedNotes.Proofs.Transaction.Deeds
import LinkedNotes.Proofs.Transaction.Endings
import LinkedNotes.Proofs.Transaction.Errand
import LinkedNotes.Proofs.Transaction.Keeper
import LinkedNotes.Proofs.Transaction.Lifecycle
import LinkedNotes.Proofs.Transaction.Matching
import LinkedNotes.Proofs.Transaction.Outcomes
import LinkedNotes.Proofs.Transaction.Protocol
import LinkedNotes.Proofs.Transaction.Steps
import LinkedNotes.Proofs.Transaction.Tenure
import LinkedNotes.Proofs.Transaction.Verdict
import LinkedNotes.Proofs.Transaction.Watched
import LinkedNotes.Proofs.Wikilink.Extraction
import LinkedNotes.Proofs.Wikilink.Grammar
import LinkedNotes.Proofs.Wikilink.Scan
import LinkedNotes.Service.Backend
import LinkedNotes.Service.Notes
import LinkedNotes.Service.Operation
import LinkedNotes.Store.Graph
import LinkedNotes.Store.Memory
import LinkedNotes.Store.Relational
import LinkedNotes.Store.Snapshot
import LinkedNotes.Text.Character
import LinkedNotes.Text.Collection
import LinkedNotes.Text.Letter
import LinkedNotes.Text.Percent
import LinkedNotes.Text.Place
import LinkedNotes.Text.Quoted
import LinkedNotes.Text.Utf8
import LinkedNotes.Text.Visible
import LinkedNotes.Time.Date
import LinkedNotes.Time.Spelling
import LinkedNotes.Time.Timestamp
import LinkedNotes.Transaction.Action
import LinkedNotes.Transaction.Bench
import LinkedNotes.Transaction.Context
import LinkedNotes.Transaction.Controller
import LinkedNotes.Transaction.Sample
import LinkedNotes.Transaction.UnitOfWork
import LinkedNotes.Wikilink
