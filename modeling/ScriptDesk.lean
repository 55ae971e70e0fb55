import ScriptDesk.Desk.Feed
import ScriptDesk.Main
import ScriptDesk.Proofs.Json.ReadBack
import ScriptDesk.Proofs.Text.Lines
import ScriptDesk.Proofs.Script.Spelling
import ScriptDesk.Proofs.Script.Header
import ScriptDesk.Proofs.Script.RoundTrip
import ScriptDesk.Proofs.Disk.Writing
import ScriptDesk.Proofs.Document.Saving
import ScriptDesk.Proofs.Bus.Channels
import ScriptDesk.Proofs.Desk.Demultiplexing
import ScriptDesk.Proofs.Bus.Lifetimes
import ScriptDesk.Proofs.Environment.Results
import ScriptDesk.Proofs.Desk.Operations
import ScriptDesk.Proofs.Desk.Disposal
import ScriptDesk.Proofs.Files.Lineage
import ScriptDesk.Proofs.Desk.Watching
import ScriptDesk.Proofs.Desk.Succession
import ScriptDesk.Proofs.Service.Fields
import ScriptDesk.Proofs.Daemon.Closing
import ScriptDesk.Proofs.Environment.Renaming
import ScriptDesk.Proofs.Desk.Shares
import ScriptDesk.Proofs.Desk.Runs
import ScriptDesk.Proofs.Desk.Drafts
import ScriptDesk.Proofs.Edit.Batches
import ScriptDesk.Proofs.Environment.Refusals
import ScriptDesk.Proofs.Desk.Saves
import ScriptDesk.Proofs.Edit.Spans
import ScriptDesk.Proofs.Script.Scanning
import ScriptDesk.Proofs.Json.Steps
import ScriptDesk.Proofs.Text.Endings
import ScriptDesk.Proofs.Json.Endings
import ScriptDesk.Proofs.Script.Endings
import ScriptDesk.Proofs.Document.Lives
import ScriptDesk.Proofs.Script.Splicing
import ScriptDesk.Proofs.Desk.Closings
import ScriptDesk.Proofs.Desk.Manuscripts
import ScriptDesk.Proofs.Desk.Submissions
import ScriptDesk.Proofs.Script.Listing
import ScriptDesk.Proofs.Console.Kinds
