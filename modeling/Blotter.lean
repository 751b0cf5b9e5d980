import Blotter.Database.Rows
import Blotter.Desk.Codec
import Blotter.Desk.Session
import Blotter.Journal.Running
import Blotter.Observability.Exposition
import Blotter.Proofs.Database.Attempts
import Blotter.Proofs.Desk.Filling
import Blotter.Proofs.Desk.Gating
import Blotter.Proofs.Journal.Failing
import Blotter.Proofs.Journal.Sessions
import Blotter.Proofs.Journal.Shift
import Blotter.Proofs.JournalFile.Survival
import Blotter.Proofs.Record.RoundTrip
import Blotter.Proofs.Recovery
import Blotter.Settings.Loading
import Blotter.Proofs.Desk.Turns
import Blotter.Proofs.Desk.Limits
import Blotter.Proofs.Desk.Replaying
import Blotter.Proofs.Desk.Refusals
import Blotter.Proofs.Desk.Executions
import Blotter.Proofs.Desk.Closing
import Blotter.Proofs.Desk.Routing
import Blotter.Proofs.Replay.Reference
import Blotter.Proofs.Replay.Covering
import Blotter.Proofs.Replay.Isolation
import Blotter.Proofs.Overflow
import Blotter.Proofs.Position.Histories
import Blotter.Proofs.Order
import Blotter.Proofs.JournalFile.Reading
import Blotter.Proofs.Record.Compatibility
import Blotter.Proofs.Database.Convergence
import Blotter.Proofs.Database.Columns
import Blotter.Proofs.Database.Snapshots
import Blotter.Proofs.Journal.Checking
import Blotter.Proofs.Database.Batching
import Blotter.Proofs.Journal.Announcing
import Blotter.Proofs.Journal.Stopping
import Blotter.Proofs.Desk.Draining
import Blotter.Proofs.Desk.Throttling
import Blotter.Proofs.Settings.Environment
import Blotter.Proofs.Session
import Blotter.Proofs.Journal.Pool
