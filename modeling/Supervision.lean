import Supervision.Config.Document
import Supervision.Drill
import Supervision.Main
import Supervision.Scenario.Play
import Supervision.Proofs.Act
import Supervision.Proofs.Manager
import Supervision.Proofs.Coordinator
import Supervision.Proofs.Bookkeeping
import Supervision.Proofs.HookHistory
import Supervision.Proofs.Recording
import Supervision.Proofs.HookProtocol
import Supervision.Proofs.Replies
import Supervision.Proofs.Unwinding
import Supervision.Proofs.Visits
import Supervision.Proofs.Tree
import Supervision.Proofs.Flattening
import Supervision.Proofs.Stillness
import Supervision.Proofs.Recovery
import Supervision.Proofs.Firing
import Supervision.Proofs.Refusals
import Supervision.Proofs.BulkRegistration
import Supervision.Proofs.Heartbeat
import Supervision.Proofs.Daemon.Heartbeats
import Supervision.Proofs.Daemon.Waiting
import Supervision.Proofs.Daemon.Shutdown
import Supervision.Proofs.Toml.Lines
import Supervision.Proofs.Config.Rendering
import Supervision.Proofs.Daemon.Rounds
import Supervision.Proofs.Signals.Runs
import Supervision.Proofs.Snapshot
import Supervision.Proofs.Worker
import Supervision.Proofs.Daemon.Rollback
import Supervision.Proofs.Config.Layers
import Supervision.Proofs.Config.Validation
import Supervision.Proofs.Roster
import Supervision.Proofs.BatchLog
