import CodaNode.Coroutine.Alone
import CodaNode.Coroutine.Automaton
import CodaNode.Coroutine.Basic
import CodaNode.Coroutine.Decided
import CodaNode.Coroutine.Passage
import CodaNode.Coroutine.Pool
import CodaNode.Coroutine.Solo
import CodaNode.Coroutine.Triple
import CodaNode.Node.Assignments
import CodaNode.Node.Bundle
import CodaNode.Node.BundleRun
import CodaNode.Node.Cleanup
import CodaNode.Node.Config
import CodaNode.Node.Connect
import CodaNode.Node.Credentials
import CodaNode.Node.Guard
import CodaNode.Node.OpenVpn
import CodaNode.Node.Persist
import CodaNode.Node.PostConnect
import CodaNode.Node.Profile
import CodaNode.Node.Quiet
import CodaNode.Node.Rehearsal
import CodaNode.Node.Restart
import CodaNode.Node.Settings
import CodaNode.Node.Tunnel
import CodaNode.Node.World
import CodaNode.Proofs.Backoff
import CodaNode.Proofs.BatchLength
import CodaNode.Proofs.BundleChecks
import CodaNode.Proofs.BundleValues
import CodaNode.Proofs.CancelRace
import CodaNode.Proofs.Circuits
import CodaNode.Proofs.ConnectRetry
import CodaNode.Proofs.Content
import CodaNode.Proofs.CrashRecovery
import CodaNode.Proofs.Duplicates
import CodaNode.Proofs.Endurance
import CodaNode.Proofs.ExecutorFactory
import CodaNode.Proofs.GuardReports
import CodaNode.Proofs.HandOver
import CodaNode.Proofs.IdleBatch
import CodaNode.Proofs.IdleEvent
import CodaNode.Proofs.IrRoundTrip
import CodaNode.Proofs.OutageReporting
import CodaNode.Proofs.Ownership
import CodaNode.Proofs.PendingPage
import CodaNode.Proofs.ProfileScan
import CodaNode.Proofs.QasmErrors
import CodaNode.Proofs.Redelivery
import CodaNode.Proofs.Restart
import CodaNode.Proofs.Retraction
import CodaNode.Proofs.Shutdown
import CodaNode.Proofs.Silence
import CodaNode.Proofs.Teardown
import CodaNode.Proofs.TornPersist
import CodaNode.Proofs.TunnelDetection
import CodaNode.Protocol.Acceptance
import CodaNode.Protocol.Account
import CodaNode.Protocol.Alone
import CodaNode.Protocol.Backlog
import CodaNode.Protocol.Batch
import CodaNode.Protocol.BatchCourse
import CodaNode.Protocol.Course
import CodaNode.Protocol.Crew
import CodaNode.Protocol.Delivery
import CodaNode.Protocol.DeliveryCourse
import CodaNode.Protocol.Engagement
import CodaNode.Protocol.Grounds
import CodaNode.Protocol.Landing
import CodaNode.Protocol.Loop
import CodaNode.Protocol.Message
import CodaNode.Protocol.Possession
import CodaNode.Protocol.Recovery
import CodaNode.Protocol.Replay
import CodaNode.Protocol.Reports
import CodaNode.Protocol.Rows
import CodaNode.Protocol.Sound
import CodaNode.Protocol.Staff
import CodaNode.Python.Json
import CodaNode.Python.JsonCut
import CodaNode.Python.Decimal
import CodaNode.Python.JsonRoundTrip
import CodaNode.Python.LazyMatch
import CodaNode.Python.Lines
import CodaNode.Python.Regex
import CodaNode.Python.Text
import CodaNode.Server.Circuit
import CodaNode.Server.Cluster
import CodaNode.Server.Consumer
import CodaNode.Server.Ir
import CodaNode.Server.IrJson
import CodaNode.Server.Ledger
import CodaNode.Server.Lifespan
import CodaNode.Server.Log
import CodaNode.Server.Outcome
import CodaNode.Server.Qasm
import CodaNode.Server.Redis
import CodaNode.Server.System
import CodaNode.Server.Undisturbed
import CodaNode.Server.Webhook
import CodaNode.Server.World
import CodaNode.Proofs.EarlyExit
import CodaNode.Unix.Tree
import CodaNode.Posix.Host
import CodaNode.Posix.Calls
import CodaNode.Posix.Daemon
import CodaNode.Posix.History
import CodaNode.Posix.Reset
import CodaNode.Posix.Rehearsal
import CodaNode.Posix.Recorded
import CodaNode.Proofs.PidSafety
import CodaNode.Posix.Durable
import CodaNode.Proofs.DaemonLife
import CodaNode.Proofs.ResetFiles
import CodaNode.Proofs.HalfStarted
import CodaNode.Node.HttpsMode
import CodaNode.Proofs.StaleProfile
import CodaNode.Python.Joined
import CodaNode.Python.Reads
import CodaNode.Server.QasmText
import CodaNode.Proofs.QasmRoundTrip
import CodaNode.Proofs.QasmReprint
import CodaNode.Protocol.Involvement
import CodaNode.Protocol.Team
import CodaNode.Protocol.Hand
import CodaNode.Proofs.Settlement
import CodaNode.Protocol.Queue
import CodaNode.Proofs.Fallback
import CodaNode.Proofs.BatchAgreement
