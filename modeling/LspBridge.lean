import LspBridge.Binary64.Basic
import LspBridge.Cli.Args
import LspBridge.Cli.Similarity
import LspBridge.Client.Handlers
import LspBridge.Client.Pending
import LspBridge.Client.Router
import LspBridge.Console.Answer
import LspBridge.Console.Basic
import LspBridge.Console.Bridge
import LspBridge.Console.Lifecycle
import LspBridge.Console.Programs
import LspBridge.Console.Scratch
import LspBridge.Console.Script
import LspBridge.Console.Session
import LspBridge.Console.Settings
import LspBridge.Console.Supervision
import LspBridge.Console.Wire
import LspBridge.Decimal.Shortest
import LspBridge.Engine.Calls
import LspBridge.Engine.Connection
import LspBridge.Engine.Peer
import LspBridge.Engine.Scheduler
import LspBridge.Engine.ServerProgram
import LspBridge.Engine.Supervisor
import LspBridge.Engine.Task
import LspBridge.Engine.World
import LspBridge.Json.Reader
import LspBridge.Json.Shape
import LspBridge.Json.Value
import LspBridge.Json.Writer
import LspBridge.Lsp.ClientCapabilities
import LspBridge.Lsp.ServerCapabilities
import LspBridge.Lsp.Types
import LspBridge.Machine.Disk
import LspBridge.Machine.Program
import LspBridge.Main
import LspBridge.Path
import LspBridge.Proofs.CallLedger
import LspBridge.Proofs.ConnectionFrame
import LspBridge.Proofs.ConnectionReader
import LspBridge.Proofs.FailedStarts
import LspBridge.Proofs.Framing
import LspBridge.Proofs.GracefulShutdown
import LspBridge.Proofs.HandshakeOrder
import LspBridge.Proofs.HeaderGrammar
import LspBridge.Proofs.JsonReader
import LspBridge.Proofs.JsonValues
import LspBridge.Proofs.LifecycleOperations
import LspBridge.Proofs.MessageCodec
import LspBridge.Proofs.MessageShapes
import LspBridge.Proofs.MonitorReasons
import LspBridge.Proofs.OperationStages
import LspBridge.Proofs.OutboundQueue
import LspBridge.Proofs.PrologGrammar
import LspBridge.Proofs.ReadingRuns
import LspBridge.Proofs.ServerRequests
import LspBridge.Proofs.SessionInvariant
import LspBridge.Proofs.SessionTeardown
import LspBridge.Proofs.StaleGenerations
import LspBridge.Proofs.StopFinality
import LspBridge.Proofs.StopReturns
import LspBridge.Proofs.StreamReading
import LspBridge.Proofs.SupervisorFrame
import LspBridge.Proofs.SupervisorLifecycle
import LspBridge.Proofs.SupervisorSteps
import LspBridge.Proofs.WorldFrame
import LspBridge.Rpc.Error
import LspBridge.Rpc.Frame
import LspBridge.Rpc.Message
import LspBridge.Server.Config
import LspBridge.Server.ConfigFile
import LspBridge.Server.Error
import LspBridge.Server.Event
import LspBridge.Server.Handshake
import LspBridge.Server.State
import LspBridge.Spring.Support
import LspBridge.Sts.JavaModel
import LspBridge.Sts.Protocol
import LspBridge.Text.Blank
import LspBridge.Text.Duration
import LspBridge.Text.Invisible
import LspBridge.Text.Quoted
import LspBridge.Text.Utf8
import LspBridge.Toml.Reader
import LspBridge.Toml.Value
import LspBridge.Uri.File
import LspBridge.Uri.Reference
import LspBridge.Proofs.SessionTraffic
import LspBridge.Proofs.RestartBudget
import LspBridge.Proofs.StaleRestarts
import LspBridge.Proofs.RetiredWindow
import LspBridge.Proofs.ConfigurationSections
import LspBridge.Proofs.NegotiatedCapabilities
import LspBridge.Proofs.ListenerFrame
import LspBridge.Proofs.ClasspathListeners
import LspBridge.Proofs.BudgetIntervals
