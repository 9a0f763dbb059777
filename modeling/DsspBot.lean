import DsspBot.Lib.WriteAhead
import DsspBot.Report
import DsspBot.Protocol
import DsspBot.State
import DsspBot.Queue
import DsspBot.Decision
import DsspBot.Checkpoint
import DsspBot.Store
import DsspBot.Recovery
import DsspBot.Engine.Roster
import DsspBot.Engine.Basic
import DsspBot.Engine.Step
import DsspBot.Engine.Record
import DsspBot.Engine.Simulation
import DsspBot.Engine.InFlight
import DsspBot.Engine.Partition
import DsspBot.Engine.Coverage
import DsspBot.Engine.Resend
import DsspBot.Cli.Single
import DsspBot.Generations
import DsspBot.Engine.Sweep
import DsspBot.Suspicion
import DsspBot.Owed
import DsspBot.Refusal
import DsspBot.Accounting
import DsspBot.Cli.Batch
import DsspBot.Lib.Retry
import DsspBot.Lib.Firsts
import DsspBot.Cli.Ending
import DsspBot.Cli.Outcome
import DsspBot.Cli.Agreement
import DsspBot.Lib.Link
import DsspBot.Lib.Words
import DsspBot.Lib.Ownership
import DsspBot.Worker.Client
import DsspBot.Worker.Pairing
import DsspBot.Worker.Errors
import DsspBot.Worker.Portal
import DsspBot.Worker.Handle
import DsspBot.Worker.EndToEnd
import DsspBot.Worker.Loop
import DsspBot.Worker.Answers
import DsspBot.Worker.Selector
import DsspBot.Worker.Identity
import DsspBot.Cli.Resolution
import DsspBot.Daemon.Basic
import DsspBot.Engine.Latch
import DsspBot.Engine.Verdict
import DsspBot.Daemon.Control
import DsspBot.Engine.Boundary
import DsspBot.Engine.Transitions
import DsspBot.Daemon.Admission
import DsspBot.Daemon.Publication
import DsspBot.Daemon.Threads
import DsspBot.Engine.Keys
import DsspBot.Engine.Offered
import DsspBot.Daemon.Outstanding
import DsspBot.Lib.Pattern
import DsspBot.Worker.Html
import DsspBot.Worker.Options
import DsspBot.Worker.Dates
import DsspBot.Worker.Form
import DsspBot.Worker.Ordinary
import DsspBot.Daemon.Http
import DsspBot.Daemon.Grammar
import DsspBot.Daemon.Route
import DsspBot.Daemon.Trust
import DsspBot.Daemon.Listener
import DsspBot.Lib.Arrivals
import DsspBot.Lib.Lines
import DsspBot.Lib.Json
import DsspBot.File
import DsspBot.Save
import DsspBot.Worker.Classification
import DsspBot.Extension.Shared
import DsspBot.Extension.TrainingDate
import DsspBot.Extension.BatchRunner
import DsspBot.Extension.DialogGate
import DsspBot.Extension.Bridge
import DsspBot.Extension.AutomationEngine
import DsspBot.Extension.Turns
import DsspBot.Extension.Visits
import DsspBot.Extension.Rows
import DsspBot.Extension.Shown
import DsspBot.Extension.PortalAdapter
import DsspBot.Extension.Tab
import DsspBot.Extension.Stakes
import DsspBot.Extension.Confirmation
import DsspBot.Lib.Binary64
import DsspBot.Daemon.Served
import DsspBot.Extension.DaemonClient
import DsspBot.Lib.Freshness
import DsspBot.Extension.Popup
import DsspBot.Lib.Places
import DsspBot.Worker.Wired
import DsspBot.Daemon.Token
import DsspBot.Daemon.Environment
