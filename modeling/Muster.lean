import Muster.Bus
import Muster.Bytes
import Muster.Cluster
import Muster.Config
import Muster.Config.Environment
import Muster.Config.File
import Muster.Config.Register
import Muster.Daemon.Agent
import Muster.Daemon.CommandLine
import Muster.Daemon.Error
import Muster.Daemon.Network
import Muster.Daemon.Server
import Muster.Daemon.Submission
import Muster.Dict
import Muster.Dispatcher
import Muster.Engine
import Muster.Engine.Drive
import Muster.Engine.Error
import Muster.Engine.Exchange
import Muster.Engine.Round
import Muster.Envelope
import Muster.Host.FileTree
import Muster.Host.Machine
import Muster.Host.Path
import Muster.Host.Script
import Muster.Identifier
import Muster.Json.Basic
import Muster.Json.Decode
import Muster.Json.Document
import Muster.Json.Flattened
import Muster.Json.Number
import Muster.Json.Record
import Muster.Liveness
import Muster.Main
import Muster.Operation
import Muster.Plan
import Muster.Policy
import Muster.Proofs.Act
import Muster.Proofs.Building
import Muster.Proofs.Bus
import Muster.Proofs.Cancellation
import Muster.Proofs.Chronicle
import Muster.Proofs.Classification
import Muster.Proofs.ClusterCreation
import Muster.Proofs.Commands
import Muster.Proofs.Confirmation
import Muster.Proofs.Correlation
import Muster.Proofs.Course
import Muster.Proofs.Dict
import Muster.Proofs.Dispatch
import Muster.Proofs.Draining
import Muster.Proofs.Endings
import Muster.Proofs.EngineCourse
import Muster.Proofs.EngineRun
import Muster.Proofs.Envelope
import Muster.Proofs.Errand
import Muster.Proofs.Exchange
import Muster.Proofs.Fairness
import Muster.Proofs.FileTree
import Muster.Proofs.Hex
import Muster.Proofs.Hosts
import Muster.Proofs.Identifier
import Muster.Proofs.Issues
import Muster.Proofs.JoinCommand
import Muster.Proofs.JoinOutput
import Muster.Proofs.Journey
import Muster.Proofs.Json.Codec
import Muster.Proofs.Json.Document
import Muster.Proofs.Json.Grammar
import Muster.Proofs.Json.Soundness
import Muster.Proofs.Json.Written
import Muster.Proofs.Lane
import Muster.Proofs.LastRecord
import Muster.Proofs.LeftOut
import Muster.Proofs.Log
import Muster.Proofs.Minutes
import Muster.Proofs.Passage
import Muster.Proofs.Permits
import Muster.Proofs.Persistence
import Muster.Proofs.Proceedings
import Muster.Proofs.Progress
import Muster.Proofs.Record
import Muster.Proofs.Registry
import Muster.Proofs.ReplyRouter
import Muster.Proofs.Resets
import Muster.Proofs.Retry
import Muster.Proofs.ReturnData
import Muster.Proofs.Round
import Muster.Proofs.RoundEnd
import Muster.Proofs.Runtime
import Muster.Proofs.Script
import Muster.Proofs.Sending
import Muster.Proofs.Session
import Muster.Proofs.Shell.Bare
import Muster.Proofs.Shell.Quote
import Muster.Proofs.Shell.Token
import Muster.Proofs.Silence
import Muster.Proofs.Snapshot
import Muster.Proofs.StepState
import Muster.Proofs.Store
import Muster.Proofs.Storekeeping
import Muster.Proofs.Strays
import Muster.Proofs.Submission
import Muster.Proofs.Sweep
import Muster.Proofs.Tally
import Muster.Proofs.Targets
import Muster.Proofs.Task
import Muster.Proofs.Trace
import Muster.Proofs.Transcript
import Muster.Proofs.Turn
import Muster.Proofs.Waiters
import Muster.Proofs.Words
import Muster.Proofs.WorkerCommand
import Muster.Provider
import Muster.Provider.Error
import Muster.Provider.Kubeadm
import Muster.Provider.Linux
import Muster.Provider.Platform
import Muster.Rehearsal.Agent
import Muster.Rehearsal.History
import Muster.Rehearsal.Play
import Muster.Rehearsal.World
import Muster.ReplyRouter
import Muster.ReturnKey
import Muster.Shell.Command
import Muster.Shell.Program
import Muster.Shell.Quote
import Muster.Shell.Run
import Muster.Shell.Token
import Muster.Step
import Muster.StepState
import Muster.Store
import Muster.Task.Basic
import Muster.Task.Wire
import Muster.Text.Blank
import Muster.Text.Decimal
import Muster.Text.Hex
import Muster.Text.Printable
import Muster.Text.Quoted
import Muster.Text.Shortest
import Muster.Text.Utf8
import Muster.Toml.Basic
import Muster.Toml.Document
import Muster.Toml.Scan
import Muster.Toml.Setting
import Muster.Toml.Writing
