import ClusterMember.CommandLine.Options
import ClusterMember.CommandLine.Run
import ClusterMember.Config.Basic
import ClusterMember.Config.Document
import ClusterMember.Config.File
import ClusterMember.Config.Validation
import ClusterMember.Document.Basic
import ClusterMember.Document.Json
import ClusterMember.Document.Toml
import ClusterMember.Document.Toml.Scalar
import ClusterMember.Document.Toml.Tables
import ClusterMember.Duration
import ClusterMember.Error
import ClusterMember.Executor.Blocking
import ClusterMember.Executor.Book
import ClusterMember.Executor.Descriptor
import ClusterMember.Executor.Envelope
import ClusterMember.Executor.Governor
import ClusterMember.Executor.Governor.Calls
import ClusterMember.Executor.Latency
import ClusterMember.Executor.Periodic
import ClusterMember.Executor.Periodic.Course
import ClusterMember.Executor.Pool
import ClusterMember.Executor.Pool.Course
import ClusterMember.Executor.Scheduler
import ClusterMember.Executor.Session
import ClusterMember.Executor.Session.Course
import ClusterMember.Executor.Type
import ClusterMember.Form.Field
import ClusterMember.Form.Message
import ClusterMember.Form.Value
import ClusterMember.Form.Work
import ClusterMember.Heartbeat.Answer
import ClusterMember.Heartbeat.Course
import ClusterMember.Heartbeat.History
import ClusterMember.Heartbeat.Manager
import ClusterMember.Heartbeat.Manager.History
import ClusterMember.Heartbeat.Message
import ClusterMember.Heartbeat.Receptor
import ClusterMember.Heartbeat.Resolver
import ClusterMember.Heartbeat.Service
import ClusterMember.Heartbeat.Vigil
import ClusterMember.Heartbeat.Vigil.Course
import ClusterMember.Identity.Basic
import ClusterMember.Identity.Collection
import ClusterMember.Identity.Document
import ClusterMember.Identity.Origin
import ClusterMember.Identity.Text
import ClusterMember.Lifecycle.Calls
import ClusterMember.Lifecycle.Component
import ClusterMember.Lifecycle.Control
import ClusterMember.Lifecycle.Holders
import ClusterMember.Lifecycle.Idle
import ClusterMember.Lifecycle.Monitor
import ClusterMember.Lifecycle.Monitor.History
import ClusterMember.Lifecycle.Node
import ClusterMember.Lifecycle.Run
import ClusterMember.Lifecycle.Startup
import ClusterMember.Lifecycle.Teardown
import ClusterMember.Lifecycle.Wait
import ClusterMember.Log
import ClusterMember.Main
import ClusterMember.Net.Address
import ClusterMember.Net.Binding
import ClusterMember.Proofs.CommandLine.Grammar
import ClusterMember.Proofs.Config.Overlay
import ClusterMember.Proofs.Document.Composition
import ClusterMember.Proofs.Document.Context
import ClusterMember.Proofs.Executor.Admission
import ClusterMember.Proofs.Executor.Capacity
import ClusterMember.Proofs.Executor.Configured
import ClusterMember.Proofs.Executor.Latency
import ClusterMember.Proofs.Executor.Periodic.Endurance
import ClusterMember.Proofs.Executor.Periodic.Reach
import ClusterMember.Proofs.Executor.Periodic.Turns
import ClusterMember.Proofs.Executor.Ratchet
import ClusterMember.Proofs.Executor.Session.Composition
import ClusterMember.Proofs.Executor.Session.Routing
import ClusterMember.Proofs.Executor.Workers
import ClusterMember.Proofs.Heartbeat.Account
import ClusterMember.Proofs.Heartbeat.CleanStop
import ClusterMember.Proofs.Heartbeat.Keys
import ClusterMember.Proofs.Heartbeat.Patience
import ClusterMember.Proofs.Heartbeat.Start
import ClusterMember.Proofs.Heartbeat.Table
import ClusterMember.Proofs.Heartbeat.VigilCourse
import ClusterMember.Proofs.Identity.Grammar
import ClusterMember.Proofs.Identity.Json
import ClusterMember.Proofs.Identity.Key
import ClusterMember.Proofs.Identity.Place
import ClusterMember.Proofs.Identity.Text
import ClusterMember.Proofs.Keyed
import ClusterMember.Proofs.Lifecycle.Completion
import ClusterMember.Proofs.Lifecycle.Idle
import ClusterMember.Proofs.Lifecycle.Life
import ClusterMember.Proofs.Lifecycle.Monitor.Consistency
import ClusterMember.Proofs.Lifecycle.Monitor.Retention
import ClusterMember.Proofs.Lifecycle.Monitor.Stories
import ClusterMember.Proofs.Lifecycle.Orderly
import ClusterMember.Proofs.Lifecycle.Outcome
import ClusterMember.Proofs.Lifecycle.Wait
import ClusterMember.Proofs.Net.Address
import ClusterMember.Proofs.Text.Numeral
import ClusterMember.Proofs.Text.Positional
import ClusterMember.Proofs.Transport.Channel
import ClusterMember.Proofs.Transport.ChannelPool
import ClusterMember.Proofs.Transport.ChannelPool.Course
import ClusterMember.Proofs.Transport.ChannelPool.Race
import ClusterMember.Proofs.Transport.Clients
import ClusterMember.Proofs.Transport.Registry
import ClusterMember.Proofs.Transport.RoundRobin
import ClusterMember.Proofs.Transport.Targets
import ClusterMember.Proofs.Wire.Message
import ClusterMember.Report.Message
import ClusterMember.Report.Part
import ClusterMember.Report.Value
import ClusterMember.Text.Blank
import ClusterMember.Text.Decimal
import ClusterMember.Text.Hexadecimal
import ClusterMember.Text.Hidden
import ClusterMember.Text.Quoted
import ClusterMember.Text.Utf8
import ClusterMember.Transport.Channel
import ClusterMember.Transport.Channel.Course
import ClusterMember.Transport.ChannelPool
import ClusterMember.Transport.ChannelPool.Callers
import ClusterMember.Transport.Clients
import ClusterMember.Transport.Clients.Callers
import ClusterMember.Transport.Clients.Lookups
import ClusterMember.Transport.Fault
import ClusterMember.Transport.Network
import ClusterMember.Transport.Path
import ClusterMember.Transport.Registry
import ClusterMember.Transport.Registry.Course
import ClusterMember.Transport.Server
import ClusterMember.Transport.Stub
import ClusterMember.Wire.Basic
import ClusterMember.Wire.Message
