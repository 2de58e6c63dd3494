import ClusterMember.CommandLine.Options
import ClusterMember.Config.Document
import ClusterMember.Config.Validation
import ClusterMember.Document.Json
import ClusterMember.Executor.Envelope
import ClusterMember.Executor.Latency
import ClusterMember.Heartbeat.Message
import ClusterMember.Lifecycle.Control
import ClusterMember.Lifecycle.Monitor
import ClusterMember.Transport.Stub

/-!
# Reports on values

What operators are shown of the values that nodes are described with, as documents.
-/

namespace ClusterMember
namespace Report

/-- Texts. -/
def texts (items : List String) : Document := .list (items.map .str)

/-- A fault of a kind with its wording. -/
def fault (kind message : String) : Document :=
  .table [("error", .str kind), ("message", .str message)]

/-- An error. -/
def error (error : Error) : Document := fault error.kind error.summary

/-- An address. -/
def ip (ip : Option IpAddress) : Document := .optional (fun ip => .str ip.text) ip

/-- The entries about an identity. -/
def identityEntries (identity : Identity) : List (String × Document) :=
  [("host", .str identity.host), ("ip", ip identity.ip), ("port", .nat identity.port.toNat),
    ("start_time", .nat identity.startTime.toNat), ("canonical", .str identity.canonical),
    ("host_and_port", .str identity.hostAndPort)]

/-- An identity. -/
def identity (identity : Identity) : Document := .table (identityEntries identity)

/-- How two identities compare. -/
def comparison (a b : Identity) : Document :=
  .table
    [("equal", .bool (a == b)), ("same_host_and_port", .bool (Identity.sameHostAndPort a b)),
      ("a_restart_of_b", .bool (a.isRestartOf b)), ("b_restart_of_a", .bool (b.isRestartOf a))]

/-- An identity whose start time is of no interest. -/
def place (identity : Identity) : Document :=
  .table
    [("host", .str identity.host), ("ip", ip identity.ip), ("port", .nat identity.port.toNat),
      ("stamped", .bool true)]

/-- A role, with the port that it listens on by default. -/
def role (role : Role) : Document :=
  .table
    [("name", .str role.name), ("display", .str role.name),
      ("port", .nat role.defaultPort)]

/-- A kind of pools. -/
def executor (type : ExecutorType) : Document :=
  .table
    [("name", .str type.name), ("display", .str type.name), ("thread_prefix", .str type.threadName)]

/-- The options of a command line. -/
def options (options : Options) : Document :=
  .table
    [("role", .str options.role.name), ("config", .optional .str options.config),
      ("log_level", .str options.logLevel.name)]

/-- A span of time. -/
def duration (span : Duration) : Document :=
  .table [("secs", .nat span.secs), ("nanos", .nat span.nanos)]

/-- Periodic work. -/
def envelope (envelope : CyclicEnvelope) : Document :=
  .table
    [("label", .str envelope.label), ("period", duration envelope.period),
      ("initial_delay", duration envelope.initialDelay), ("fixed_rate", .bool envelope.fixedRate),
      ("debug", .str envelope.debug)]

/-- A waiting room. -/
def queue : Queue → Document
  | .rendezvous => .str "rendezvous"
  | .bounded n => .table [("bounded", .nat n)]

/-- A waiting room with its size. -/
def waitingRoom (room : Queue) : Document :=
  .table [("queue", queue room), ("waiting_slots", .nat room.waitingSlots)]

/-- A pool as it is described. -/
def descriptor (pool : PoolDescriptor) : Document :=
  .table
    [("type", .str pool.type.name), ("core", .nat pool.core), ("max", .nat pool.max),
      ("queue", queue pool.queue), ("keep_alive_ms", .nat pool.keepAlive.millis),
      ("daemon", .bool pool.daemon), ("prefix", .str pool.threadName),
      ("rejection", .str pool.rejection.name), ("capacity", .nat pool.capacity)]

/-- Run times. -/
def latency (summary : LatencySummary) : Document :=
  .table
    [("count", .nat summary.count), ("min_ms", .nat summary.min), ("max_ms", .nat summary.max),
      ("avg_ms", .nat summary.mean)]

/-- A report that a slave has made. -/
def record (record : Heartbeat.Record) : Document :=
  .table [("sender", identity record.sender), ("report_time", .nat record.reportTime.toNat)]

/-- A report that a slave has made, with its arrival. -/
def arrival (record : Heartbeat.Record) : Document :=
  .table
    [("sender", identity record.sender), ("report_time", .nat record.reportTime.toNat),
      ("received_at", .nat record.receivedAt.toNat)]

/-- Lines of the log. -/
def log (lines : List LogLine) : Document :=
  .list (lines.map fun line => .list [.str line.level.name, .str line.text])

/-- What a step gave, and what the log says. -/
def withLog (result : Document) (lines : List LogLine) : Document :=
  .table [("result", result), ("log", log lines)]

/-- The entries about flags. -/
def flagEntries (flags : Flags) : List (String × Document) :=
  [("flags", .table
      [("stopped", .bool flags.stopped), ("aborted", .bool flags.aborted),
        ("active", .bool flags.active), ("initialized", .bool flags.initialized),
        ("receptor_started", .bool flags.receptorStarted), ("premiered", .bool flags.premiered),
        ("exit_safe", .bool flags.exitSafe)]),
    ("reason", .optional .str flags.reason)]

/-- An activity. -/
def activity (activity : Activity) : Document :=
  .table
    [("id", .nat activity.id), ("description", .str activity.description),
      ("status", .str activity.status), ("state", .str activity.state.name)]

/-- What the guard of an activity sees. -/
def held (monitor : Monitor) (id : Nat) : Document :=
  let entry := monitor.entry? id
  .table
    [("state", .optional (fun (entry : Activity) => .str entry.state.name) entry),
      ("status", .optional (fun (entry : Activity) => .str entry.status) entry),
      ("description", .str (monitor.describe id))]

/-- A channel. -/
def channel (channel : Channel) : Document :=
  .table
    [("state", .str channel.state.name), ("usable", .bool channel.isUsable),
      ("in_flight", .nat channel.inFlight)]

/-- A channel that was handed out, which goes by a number. -/
def handedOut (number : Nat) (channel : Channel) : Document :=
  .table
    [("channel", .nat number), ("target", .str channel.target), ("usable", .bool channel.isUsable)]

/-- A stub with its channel, which goes by a number. -/
def stub (number : Nat) (stub : Stub Channel) : Document :=
  .table
    [("service", .str stub.service.service), ("flavor", .str stub.style.title),
      ("channel", .nat number), ("target", .str stub.channel.target),
      ("debug", .str (stub.debug "ID"))]

/-- A service that stubs can be built for. -/
def service (descriptor : Transport.ServiceDescriptor) : Document :=
  .table [("service", .str descriptor.service), ("methods", texts descriptor.methods)]

/-- The pools that a configuration describes, or why it describes none. -/
def descriptors (config : NodeConfig) : Document :=
  match config.executor.descriptors with
  | .ok pools => .list (pools.map descriptor)
  | .error fault => error fault.error

/-- What follows from a configuration. -/
def derived (config : NodeConfig) : Document :=
  .table
    [("master_port", .nat (config.rpcPort .master)), ("slave_port", .nat (config.rpcPort .slave)),
      ("sleep_period_ms", .nat config.lifecycle.sleepPeriodMs),
      ("interval_ms", .nat config.heartbeat.intervalMs),
      ("rpc_timeout_ms", .nat config.heartbeat.rpcTimeoutMs),
      ("master_restart_timeout_ms", .nat config.heartbeat.masterRestartTimeoutMs),
      ("max_restart_checks", .nat config.heartbeat.maxRestartChecks),
      ("descriptors", descriptors config),
      ("channel", .table
        [("max_message_size", .nat config.rpc.maxMessageSize),
          ("flow_control_window", .nat config.rpc.flowControlWindow),
          ("connect_timeout_ms", .nat config.rpc.connectTimeoutMs),
          ("request_timeout_ms", .nat config.rpc.requestTimeoutMs)])]

/-- The entries about a configuration. -/
def configEntries (config : NodeConfig) : List (String × Document) :=
  [("config", config.toDocument), ("derived", derived config)]

end Report
end ClusterMember
