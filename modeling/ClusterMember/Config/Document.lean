import ClusterMember.Config.Basic
import ClusterMember.Document.Basic
import ClusterMember.Text.Decimal

/-!
# Configurations as documents

A document lays settings over the defaults: a section is a table whose entries name settings, in any
order and with any others between them, or a list of the settings in their order.  The table of
pools is laid over the pools that every node has, and each pool over the defaults of a pool.
-/

namespace ClusterMember

/-- The notation that a document comes from, where that makes a difference. -/
inductive Format where
  /-- A list for a section has no more items than the section has settings, and the absent value
  is that of a word with nothing to add. -/
  | json
  /-- A list for a section may go on, and an empty table or list is that of a word with nothing to
  add. -/
  | toml
  deriving DecidableEq

/-- The fields of a section: the value under a name, if there is one. -/
abbrev Fields := String → Option Document

namespace Document

/-- The values of a list under the names of the settings. -/
def zipFields : List String → List Document → Fields
  | name :: names, value :: values => fun wanted =>
    if wanted = name then some value else zipFields names values wanted
  | _, _ => fun _ => none

/-- The fields of a section with these settings. -/
def fields? (format : Format) (names : List String) : Document → Option Fields
  | .table entries => some fun name => find? name entries
  | .list items =>
    if format = .json ∧ names.length < items.length then none else some (zipFields names items)
  | _ => none

/-- A setting that keeps its default where the document does not name it. -/
def setting {α : Type} (fields : Fields) (name : String) (read : Document → Option α)
    (default : α) : Option α :=
  match fields name with
  | none => some default
  | some document => read document

/-- A number of 64 bits. -/
def word64? : Document → Option Nat := natural? word64Max

/-- A value that may be absent. -/
def optional? {α : Type} (read : Document → Option α) : Document → Option (Option α)
  | .null => some none
  | document => (read document).map some

/-- Whether a document is what stands behind a word with nothing to add. -/
def isNothing (format : Format) : Document → Bool
  | .null => format = .json
  | .table [] => format = .toml
  | .list [] => format = .toml
  | _ => false

/-- A rejection policy: its name, or a table with nothing under that name. -/
def rejection? (format : Format) : Document → Option RejectionPolicy
  | .str name => RejectionPolicy.ofName? name
  | .table [(name, document)] =>
    if isNothing format document then RejectionPolicy.ofName? name else none
  | _ => none

end Document

open Document

/-- Lay a document over the default settings of the transport. -/
def RpcConfig.ofDocument? [Processors] (format : Format) (document : Document) :
    Option RpcConfig := do
  let fields ← document.fields? format
    ["port", "bind_address", "max_message_size", "flow_control_window", "server_threads",
      "channels_per_client", "clients_per_host", "request_timeout_ms", "connect_timeout_ms"]
  let default : RpcConfig := .default
  let port ← setting fields "port" (optional? (natural? word16Max)) default.port
  let bindAddress ← setting fields "bind_address" string? default.bindAddress
  let maxMessageSize ← setting fields "max_message_size" word64? default.maxMessageSize
  let flowControlWindow ←
    setting fields "flow_control_window" (natural? word32Max) default.flowControlWindow
  let serverThreads ← setting fields "server_threads" word64? default.serverThreads
  let channelsPerClient ← setting fields "channels_per_client" word64? default.channelsPerClient
  let clientsPerHost ← setting fields "clients_per_host" word64? default.clientsPerHost
  let requestTimeoutMs ← setting fields "request_timeout_ms" word64? default.requestTimeoutMs
  let connectTimeoutMs ← setting fields "connect_timeout_ms" word64? default.connectTimeoutMs
  return { port, bindAddress, maxMessageSize, flowControlWindow, serverThreads, channelsPerClient,
           clientsPerHost, requestTimeoutMs, connectTimeoutMs }

/-- Lay a document over the default budgets. -/
def ResourceCaps.ofDocument? (format : Format) (document : Document) : Option ResourceCaps := do
  let fields ← document.fields? format
    ["per_pool_core", "per_pool_max", "normal_core_total", "normal_max_total",
      "scheduled_core_total"]
  let default : ResourceCaps := .default
  let perPoolCore ← setting fields "per_pool_core" word64? default.perPoolCore
  let perPoolMax ← setting fields "per_pool_max" word64? default.perPoolMax
  let normalCoreTotal ← setting fields "normal_core_total" word64? default.normalCoreTotal
  let normalMaxTotal ← setting fields "normal_max_total" word64? default.normalMaxTotal
  let scheduledCoreTotal ← setting fields "scheduled_core_total" word64? default.scheduledCoreTotal
  return { perPoolCore, perPoolMax, normalCoreTotal, normalMaxTotal, scheduledCoreTotal }

/-- Lay a document over the default settings of the scheduled pool. -/
def ScheduledPoolConfig.ofDocument? [Processors] (format : Format) (document : Document) :
    Option ScheduledPoolConfig := do
  let fields ← document.fields? format ["core_threads", "daemon"]
  let default : ScheduledPoolConfig := .default
  let coreThreads ← setting fields "core_threads" word64? default.coreThreads
  let daemon ← setting fields "daemon" bool? default.daemon
  return { coreThreads, daemon }

/-- Lay a document over the default settings of a pool. -/
def PoolConfig.ofDocument? (format : Format) (document : Document) : Option PoolConfig := do
  let fields ← document.fields? format
    ["core_threads", "max_threads", "queue_size", "keep_alive_ms", "daemon", "rejection"]
  let default : PoolConfig := {}
  let coreThreads ← setting fields "core_threads" word64? default.coreThreads
  let maxThreads ← setting fields "max_threads" word64? default.maxThreads
  let queueSize ← setting fields "queue_size" signed64? default.queueSize
  let keepAliveMs ← setting fields "keep_alive_ms" word64? default.keepAliveMs
  let daemon ← setting fields "daemon" bool? default.daemon
  let rejection ← setting fields "rejection" (rejection? format) default.rejection
  return { coreThreads, maxThreads, queueSize, keepAliveMs, daemon, rejection }

/-- Lay the pools of a table over others, the last of one name counting. -/
def PoolTable.overlay (format : Format) : List (String × Document) → PoolTable → Option PoolTable
  | [], pools => some pools
  | (name, document) :: rest, pools => do
    let pool ← PoolConfig.ofDocument? format document
    PoolTable.overlay format rest (pools.insert name pool)

/-- Lay a document over the pools that every node has. -/
def PoolTable.ofDocument? (format : Format) : Document → Option PoolTable
  | .table entries => PoolTable.overlay format entries PoolTable.builtIn
  | _ => none

/-- Lay a document over the default settings of the pools. -/
def ExecutorConfig.ofDocument? [Processors] (format : Format) (document : Document) :
    Option ExecutorConfig := do
  let fields ← document.fields? format ["caps", "scheduled", "pools"]
  let default : ExecutorConfig := .default
  let caps ← setting fields "caps" (ResourceCaps.ofDocument? format) default.caps
  let scheduled ←
    setting fields "scheduled" (ScheduledPoolConfig.ofDocument? format) default.scheduled
  let pools ← setting fields "pools" (PoolTable.ofDocument? format) default.pools
  return { caps, scheduled, pools }

/-- Lay a document over the default settings of the heartbeat. -/
def HeartbeatConfig.ofDocument? (format : Format) (document : Document) :
    Option HeartbeatConfig := do
  let fields ← document.fields? format
    ["interval_ms", "rpc_timeout_ms", "master_restart_timeout_ms", "cluster_up_timeout_ms",
      "cluster_up_poll_ms", "master_host", "master_port"]
  let default : HeartbeatConfig := {}
  let intervalMs ← setting fields "interval_ms" word64? default.intervalMs
  let rpcTimeoutMs ← setting fields "rpc_timeout_ms" word64? default.rpcTimeoutMs
  let masterRestartTimeoutMs ←
    setting fields "master_restart_timeout_ms" word64? default.masterRestartTimeoutMs
  let clusterUpTimeoutMs ←
    setting fields "cluster_up_timeout_ms" word64? default.clusterUpTimeoutMs
  let clusterUpPollMs ← setting fields "cluster_up_poll_ms" word64? default.clusterUpPollMs
  let masterHost ← setting fields "master_host" (optional? string?) default.masterHost
  let masterPort ← setting fields "master_port" (natural? word16Max) default.masterPort
  return { intervalMs, rpcTimeoutMs, masterRestartTimeoutMs, clusterUpTimeoutMs, clusterUpPollMs,
           masterHost, masterPort }

/-- Lay a document over the default settings of the life of a node. -/
def LifecycleConfig.ofDocument? (format : Format) (document : Document) :
    Option LifecycleConfig := do
  let fields ← document.fields? format
    ["sleep_period_ms", "exit_wait_timeout_ms", "exit_poll_interval_ms", "verify_local_hostname"]
  let default : LifecycleConfig := {}
  let sleepPeriodMs ← setting fields "sleep_period_ms" word64? default.sleepPeriodMs
  let exitWaitTimeoutMs ← setting fields "exit_wait_timeout_ms" word64? default.exitWaitTimeoutMs
  let exitPollIntervalMs ←
    setting fields "exit_poll_interval_ms" word64? default.exitPollIntervalMs
  let verifyLocalHostname ←
    setting fields "verify_local_hostname" bool? default.verifyLocalHostname
  return { sleepPeriodMs, exitWaitTimeoutMs, exitPollIntervalMs, verifyLocalHostname }

/-- Lay a document over the default settings of a node. -/
def NodeConfig.ofDocument? [Processors] (format : Format) (document : Document) :
    Option NodeConfig := do
  let fields ← document.fields? format ["host_name", "rpc", "executor", "heartbeat", "lifecycle"]
  let default : NodeConfig := .default
  let hostName ← setting fields "host_name" (optional? string?) default.hostName
  let rpc ← setting fields "rpc" (RpcConfig.ofDocument? format) default.rpc
  let executor ← setting fields "executor" (ExecutorConfig.ofDocument? format) default.executor
  let heartbeat ←
    setting fields "heartbeat" (HeartbeatConfig.ofDocument? format) default.heartbeat
  let lifecycle ←
    setting fields "lifecycle" (LifecycleConfig.ofDocument? format) default.lifecycle
  return { hostName, rpc, executor, heartbeat, lifecycle }

/-- Settings of the transport in full. -/
def RpcConfig.toDocument (rpc : RpcConfig) : Document :=
  .table
    [("port", .optional .nat rpc.port), ("bind_address", .str rpc.bindAddress),
      ("max_message_size", .nat rpc.maxMessageSize),
      ("flow_control_window", .nat rpc.flowControlWindow),
      ("server_threads", .nat rpc.serverThreads),
      ("channels_per_client", .nat rpc.channelsPerClient),
      ("clients_per_host", .nat rpc.clientsPerHost),
      ("request_timeout_ms", .nat rpc.requestTimeoutMs),
      ("connect_timeout_ms", .nat rpc.connectTimeoutMs)]

/-- Budgets in full. -/
def ResourceCaps.toDocument (caps : ResourceCaps) : Document :=
  .table
    [("per_pool_core", .nat caps.perPoolCore), ("per_pool_max", .nat caps.perPoolMax),
      ("normal_core_total", .nat caps.normalCoreTotal),
      ("normal_max_total", .nat caps.normalMaxTotal),
      ("scheduled_core_total", .nat caps.scheduledCoreTotal)]

/-- Settings of the scheduled pool in full. -/
def ScheduledPoolConfig.toDocument (pool : ScheduledPoolConfig) : Document :=
  .table [("core_threads", .nat pool.coreThreads), ("daemon", .bool pool.daemon)]

/-- Settings of a pool in full. -/
def PoolConfig.toDocument (pool : PoolConfig) : Document :=
  .table
    [("core_threads", .nat pool.coreThreads), ("max_threads", .nat pool.maxThreads),
      ("queue_size", .int pool.queueSize), ("keep_alive_ms", .nat pool.keepAliveMs),
      ("daemon", .bool pool.daemon), ("rejection", .str pool.rejection.name)]

/-- Settings of the pools in full. -/
def ExecutorConfig.toDocument (executor : ExecutorConfig) : Document :=
  .table
    [("caps", executor.caps.toDocument), ("scheduled", executor.scheduled.toDocument),
      ("pools", .table (executor.pools.map fun entry => (entry.1, entry.2.toDocument)))]

/-- Settings of the heartbeat in full. -/
def HeartbeatConfig.toDocument (heartbeat : HeartbeatConfig) : Document :=
  .table
    [("interval_ms", .nat heartbeat.intervalMs), ("rpc_timeout_ms", .nat heartbeat.rpcTimeoutMs),
      ("master_restart_timeout_ms", .nat heartbeat.masterRestartTimeoutMs),
      ("cluster_up_timeout_ms", .nat heartbeat.clusterUpTimeoutMs),
      ("cluster_up_poll_ms", .nat heartbeat.clusterUpPollMs),
      ("master_host", .optional .str heartbeat.masterHost),
      ("master_port", .nat heartbeat.masterPort)]

/-- Settings of the life of a node in full. -/
def LifecycleConfig.toDocument (lifecycle : LifecycleConfig) : Document :=
  .table
    [("sleep_period_ms", .nat lifecycle.sleepPeriodMs),
      ("exit_wait_timeout_ms", .nat lifecycle.exitWaitTimeoutMs),
      ("exit_poll_interval_ms", .nat lifecycle.exitPollIntervalMs),
      ("verify_local_hostname", .bool lifecycle.verifyLocalHostname)]

/-- Settings of a node in full. -/
def NodeConfig.toDocument (config : NodeConfig) : Document :=
  .table
    [("host_name", .optional .str config.hostName), ("rpc", config.rpc.toDocument),
      ("executor", config.executor.toDocument), ("heartbeat", config.heartbeat.toDocument),
      ("lifecycle", config.lifecycle.toDocument)]

end ClusterMember
