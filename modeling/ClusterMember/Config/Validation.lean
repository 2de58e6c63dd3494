import ClusterMember.Config.Basic

/-!
# Validation of configurations

A configuration is refused for the first of its faults.  The table of pools is turned into
descriptions of pools in the order of the names, and the first name that is none is its fault.
-/

namespace ClusterMember

/-- Why a configuration is refused. -/
inductive ConfigFault where
  /-- A role is none. -/
  | unknownRole (name : String)
  /-- A kind of executor is none. -/
  | unknownExecutor (name : String)
  | scheduledPoolMisplaced
  /-- Messages may have no bytes. -/
  | noMessageSize
  | noServerThreads
  | noChannels
  | noHeartbeatTimes
  | noExitPoll
  | noDefaultPool
  /-- A pool runs no task at once, or has more core threads than tasks. -/
  | poolThreads (type : ExecutorType) (core max : Nat)
  deriving DecidableEq

namespace ConfigFault

/-- The wording of a fault. -/
def message : ConfigFault → String
  | .unknownRole name => "unknown role: " ++ name
  | .unknownExecutor name => "unknown executor type: " ++ name
  | .scheduledPoolMisplaced => "the scheduled pool is configured under [executor.scheduled]"
  | .noMessageSize => "rpc.max_message_size must be positive"
  | .noServerThreads => "rpc.server_threads must be positive"
  | .noChannels => "rpc.channels_per_client and rpc.clients_per_host must be positive"
  | .noHeartbeatTimes => "heartbeat.interval_ms and heartbeat.rpc_timeout_ms must be positive"
  | .noExitPoll => "lifecycle.exit_poll_interval_ms must be positive"
  | .noDefaultPool => "executor.pools.default is required"
  | .poolThreads type core max =>
    "pool " ++ type.name ++ " needs 0 < core_threads <= max_threads, got " ++
      Decimal.write core ++ "/" ++ Decimal.write max

/-- A fault as an error of the node. -/
def error (fault : ConfigFault) : Error :=
  .configuration fault.message

end ConfigFault

/-- The role of a name. -/
def Role.ofName (name : String) : Except ConfigFault Role :=
  match ofName? name with
  | some role => .ok role
  | none => .error (.unknownRole name)

/-- The kind of executor of a name. -/
def ExecutorType.ofName (name : String) : Except ConfigFault ExecutorType :=
  match ofName? name with
  | some type => .ok type
  | none => .error (.unknownExecutor name)

/-- The description of one pool of a table. -/
def PoolConfig.describe (name : String) (pool : PoolConfig) : Except ConfigFault PoolDescriptor :=
  match ExecutorType.ofName name with
  | .error fault => .error fault
  | .ok .scheduled => .error .scheduledPoolMisplaced
  | .ok type => .ok (pool.descriptor type)

/-- The descriptions of the pools of a table, or the first fault. -/
def PoolTable.describe : PoolTable → Except ConfigFault (List PoolDescriptor)
  | [] => .ok []
  | (name, pool) :: rest => do
    let descriptor ← pool.describe name
    let others ← PoolTable.describe rest
    return descriptor :: others

/-- The descriptions of the normal pools. -/
def ExecutorConfig.descriptors (executor : ExecutorConfig) :
    Except ConfigFault (List PoolDescriptor) :=
  executor.pools.describe

/-- The fault of the threads of a pool. -/
def PoolDescriptor.threadFault? (descriptor : PoolDescriptor) : Option ConfigFault :=
  if descriptor.max = 0 ∨ descriptor.max < descriptor.core then
    some (.poolThreads descriptor.type descriptor.core descriptor.max)
  else none

/-- Whether the capacities of all normal pools can be told. -/
def ExecutorConfig.isCountable (executor : ExecutorConfig) : Bool :=
  match executor.descriptors with
  | .error _ => true
  | .ok descriptors => descriptors.all PoolDescriptor.isCountable

/-- The first fault of a configuration. -/
def NodeConfig.fault? (config : NodeConfig) : Option ConfigFault :=
  if config.rpc.maxMessageSize = 0 then some .noMessageSize
  else if config.rpc.serverThreads = 0 then some .noServerThreads
  else if config.rpc.channelsPerClient = 0 ∨ config.rpc.clientsPerHost = 0 then some .noChannels
  else if config.heartbeat.intervalMs = 0 ∨ config.heartbeat.rpcTimeoutMs = 0 then
    some .noHeartbeatTimes
  else if config.lifecycle.exitPollIntervalMs = 0 then some .noExitPoll
  else if config.executor.pools.has ExecutorType.default.name = false then some .noDefaultPool
  else
    match config.executor.descriptors with
    | .error fault => some fault
    | .ok descriptors => descriptors.findSome? PoolDescriptor.threadFault?

end ClusterMember
