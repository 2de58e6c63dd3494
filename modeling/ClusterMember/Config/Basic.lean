import ClusterMember.Error
import ClusterMember.Executor.Descriptor

/-!
# Configuration of a node

Everything about a node that can be set, in five sections, with a default for each setting.  Some
defaults depend on how many processors the machine has.  The table of pools is kept in the order of
the names.
-/

namespace ClusterMember

/-- The part that a node plays in its cluster. -/
inductive Role where
  | master
  | slave
  deriving DecidableEq, Repr

namespace Role

/-- The name of a role. -/
def name : Role → String
  | .master => "master"
  | .slave => "slave"

/-- The role of a name. -/
def ofName? (name : String) : Option Role :=
  [Role.master, .slave].find? (·.name = name)

/-- The port that a role listens on unless another is set. -/
def defaultPort : Role → Nat
  | .master => 10050
  | .slave => 10060

end Role

/-- The processors that a machine lets a process use. -/
class Processors where
  count : Nat
  count_pos : 0 < count
  /-- Two threads for each of them can be counted. -/
  countable : 2 * count ≤ word64Max

/-- A machine that does not tell its processors counts as one with a single processor. -/
abbrev Processors.single : Processors := ⟨1, by decide, by decide⟩

/-- How a node talks to others. -/
structure RpcConfig where
  port : Option Nat := none
  bindAddress : String := "0.0.0.0"
  /-- The largest message, in bytes. -/
  maxMessageSize : Nat := 80 * 1024 * 1024
  /-- The window of flow control, in bytes. -/
  flowControlWindow : Nat := 80 * 1024 * 1024
  /-- Threads behind the endpoint. -/
  serverThreads : Nat
  channelsPerClient : Nat := 4
  clientsPerHost : Nat := 10
  /-- How long a request may take, in milliseconds. -/
  requestTimeoutMs : Nat := 30000
  /-- How long connecting may take, in milliseconds. -/
  connectTimeoutMs : Nat := 5000
  deriving DecidableEq

/-- By default there are two threads behind the endpoint for each processor. -/
def RpcConfig.default [Processors] : RpcConfig where
  serverThreads := 2 * Processors.count

/-- The pool for delayed and periodic work. -/
structure ScheduledPoolConfig where
  /-- Its worker threads. -/
  coreThreads : Nat
  /-- Whether a stop of the node leaves its tasks behind. -/
  daemon : Bool := true
  deriving DecidableEq

/-- By default there is one worker thread for each processor. -/
def ScheduledPoolConfig.default [Processors] : ScheduledPoolConfig where
  coreThreads := Processors.count

/-- A normal pool. -/
structure PoolConfig where
  coreThreads : Nat := 100
  /-- How many tasks it runs at once. -/
  maxThreads : Nat := 100
  /-- How many tasks may wait; zero and less mean none. -/
  queueSize : Int := 100
  /-- How long an idle thread for blocking work is kept, in milliseconds. -/
  keepAliveMs : Nat := 1000
  /-- Whether a stop of the node leaves running tasks behind. -/
  daemon : Bool := true
  rejection : RejectionPolicy := .abort
  deriving DecidableEq

/-- The pool that a configured pool describes. -/
def PoolConfig.descriptor (pool : PoolConfig) (type : ExecutorType) : PoolDescriptor where
  type := type
  core := pool.coreThreads
  max := pool.maxThreads
  queue := Queue.ofSize pool.queueSize
  keepAlive := .ofMillis pool.keepAliveMs
  daemon := pool.daemon
  rejection := pool.rejection

/-- Normal pools under their names, in the order of the names. -/
abbrev PoolTable := List (String × PoolConfig)

namespace PoolTable

/-- Put a pool under a name, in place of one that is there. -/
def insert (name : String) (pool : PoolConfig) : PoolTable → PoolTable
  | [] => [(name, pool)]
  | (other, kept) :: rest =>
    if name = other then (name, pool) :: rest
    else if name < other then (name, pool) :: (other, kept) :: rest
    else (other, kept) :: insert name pool rest

/-- Remove the pool under a name. -/
def erase (name : String) (table : PoolTable) : PoolTable :=
  table.filter (·.1 ≠ name)

/-- The pool under a name. -/
def find? (table : PoolTable) (name : String) : Option PoolConfig :=
  List.lookup name table

/-- Whether there is a pool under a name. -/
def has (table : PoolTable) (name : String) : Bool :=
  table.any (·.1 = name)

/-- The pools that every node has. -/
def builtIn : PoolTable :=
  [("archive", {}), ("compact", {}), ("default", {})]

end PoolTable

/-- The budgets that every node has. -/
def ResourceCaps.default : ResourceCaps where
  perPoolCore := 1000
  perPoolMax := 10000
  normalCoreTotal := 6000
  normalMaxTotal := 60000
  scheduledCoreTotal := 3000

/-- The pools of a node. -/
structure ExecutorConfig where
  caps : ResourceCaps := .default
  scheduled : ScheduledPoolConfig
  pools : PoolTable := PoolTable.builtIn
  deriving DecidableEq

/-- The default settings of the pools. -/
def ExecutorConfig.default [Processors] : ExecutorConfig where
  scheduled := .default

/-- How a slave keeps in touch with its master. -/
structure HeartbeatConfig where
  /-- The time between reports, in milliseconds. -/
  intervalMs : Nat := 3000
  /-- How long a report may take, in milliseconds. -/
  rpcTimeoutMs : Nat := 3000
  /-- How long to wait for a master that is gone, in milliseconds. -/
  masterRestartTimeoutMs : Nat := 600000
  /-- How long to wait for the cluster at the start, in milliseconds. -/
  clusterUpTimeoutMs : Nat := 30000
  /-- How often to look meanwhile, in milliseconds. -/
  clusterUpPollMs : Nat := 1000
  masterHost : Option String := none
  masterPort : Nat := Role.master.defaultPort
  deriving DecidableEq

/-- How often a slave looks for a master that is gone. -/
def HeartbeatConfig.maxRestartChecks (heartbeat : HeartbeatConfig) : Nat :=
  heartbeat.masterRestartTimeoutMs / max heartbeat.intervalMs 1

/-- How a node idles and ends. -/
structure LifecycleConfig where
  /-- The time between two rounds of the idle loop, in milliseconds. -/
  sleepPeriodMs : Nat := 60000
  /-- How long to wait for a safe exit, in milliseconds. -/
  exitWaitTimeoutMs : Nat := 60000
  /-- How often to look meanwhile, in milliseconds. -/
  exitPollIntervalMs : Nat := 3000
  /-- Whether a master starts on no machine but its own. -/
  verifyLocalHostname : Bool := false
  deriving DecidableEq

/-- All settings of a node. -/
structure NodeConfig where
  /-- The name that other nodes know it by; none for that of the machine. -/
  hostName : Option String := none
  rpc : RpcConfig
  executor : ExecutorConfig
  heartbeat : HeartbeatConfig := {}
  lifecycle : LifecycleConfig := {}
  deriving DecidableEq

/-- The default settings of a node. -/
def NodeConfig.default [Processors] : NodeConfig where
  rpc := .default
  executor := .default

section Unset

variable [Processors]

/-! Where nothing is set, every setting has its default. -/

instance : EmptyCollection RpcConfig := ⟨.default⟩

instance : EmptyCollection ScheduledPoolConfig := ⟨.default⟩

instance : EmptyCollection ExecutorConfig := ⟨.default⟩

instance : EmptyCollection NodeConfig := ⟨.default⟩

end Unset

/-- The port that a node listens on. -/
def NodeConfig.rpcPort (config : NodeConfig) (role : Role) : Nat :=
  config.rpc.port.getD role.defaultPort

end ClusterMember
