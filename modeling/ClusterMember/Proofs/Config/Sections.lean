import ClusterMember.Proofs.Config.Layout

/-!
# The sections of a configuration

The settings of every section but those of the pools: their names, their defaults and the types of
their values.
-/

namespace ClusterMember

theorem Processors.count_le [Processors] : Processors.count ≤ word64Max :=
  Nat.le_trans (Nat.le_mul_of_pos_left _ Nat.two_pos) Processors.countable

/-- The settings of the transport. -/
def RpcConfig.layout [Processors] : Layout RpcConfig where
  default := .default
  settings :=
    [⟨"port", _, (·.port), fun port rpc => { rpc with port },
        .optional (.natural word16Max) (Spelling.not_natural_null _)⟩,
      ⟨"bind_address", _, (·.bindAddress), fun bindAddress rpc => { rpc with bindAddress }, .text⟩,
      ⟨"max_message_size", _, (·.maxMessageSize),
        fun maxMessageSize rpc => { rpc with maxMessageSize }, .natural word64Max⟩,
      ⟨"flow_control_window", _, (·.flowControlWindow),
        fun flowControlWindow rpc => { rpc with flowControlWindow }, .natural word32Max⟩,
      ⟨"server_threads", _, (·.serverThreads),
        fun serverThreads rpc => { rpc with serverThreads }, .natural word64Max⟩,
      ⟨"channels_per_client", _, (·.channelsPerClient),
        fun channelsPerClient rpc => { rpc with channelsPerClient }, .natural word64Max⟩,
      ⟨"clients_per_host", _, (·.clientsPerHost),
        fun clientsPerHost rpc => { rpc with clientsPerHost }, .natural word64Max⟩,
      ⟨"request_timeout_ms", _, (·.requestTimeoutMs),
        fun requestTimeoutMs rpc => { rpc with requestTimeoutMs }, .natural word64Max⟩,
      ⟨"connect_timeout_ms", _, (·.connectTimeoutMs),
        fun connectTimeoutMs rpc => { rpc with connectTimeoutMs }, .natural word64Max⟩]
  default_fits := by simp [RpcConfig.default, Processors.countable]; decide
  default_of_null := by simp [RpcConfig.default]

/-- The budgets of threads. -/
def ResourceCaps.layout : Layout ResourceCaps where
  default := .default
  settings :=
    [⟨"per_pool_core", _, (·.perPoolCore), fun perPoolCore caps => { caps with perPoolCore },
        .natural word64Max⟩,
      ⟨"per_pool_max", _, (·.perPoolMax), fun perPoolMax caps => { caps with perPoolMax },
        .natural word64Max⟩,
      ⟨"normal_core_total", _, (·.normalCoreTotal),
        fun normalCoreTotal caps => { caps with normalCoreTotal }, .natural word64Max⟩,
      ⟨"normal_max_total", _, (·.normalMaxTotal),
        fun normalMaxTotal caps => { caps with normalMaxTotal }, .natural word64Max⟩,
      ⟨"scheduled_core_total", _, (·.scheduledCoreTotal),
        fun scheduledCoreTotal caps => { caps with scheduledCoreTotal }, .natural word64Max⟩]
  default_fits := by simp; decide

/-- The settings of the scheduled pool. -/
def ScheduledPoolConfig.layout [Processors] : Layout ScheduledPoolConfig where
  default := .default
  settings :=
    [⟨"core_threads", _, (·.coreThreads), fun coreThreads pool => { pool with coreThreads },
        .natural word64Max⟩,
      ⟨"daemon", _, (·.daemon), fun daemon pool => { pool with daemon }, .flag⟩]
  default_fits := by simp [ScheduledPoolConfig.default, Processors.count_le]

/-- The settings of a pool. -/
def PoolConfig.layout (format : Format) : Layout PoolConfig where
  default := {}
  settings :=
    [⟨"core_threads", _, (·.coreThreads), fun coreThreads pool => { pool with coreThreads },
        .natural word64Max⟩,
      ⟨"max_threads", _, (·.maxThreads), fun maxThreads pool => { pool with maxThreads },
        .natural word64Max⟩,
      ⟨"queue_size", _, (·.queueSize), fun queueSize pool => { pool with queueSize }, .signed64⟩,
      ⟨"keep_alive_ms", _, (·.keepAliveMs), fun keepAliveMs pool => { pool with keepAliveMs },
        .natural word64Max⟩,
      ⟨"daemon", _, (·.daemon), fun daemon pool => { pool with daemon }, .flag⟩,
      ⟨"rejection", _, (·.rejection), fun rejection pool => { pool with rejection },
        .rejection format⟩]
  default_fits := by simp; decide

/-- The settings of the heartbeat. -/
def HeartbeatConfig.layout : Layout HeartbeatConfig where
  default := {}
  settings :=
    [⟨"interval_ms", _, (·.intervalMs), fun intervalMs heartbeat => { heartbeat with intervalMs },
        .natural word64Max⟩,
      ⟨"rpc_timeout_ms", _, (·.rpcTimeoutMs),
        fun rpcTimeoutMs heartbeat => { heartbeat with rpcTimeoutMs }, .natural word64Max⟩,
      ⟨"master_restart_timeout_ms", _, (·.masterRestartTimeoutMs),
        fun masterRestartTimeoutMs heartbeat => { heartbeat with masterRestartTimeoutMs },
        .natural word64Max⟩,
      ⟨"cluster_up_timeout_ms", _, (·.clusterUpTimeoutMs),
        fun clusterUpTimeoutMs heartbeat => { heartbeat with clusterUpTimeoutMs },
        .natural word64Max⟩,
      ⟨"cluster_up_poll_ms", _, (·.clusterUpPollMs),
        fun clusterUpPollMs heartbeat => { heartbeat with clusterUpPollMs }, .natural word64Max⟩,
      ⟨"master_host", _, (·.masterHost), fun masterHost heartbeat => { heartbeat with masterHost },
        .optional .text Spelling.not_text_null⟩,
      ⟨"master_port", _, (·.masterPort), fun masterPort heartbeat => { heartbeat with masterPort },
        .natural word16Max⟩]
  default_fits := by simp; decide

/-- The settings of the life of a node. -/
def LifecycleConfig.layout : Layout LifecycleConfig where
  default := {}
  settings :=
    [⟨"sleep_period_ms", _, (·.sleepPeriodMs),
        fun sleepPeriodMs lifecycle => { lifecycle with sleepPeriodMs }, .natural word64Max⟩,
      ⟨"exit_wait_timeout_ms", _, (·.exitWaitTimeoutMs),
        fun exitWaitTimeoutMs lifecycle => { lifecycle with exitWaitTimeoutMs },
        .natural word64Max⟩,
      ⟨"exit_poll_interval_ms", _, (·.exitPollIntervalMs),
        fun exitPollIntervalMs lifecycle => { lifecycle with exitPollIntervalMs },
        .natural word64Max⟩,
      ⟨"verify_local_hostname", _, (·.verifyLocalHostname),
        fun verifyLocalHostname lifecycle => { lifecycle with verifyLocalHostname }, .flag⟩]
  default_fits := by simp; decide

end ClusterMember
