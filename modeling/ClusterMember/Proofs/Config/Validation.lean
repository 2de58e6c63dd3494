import ClusterMember.Config.Validation
import Mathlib.Data.List.Forall2
import Mathlib.Data.List.Nodup
import Mathlib.Data.List.Perm.Subperm

/-!
# What a valid configuration is

A configuration without a fault passes every check, and its table of pools can be told: each name is
that of a kind of normal pool, and each pool is described under its kind.
-/

namespace ClusterMember

/-- A normal pool is described under its kind. -/
structure PoolDescriptor.Describes (descriptor : PoolDescriptor) (entry : String × PoolConfig) :
    Prop where
  type_ne : descriptor.type ≠ .scheduled
  name_eq : descriptor.type.name = entry.1
  eq_descriptor : descriptor = entry.2.descriptor descriptor.type

/-- Descriptions are those of the pools of a table. -/
abbrev PoolTable.Described (pools : PoolTable) (descriptors : List PoolDescriptor) : Prop :=
  List.Forall₂ (fun entry descriptor => descriptor.Describes entry) pools descriptors

theorem PoolDescriptor.Describes.core_eq {descriptor : PoolDescriptor}
    {entry : String × PoolConfig} (describes : descriptor.Describes entry) :
    descriptor.core = entry.2.coreThreads := by rw [describes.eq_descriptor]; rfl

theorem PoolDescriptor.Describes.max_eq {descriptor : PoolDescriptor}
    {entry : String × PoolConfig} (describes : descriptor.Describes entry) :
    descriptor.max = entry.2.maxThreads := by rw [describes.eq_descriptor]; rfl

theorem PoolDescriptor.Describes.capacity_eq {descriptor : PoolDescriptor}
    {entry : String × PoolConfig} (describes : descriptor.Describes entry) :
    descriptor.capacity = entry.2.maxThreads + entry.2.queueSize.toNat := by
  rw [describes.eq_descriptor]
  simp [PoolDescriptor.capacity, PoolConfig.descriptor]

/-- What is asked of a configuration. -/
structure NodeConfig.IsValid (config : NodeConfig) : Prop where
  maxMessageSize_pos : 0 < config.rpc.maxMessageSize
  serverThreads_pos : 0 < config.rpc.serverThreads
  channelsPerClient_pos : 0 < config.rpc.channelsPerClient
  clientsPerHost_pos : 0 < config.rpc.clientsPerHost
  intervalMs_pos : 0 < config.heartbeat.intervalMs
  rpcTimeoutMs_pos : 0 < config.heartbeat.rpcTimeoutMs
  exitPollIntervalMs_pos : 0 < config.lifecycle.exitPollIntervalMs
  has_default : config.executor.pools.has ExecutorType.default.name = true
  /-- Every pool runs tasks, and has no more core threads than that. -/
  pools : ∃ descriptors, config.executor.descriptors = .ok descriptors ∧
    ∀ descriptor ∈ descriptors, 0 < descriptor.max ∧ descriptor.core ≤ descriptor.max

theorem ExecutorType.ofName?_eq_some_iff (name : String) (type : ExecutorType) :
    ofName? name = some type ↔ type.name = name := by
  constructor
  · intro found
    simpa using List.find?_some found
  · rintro rfl
    exact ofName?_name type

theorem ExecutorType.name_injective : Function.Injective name := by
  intro type other same
  have found := ofName?_name type
  rw [same, ofName?_name] at found
  exact (Option.some.inj found).symm

theorem PoolConfig.describe_eq_ok_iff (name : String) (pool : PoolConfig)
    (descriptor : PoolDescriptor) :
    pool.describe name = .ok descriptor ↔ descriptor.Describes (name, pool) := by
  unfold describe ExecutorType.ofName
  cases found : ExecutorType.ofName? name with
  | none =>
      refine iff_of_false nofun fun describes => ?_
      rw [(ExecutorType.ofName?_eq_some_iff _ _).2 describes.name_eq] at found
      cases found
  | some type =>
      have name_eq := (ExecutorType.ofName?_eq_some_iff _ _).1 found
      constructor
      · intro described
        cases type with
        | scheduled => cases described
        | default | archive | compact =>
            cases described
            exact ⟨nofun, name_eq, rfl⟩
      · rintro ⟨type_ne, same, eq_descriptor⟩
        obtain rfl := ExecutorType.name_injective (same.trans name_eq.symm)
        cases type : descriptor.type with
        | scheduled => exact absurd type type_ne
        | default | archive | compact =>
            rw [type] at eq_descriptor
            rw [eq_descriptor]

/-- A table is described pool by pool. -/
theorem PoolTable.describe_eq_ok_iff (table : PoolTable) (descriptors : List PoolDescriptor) :
    table.describe = .ok descriptors ↔ table.Described descriptors := by
  induction table generalizing descriptors with
  | nil =>
      rw [Described, List.forall₂_nil_left_iff]
      exact ⟨fun described => (Except.ok.inj described).symm, fun eq => eq ▸ rfl⟩
  | cons entry rest induction =>
      obtain ⟨name, pool⟩ := entry
      rw [Described, List.forall₂_cons_left_iff]
      simp only [← induction, ← PoolConfig.describe_eq_ok_iff]
      rw [describe]
      cases pool.describe name with
      | error fault => simp [bind, Except.bind]
      | ok descriptor =>
          cases PoolTable.describe rest with
          | error fault => simp [bind, Except.bind]
          | ok others => simp [bind, Except.bind, pure, Except.pure, eq_comm]

/-! ## The pools of a table and their descriptions -/

namespace PoolTable.Described

variable {pools : PoolTable} {descriptors : List PoolDescriptor}
  (described : pools.Described descriptors)
include described

theorem map_eq {α : Type} {view : PoolDescriptor → α} {setting : String × PoolConfig → α}
    (same : ∀ entry descriptor, descriptor.Describes entry → view descriptor = setting entry) :
    descriptors.map view = pools.map setting := by
  induction described with
  | nil => rfl
  | cons first rest induction => rw [List.map_cons, List.map_cons, same _ _ first, induction]

theorem forall_mem_iff {α : Type} {view : PoolDescriptor → α}
    {setting : String × PoolConfig → α}
    (same : ∀ entry descriptor, descriptor.Describes entry → view descriptor = setting entry)
    (property : α → Prop) :
    (∀ descriptor ∈ descriptors, property (view descriptor)) ↔
      ∀ entry ∈ pools, property (setting entry) := by
  have values_eq := described.map_eq same
  rw [← List.forall_mem_map (f := view), values_eq, List.forall_mem_map]

theorem exists_of_mem {descriptor : PoolDescriptor} (mem : descriptor ∈ descriptors) :
    ∃ entry ∈ pools, descriptor.Describes entry := by
  induction described with
  | nil => cases mem
  | @cons entry head rest others first _ induction =>
      rcases List.mem_cons.1 mem with rfl | later
      · exact ⟨entry, List.mem_cons_self, first⟩
      · obtain ⟨found, found_mem, describes⟩ := induction later
        exact ⟨found, List.mem_cons_of_mem _ found_mem, describes⟩

theorem find?_eq (type : ExecutorType) :
    descriptors.find? (·.type = type) =
      (pools.find? type.name).map fun pool => pool.descriptor type := by
  induction described with
  | nil => rfl
  | @cons entry head rest others first _ induction =>
      rw [List.find?_cons, PoolTable.find?, List.lookup_cons, ← first.name_eq]
      by_cases same : head.type = type
      · subst same
        simp [← first.eq_descriptor]
      · have name_ne : type.name ≠ head.type.name := fun eq =>
          same (ExecutorType.name_injective eq).symm
        simp only [same, decide_false, beq_eq_false_iff_ne.2 name_ne]
        exact induction

theorem types_nodup (nodup : (pools.map Prod.fst).Nodup) :
    (descriptors.map (·.type)).Nodup := by
  have names : (descriptors.map (·.type)).map ExecutorType.name = pools.map Prod.fst := by
    rw [List.map_map]
    exact described.map_eq fun entry descriptor describes => describes.name_eq
  exact List.Nodup.of_map ExecutorType.name (names ▸ nodup)

/-- There are three kinds of normal pools. -/
theorem length_le (nodup : (pools.map Prod.fst).Nodup) : descriptors.length ≤ 3 := by
  have kinds : descriptors.map (·.type) ⊆ [.default, .archive, .compact] := by
    intro type mem
    obtain ⟨descriptor, descriptor_mem, rfl⟩ := List.mem_map.1 mem
    obtain ⟨entry, -, describes⟩ := described.exists_of_mem descriptor_mem
    have type_ne := describes.type_ne
    cases kind : descriptor.type with
    | scheduled => exact absurd kind type_ne
    | default | archive | compact => simp
  have length_le := (List.subperm_of_subset (described.types_nodup nodup) kinds).length_le
  rwa [List.length_map] at length_le

end PoolTable.Described

/-! ## What validation looks at -/

theorem PoolDescriptor.threadFault?_eq_none_iff (descriptor : PoolDescriptor) :
    descriptor.threadFault? = none ↔ 0 < descriptor.max ∧ descriptor.core ≤ descriptor.max := by
  rw [threadFault?, ite_eq_right_iff]
  simp only [reduceCtorEq, imp_false, not_or, Nat.not_lt, Nat.pos_iff_ne_zero, ne_eq]

/-- The pools of a table pass when all of them can be described and each one passes. -/
theorem ExecutorConfig.poolFault?_eq_none_iff (executor : ExecutorConfig) :
    (match executor.descriptors with
      | .error fault => some fault
      | .ok descriptors => descriptors.findSome? PoolDescriptor.threadFault?) = none ↔
    ∃ descriptors, executor.descriptors = .ok descriptors ∧
      ∀ descriptor ∈ descriptors, 0 < descriptor.max ∧ descriptor.core ≤ descriptor.max := by
  cases executor.descriptors with
  | error fault => exact iff_of_false nofun fun ⟨_, described, _⟩ => nomatch described
  | ok descriptors =>
      simp only [List.findSome?_eq_none_iff, PoolDescriptor.threadFault?_eq_none_iff,
        Except.ok.injEq, exists_eq_left']

/-- A configuration without a fault is valid, and a valid one has none. -/
theorem NodeConfig.fault?_eq_none_iff (config : NodeConfig) :
    config.fault? = none ↔ config.IsValid := by
  rw [fault?]
  simp only [ite_eq_iff, reduceCtorEq, and_false, false_or, not_or, Bool.not_eq_false,
    ← Nat.pos_iff_ne_zero]
  have poolFault := config.executor.poolFault?_eq_none_iff
  constructor
  · rintro ⟨message, threads, ⟨channels, clients⟩, ⟨interval, rpc⟩, poll, default, pools⟩
    exact ⟨message, threads, channels, clients, interval, rpc, poll, default, poolFault.1 pools⟩
  · rintro ⟨message, threads, channels, clients, interval, rpc, poll, default, pools⟩
    exact ⟨message, threads, ⟨channels, clients⟩, ⟨interval, rpc⟩, poll, default,
      poolFault.2 pools⟩

/-- The default settings are valid, however many processors there are. -/
theorem NodeConfig.fault?_default [Processors] : NodeConfig.default.fault? = none := by
  rw [fault?_eq_none_iff]
  constructor
  case serverThreads_pos => exact Nat.mul_pos Nat.two_pos Processors.count_pos
  case has_default => rfl
  case pools => exact ⟨_, rfl, by decide⟩
  all_goals simp [default, RpcConfig.default]

end ClusterMember
