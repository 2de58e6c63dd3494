import ClusterMember.Proofs.Config.Validation
import ClusterMember.Proofs.Executor.Ratchet
import Mathlib.Algebra.Group.Action.Defs
import Mathlib.Algebra.Order.BigOperators.Group.List
import Mathlib.Algebra.Order.Ring.Nat

/-!
# The governor of a configuration

Validation and registration look at the same pools: what a valid configuration asks for is
registered when it is within every budget, and nothing is refused but what goes beyond one.  The one
exception is a scheduled pool without threads, which is valid and is refused all the same.
-/

namespace ClusterMember

/-- The pools of a node are within every budget. -/
structure ExecutorConfig.FitsCaps (executor : ExecutorConfig) : Prop where
  core_le : ∀ entry ∈ executor.pools, entry.2.coreThreads ≤ executor.caps.perPoolCore
  max_le : ∀ entry ∈ executor.pools, entry.2.maxThreads ≤ executor.caps.perPoolMax
  core_total : (executor.pools.map (·.2.coreThreads)).sum ≤ executor.caps.normalCoreTotal
  max_total : (executor.pools.map (·.2.maxThreads)).sum ≤ executor.caps.normalMaxTotal
  /-- The scheduled pool has to keep to the budget of one normal pool as well. -/
  scheduled_le : executor.scheduled.coreThreads ≤ executor.caps.perPoolCore
  scheduled_total : executor.scheduled.coreThreads ≤ executor.caps.scheduledCoreTotal

/-- No pool of a node needs more permits than can be made. -/
structure ExecutorConfig.Buildable (executor : ExecutorConfig) : Prop where
  pools : ∀ entry ∈ executor.pools, entry.2.maxThreads + entry.2.queueSize.toNat ≤ maxPermits
  scheduled : executor.scheduled.coreThreads ≤ maxPermits

/-- A registration is refused because it goes beyond a budget. -/
def RegistrationFault.GoesBeyond (fault : RegistrationFault) : Prop :=
  ∃ resource requested limit, fault = .refused (.resourceExceeded resource requested limit)

/-- A governor has the pools of a configuration and no others. -/
structure Governor.Holds (governor : Governor) (executor : ExecutorConfig) : Prop where
  caps_eq : governor.caps = executor.caps
  /-- Under every kind there is the pool that is configured under its name. -/
  pool?_eq : ∀ type, governor.pool? type =
    (executor.pools.find? type.name).map fun pool => Pool.build (pool.descriptor type)
  /-- Every configured name is that of a registered kind. -/
  registered_iff : ∀ name,
    (∃ type ∈ governor.registered, type.name = name) ↔ executor.pools.has name = true
  length_built : governor.built.length = executor.pools.length
  scheduledPool?_eq : governor.scheduledPool? =
    some (PeriodicPool.build executor.scheduled.coreThreads executor.scheduled.daemon)
  accounting_eq : governor.accounting =
    ⟨(executor.pools.map (·.2.coreThreads)).sum, (executor.pools.map (·.2.maxThreads)).sum,
      executor.scheduled.coreThreads⟩

/-! ## Registering a row of pools -/

namespace Governor

/-- A governor that has registered some normal pools and nothing else. -/
def holding (caps : ResourceCaps) (descriptors : List PoolDescriptor) : Governor where
  caps := caps
  accounting := ⟨(descriptors.map (·.core)).sum, (descriptors.map (·.max)).sum, 0⟩
  built := descriptors.map Pool.build
  table := (descriptors.map (·.type)).zipIdx
  builtScheduled := []
  scheduled := none

theorem holding_append_singleton (caps : ResourceCaps) (done : List PoolDescriptor)
    (descriptor : PoolDescriptor) :
    holding caps (done ++ [descriptor]) =
      countPool descriptor (enterPool descriptor (holding caps done)) := by
  simp [holding, countPool, enterPool, withPool, List.zipIdx_append]

/-- A row of pools is registered as a whole, or some pool of it is refused by a governor that has
registered those before it. -/
theorem registerAll_cases (caps : ResourceCaps) (done rest : List PoolDescriptor) :
    (holding caps done).registerAll rest = .ok (holding caps (done ++ rest)) ∧
        (∀ earlier descriptor later, rest = earlier ++ descriptor :: later →
          (holding caps (done ++ earlier)).Admits descriptor) ∨
      ∃ earlier descriptor later fault, rest = earlier ++ descriptor :: later ∧
        ((poolChecks descriptor).findSome? fun fault? => fault? (holding caps (done ++ earlier))) =
          some fault ∧
        (holding caps done).registerAll rest = .error fault := by
  induction rest generalizing done with
  | nil => exact .inl ⟨by rw [List.append_nil]; rfl, by simp⟩
  | cons head rest induction =>
      rw [registerAll, register_eq]
      cases checked : (poolChecks head).findSome? fun fault? => fault? (holding caps done) with
      | some fault =>
          exact .inr ⟨[], head, rest, fault, rfl, by rw [List.append_nil, checked], rfl⟩
      | none =>
          have admits := (poolChecks_eq_none_iff _ head).1 checked
          simp only [← holding_append_singleton]
          rcases induction (done ++ [head]) with ⟨registered, others⟩ |
            ⟨earlier, descriptor, later, fault, rfl, refused, failed⟩
          · refine .inl ⟨by rw [registered]; simp, fun earlier descriptor later split => ?_⟩
            cases earlier with
            | nil =>
                obtain ⟨rfl, -⟩ := List.cons.inj split
                rwa [List.append_nil]
            | cons first earlier =>
                obtain ⟨rfl, rest_eq⟩ := List.cons.inj split
                simpa using others earlier descriptor later rest_eq
          · exact .inr ⟨head :: earlier, descriptor, later, fault, rfl, by simpa using refused,
              failed⟩

theorem types_holding (caps : ResourceCaps) (descriptors : List PoolDescriptor) :
    (holding caps descriptors).table.map Prod.fst = descriptors.map (·.type) :=
  List.zipIdx_map_fst _ _

/-- Under a kind there is the first of the pools of that kind. -/
theorem pool?_holding (caps : ResourceCaps) (descriptors : List PoolDescriptor)
    (type : ExecutorType) :
    (holding caps descriptors).pool? type = (descriptors.find? (·.type = type)).map Pool.build := by
  have lookup_eq : ∀ (rest done : List PoolDescriptor),
      (List.lookup type ((rest.map (·.type)).zipIdx done.length) >>= fun place =>
        ((done ++ rest).map Pool.build)[place]?) =
          (rest.find? (·.type = type)).map Pool.build := by
    intro rest
    induction rest with
    | nil => intro done; rfl
    | cons head rest induction =>
        intro done
        rw [List.map_cons, List.zipIdx_cons, List.lookup_cons, List.find?_cons]
        by_cases same : type = head.type
        · simp [same]
        · have later := induction (done ++ [head])
          simp only [List.length_append, List.length_cons, List.length_nil, Nat.zero_add,
            List.append_assoc, List.cons_append, List.nil_append] at later
          simp only [beq_eq_false_iff_ne.2 same, Ne.symm same, decide_false]
          exact later
  exact lookup_eq descriptors []

/-! ## Why a pool is refused -/

theorem goesBeyond_of_overLimit? {resource : String} {requested limit : Nat}
    {fault : RegistrationFault} (found : overLimit? resource requested limit = some fault) :
    fault.GoesBeyond :=
  ⟨resource, requested, limit, ((overLimit?_eq_some_iff _ _ _ _).1 found).2⟩

/-- A pool of good shape that is the first of its kind is refused because it goes beyond a budget,
or cannot be built because a number is too large. -/
theorem fault_of_poolChecks {governor : Governor} {descriptor : PoolDescriptor}
    {fault : RegistrationFault}
    (checked : ((poolChecks descriptor).findSome? fun fault? => fault? governor) = some fault)
    (shaped : shapeFault? descriptor = none) (vacant : governor.place? descriptor.type = none)
    (nameable : '\x00' ∉ descriptor.threadName.toList) :
    fault.GoesBeyond ∨
      ∃ number, fault = .tooLarge number ∧
        (word64Max < (governor.withPool descriptor).normalCore ∨
          word64Max < (governor.withPool descriptor).normalMax ∨
            maxPermits < descriptor.capacity) := by
  obtain ⟨check, mem, found⟩ := List.exists_of_findSome?_eq_some checked
  simp only [poolChecks, List.mem_cons, List.not_mem_nil, or_false] at mem
  rcases mem with rfl | rfl | rfl | rfl | rfl | rfl | rfl | rfl | rfl | rfl
  · cases shaped.symm.trans found
  · exact .inl (goesBeyond_of_overLimit? found)
  · exact .inl (goesBeyond_of_overLimit? found)
  · cases ((duplicatePool?_eq_none_iff _ governor).2 vacant).symm.trans found
  · obtain ⟨large, rfl⟩ := (tooLarge?_eq_some_iff _ _ _).1 found
    exact .inr ⟨_, rfl, .inl large⟩
  · obtain ⟨large, rfl⟩ := (tooLarge?_eq_some_iff _ _ _).1 found
    exact .inr ⟨_, rfl, .inr (.inl large)⟩
  · exact .inl (goesBeyond_of_overLimit? found)
  · exact .inl (goesBeyond_of_overLimit? found)
  · cases ((threadName?_eq_none_iff _).2 nameable).symm.trans found
  · obtain ⟨large, rfl⟩ := (tooLarge?_eq_some_iff _ _ _).1 found
    exact .inr ⟨_, rfl, .inr (.inr large)⟩

/-- A scheduled pool with a thread that is the first one is refused for the same reasons. -/
theorem fault_of_scheduledChecks {governor : Governor} {core : Nat} {fault : RegistrationFault}
    (checked : ((scheduledChecks core).findSome? fun fault? => fault? governor) = some fault)
    (core_pos : 0 < core) (vacant : governor.scheduled = none) :
    fault.GoesBeyond ∨
      ∃ number, fault = .tooLarge number ∧
        (word64Max < (governor.withScheduled core).scheduledCore ∨ maxPermits < core) := by
  obtain ⟨check, mem, found⟩ := List.exists_of_findSome?_eq_some checked
  simp only [scheduledChecks, List.mem_cons, List.not_mem_nil, or_false] at mem
  rcases mem with rfl | rfl | rfl | rfl | rfl | rfl
  · rw [if_neg (Nat.ne_of_gt core_pos)] at found
    cases found
  · exact .inl (goesBeyond_of_overLimit? found)
  · cases ((duplicateScheduled?_eq_none_iff governor).2 vacant).symm.trans found
  · obtain ⟨large, rfl⟩ := (tooLarge?_eq_some_iff _ _ _).1 found
    exact .inr ⟨_, rfl, .inl large⟩
  · exact .inl (goesBeyond_of_overLimit? found)
  · obtain ⟨large, rfl⟩ := (tooLarge?_eq_some_iff _ _ _).1 found
    exact .inr ⟨_, rfl, .inr large⟩

end Governor

/-! ## A whole configuration -/

open Governor

/-- The normal pools of a node can be told, and each has a good shape. -/
structure ExecutorConfig.IsDescribed (executor : ExecutorConfig)
    (descriptors : List PoolDescriptor) : Prop where
  described : executor.descriptors = .ok descriptors
  shaped : ∀ descriptor ∈ descriptors, 0 < descriptor.max ∧ descriptor.core ≤ descriptor.max
  nodup : (executor.pools.map Prod.fst).Nodup

namespace ExecutorConfig

theorem ofConfig_eq {executor : ExecutorConfig} {descriptors : List PoolDescriptor}
    (described : executor.descriptors = .ok descriptors) :
    ofConfig executor =
      match (holding executor.caps []).registerAll descriptors with
      | .error fault => .error fault
      | .ok governor =>
        governor.registerScheduled executor.scheduled.coreThreads executor.scheduled.daemon := by
  rw [ofConfig, described]
  rfl

namespace IsDescribed

variable {executor : ExecutorConfig} {descriptors : List PoolDescriptor}
  (isDescribed : executor.IsDescribed descriptors)
include isDescribed

theorem pools_described : executor.pools.Described descriptors :=
  (PoolTable.describe_eq_ok_iff _ _).1 isDescribed.described

theorem cores_eq : descriptors.map (·.core) = executor.pools.map (·.2.coreThreads) :=
  isDescribed.pools_described.map_eq fun _ _ describes => describes.core_eq

theorem maxes_eq : descriptors.map (·.max) = executor.pools.map (·.2.maxThreads) :=
  isDescribed.pools_described.map_eq fun _ _ describes => describes.max_eq

theorem core_le_iff (limit : Nat) : (∀ descriptor ∈ descriptors, descriptor.core ≤ limit) ↔
    ∀ entry ∈ executor.pools, entry.2.coreThreads ≤ limit :=
  isDescribed.pools_described.forall_mem_iff (fun _ _ describes => describes.core_eq) (· ≤ limit)

theorem max_le_iff (limit : Nat) : (∀ descriptor ∈ descriptors, descriptor.max ≤ limit) ↔
    ∀ entry ∈ executor.pools, entry.2.maxThreads ≤ limit :=
  isDescribed.pools_described.forall_mem_iff (fun _ _ describes => describes.max_eq) (· ≤ limit)

theorem capacity_le_iff (limit : Nat) :
    (∀ descriptor ∈ descriptors, descriptor.capacity ≤ limit) ↔
      ∀ entry ∈ executor.pools, entry.2.maxThreads + entry.2.queueSize.toNat ≤ limit :=
  isDescribed.pools_described.forall_mem_iff (fun _ _ describes => describes.capacity_eq)
    (· ≤ limit)

/-- When all pools can be built, the sums over them are words. -/
theorem sums_le (buildable : executor.Buildable) :
    (descriptors.map (·.core)).sum ≤ word64Max ∧ (descriptors.map (·.max)).sum ≤ word64Max := by
  have max_le : ∀ descriptor ∈ descriptors, descriptor.max ≤ maxPermits := fun descriptor mem =>
    (Nat.le_add_right _ _).trans ((isDescribed.capacity_le_iff _).2 buildable.pools descriptor mem)
  have core_le : ∀ descriptor ∈ descriptors, descriptor.core ≤ maxPermits := fun descriptor mem =>
    (isDescribed.shaped descriptor mem).2.trans (max_le descriptor mem)
  have few := isDescribed.pools_described.length_le isDescribed.nodup
  have room : 3 * maxPermits ≤ word64Max := by decide
  have bounded : ∀ view : PoolDescriptor → Nat, (∀ descriptor ∈ descriptors,
      view descriptor ≤ maxPermits) → (descriptors.map view).sum ≤ word64Max := by
    intro view view_le
    have sum_le := List.sum_le_card_nsmul (descriptors.map view) maxPermits (by simpa using view_le)
    rw [List.length_map, smul_eq_mul] at sum_le
    exact sum_le.trans ((Nat.mul_le_mul_right _ few).trans room)
  exact ⟨bounded _ core_le, bounded _ max_le⟩

section Split

variable {earlier later : List PoolDescriptor} {descriptor : PoolDescriptor}
  (split : descriptors = earlier ++ descriptor :: later)
include split

theorem vacant (caps : ResourceCaps) : (holding caps earlier).place? descriptor.type = none := by
  have nodup := isDescribed.pools_described.types_nodup isDescribed.nodup
  rw [split, List.map_append, List.map_cons] at nodup
  rw [place?_eq_none_iff, types_holding]
  exact fun mem => List.disjoint_of_nodup_append nodup mem List.mem_cons_self

theorem shapeFault?_eq : shapeFault? descriptor = none := by
  have mem : descriptor ∈ descriptors := split ▸ List.mem_append_cons_self
  obtain ⟨entry, -, describes⟩ := isDescribed.pools_described.exists_of_mem mem
  exact (shapeFault?_eq_none_iff descriptor).2 ⟨describes.type_ne, isDescribed.shaped _ mem⟩

theorem nameable : '\x00' ∉ descriptor.threadName.toList := by
  have mem : descriptor ∈ descriptors := split ▸ List.mem_append_cons_self
  obtain ⟨entry, -, describes⟩ := isDescribed.pools_described.exists_of_mem mem
  rw [describes.eq_descriptor]
  simp only [PoolConfig.descriptor]
  cases descriptor.type <;> decide

omit isDescribed in
/-- The total with one more pool is at most that over all. -/
theorem sum_split_le (view : PoolDescriptor → Nat) :
    (earlier.map view).sum + view descriptor ≤ (descriptors.map view).sum := by
  rw [split, List.map_append, List.map_cons, List.sum_append, List.sum_cons]
  omega

theorem core_total_le : ((holding executor.caps earlier).withPool descriptor).normalCore ≤
    (executor.pools.map (·.2.coreThreads)).sum := by
  rw [← isDescribed.cores_eq]
  exact sum_split_le split (·.core)

theorem max_total_le : ((holding executor.caps earlier).withPool descriptor).normalMax ≤
    (executor.pools.map (·.2.maxThreads)).sum := by
  rw [← isDescribed.maxes_eq]
  exact sum_split_le split (·.max)

/-- A pool of a node that is within every budget is admitted when it is its turn. -/
theorem admits (fits : executor.FitsCaps) (buildable : executor.Buildable) :
    (holding executor.caps earlier).Admits descriptor := by
  have mem : descriptor ∈ descriptors := split ▸ List.mem_append_cons_self
  obtain ⟨entry, -, describes⟩ := isDescribed.pools_described.exists_of_mem mem
  obtain ⟨core_word, max_word⟩ := isDescribed.sums_le buildable
  rw [isDescribed.cores_eq] at core_word
  rw [isDescribed.maxes_eq] at max_word
  have core_total := isDescribed.core_total_le split
  have max_total := isDescribed.max_total_le split
  constructor
  · exact describes.type_ne
  · exact (isDescribed.shaped descriptor mem).1
  · exact (isDescribed.shaped descriptor mem).2
  · exact (isDescribed.core_le_iff _).2 fits.core_le descriptor mem
  · exact (isDescribed.max_le_iff _).2 fits.max_le descriptor mem
  · exact isDescribed.vacant split executor.caps
  · exact core_total.trans core_word
  · exact max_total.trans max_word
  · exact core_total.trans fits.core_total
  · exact max_total.trans fits.max_total
  · exact isDescribed.nameable split
  · exact (isDescribed.capacity_le_iff _).2 buildable.pools descriptor mem

/-- A pool is refused because it goes beyond a budget, unless it cannot be built. -/
theorem fault_of_checks {fault : RegistrationFault}
    (checked : ((poolChecks descriptor).findSome? fun fault? =>
      fault? (holding executor.caps earlier)) = some fault) :
    fault.GoesBeyond ∨ ∃ number, fault = .tooLarge number ∧ ¬executor.Buildable := by
  rcases fault_of_poolChecks checked (isDescribed.shapeFault?_eq split)
    (isDescribed.vacant split _) (isDescribed.nameable split) with beyond | ⟨number, rfl, large⟩
  · exact .inl beyond
  · refine .inr ⟨number, rfl, fun buildable => ?_⟩
    have mem : descriptor ∈ descriptors := split ▸ List.mem_append_cons_self
    obtain ⟨core_word, max_word⟩ := isDescribed.sums_le buildable
    rw [isDescribed.cores_eq] at core_word
    rw [isDescribed.maxes_eq] at max_word
    have core_total := isDescribed.core_total_le split
    have max_total := isDescribed.max_total_le split
    have capacity := (isDescribed.capacity_le_iff _).2 buildable.pools descriptor mem
    omega

end Split

/-- When all normal pools of a node are admitted one after the other, they are within every budget
and can be built. -/
theorem fits_of_admits
    (admitted : ∀ earlier descriptor later, descriptors = earlier ++ descriptor :: later →
      (holding executor.caps earlier).Admits descriptor)
    (threadless : executor.scheduled.coreThreads = 0) : executor.FitsCaps ∧ executor.Buildable := by
  have each : ∀ descriptor ∈ descriptors, ∃ earlier,
      (holding executor.caps earlier).Admits descriptor := fun descriptor mem =>
    have ⟨earlier, later, split⟩ := List.append_of_mem mem
    ⟨earlier, admitted earlier descriptor later split⟩
  have totals : (descriptors.map (·.core)).sum ≤ executor.caps.normalCoreTotal ∧
      (descriptors.map (·.max)).sum ≤ executor.caps.normalMaxTotal := by
    rcases List.eq_nil_or_concat' descriptors with rfl | ⟨earlier, last, rfl⟩
    · exact ⟨Nat.zero_le _, Nat.zero_le _⟩
    · have admits := admitted earlier last [] rfl
      simp only [List.map_append, List.map_cons, List.map_nil, List.sum_append, List.sum_singleton]
      exact ⟨admits.core_total, admits.max_total⟩
  rw [isDescribed.cores_eq, isDescribed.maxes_eq] at totals
  constructor
  · constructor
    · refine (isDescribed.core_le_iff _).1 fun descriptor mem => ?_
      obtain ⟨earlier, admits⟩ := each descriptor mem
      exact admits.core_le
    · refine (isDescribed.max_le_iff _).1 fun descriptor mem => ?_
      obtain ⟨earlier, admits⟩ := each descriptor mem
      exact admits.max_le
    · exact totals.1
    · exact totals.2
    · exact threadless ▸ Nat.zero_le _
    · exact threadless ▸ Nat.zero_le _
  · constructor
    · refine (isDescribed.capacity_le_iff _).1 fun descriptor mem => ?_
      obtain ⟨earlier, admits⟩ := each descriptor mem
      exact admits.buildable
    · exact threadless ▸ Nat.zero_le _

/-- Once all normal pools of a node are registered, its scheduled pool decides. -/
theorem ofConfig_of_fits (fits : executor.FitsCaps) (buildable : executor.Buildable) :
    ofConfig executor = (holding executor.caps descriptors).registerScheduled
      executor.scheduled.coreThreads executor.scheduled.daemon := by
  rw [ofConfig_eq isDescribed.described]
  rcases registerAll_cases executor.caps [] descriptors with
    ⟨registered, -⟩ | ⟨earlier, descriptor, later, fault, split, refused, -⟩
  · rw [registered, List.nil_append]
  · rw [List.nil_append] at refused
    have admits := isDescribed.admits split fits buildable
    rw [(poolChecks_eq_none_iff _ _).2 admits] at refused
    cases refused

theorem registered_iff (name : String) :
    (∃ type ∈ (holding executor.caps descriptors).registered, type.name = name) ↔
      executor.pools.has name = true := by
  have names := isDescribed.pools_described.map_eq fun _ _ describes => describes.name_eq
  have known : ∀ type, type ∈ (holding executor.caps descriptors).registered ↔
      type ∈ descriptors.map (·.type) := by
    intro type
    rw [registered, List.mem_filter, Option.isSome_iff_ne_none, Ne, place?_eq_none_iff,
      types_holding, not_not]
    exact and_iff_right (ExecutorType.mem_all type)
  calc
    _ ↔ name ∈ descriptors.map (·.type.name) := by simp [known]
    _ ↔ name ∈ executor.pools.map Prod.fst := by rw [names]
    _ ↔ executor.pools.has name = true := by simp [PoolTable.has]

/-- A governor with the normal pools of a node and its scheduled pool holds all its pools. -/
theorem holds : (countScheduled executor.scheduled.coreThreads
    (enterScheduled executor.scheduled.coreThreads executor.scheduled.daemon
      (holding executor.caps descriptors))).Holds executor where
  caps_eq := rfl
  pool?_eq type := by
    refine (pool?_holding executor.caps descriptors type).trans ?_
    rw [isDescribed.pools_described.find?_eq, Option.map_map]
    rfl
  registered_iff := isDescribed.registered_iff
  length_built := (List.length_map _).trans isDescribed.pools_described.length_eq.symm
  scheduledPool?_eq := rfl
  accounting_eq := by
    rw [← isDescribed.cores_eq, ← isDescribed.maxes_eq, countScheduled, withScheduled]
    simp only [enterScheduled, holding, Nat.zero_add]

end IsDescribed

/-- Registration agrees with validation about the pools of a node. -/
structure Registers (executor : ExecutorConfig) : Prop where
  /-- Pools within every budget are registered, all of them and no others. -/
  registered : executor.FitsCaps → executor.Buildable →
    ∃ governor, ofConfig executor = .ok governor ∧ governor.Holds executor
  /-- Nothing is refused but what goes beyond a budget. -/
  refused : ∀ error, ofConfig executor = .error (.refused error) →
    ∃ resource requested limit, error = .resourceExceeded resource requested limit
  /-- Nothing but a refusal keeps pools that can be built from being registered. -/
  built : executor.Buildable → ∀ fault, ofConfig executor = .error fault →
    ∃ error, fault = .refused error

/-- The refusal of a scheduled pool without threads. -/
def noThreadsFault : RegistrationFault :=
  .refused (.configuration "scheduled pool needs at least one thread")

namespace IsDescribed

variable {executor : ExecutorConfig} {descriptors : List PoolDescriptor}
  (isDescribed : executor.IsDescribed descriptors)
include isDescribed

theorem ofConfig_of_threads (fits : executor.FitsCaps) (buildable : executor.Buildable)
    (core_pos : 0 < executor.scheduled.coreThreads) :
    ∃ governor, ofConfig executor = .ok governor ∧ governor.Holds executor := by
  have admits : (holding executor.caps descriptors).AdmitsScheduled
      executor.scheduled.coreThreads := by
    have total_eq : ((holding executor.caps descriptors).withScheduled
        executor.scheduled.coreThreads).scheduledCore = executor.scheduled.coreThreads :=
      Nat.zero_add _
    constructor
    · exact core_pos
    · exact fits.scheduled_le
    · rfl
    · rw [total_eq]
      exact buildable.scheduled.trans (by decide)
    · rw [total_eq]
      exact fits.scheduled_total
    · exact buildable.scheduled
  refine ⟨_, ?_, isDescribed.holds⟩
  rw [isDescribed.ofConfig_of_fits fits buildable, registerScheduled_eq,
    (scheduledChecks_eq_none_iff _ _).2 admits]

theorem ofConfig_of_no_threads (fits : executor.FitsCaps) (buildable : executor.Buildable)
    (threadless : executor.scheduled.coreThreads = 0) :
    ofConfig executor = .error noThreadsFault := by
  rw [isDescribed.ofConfig_of_fits fits buildable, threadless]
  rfl

/-- All reasons why a governor of a described configuration is not built. -/
theorem fault_cases {fault : RegistrationFault} (failed : ofConfig executor = .error fault) :
    fault.GoesBeyond ∨ (∃ number, fault = .tooLarge number ∧ ¬executor.Buildable) ∨
      executor.scheduled.coreThreads = 0 ∧ executor.FitsCaps ∧ executor.Buildable := by
  rw [ofConfig_eq isDescribed.described] at failed
  rcases registerAll_cases executor.caps [] descriptors with
    ⟨registered, admitted⟩ | ⟨earlier, descriptor, later, found, split, refused, stopped⟩
  · rw [registered, List.nil_append] at failed
    rcases Nat.eq_zero_or_pos executor.scheduled.coreThreads with threadless | core_pos
    · exact .inr (.inr ⟨threadless, isDescribed.fits_of_admits admitted threadless⟩)
    · simp only [registerScheduled_eq] at failed
      split at failed
      next found checked =>
        cases failed
        rcases fault_of_scheduledChecks checked core_pos rfl with beyond | ⟨number, rfl, large⟩
        · exact .inl beyond
        · refine .inr (.inl ⟨number, rfl, fun buildable => ?_⟩)
          have bound := buildable.scheduled
          have room : maxPermits ≤ word64Max := by decide
          simp only [withScheduled, holding] at large
          omega
      next => cases failed
  · rw [stopped] at failed
    cases failed
    rcases isDescribed.fault_of_checks split refused with beyond | tooLarge
    · exact .inl beyond
    · exact .inr (.inl tooLarge)

end IsDescribed

end ExecutorConfig

/-- A valid configuration with no pool twice tells its pools. -/
theorem NodeConfig.exists_isDescribed {config : NodeConfig} (valid : config.fault? = none)
    (nodup : (config.executor.pools.map Prod.fst).Nodup) :
    ∃ descriptors, config.executor.IsDescribed descriptors := by
  obtain ⟨descriptors, described, shaped⟩ := (config.fault?_eq_none_iff.1 valid).pools
  exact ⟨descriptors, described, shaped, nodup⟩

/-- Registration agrees with validation about every valid configuration whose pools can be built, save
that a scheduled pool without threads, which is valid, is refused where all pools are within their
budgets. -/
theorem NodeConfig.registers_iff (config : NodeConfig) (valid : config.fault? = none)
    (nodup : (config.executor.pools.map Prod.fst).Nodup) :
    (config.executor.Registers ↔
      (config.executor.FitsCaps → config.executor.Buildable →
        0 < config.executor.scheduled.coreThreads)) ∧
      (config.executor.FitsCaps → config.executor.Buildable →
        config.executor.scheduled.coreThreads = 0 →
          ofConfig config.executor = .error ExecutorConfig.noThreadsFault) := by
  obtain ⟨descriptors, isDescribed⟩ := exists_isDescribed valid nodup
  refine ⟨⟨fun registers fits buildable => ?_, fun threads => ⟨?_, ?_, ?_⟩⟩,
    isDescribed.ofConfig_of_no_threads⟩
  · obtain ⟨governor, registered, -⟩ := registers.registered fits buildable
    apply Nat.pos_of_ne_zero
    intro threadless
    rw [isDescribed.ofConfig_of_no_threads fits buildable threadless] at registered
    cases registered
  · exact fun fits buildable =>
      isDescribed.ofConfig_of_threads fits buildable (threads fits buildable)
  · intro error failed
    rcases isDescribed.fault_cases failed with ⟨resource, requested, limit, eq⟩ |
      ⟨number, eq, -⟩ | ⟨threadless, fits, buildable⟩
    · exact ⟨resource, requested, limit, RegistrationFault.refused.inj eq⟩
    · cases eq
    · exact absurd (threads fits buildable) (Nat.not_lt.2 (Nat.le_of_eq threadless))
  · intro buildable fault failed
    rcases isDescribed.fault_cases failed with ⟨resource, requested, limit, rfl⟩ |
      ⟨number, -, unbuildable⟩ | ⟨threadless, fits, -⟩
    · exact ⟨_, rfl⟩
    · exact absurd buildable unbuildable
    · exact absurd (threads fits buildable) (Nat.not_lt.2 (Nat.le_of_eq threadless))

/-- Small pools and a scheduled pool with one thread are registered. -/
theorem NodeConfig.registers_iff_one_thread :
    let small : PoolConfig := { coreThreads := 1, maxThreads := 2 }
    let config : NodeConfig :=
      { rpc := { serverThreads := 2 }
        executor :=
          { scheduled := { coreThreads := 1 }
            pools := [("archive", small), ("compact", small), ("default", small)] } }
    config.fault? = none ∧ (config.executor.pools.map Prod.fst).Nodup ∧
      config.executor.Registers := by
  intro small config
  have valid : config.fault? = none := by decide
  have nodup : (config.executor.pools.map Prod.fst).Nodup := by decide
  exact ⟨valid, nodup, (registers_iff config valid nodup).1.2 fun _ _ => by decide⟩

/-- Small pools and a scheduled pool without threads are valid, within every budget and can be
built, and are refused for a fault of the configuration. -/
theorem NodeConfig.not_registers_no_threads :
    let small : PoolConfig := { coreThreads := 1, maxThreads := 2 }
    let config : NodeConfig :=
      { rpc := { serverThreads := 2 }
        executor :=
          { scheduled := { coreThreads := 0 }
            pools := [("archive", small), ("compact", small), ("default", small)] } }
    config.fault? = none ∧ config.executor.FitsCaps ∧ config.executor.Buildable ∧
      ofConfig config.executor = .error ExecutorConfig.noThreadsFault ∧
        ¬config.executor.Registers := by
  intro small config
  have fits : config.executor.FitsCaps :=
    ⟨by decide, by decide, by decide, by decide, by decide, by decide⟩
  have buildable : config.executor.Buildable := ⟨by decide, by decide⟩
  have valid : config.fault? = none := by decide
  obtain ⟨descriptors, isDescribed⟩ := exists_isDescribed valid (by decide)
  have refused := isDescribed.ofConfig_of_no_threads fits buildable rfl
  refine ⟨valid, fits, buildable, refused, fun registers => ?_⟩
  obtain ⟨governor, registered, -⟩ := registers.registered fits buildable
  rw [refused] at registered
  cases registered

end ClusterMember
