import ClusterMember.Config.Validation
import ClusterMember.Executor.Periodic

/-!
# The governor of pools

Pools are registered under budgets of threads.  A registration fits every budget, or it is refused
and changes nothing.  What has been registered only grows: stopping all pools empties the table and
gives no budget back.
-/

namespace ClusterMember

/-- Why no pool is registered. -/
inductive RegistrationFault where
  | refused (error : Error)
  | tooLarge (number : Nat)
  | threadName (name : String)
  deriving DecidableEq

/-- The governor of the pools of a node. -/
structure Governor where
  caps : ResourceCaps
  accounting : ThreadAccounting
  /-- Every normal pool that was ever built. -/
  built : List Pool
  /-- The registered normal pools: kinds and places among the built ones. -/
  table : List (ExecutorType × Nat)
  /-- Every scheduled pool that was ever built. -/
  builtScheduled : List PeriodicPool
  scheduled : Option Nat

/-- The refusal of a request that goes beyond a limit. -/
def overLimit? (resource : String) (requested limit : Nat) : Option RegistrationFault :=
  if limit < requested then some (.refused (.resourceExceeded resource requested limit)) else none

/-- The fault of a number that is larger than numbers of its kind can be. -/
def tooLarge? (number largest : Nat) : Option RegistrationFault :=
  if largest < number then some (.tooLarge number) else none

/-- The fault of a name that no thread can have. -/
def threadName? (name : String) : Option RegistrationFault :=
  if '\x00' ∈ name.toList then some (.threadName name) else none

@[simp]
theorem overLimit?_eq_none_iff (resource : String) (requested limit : Nat) :
    overLimit? resource requested limit = none ↔ requested ≤ limit := by
  simp [overLimit?]

@[simp]
theorem tooLarge?_eq_none_iff (number largest : Nat) :
    tooLarge? number largest = none ↔ number ≤ largest := by
  simp [tooLarge?]

theorem overLimit?_eq_some_iff (resource : String) (requested limit : Nat)
    (fault : RegistrationFault) :
    overLimit? resource requested limit = some fault ↔
      limit < requested ∧ fault = .refused (.resourceExceeded resource requested limit) := by
  simp [overLimit?, eq_comm]

theorem tooLarge?_eq_some_iff (number largest : Nat) (fault : RegistrationFault) :
    tooLarge? number largest = some fault ↔ largest < number ∧ fault = .tooLarge number := by
  simp [tooLarge?, eq_comm]

theorem threadName?_eq_some_iff (name : String) (fault : RegistrationFault) :
    threadName? name = some fault ↔ '\x00' ∈ name.toList ∧ fault = .threadName name := by
  simp [threadName?, eq_comm]

@[simp]
theorem threadName?_eq_none_iff (name : String) :
    threadName? name = none ↔ '\x00' ∉ name.toList := by
  simp [threadName?]

namespace Governor

/-- A governor without pools. -/
def empty (caps : ResourceCaps) : Governor where
  caps := caps
  accounting := .zero
  built := []
  table := []
  builtScheduled := []
  scheduled := none

/-- The place of the registered pool of a kind. -/
def place? (governor : Governor) (type : ExecutorType) : Option Nat :=
  List.lookup type governor.table

/-- The registered pool of a kind. -/
def pool? (governor : Governor) (type : ExecutorType) : Option Pool :=
  governor.place? type >>= fun place => governor.built[place]?

/-- The registered scheduled pool. -/
def scheduledPool? (governor : Governor) : Option PeriodicPool :=
  governor.scheduled >>= fun place => governor.builtScheduled[place]?

/-- The registered kinds in order. -/
def registered (governor : Governor) : List ExecutorType :=
  ExecutorType.all.filter fun type => (governor.place? type).isSome

/-- The run times of all registered pools, in the order of their kinds. -/
def report (governor : Governor) : List (ExecutorType × LatencySummary) :=
  ExecutorType.all.filterMap fun type =>
    if type = .scheduled then
      governor.scheduledPool?.map fun pool => (type, pool.latency.summary)
    else (governor.pool? type).map fun pool => (type, pool.latency.summary)

/-- Threads registered once a normal pool is. -/
def withPool (governor : Governor) (descriptor : PoolDescriptor) : ThreadAccounting :=
  { governor.accounting with
    normalCore := governor.accounting.normalCore + descriptor.core
    normalMax := governor.accounting.normalMax + descriptor.max }

/-- Threads registered once the scheduled pool is. -/
def withScheduled (governor : Governor) (core : Nat) : ThreadAccounting :=
  { governor.accounting with scheduledCore := governor.accounting.scheduledCore + core }

/-- Why a normal pool is no pool at all. -/
def shapeFault? (descriptor : PoolDescriptor) : Option RegistrationFault :=
  if descriptor.type = .scheduled then
    some (.refused
      (.configuration "the scheduled pool is registered with register_scheduled_pool"))
  else if descriptor.max = 0 ∨ descriptor.max < descriptor.core then
    some (.refused (.configuration (descriptor.type.name ++
      " pool needs 0 < core_threads <= max_threads, got " ++ Decimal.write descriptor.core ++ "/" ++
      Decimal.write descriptor.max)))
  else none

end Governor

/-- A step of a registration. -/
inductive RegistrationStep where
  | check (fault? : Governor → Option RegistrationFault)
  | change (next : Governor → Governor)

/-- Take steps one after the other, up to the first fault: the answer, and the governor as the steps
before the fault have left it. -/
def RegistrationStep.takeAll :
    List RegistrationStep → Governor → Except RegistrationFault Unit × Governor
  | [], governor => (.ok (), governor)
  | .check fault? :: rest, governor =>
    match fault? governor with
    | some fault => (.error fault, governor)
    | none => takeAll rest governor
  | .change next :: rest, governor => takeAll rest (next governor)

namespace RegistrationStep

theorem takeAll_changes (changes : List (Governor → Governor)) (governor : Governor) :
    takeAll (changes.map .change) governor =
      (.ok (), changes.foldl (fun governor next => next governor) governor) := by
  induction changes generalizing governor with
  | nil => rfl
  | cons next changes ih => exact ih (next governor)

/-- When all checks come before all changes, a row of steps that ends in a fault changes nothing. -/
theorem takeAll_checks_append (checks : List (Governor → Option RegistrationFault))
    (changes : List (Governor → Governor)) (governor : Governor) :
    takeAll (checks.map .check ++ changes.map .change) governor =
      match checks.findSome? fun fault? => fault? governor with
      | some fault => (.error fault, governor)
      | none => (.ok (), changes.foldl (fun governor next => next governor) governor) := by
  induction checks with
  | nil => exact takeAll_changes changes governor
  | cons fault? checks ih =>
      simp only [List.map_cons, List.cons_append, takeAll, List.findSome?_cons]
      cases fault? governor with
      | some fault => rfl
      | none => exact ih

end RegistrationStep

namespace Governor

/-- A second pool of a kind is refused. -/
def duplicatePool? (type : ExecutorType) (governor : Governor) : Option RegistrationFault :=
  if (governor.place? type).isSome then
    some (.refused (.duplicateRegistration "executor type" type.name))
  else none

/-- A second scheduled pool is refused. -/
def duplicateScheduled? (governor : Governor) : Option RegistrationFault :=
  if governor.scheduled.isSome then
    some (.refused (.duplicateRegistration "scheduled pool" ExecutorType.scheduled.name))
  else none

/-- What is looked at before a normal pool is registered, in order. -/
def poolChecks (descriptor : PoolDescriptor) : List (Governor → Option RegistrationFault) :=
  [fun _ => shapeFault? descriptor,
    fun governor =>
      overLimit? "per-pool core threads" descriptor.core governor.caps.perPoolCore,
    fun governor =>
      overLimit? "per-pool max threads" descriptor.max governor.caps.perPoolMax,
    duplicatePool? descriptor.type,
    fun governor => tooLarge? (governor.withPool descriptor).normalCore word64Max,
    fun governor => tooLarge? (governor.withPool descriptor).normalMax word64Max,
    fun governor =>
      overLimit? "normal core threads" (governor.withPool descriptor).normalCore
        governor.caps.normalCoreTotal,
    fun governor =>
      overLimit? "normal max threads" (governor.withPool descriptor).normalMax
        governor.caps.normalMaxTotal,
    fun _ => threadName? descriptor.threadName,
    fun _ => tooLarge? descriptor.capacity maxPermits]

/-- Put a new normal pool into the table. -/
def enterPool (descriptor : PoolDescriptor) (governor : Governor) : Governor :=
  { governor with
    built := governor.built ++ [Pool.build descriptor]
    table := governor.table ++ [(descriptor.type, governor.built.length)] }

/-- Count the threads of a new normal pool. -/
def countPool (descriptor : PoolDescriptor) (governor : Governor) : Governor :=
  { governor with accounting := governor.withPool descriptor }

/-- The steps of the registration of a normal pool. -/
def poolSteps (descriptor : PoolDescriptor) : List RegistrationStep :=
  (poolChecks descriptor).map .check ++
    [.change (enterPool descriptor), .change (countPool descriptor)]

/-- Register a normal pool. -/
def register (governor : Governor) (descriptor : PoolDescriptor) :
    Except RegistrationFault Governor :=
  match RegistrationStep.takeAll (poolSteps descriptor) governor with
  | (.error fault, _) => .error fault
  | (.ok (), governor) => .ok governor

/-- What is looked at before a scheduled pool is registered, in order. -/
def scheduledChecks (core : Nat) : List (Governor → Option RegistrationFault) :=
  [fun _ =>
      if core = 0 then
        some (.refused (.configuration "scheduled pool needs at least one thread"))
      else none,
    fun governor => overLimit? "per-pool core threads" core governor.caps.perPoolCore,
    duplicateScheduled?,
    fun governor => tooLarge? (governor.withScheduled core).scheduledCore word64Max,
    fun governor =>
      overLimit? "scheduled core threads" (governor.withScheduled core).scheduledCore
        governor.caps.scheduledCoreTotal,
    fun _ => tooLarge? core maxPermits]

/-- Make a new scheduled pool the registered one. -/
def enterScheduled (core : Nat) (daemon : Bool) (governor : Governor) : Governor :=
  { governor with
    builtScheduled := governor.builtScheduled ++ [PeriodicPool.build core daemon]
    scheduled := some governor.builtScheduled.length }

/-- Count the threads of a new scheduled pool. -/
def countScheduled (core : Nat) (governor : Governor) : Governor :=
  { governor with accounting := governor.withScheduled core }

/-- The steps of the registration of a scheduled pool. -/
def scheduledSteps (core : Nat) (daemon : Bool) : List RegistrationStep :=
  (scheduledChecks core).map .check ++
    [.change (enterScheduled core daemon), .change (countScheduled core)]

/-- Register the scheduled pool. -/
def registerScheduled (governor : Governor) (core : Nat) (daemon : Bool) :
    Except RegistrationFault Governor :=
  match RegistrationStep.takeAll (scheduledSteps core daemon) governor with
  | (.error fault, _) => .error fault
  | (.ok (), governor) => .ok governor

/-- Register pools one after the other. -/
def registerAll (governor : Governor) : List PoolDescriptor → Except RegistrationFault Governor
  | [] => .ok governor
  | descriptor :: rest =>
    match governor.register descriptor with
    | .error fault => .error fault
    | .ok governor => governor.registerAll rest

/-- The governor of the configured pools. -/
def ofConfig (config : ExecutorConfig) : Except RegistrationFault Governor :=
  match config.descriptors with
  | .error fault => .error (.refused fault.error)
  | .ok descriptors =>
    match (empty config.caps).registerAll descriptors with
    | .error fault => .error fault
    | .ok governor =>
      governor.registerScheduled config.scheduled.coreThreads config.scheduled.daemon

/-- Change a built normal pool. -/
def setPool (governor : Governor) (place : Nat) (pool : Pool) : Governor :=
  { governor with built := governor.built.set place pool }

/-- Change a built scheduled pool. -/
def setScheduled (governor : Governor) (place : Nat) (pool : PeriodicPool) : Governor :=
  { governor with builtScheduled := governor.builtScheduled.set place pool }

/-- Shut down the pools at some places. -/
def shutPools (elapsed : Duration) : List Nat → List Pool → List Pool
  | [], pools => pools
  | place :: rest, pools =>
    shutPools elapsed rest (pools.modify place fun pool => pool.shutdown elapsed)

/-- Shut down all registered pools and empty the table. -/
def stop (governor : Governor) (elapsed : Duration) : Governor :=
  { governor with
    built := shutPools elapsed (governor.table.map (·.2)) governor.built
    table := []
    builtScheduled :=
      match governor.scheduled with
      | none => governor.builtScheduled
      | some place => governor.builtScheduled.modify place fun pool => pool.shutdown elapsed
    scheduled := none }

end Governor
end ClusterMember
