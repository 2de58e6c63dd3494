import ClusterMember.Executor.Governor

/-!
# Routing of tasks

A task goes to the pool of its kind.  When no such pool is registered, the attempt to reroute it to
the default pool is counted, and the task goes there if that pool is registered.
-/

namespace ClusterMember

/-- The pools of a node with the count of reroutings. -/
structure Scheduler where
  governor : Governor
  /-- How often a pool was looked for in vain. -/
  fallbacks : Nat

namespace Scheduler

/-- A scheduler that has routed nothing. -/
def ofGovernor (governor : Governor) : Scheduler := ⟨governor, 0⟩

/-- There is no pool to reroute to. -/
def noDefaultPool : Error := .configuration "no default pool registered"

/-- There is no pool for delayed and periodic work. -/
def noScheduledPool : Error := .configuration "no scheduled pool registered"

/-- The place of the pool that takes tasks of a kind. -/
def resolve (scheduler : Scheduler) (type : ExecutorType) : Scheduler × Except Error Nat :=
  match scheduler.governor.place? type with
  | some place => (scheduler, .ok place)
  | none =>
    ({ scheduler with fallbacks := scheduler.fallbacks + 1 },
      match scheduler.governor.place? .default with
      | some place => .ok place
      | none => .error noDefaultPool)

/-- Submit a task directly to a built pool. -/
def spawnAt (scheduler : Scheduler) (place task : Nat) (callerCanRun : Bool) :
    Except Error (Scheduler × Admission) :=
  match scheduler.governor.built[place]? with
  | none => .error noDefaultPool
  | some pool =>
    match pool.spawn task callerCanRun with
    | .error error => .error error
    | .ok (pool, admission) =>
      .ok ({ scheduler with governor := scheduler.governor.setPool place pool }, admission)

/-- Submit a task of a kind: the place of the pool that dealt with it, and what it did. -/
def submit (scheduler : Scheduler) (type : ExecutorType) (task : Nat) (callerCanRun : Bool) :
    Scheduler × Except Error (Nat × Admission) :=
  match scheduler.resolve type with
  | (scheduler, .error error) => (scheduler, .error error)
  | (scheduler, .ok place) =>
    match scheduler.spawnAt place task callerCanRun with
    | .error error => (scheduler, .error error)
    | .ok (scheduler, admission) => (scheduler, .ok (place, admission))

/-- Submit delayed work to a built scheduled pool. -/
def delayAt (scheduler : Scheduler) (place task : Nat) : Except Error Scheduler :=
  match scheduler.governor.builtScheduled[place]? with
  | none => .error noScheduledPool
  | some pool =>
    match pool.spawnDelayed task with
    | .error error => .error error
    | .ok pool =>
      .ok { scheduler with governor := scheduler.governor.setScheduled place pool }

/-- Submit a schedule to a built scheduled pool. -/
def cycleAt (scheduler : Scheduler) (place task : Nat) (envelope : CyclicEnvelope) :
    Except Error Scheduler :=
  match scheduler.governor.builtScheduled[place]? with
  | none => .error noScheduledPool
  | some pool =>
    match pool.spawnCyclic task envelope with
    | .error error => .error error
    | .ok pool =>
      .ok { scheduler with governor := scheduler.governor.setScheduled place pool }

/-- The place of the registered scheduled pool. -/
def scheduledPlace (scheduler : Scheduler) : Except Error Nat :=
  match scheduler.governor.scheduled with
  | some place => .ok place
  | none => .error noScheduledPool

/-- Shut down all registered pools. -/
def stop (scheduler : Scheduler) (elapsed : Duration) : Scheduler :=
  { scheduler with governor := scheduler.governor.stop elapsed }

end Scheduler
end ClusterMember
