import ClusterMember.Error
import ClusterMember.Executor.Descriptor
import ClusterMember.Executor.Latency

/-!
# Normal pools

A pool gives one admission permit to each task that it takes, and one of its slots to each of these
that runs.  A task gives back what it has when it ends, in whatever way.  A task that finds no
admission permit is dealt with by the rejection policy; when that lets it run with its submitter, it
takes no permit and no slot, and the pool only counts its run time.
-/

namespace ClusterMember

/-- What a task that has not ended is doing. -/
inductive TaskPhase where
  /-- It waits: for a slot of its pool, or for the runtime of its submitter. -/
  | waiting
  | running
  deriving DecidableEq, Repr

/-- A normal pool. -/
structure Pool where
  descriptor : PoolDescriptor
  permits : Nat
  slots : Nat
  /-- Admitted tasks that have not ended, in the order of their admission. -/
  tasks : List (Nat × TaskPhase)
  guests : List (Nat × TaskPhase)
  latency : Latency
  /-- Whether it is shut down. -/
  isShut : Bool

/-- What a pool does with a task. -/
inductive Admission where
  | admitted
  | discarded
  | byCaller
  deriving DecidableEq, Repr

/-- The largest number of permits that a pool can be built with. -/
def maxPermits : Nat := word64Max / 8

/-- Number of worker threads that are started for a number of core threads: there is always one. -/
def workerThreads (core : Nat) : Nat := max core 1

/-- A task is refused because its pool is shut down. -/
def shutReason : String := "pool is shut down"

/-- A task is refused because its pool is full. -/
def saturatedReason : String := "pool saturated"

/-- A task is refused because its pool is full and it cannot run with its submitter. -/
def noCallerReason : String := "pool saturated and the caller has no runtime"

/-- A task ended because it was cancelled. -/
def cancelledReason : String := "task cancelled"

/-- A task ended because it was dropped. -/
def discardedReason : String := "task discarded"

namespace Pool

/-- A pool with nothing to do. -/
def build (descriptor : PoolDescriptor) : Pool where
  descriptor := descriptor
  permits := descriptor.capacity
  slots := descriptor.max
  tasks := []
  guests := []
  latency := .empty
  isShut := false

/-- The kind of a pool. -/
def type (pool : Pool) : ExecutorType := pool.descriptor.type

/-- Number of worker threads. -/
def workers (pool : Pool) : Nat := workerThreads pool.descriptor.core

/-- How many admission permits are taken. -/
def inFlight (pool : Pool) : Nat := pool.descriptor.capacity - pool.permits

/-- What an admitted task is doing. -/
def phase? (pool : Pool) (task : Nat) : Option TaskPhase := List.lookup task pool.tasks

/-- What a task that runs with its submitter is doing. -/
def guestPhase? (pool : Pool) (task : Nat) : Option TaskPhase := List.lookup task pool.guests

/-- The refusal of a task. -/
def refusal (pool : Pool) (reason : String) : Error := .rejected pool.type reason

/-- Deal with a task that finds no permit. -/
def reject (pool : Pool) (task : Nat) (callerCanRun : Bool) : Except Error (Pool × Admission) :=
  match pool.descriptor.rejection with
  | .abort => .error (pool.refusal saturatedReason)
  | .discard => .ok (pool, .discarded)
  | .callerRuns =>
    if callerCanRun then
      .ok ({ pool with guests := pool.guests ++ [(task, .waiting)] }, .byCaller)
    else .error (pool.refusal noCallerReason)

/-- Submit a task.  The flag says whether tasks can run where the submitter runs. -/
def spawn (pool : Pool) (task : Nat) (callerCanRun : Bool) : Except Error (Pool × Admission) :=
  if pool.isShut then .error (pool.refusal shutReason)
  else if pool.permits = 0 then pool.reject task callerCanRun
  else
    .ok ({ pool with permits := pool.permits - 1, tasks := pool.tasks ++ [(task, .waiting)] },
      .admitted)

/-- Set the phase of a task. -/
def setPhase (task : Nat) (phase : TaskPhase) (tasks : List (Nat × TaskPhase)) :
    List (Nat × TaskPhase) :=
  tasks.map fun entry => if entry.1 = task then (task, phase) else entry

/-- Let a waiting task run: an admitted one if a slot is free, one of a submitter in any case. -/
def start (pool : Pool) (task : Nat) : Option Pool :=
  if pool.isShut = false ∧ 0 < pool.slots ∧ pool.phase? task = some .waiting then
    some { pool with slots := pool.slots - 1, tasks := setPhase task .running pool.tasks }
  else if pool.guestPhase? task = some .waiting then
    some { pool with guests := setPhase task .running pool.guests }
  else none

/-- The waiting task that was admitted first. -/
def nextWaiting? (pool : Pool) : Option Nat :=
  (pool.tasks.find? (·.2 = .waiting)).map (·.1)

/-- Count a run. -/
def count (pool : Pool) (elapsed : Duration) : Pool :=
  { pool with latency := pool.latency.record elapsed }

/-- Forget a task. -/
def forget (task : Nat) (tasks : List (Nat × TaskPhase)) : List (Nat × TaskPhase) :=
  tasks.filter (·.1 ≠ task)

theorem lookup_cons_eq_ite (task key : Nat) (phase : TaskPhase) (rest : List (Nat × TaskPhase)) :
    List.lookup task ((key, phase) :: rest) =
      if task = key then some phase else rest.lookup task := by
  rw [List.lookup_cons]
  split <;> simp_all

@[simp]
theorem lookup_setPhase (task : Nat) (phase : TaskPhase) (tasks : List (Nat × TaskPhase))
    (other : Nat) :
    (setPhase task phase tasks).lookup other =
      if other = task then (tasks.lookup task).map fun _ => phase else tasks.lookup other := by
  induction tasks with
  | nil => simp [setPhase]
  | cons entry rest ih =>
      obtain ⟨key, before⟩ := entry
      simp only [setPhase, List.map_cons] at ih ⊢
      by_cases key_eq : key = task
      · subst key_eq
        rw [if_pos rfl, lookup_cons_eq_ite, lookup_cons_eq_ite, lookup_cons_eq_ite, ih]
        split <;> simp
      · rw [if_neg key_eq, lookup_cons_eq_ite, lookup_cons_eq_ite, lookup_cons_eq_ite, ih]
        split
        next other_eq => simp [other_eq, key_eq]
        next => rw [if_neg (Ne.symm key_eq)]

@[simp]
theorem lookup_forget (task : Nat) (tasks : List (Nat × TaskPhase)) (other : Nat) :
    (forget task tasks).lookup other = if other = task then none else tasks.lookup other := by
  induction tasks with
  | nil => simp [forget]
  | cons entry rest ih =>
      obtain ⟨key, phase⟩ := entry
      simp only [forget] at ih ⊢
      by_cases key_eq : key = task
      · subst key_eq
        rw [List.filter_cons_of_neg (by simp), ih, lookup_cons_eq_ite]
        split <;> simp_all
      · rw [List.filter_cons_of_pos (by simp [key_eq]), lookup_cons_eq_ite, lookup_cons_eq_ite, ih]
        split
        next other_eq => simp [other_eq, key_eq]
        next => rfl

/-- The body of a running task ends, with a value, an error or a panic. -/
def finish (pool : Pool) (task : Nat) (elapsed : Duration) : Option Pool :=
  if pool.phase? task = some .running then
    some ({ pool with permits := pool.permits + 1, slots := pool.slots + 1,
                      tasks := forget task pool.tasks }.count elapsed)
  else if pool.guestPhase? task = some .running then
    some ({ pool with guests := forget task pool.guests }.count elapsed)
  else none

/-- A task is cancelled: when it has been running, its run counts. -/
def abort (pool : Pool) (task : Nat) (elapsed : Duration) : Option Pool :=
  if pool.phase? task = some .waiting then
    some { pool with permits := pool.permits + 1, tasks := forget task pool.tasks }
  else if pool.guestPhase? task = some .waiting then
    some { pool with guests := forget task pool.guests }
  else pool.finish task elapsed

/-- Take no more tasks. -/
def close (pool : Pool) : Pool :=
  { pool with isShut := true }

/-- Cancel tasks one after the other. -/
def abortAll (elapsed : Duration) : List Nat → Pool → Pool
  | [], pool => pool
  | task :: rest, pool => abortAll elapsed rest ((pool.abort task elapsed).getD pool)

/-- Take no more tasks and cancel those that are there; guests go on. -/
def shutdown (pool : Pool) (elapsed : Duration) : Pool :=
  abortAll elapsed (pool.tasks.map (·.1)) pool.close

/-- All that a start can do. -/
theorem start_cases {pool after : Pool} {task : Nat} (h : pool.start task = some after) :
    (pool.isShut = false ∧ 0 < pool.slots ∧ pool.phase? task = some .waiting ∧
      after = { pool with slots := pool.slots - 1, tasks := setPhase task .running pool.tasks }) ∨
    (pool.guestPhase? task = some .waiting ∧
      after = { pool with guests := setPhase task .running pool.guests }) := by
  unfold start at h
  split at h
  next ready =>
    left
    exact ⟨ready.1, ready.2.1, ready.2.2, (Option.some.inj h).symm⟩
  next =>
    split at h
    next waiting => exact .inr ⟨waiting, (Option.some.inj h).symm⟩
    next => cases h

/-- All that the end of a body can do. -/
theorem finish_cases {pool after : Pool} {task : Nat} {elapsed : Duration}
    (h : pool.finish task elapsed = some after) :
    (pool.phase? task = some .running ∧
      after = { pool with permits := pool.permits + 1, slots := pool.slots + 1,
                          tasks := forget task pool.tasks }.count elapsed) ∨
    (pool.guestPhase? task = some .running ∧
      after = { pool with guests := forget task pool.guests }.count elapsed) := by
  unfold finish at h
  split at h
  next running => exact .inl ⟨running, (Option.some.inj h).symm⟩
  next =>
    split at h
    next running => exact .inr ⟨running, (Option.some.inj h).symm⟩
    next => cases h

/-- All that the cancellation of a task can do. -/
theorem abort_cases {pool after : Pool} {task : Nat} {elapsed : Duration}
    (h : pool.abort task elapsed = some after) :
    (pool.phase? task = some .waiting ∧
      after = { pool with permits := pool.permits + 1, tasks := forget task pool.tasks }) ∨
    (pool.guestPhase? task = some .waiting ∧
      after = { pool with guests := forget task pool.guests }) ∨
    pool.finish task elapsed = some after := by
  unfold abort at h
  split at h
  next waiting => exact .inl ⟨waiting, (Option.some.inj h).symm⟩
  next =>
    split at h
    next waiting => exact .inr (.inl ⟨waiting, (Option.some.inj h).symm⟩)
    next => exact .inr (.inr h)

theorem finish_eq_none_iff {pool : Pool} {task : Nat} {elapsed : Duration} :
    pool.finish task elapsed = none ↔
      pool.phase? task ≠ some .running ∧ pool.guestPhase? task ≠ some .running := by
  unfold finish
  split
  next running => simp [running]
  next notRunning =>
    split
    next running => simp [running]
    next notRunning' => simp [notRunning, notRunning']

/-- A task can be cancelled as long as the pool knows it. -/
theorem abort_eq_none_iff {pool : Pool} {task : Nat} {elapsed : Duration} :
    pool.abort task elapsed = none ↔ pool.phase? task = none ∧ pool.guestPhase? task = none := by
  unfold abort
  split
  next waiting => simp [waiting]
  next notWaiting =>
    split
    next waiting => simp [waiting]
    next notWaiting' =>
      rw [finish_eq_none_iff]
      have known (phase? : Option TaskPhase) (notWaiting : phase? ≠ some .waiting) :
          phase? ≠ some .running ↔ phase? = none := by
        rcases phase? with _ | _ | _ <;> simp_all
      exact and_congr (known _ notWaiting) (known _ notWaiting')

theorem finish_descriptor {pool after : Pool} {task : Nat} {elapsed : Duration}
    (h : pool.finish task elapsed = some after) : after.descriptor = pool.descriptor := by
  rcases finish_cases h with ⟨-, rfl⟩ | ⟨-, rfl⟩ <;> rfl

/-- The end of a task changes neither what the pool is nor whether it is shut down. -/
theorem frame_of_abort {pool after : Pool} {task : Nat} {elapsed : Duration}
    (h : pool.abort task elapsed = some after) :
    after.descriptor = pool.descriptor ∧ after.isShut = pool.isShut := by
  rcases abort_cases h with ⟨-, rfl⟩ | ⟨-, rfl⟩ | finished
  · exact ⟨rfl, rfl⟩
  · exact ⟨rfl, rfl⟩
  · rcases finish_cases finished with ⟨-, rfl⟩ | ⟨-, rfl⟩ <;> exact ⟨rfl, rfl⟩

theorem abortAll_frame (elapsed : Duration) (tasks : List Nat) (pool : Pool) :
    (abortAll elapsed tasks pool).descriptor = pool.descriptor ∧
      (abortAll elapsed tasks pool).isShut = pool.isShut := by
  induction tasks generalizing pool with
  | nil => exact ⟨rfl, rfl⟩
  | cons task rest ih =>
      simp only [abortAll]
      cases h : pool.abort task elapsed with
      | none => exact ih pool
      | some after =>
          obtain ⟨descriptor_eq, isShut_eq⟩ := frame_of_abort h
          exact ⟨(ih after).1.trans descriptor_eq, (ih after).2.trans isShut_eq⟩

@[simp]
theorem shutdown_descriptor (pool : Pool) (elapsed : Duration) :
    (pool.shutdown elapsed).descriptor = pool.descriptor :=
  (abortAll_frame elapsed _ pool.close).1

@[simp]
theorem shutdown_isShut (pool : Pool) (elapsed : Duration) :
    (pool.shutdown elapsed).isShut = true :=
  (abortAll_frame elapsed _ pool.close).2

end Pool
end ClusterMember
