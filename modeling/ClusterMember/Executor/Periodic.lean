import ClusterMember.Error
import ClusterMember.Executor.Envelope
import ClusterMember.Executor.Pool

/-!
# The pool for delayed and periodic work

Each core thread is a slot for one body.  A delayed task sleeps, waits for a slot and runs once.  A
schedule sleeps, waits, runs and sleeps again until it is cancelled; a run that ends in an error or
a panic is a failure and changes nothing else.  Slots are given in the order in which they are
asked for.
-/

namespace ClusterMember

/-- What delayed or periodic work is doing. -/
inductive PeriodicPhase where
  | sleeping
  | waiting
  | running
  | ended
  deriving DecidableEq, Repr

/-- Delayed or periodic work. -/
structure PeriodicTask where
  id : Nat
  /-- Whether it runs again and again. -/
  isCyclic : Bool
  phase : PeriodicPhase
  /-- How often its body has run to an end. -/
  executions : Nat
  failures : Nat
  deriving DecidableEq, Repr

/-- The pool for delayed and periodic work. -/
structure PeriodicPool where
  core : Nat
  /-- Whether a stop of the node leaves its tasks behind. -/
  daemon : Bool
  slots : Nat
  /-- All work that it was ever given. -/
  tasks : List PeriodicTask
  /-- The work that waits for a slot, in the order of asking. -/
  queue : List Nat
  latency : Latency
  /-- Whether it is shut down. -/
  isShut : Bool

/-- A periodic task has no time between its runs. -/
def zeroPeriodFault (label : String) : Error :=
  .configuration ("cyclic task " ++ label ++ " needs a non-zero period")

namespace PeriodicPool

/-- A pool with nothing to do. -/
def build (core : Nat) (daemon : Bool) : PeriodicPool where
  core := core
  daemon := daemon
  slots := max core 1
  tasks := []
  queue := []
  latency := .empty
  isShut := false

/-- Number of worker threads. -/
def workers (pool : PeriodicPool) : Nat := workerThreads pool.core

/-- The work with a number. -/
def find? (pool : PeriodicPool) (task : Nat) : Option PeriodicTask :=
  pool.tasks.find? (·.id = task)

/-- What the work with a number is doing. -/
def phase? (pool : PeriodicPool) (task : Nat) : Option PeriodicPhase :=
  (pool.find? task).map (·.phase)

/-- Change the work with a number. -/
def modify (task : Nat) (change : PeriodicTask → PeriodicTask) (tasks : List PeriodicTask) :
    List PeriodicTask :=
  tasks.map fun entry => if entry.id = task then change entry else entry

/-- The refusal of work. -/
def shutFault : Error := .rejected .scheduled shutReason

/-- Take work that starts asleep. -/
def add (pool : PeriodicPool) (task : Nat) (isCyclic : Bool) : PeriodicPool :=
  { pool with tasks := pool.tasks ++ [⟨task, isCyclic, .sleeping, 0, 0⟩] }

/-- Take a delayed task. -/
def spawnDelayed (pool : PeriodicPool) (task : Nat) : Except Error PeriodicPool :=
  if pool.isShut then .error shutFault else .ok (pool.add task false)

/-- Take a schedule. -/
def spawnCyclic (pool : PeriodicPool) (task : Nat) (envelope : CyclicEnvelope) :
    Except Error PeriodicPool :=
  if pool.isShut then .error shutFault
  else if envelope.period = .zero then .error (zeroPeriodFault envelope.label)
  else .ok (pool.add task true)

/-- The time of sleeping work comes: it asks for a slot. -/
def wake (pool : PeriodicPool) (task : Nat) : Option PeriodicPool :=
  match pool.find? task with
  | some { phase := .sleeping, .. } =>
    if pool.isShut then none
    else
      some { pool with
        tasks := modify task (fun entry => { entry with phase := .waiting }) pool.tasks
        queue := pool.queue ++ [task] }
  | _ => none

/-- Give a free slot to the work that asked first, which the result names. -/
def start (pool : PeriodicPool) : Option (Nat × PeriodicPool) :=
  match pool.queue with
  | [] => none
  | task :: rest =>
    if pool.isShut = false ∧ 0 < pool.slots then
      some (task, { pool with
        slots := pool.slots - 1
        queue := rest
        tasks := modify task (fun entry => { entry with phase := .running }) pool.tasks })
    else none

/-- Give a free slot to waiting work, whatever its place in the queue. -/
def giveSlot (pool : PeriodicPool) (task : Nat) : Option PeriodicPool :=
  if pool.phase? task = some .waiting ∧ pool.isShut = false ∧ 0 < pool.slots then
    some { pool with
      slots := pool.slots - 1
      queue := pool.queue.filter (· ≠ task)
      tasks := modify task (fun entry => { entry with phase := .running }) pool.tasks }
  else none

/-- What work is when it gets no slot any more: a schedule sleeps until its next time. -/
def refused (task : PeriodicTask) : PeriodicTask :=
  { task with phase := if task.isCyclic then .sleeping else .ended }

/-- The time of work has come, and its pool is shut down. -/
def turnAway (pool : PeriodicPool) (task : Nat) : Option PeriodicPool :=
  if pool.isShut = true ∧
      (pool.phase? task = some .sleeping ∨ pool.phase? task = some .waiting) then
    some { pool with
      queue := pool.queue.filter (· ≠ task)
      tasks := modify task refused pool.tasks }
  else none

/-- What work is after a run: a schedule sleeps again and counts the run. -/
def afterRun (failed : Bool) (task : PeriodicTask) : PeriodicTask :=
  if task.isCyclic then
    { task with phase := .sleeping, executions := task.executions + 1
                failures := if failed then task.failures + 1 else task.failures }
  else { task with phase := .ended }

/-- The body of running work ends; the flag says that it ended in an error or a panic. -/
def finish (pool : PeriodicPool) (task : Nat) (failed : Bool) (elapsed : Duration) :
    Option PeriodicPool :=
  match pool.find? task with
  | some { phase := .running, .. } =>
    some { pool with slots := pool.slots + 1, latency := pool.latency.record elapsed
                     tasks := modify task (afterRun failed) pool.tasks }
  | _ => none

/-- Work is cancelled: when its body has been running, the run time counts, and the run does not. -/
def cancel (pool : PeriodicPool) (task : Nat) (elapsed : Duration) : Option PeriodicPool :=
  let ended := modify task (fun entry => { entry with phase := .ended }) pool.tasks
  match pool.find? task with
  | some { phase := .sleeping, .. } => some { pool with tasks := ended }
  | some { phase := .waiting, .. } =>
    some { pool with tasks := ended, queue := pool.queue.filter (· ≠ task) }
  | some { phase := .running, .. } =>
    some { pool with tasks := ended, slots := pool.slots + 1
                     latency := pool.latency.record elapsed }
  | _ => none

/-- Take no more work and start no more bodies. -/
def close (pool : PeriodicPool) : PeriodicPool :=
  { pool with isShut := true }

/-- Cancel work one after the other. -/
def cancelAll (elapsed : Duration) : List Nat → PeriodicPool → PeriodicPool
  | [], pool => pool
  | task :: rest, pool => cancelAll elapsed rest ((pool.cancel task elapsed).getD pool)

/-- Take no more work and cancel what is there. -/
def shutdown (pool : PeriodicPool) (elapsed : Duration) : PeriodicPool :=
  cancelAll elapsed (pool.tasks.map (·.id)) pool.close

theorem isShut_of_cancel {pool after : PeriodicPool} {task : Nat} {elapsed : Duration}
    (h : pool.cancel task elapsed = some after) : after.isShut = pool.isShut := by
  simp only [cancel] at h
  split at h <;> cases h <;> rfl

@[simp]
theorem cancelAll_isShut (elapsed : Duration) (tasks : List Nat) (pool : PeriodicPool) :
    (cancelAll elapsed tasks pool).isShut = pool.isShut := by
  induction tasks generalizing pool with
  | nil => rfl
  | cons task rest ih =>
      rw [cancelAll, ih]
      cases h : pool.cancel task elapsed with
      | none => rfl
      | some after => exact isShut_of_cancel h

@[simp]
theorem shutdown_isShut (pool : PeriodicPool) (elapsed : Duration) :
    (pool.shutdown elapsed).isShut = true :=
  cancelAll_isShut elapsed _ pool.close

end PeriodicPool
end ClusterMember
