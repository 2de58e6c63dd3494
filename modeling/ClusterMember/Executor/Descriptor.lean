import ClusterMember.Duration
import ClusterMember.Executor.Type

/-!
# Descriptions of pools

A pool runs up to `max` tasks at once and lets a bounded number of others wait.  What it does with a
task beyond that is its rejection policy.
-/

namespace ClusterMember

/-- What a saturated pool does with another task. -/
inductive RejectionPolicy where
  | abort
  /-- The task is dropped, and awaiting it fails. -/
  | discard
  | callerRuns
  deriving DecidableEq, Repr

namespace RejectionPolicy

/-- All policies. -/
def all : List RejectionPolicy := [.abort, .discard, .callerRuns]

/-- The name of a policy in configurations. -/
def name : RejectionPolicy → String
  | .abort => "abort"
  | .discard => "discard"
  | .callerRuns => "caller_runs"

/-- The policy of a name. -/
def ofName? (name : String) : Option RejectionPolicy :=
  all.find? (·.name = name)

@[simp]
theorem ofName?_name (policy : RejectionPolicy) : ofName? policy.name = some policy := by
  cases policy <;> decide

end RejectionPolicy

/-- The waiting room of a pool. -/
inductive Queue where
  /-- Nobody waits: a task is taken only when it can run at once. -/
  | rendezvous
  | bounded (size : Nat)
  deriving DecidableEq, Repr

namespace Queue

/-- The waiting room of a configured size; zero and less mean that nobody waits. -/
def ofSize (size : Int) : Queue :=
  if size ≤ 0 then .rendezvous else .bounded size.toNat

/-- How many tasks may wait. -/
def waitingSlots : Queue → Nat
  | .rendezvous => 0
  | .bounded size => size

@[simp]
theorem waitingSlots_ofSize (size : Int) : (ofSize size).waitingSlots = size.toNat := by
  unfold ofSize
  split
  · simp only [waitingSlots]
    omega
  · rfl

end Queue

/-- What a pool is to be. -/
structure PoolDescriptor where
  type : ExecutorType
  core : Nat
  /-- How many tasks may run at once. -/
  max : Nat
  queue : Queue := .bounded 100
  keepAlive : Duration := .ofMillis 1000
  /-- Whether a stop of the node leaves running tasks behind. -/
  daemon : Bool := true
  threadName : String := type.threadName
  rejection : RejectionPolicy := .abort
  deriving DecidableEq

namespace PoolDescriptor

/-- How many tasks it takes at once, running and waiting. -/
def capacity (descriptor : PoolDescriptor) : Nat :=
  descriptor.max + descriptor.queue.waitingSlots

/-- Whether the number of tasks that it takes at once can be told in 64 bits. -/
def isCountable (descriptor : PoolDescriptor) : Bool :=
  descriptor.capacity ≤ word64Max

end PoolDescriptor

/-- Budgets of threads. -/
structure ResourceCaps where
  perPoolCore : Nat
  /-- The largest number of tasks that one normal pool runs at once. -/
  perPoolMax : Nat
  normalCoreTotal : Nat
  /-- The largest number of tasks that all normal pools run at once. -/
  normalMaxTotal : Nat
  scheduledCoreTotal : Nat
  deriving DecidableEq, Repr

/-- Threads registered so far. -/
structure ThreadAccounting where
  normalCore : Nat
  /-- Tasks that normal pools run at once. -/
  normalMax : Nat
  scheduledCore : Nat
  deriving DecidableEq, Repr

/-- Nothing registered. -/
def ThreadAccounting.zero : ThreadAccounting := ⟨0, 0, 0⟩

end ClusterMember
