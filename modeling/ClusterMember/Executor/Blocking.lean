import ClusterMember.Executor.Pool

/-!
# Threads for blocking work

Work that blocks does not run on the worker threads of its pool.  It asks for a thread of its own,
and a pool has as many of these as it has slots.  Work keeps its thread until it ends, also when
its task was cancelled and gave back its slot, so that later work may find a slot but no thread.
Threads are given in the order of asking.  Once a pool is shut down, its worker threads take
blocking work as well.
-/

namespace ClusterMember

/-- Work that has a thread for blocking work or asks for one. -/
structure BlockingWork where
  task : Nat
  place : Nat
  gate : Option String
  /-- Whether it has its thread. -/
  hasThread : Bool
  deriving DecidableEq, Repr

namespace Pool

/-- Number of threads that take blocking work. -/
def blockingThreads (pool : Pool) : Nat :=
  max pool.descriptor.max 1 + if pool.isShut then pool.workers else 0

end Pool

namespace BlockingWork

/-- How many threads of the pool at a place are taken. -/
def taken (place : Nat) (works : List BlockingWork) : Nat :=
  works.countP fun work => work.hasThread && work.place = place

/-- The work that gets the next thread, when the pools have so many of them. -/
def next? (threads : Nat → Nat) (works : List BlockingWork) : Option BlockingWork :=
  works.find? fun work => !work.hasThread && taken work.place works < threads work.place

/-- Give a thread to the work of a task. -/
def give (task : Nat) (works : List BlockingWork) : List BlockingWork :=
  works.map fun work => if work.task = task then { work with hasThread := true } else work

/-- The work of a task has ended. -/
def leave (task : Nat) (works : List BlockingWork) : List BlockingWork :=
  works.filter (·.task ≠ task)

/-- Whether a task waits for no thread. -/
def isServed (task : Nat) (works : List BlockingWork) : Bool :=
  works.all fun work => work.task ≠ task || work.hasThread

end BlockingWork
end ClusterMember
