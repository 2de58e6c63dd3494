import ClusterMember.Executor.Session

/-!
# The course of a pool

All that is ever submitted to one pool, in the order of submission, with what has become of it.  A
task goes by its place in this order.  Bodies begin and end, handles are aborted and the pool is
shut down in any order; what cannot happen changes nothing.
-/

namespace ClusterMember

/-- A task ended because its pool was shut down while it waited. -/
def closedFault (label : String) : Error :=
  .fault ["pool closed before " ++ label ++ " started"]

/-- What has become of a task that was submitted to a pool. -/
structure Submission (α : Type) where
  label : String
  answer : Except Error Admission
  /-- How often its body has begun. -/
  starts : Nat
  /-- What awaiting it gives, once for each time that it has ended. -/
  ends : List (Except Error α)

namespace Submission

variable {α : Type}

/-- The pool took the task. -/
def isAdmitted (submission : Submission α) : Bool :=
  match submission.answer with
  | .ok .admitted => true
  | _ => false

/-- The task runs with its submitter. -/
def isGuest (submission : Submission α) : Bool :=
  match submission.answer with
  | .ok .byCaller => true
  | _ => false

/-- The task has ended. -/
def hasEnded (submission : Submission α) : Bool := !submission.ends.isEmpty

/-- What the task is doing, unless it has ended. -/
def phase? (submission : Submission α) : Option TaskPhase :=
  if submission.hasEnded then none
  else some (if submission.starts = 0 then .waiting else .running)

/-- The pool took the task, and it has not ended. -/
def isInFlight (submission : Submission α) : Bool :=
  submission.isAdmitted && !submission.hasEnded

/-- The pool took the task, and its body runs. -/
def isRunning (submission : Submission α) : Bool :=
  submission.isInFlight && decide (submission.starts ≠ 0)

/-- The body of the task has begun, and the task has ended. -/
def hasRun (submission : Submission α) : Bool :=
  submission.hasEnded && decide (submission.starts ≠ 0)

/-- The body begins. -/
def began (submission : Submission α) : Submission α :=
  { submission with starts := submission.starts + 1 }

/-- The task ends. -/
def ended (result : Except Error α) (submission : Submission α) : Submission α :=
  { submission with ends := submission.ends ++ [result] }

end Submission

/-- A pool with all that was ever submitted to it. -/
structure PoolCourse (α : Type) where
  pool : Pool
  /-- What was submitted, oldest first. -/
  submissions : List (Submission α)

/-- What happens to a pool. -/
inductive PoolEvent (α : Type) where
  /-- A task is submitted.  The flag says whether tasks can run where the submitter runs. -/
  | spawn (label : String) (callerCanRun : Bool)
  | start (task : Nat)
  | finish (task : Nat) (ending : Ending α) (elapsed : Duration)
  /-- A task is aborted, through its handle or because its runtime goes. -/
  | abort (task : Nat) (elapsed : Duration)
  | turnAway (task : Nat)
  /-- The pool is shut down; its tasks have yet to end. -/
  | close
  /-- The pool is shut down, and all its tasks end. -/
  | shutdown (elapsed : Duration)

/-- Whether the pool is shut down by an event. -/
def PoolEvent.closes {α : Type} : PoolEvent α → Bool
  | .close | .shutdown _ => true
  | _ => false

namespace PoolCourse

variable {α : Type}

/-- A pool that was given nothing. -/
def build (descriptor : PoolDescriptor) : PoolCourse α := ⟨.build descriptor, []⟩

/-- The pool and one of its tasks have changed. -/
def update (course : PoolCourse α) (pool : Pool) (task : Nat)
    (change : Submission α → Submission α) : PoolCourse α :=
  ⟨pool, course.submissions.modify task change⟩

/-- What a handle that its pool has dropped resolves to. -/
def dropped (type : ExecutorType) : Except Error α := .error (.rejected type discardedReason)

/-- A task is submitted. -/
def spawn (course : PoolCourse α) (label : String) (callerCanRun : Bool) : PoolCourse α :=
  match course.pool.spawn course.submissions.length callerCanRun with
  | .error error =>
    { course with submissions := course.submissions ++ [⟨label, .error error, 0, []⟩] }
  | .ok (pool, .discarded) =>
    ⟨pool, course.submissions ++ [⟨label, .ok .discarded, 0, [dropped pool.type]⟩]⟩
  | .ok (pool, admission) => ⟨pool, course.submissions ++ [⟨label, .ok admission, 0, []⟩]⟩

/-- A waiting task gets going. -/
def start (course : PoolCourse α) (task : Nat) : PoolCourse α :=
  match course.pool.start task with
  | none => course
  | some pool => course.update pool task .began

/-- A body ends. -/
def finish (course : PoolCourse α) (task : Nat) (ending : Ending α) (elapsed : Duration) :
    PoolCourse α :=
  match course.pool.finish task elapsed with
  | none => course
  | some pool => course.update pool task (.ended (ending.result pool.type task))

/-- A task is aborted. -/
def abort (course : PoolCourse α) (elapsed : Duration) (task : Nat) : PoolCourse α :=
  match course.pool.abort task elapsed with
  | none => course
  | some pool => course.update pool task (.ended (cancelled pool.type))

/-- A waiting task finds that its pool is shut down. -/
def turnAway (course : PoolCourse α) (task : Nat) : PoolCourse α :=
  if course.pool.isShut = true ∧ course.pool.phase? task = some .waiting then
    match course.pool.abort task .zero, course.submissions[task]? with
    | some pool, some submission =>
      course.update pool task (.ended (.error (closedFault submission.label)))
    | _, _ => course
  else course

/-- The pool takes no more tasks. -/
def close (course : PoolCourse α) : PoolCourse α := { course with pool := course.pool.close }

/-- The pool is shut down, and all its tasks end. -/
def shutdown (course : PoolCourse α) (elapsed : Duration) : PoolCourse α :=
  (course.pool.tasks.map Prod.fst).foldl (abort · elapsed) course.close

/-- A course after an event. -/
def step (course : PoolCourse α) : PoolEvent α → PoolCourse α
  | .spawn label callerCanRun => course.spawn label callerCanRun
  | .start task => course.start task
  | .finish task ending elapsed => course.finish task ending elapsed
  | .abort task elapsed => course.abort elapsed task
  | .turnAway task => course.turnAway task
  | .close => course.close
  | .shutdown elapsed => course.shutdown elapsed

/-- A new pool after a row of events. -/
def run (descriptor : PoolDescriptor) (events : List (PoolEvent α)) : PoolCourse α :=
  events.foldl step (build descriptor)

end PoolCourse
end ClusterMember
