import ClusterMember.Executor.Session

/-!
# The course of a pool for periodic work

All work that one pool for delayed and periodic work ever took, in the order of submission, with
the runs of its bodies.  Work goes by its place in this order.  Times come, bodies begin and end,
work is asked to stop and is cancelled, and the pool is shut down in any order; what cannot happen
changes nothing.
-/

namespace ClusterMember

/-- What a call of a body comes to. -/
inductive BodyCall where
  /-- The future of the body is created and runs to an end. -/
  | created (ending : Ending Unit)
  /-- Creating the future panics. -/
  | panicked (message : Option String)

namespace BodyCall

/-- How a call ends: a panic is the same wherever it is raised. -/
def ending : BodyCall → Ending Unit
  | .created ending => ending
  | .panicked message => .panic message

/-- A call ends in an error or a panic. -/
def failed (call : BodyCall) : Bool :=
  match call.ending with
  | .value _ => false
  | _ => true

end BodyCall

/-- How a run is over. -/
inductive BodyEnd where
  | ran (call : BodyCall)
  /-- Its work was cancelled, and the body was dropped. -/
  | cut

namespace BodyEnd

/-- The body ran to an end. -/
def isComplete : BodyEnd → Bool
  | .ran _ => true
  | .cut => false

/-- The body ended in an error or a panic. -/
def hasFailed : BodyEnd → Bool
  | .ran call => call.failed
  | .cut => false

end BodyEnd

/-- The runs of delayed or periodic work. -/
structure PeriodicStory where
  isCyclic : Bool
  /-- How often its body has begun. -/
  starts : Nat
  /-- How its runs were over, oldest first. -/
  ends : List BodyEnd
  /-- How often its body had begun when it was first asked to stop. -/
  asked : Option Nat

namespace PeriodicStory

/-- Work that has not run. -/
def fresh (isCyclic : Bool) : PeriodicStory := ⟨isCyclic, 0, [], none⟩

/-- How many of its bodies run. -/
def running (story : PeriodicStory) : Nat := story.starts - story.ends.length

/-- How often the body ran to an end. -/
def executions (story : PeriodicStory) : Nat := story.ends.countP BodyEnd.isComplete

/-- How often the body ended in an error or a panic. -/
def failures (story : PeriodicStory) : Nat := story.ends.countP BodyEnd.hasFailed

/-- The body begins. -/
def began (story : PeriodicStory) : PeriodicStory := { story with starts := story.starts + 1 }

/-- A run is over. -/
def ended (bodyEnd : BodyEnd) (story : PeriodicStory) : PeriodicStory :=
  { story with ends := story.ends ++ [bodyEnd] }

/-- The work is asked to stop. -/
def ask (story : PeriodicStory) : PeriodicStory :=
  { story with asked := story.asked.or (some story.starts) }

/-- How often the body has begun since the work was first asked to stop. -/
def late (story : PeriodicStory) : Nat :=
  match story.asked with
  | none => 0
  | some before => story.starts - before

/-- The work is cancelled, during a run or not. -/
def cancelled (story : PeriodicStory) : PeriodicStory :=
  if story.running = 0 then story else story.ended .cut

end PeriodicStory

/-- A pool for delayed and periodic work with all work that it took. -/
structure PeriodicCourse where
  pool : PeriodicPool
  /-- The work, oldest first. -/
  stories : List PeriodicStory

/-- What happens to a pool for delayed and periodic work. -/
inductive PeriodicEvent where
  /-- A delayed task is submitted. -/
  | delay
  /-- A schedule is submitted. -/
  | cycle (envelope : CyclicEnvelope)
  /-- The time of sleeping work comes. -/
  | wake (task : Nat)
  /-- Waiting work gets a slot, and its body begins. -/
  | start (task : Nat)
  /-- A body ends. -/
  | finish (task : Nat) (call : BodyCall) (elapsed : Duration)
  /-- Work is asked to stop through its handle: it gets no further than to where it next waits, and
  may go on until then. -/
  | ask (task : Nat)
  /-- Work is cancelled where it waits, because it was asked to stop or because its runtime goes. -/
  | cancel (task : Nat) (elapsed : Duration)
  /-- The time of work comes in a pool that is shut down. -/
  | turnAway (task : Nat)
  /-- The pool is shut down; its work has yet to end. -/
  | close
  /-- The pool is shut down, and all its work ends. -/
  | shutdown (elapsed : Duration)

namespace PeriodicEvent

/-- The pool is shut down by an event. -/
def closes : PeriodicEvent → Bool
  | .close | .shutdown _ => true
  | _ => false

/-- Work with a number is cancelled by an event. -/
def cancels (task : Nat) : PeriodicEvent → Bool
  | .cancel other _ => decide (other = task)
  | .shutdown _ => true
  | _ => false

end PeriodicEvent

namespace PeriodicCourse

/-- A pool that was given nothing. -/
def build (core : Nat) (daemon : Bool) : PeriodicCourse := ⟨.build core daemon, []⟩

/-- The sum of what is counted of all work. -/
def total (count : PeriodicStory → Nat) : List PeriodicStory → Nat
  | [] => 0
  | story :: rest => count story + total count rest

/-- Number of bodies that run. -/
def running (course : PeriodicCourse) : Nat := total (·.running) course.stories

/-- Number of bodies that have begun. -/
def starts (course : PeriodicCourse) : Nat := total (·.starts) course.stories

/-- Number of runs that are over. -/
def ends (course : PeriodicCourse) : Nat := total (·.ends.length) course.stories

/-- What an operation of the pool on work comes to, and what it does to the runs of the work. -/
def follow (course : PeriodicCourse) (task : Nat) (change : PeriodicStory → PeriodicStory) :
    Option PeriodicPool → PeriodicCourse
  | none => course
  | some pool => ⟨pool, course.stories.modify task change⟩

/-- Work is submitted: what the pool answers, and what it then takes. -/
def take (course : PeriodicCourse) (isCyclic : Bool) : Except Error PeriodicPool → PeriodicCourse
  | .error _ => course
  | .ok pool => ⟨pool, course.stories ++ [.fresh isCyclic]⟩

/-- Work is asked to stop: the pool does nothing yet. -/
def ask (course : PeriodicCourse) (task : Nat) : PeriodicCourse :=
  { course with stories := course.stories.modify task .ask }

/-- Work is cancelled. -/
def cancel (course : PeriodicCourse) (elapsed : Duration) (task : Nat) : PeriodicCourse :=
  course.follow task .cancelled (course.pool.cancel task elapsed)

/-- The pool starts no more bodies. -/
def close (course : PeriodicCourse) : PeriodicCourse := { course with pool := course.pool.close }

/-- The pool is shut down, and all its work ends. -/
def shutdown (course : PeriodicCourse) (elapsed : Duration) : PeriodicCourse :=
  (course.pool.tasks.map (·.id)).foldl (cancel · elapsed) course.close

/-- A course after an event. -/
def step (course : PeriodicCourse) : PeriodicEvent → PeriodicCourse
  | .delay => course.take false (course.pool.spawnDelayed course.stories.length)
  | .cycle envelope => course.take true (course.pool.spawnCyclic course.stories.length envelope)
  | .wake task => course.follow task id (course.pool.wake task)
  | .start task => course.follow task .began (course.pool.giveSlot task)
  | .finish task call elapsed =>
    course.follow task (.ended (.ran call)) (course.pool.finish task call.failed elapsed)
  | .ask task => course.ask task
  | .cancel task elapsed => course.cancel elapsed task
  | .turnAway task => course.follow task id (course.pool.turnAway task)
  | .close => course.close
  | .shutdown elapsed => course.shutdown elapsed

/-- A course after a row of events. -/
def steps (course : PeriodicCourse) (events : List PeriodicEvent) : PeriodicCourse :=
  events.foldl step course

/-- A new pool after a row of events. -/
def run (core : Nat) (daemon : Bool) (events : List PeriodicEvent) : PeriodicCourse :=
  (build core daemon).steps events

end PeriodicCourse
end ClusterMember
