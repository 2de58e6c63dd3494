import ClusterMember.Executor.Governor.Calls
import ClusterMember.Executor.Pool.Course

/-!
# The course of a session

All that can happen to the tasks of a node, in any order: pools are registered and stopped, work is
submitted, aborted and called off, and each task goes on by a step at a time.  Pools that are stopped
are taken out of the table first, then closed one by one, and their tasks end one by one; what needs
a runtime that is going may still take some steps.  What cannot happen changes nothing.
-/

namespace ClusterMember

/-- What happens to a session. -/
inductive SessionEvent (α : Type) where
  | register (descriptor : PoolDescriptor)
  | registerScheduled (core : Nat) (daemon : Bool)
  | submit (type : ExecutorType) (callerCanRun : Bool) (body : Body α)
  | submitChain (type : ExecutorType) (callerCanRun : Bool) (body : Body α) (next : α → Stage α)
  | submitDelayed (delay : Nat) (body : Body α)
  | submitCyclic (envelope : CyclicEnvelope) (script : List Bool)
  /-- A waiting task takes a slot of the pool at a place. -/
  | start (place task : Nat)
  | startScheduled (place : Nat)
  | giveThread
  /-- The blocking work of a task that was cancelled ends. -/
  | endWork (task : Nat)
  /-- A task goes on by itself. -/
  | advance (task : Nat)
  | advanceSchedule (schedule : Nat)
  | openGate (gate : String)
  /-- Time passes. -/
  | pass (ms : Nat)
  | abort (task : Nat)
  | callOff (schedule : Nat)
  /-- All pools are taken out of the table. -/
  | withdraw
  /-- The normal pool at a place takes no more tasks, once it is out of the table. -/
  | close (place : Nat)
  | closeScheduled (place : Nat)
  /-- A waiting task of some label finds its pool closed. -/
  | turnAway (task : Nat) (label : String)
  /-- A task is dropped with the runtime of a closed pool. -/
  | lose (task : Nat)
  /-- All registered pools are stopped, and all their tasks dropped at once. -/
  | shutDown

namespace Session

variable {α : Type}

/-- A session of a node without pools. -/
def empty (caps : ResourceCaps) : Session α := ofScheduler (.ofGovernor (.empty caps))

/-- Put a changed governor into its place. -/
def setGovernor (session : Session α) (governor : Governor) : Session α :=
  { session with scheduler := { session.scheduler with governor } }

/-- A governor is called; a call that it refuses leaves it as it is. -/
def call (session : Session α) (call : GovernorCall) : Session α :=
  session.setGovernor (session.scheduler.governor.perform call).2

/-- A waiting task takes a slot of the pool at a place. -/
def startTask (session : Session α) (place id : Nat) : Option (Session α) := do
  let pool ← session.scheduler.governor.built[place]?
  let pool ← pool.start id
  return (session.setPool place pool).begin id

/-- The task with a number, unless it has a result. -/
def pending? (session : Session α) (id : Nat) : Option (Task α) :=
  (session.task? id).filter (·.result.isNone)

/-- A pending task is cut off when a condition on it holds. -/
def cutIf (session : Session α) (id : Nat) (condition : Task α → Bool)
    (result : Task α → Except Error α) : Option (Session α) :=
  (session.pending? id).bind fun task =>
    if condition task then some (session.cut task (result task)) else none

/-- The places of the normal pools that are closed. -/
def closedPlaces (session : Session α) : List Nat :=
  (List.range session.scheduler.governor.built.length).filter fun place =>
    (session.scheduler.governor.built[place]?).any (·.isShut)

/-- The places of the scheduled pools that are closed. -/
def closedScheduled (session : Session α) : List Nat :=
  (List.range session.scheduler.governor.builtScheduled.length).filter fun place =>
    (session.scheduler.governor.builtScheduled[place]?).any (·.isShut)

/-- Whether a task waits for a slot of a pool that is closed. -/
def isTurnedAway (session : Session α) (task : Task α) : Bool :=
  match task.site with
  | .pool place _ =>
    (session.scheduler.governor.built[place]?).any fun pool =>
      pool.isShut && pool.phase? task.id = some .waiting
  | _ => false

/-- Take all pools out of the table. -/
def withdraw (session : Session α) : Session α :=
  session.setGovernor { session.scheduler.governor with table := [], scheduled := none }

/-- The normal pool at a place takes no more tasks. -/
def close (session : Session α) (place : Nat) : Session α :=
  session.setGovernor
    { session.scheduler.governor with built := session.scheduler.governor.built.modify place .close }

/-- The scheduled pool at a place takes no more work. -/
def closeScheduled (session : Session α) (place : Nat) : Session α :=
  session.setGovernor
    { session.scheduler.governor with
      builtScheduled := session.scheduler.governor.builtScheduled.modify place .close }

/-- What an event makes of a session, unless it cannot happen. -/
def step? (session : Session α) : SessionEvent α → Option (Session α)
  | .register descriptor => some (session.call (.register descriptor))
  | .registerScheduled core daemon => some (session.call (.registerScheduled core daemon))
  | .submit type callerCanRun body => some (session.submit type callerCanRun body).1
  | .submitChain type callerCanRun body next =>
    some (session.submitChain type callerCanRun body next).1
  | .submitDelayed delay body => some (session.submitDelayed delay body).1
  | .submitCyclic envelope script => some (session.submitCyclic envelope script).1
  | .start place task => session.startTask place task
  | .startScheduled place => session.startScheduledIn place
  | .giveThread => session.giveThread
  | .endWork task => (session.works.find? (·.task = task)).bind session.endWork
  | .advance task => (session.task? task).bind session.advanceTask
  | .advanceSchedule schedule => (session.schedule? schedule).bind session.advanceSchedule
  | .openGate gate => some (session.openGate gate)
  | .pass ms => some { session with clock := session.clock + ms }
  | .abort task => session.cutIf task (fun _ => true) fun task => cancelled task.type
  | .callOff schedule => (session.schedule? schedule).map session.callOff
  | .withdraw => some session.withdraw
  | .close place =>
    if place ∈ session.scheduler.governor.table.map (·.2) then none else some (session.close place)
  | .closeScheduled place =>
    if session.scheduler.governor.scheduled = some place then none
    else some (session.closeScheduled place)
  | .turnAway task label =>
    session.cutIf task session.isTurnedAway fun _ => .error (closedFault label)
  | .lose task =>
    session.cutIf task (·.site.isLost session.closedPlaces session.closedScheduled) fun task =>
      cancelled task.type
  | .shutDown => some session.shutDown

/-- A session after an event. -/
def step (session : Session α) (event : SessionEvent α) : Session α :=
  (session.step? event).getD session

/-- A session after a row of events. -/
def follow (session : Session α) (events : List (SessionEvent α)) : Session α :=
  events.foldl step session

/-- A session of a node after all that has happened to it. -/
def run (caps : ResourceCaps) (events : List (SessionEvent α)) : Session α :=
  (empty caps).follow events

end Session
end ClusterMember
