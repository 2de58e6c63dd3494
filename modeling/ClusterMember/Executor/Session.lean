import ClusterMember.Executor.Blocking
import ClusterMember.Executor.Scheduler
import ClusterMember.Text.Quoted

/-!
# Sessions of work

A session is a scheduler with the tasks that it was given, from their submission to their results.
A body ends once its gate is open.  A chain waits for its first stage without a permit of any pool,
and then submits the second stage, which takes the value of the first, to the default pool.  A
body that blocks begins when it has a thread for blocking work.  Time passes only when a session is
told so; everything else that can happen happens at once, in the order of submission.
-/

namespace ClusterMember

/-- What a body can learn about where it runs. -/
structure Worker where
  task : Nat
  /-- The name of its thread, without the number of the thread. -/
  thread : String

/-- How a body ends. -/
inductive Ending (α : Type) where
  | value (value : α)
  /-- With an error: the messages of a chain of causes, outermost first. -/
  | error (chain : List String)
  /-- With a panic: its message, if it has one. -/
  | panic (message : Option String)

/-- The body of a task. -/
structure Body (α : Type) where
  gate : Option String
  run : Worker → Ending α
  /-- Whether it blocks its thread while it waits. -/
  blocks : Bool := false

/-- A body that waits for nothing. -/
def Body.prompt {α : Type} (run : Worker → Ending α) : Body α where
  gate := none
  run := run

/-- How a task reports its panic. -/
def panicText (task : Nat) (message : Option String) : String :=
  "task " ++ Decimal.write task ++ " panicked" ++
    match message with
    | none => ""
    | some text => " with message " ++ Text.quoted text

/-- The body of a task that waits for work on a thread for blocking work. -/
def Body.blocking {α : Type} (label : String) (body : Body α) : Body α where
  gate := body.gate
  run worker :=
    match body.run worker with
    | .panic message =>
      .error ["blocking task " ++ label ++ " did not complete: " ++ panicText worker.task message]
    | ending => ending
  blocks := true

/-- What a transform makes of a value: the body of a second stage, unless it panics. -/
inductive Stage (α : Type) where
  | body (body : Body α)
  /-- A panic: its message, if it has one. -/
  | panic (message : Option String)

/-- Where a task is. -/
inductive Site (α : Type) where
  | pool (place : Nat) (body : Body α)
  /-- With its submitter, which runs in a pool or outside all pools; the pool at the place counts
  its run time. -/
  | caller (place : Nat) (host : Option Nat) (body : Body α)
  /-- In the scheduled pool at a place, from a time on. -/
  | delayed (place : Nat) (due : Nat) (body : Body α)
  /-- Between two stages: the default pool, the first stage, what makes the second stage, the values
  that this has been given, and the second stage once it has been submitted. -/
  | chain (place : Nat) (first : Nat) (next : α → Stage α) (given : List α) (second : Option Nat)
  /-- Nowhere: it was dropped. -/
  | nowhere

/-- What the body at a site asks a pool for before it begins, if it blocks: the place of the pool
whose thread it needs, and the gate that it waits for there.  A body that runs with a submitter
outside all pools asks none of them. -/
def Site.blocking? {α : Type} : Site α → Option (Nat × Option String)
  | .pool place body => if body.blocks then some (place, body.gate) else none
  | .caller _ host body => if body.blocks then host.map (·, body.gate) else none
  | _ => none

/-- Whether the runtime that a task at a site needs is gone with the pools at some places. -/
def Site.isLost {α : Type} (normal scheduled : List Nat) : Site α → Bool
  | .pool place _ => place ∈ normal
  | .caller _ (some host) _ => host ∈ normal
  | .caller _ none _ => false
  | .delayed place _ _ => place ∈ scheduled
  | .chain place _ _ _ _ => place ∈ normal
  | .nowhere => false

/-- A task. -/
structure Task (α : Type) where
  id : Nat
  type : ExecutorType
  site : Site α
  /-- How often its body began. -/
  starts : Nat
  /-- What awaiting it gives, once it is known. -/
  result : Option (Except Error α)

/-- A periodic task. -/
structure Schedule where
  id : Nat
  place : Nat
  envelope : CyclicEnvelope
  /-- How its runs end, whether they fail; the run after these does not end. -/
  script : List Bool
  begun : Nat
  due : Nat

/-- A scheduler at work. -/
structure Session (α : Type) where
  scheduler : Scheduler
  tasks : List (Task α)
  schedules : List Schedule
  next : Nat
  gates : List String
  /-- The time, in milliseconds. -/
  clock : Nat
  /-- The work on threads for blocking work, and the work that asks for one, in order. -/
  works : List BlockingWork

/-- The result of a task that was cancelled. -/
def cancelled {α : Type} (type : ExecutorType) : Except Error α :=
  .error (.rejected type cancelledReason)

/-- A task is cancelled, unless it has a result, when the runtime that it needs goes with the pools at
some places. -/
def Task.lose {α : Type} (normal scheduled : List Nat) (task : Task α) : Task α :=
  if task.site.isLost normal scheduled then
    { task with result := task.result.or (some (cancelled task.type)) }
  else task

/-- The result of a task whose body has ended. -/
def Ending.result {α : Type} (type : ExecutorType) (task : Nat) : Ending α → Except Error α
  | .value result => .ok result
  | .error chain => .error (.fault chain)
  | .panic message =>
    .error (.fault ["task on " ++ type.name ++ " pool panicked: " ++ panicText task message])

namespace Session

variable {α : Type}

/-- A session without tasks. -/
def ofScheduler (scheduler : Scheduler) : Session α := ⟨scheduler, [], [], 0, [], 0, []⟩

/-- The task with a number. -/
def task? (session : Session α) (id : Nat) : Option (Task α) :=
  session.tasks.find? (·.id = id)

/-- The result of a task, once it is known. -/
def result? (session : Session α) (id : Nat) : Option (Except Error α) :=
  (session.task? id).bind (·.result)

/-- The periodic task with a number. -/
def schedule? (session : Session α) (id : Nat) : Option Schedule :=
  session.schedules.find? (·.id = id)

/-- Change a task. -/
def setTask (session : Session α) (id : Nat) (change : Task α → Task α) : Session α :=
  { session with tasks := session.tasks.map fun task => if task.id = id then change task else task }

/-- Change a periodic task. -/
def setSchedule (session : Session α) (id : Nat) (change : Schedule → Schedule) : Session α :=
  { session with
    schedules := session.schedules.map fun schedule =>
      if schedule.id = id then change schedule else schedule }

/-- Settle the result of a task that has none. -/
def resolve (session : Session α) (id : Nat) (result : Except Error α) : Session α :=
  session.setTask id fun task => { task with result := task.result.or (some result) }

/-- Whether a gate is open; no gate is. -/
def isOpen (session : Session α) : Option String → Bool
  | none => true
  | some gate => gate ∈ session.gates

/-- The name of the threads of the pool at a place. -/
def threadOf (session : Session α) (place : Nat) : String :=
  "thread-" ++ ((session.scheduler.governor.built[place]?).elim "" (·.descriptor.threadName))

/-- The kind of the pool at a place. -/
def typeOf (session : Session α) (place : Nat) : ExecutorType :=
  (session.scheduler.governor.built[place]?).elim .default Pool.type

/-- A body has begun. -/
def began (session : Session α) (id : Nat) : Session α :=
  session.setTask id fun task => { task with starts := task.starts + 1 }

/-- The body of a task begins, or asks for a thread when it blocks. -/
def begin (session : Session α) (id : Nat) : Session α :=
  match (session.task? id).bind (·.site.blocking?) with
  | some (place, gate) => { session with works := session.works ++ [⟨id, place, gate, false⟩] }
  | none => session.began id

/-- Put a changed pool into its place. -/
def setPool (session : Session α) (place : Nat) (pool : Pool) : Session α :=
  { session with
    scheduler :=
      { session.scheduler with governor := session.scheduler.governor.setPool place pool } }

/-- A task that runs with its submitter gets going. -/
def startGuest (session : Session α) (place id : Nat) : Session α :=
  match session.scheduler.governor.built[place]? >>= fun pool => pool.start id with
  | some pool => (session.setPool place pool).begin id
  | none => session

/-- Add a task that a pool has dealt with. -/
def addTask (session : Session α) (place : Nat) (host : Option Nat) (admission : Admission)
    (body : Body α) : Session α :=
  let id := session.next
  let type := session.typeOf place
  let task : Task α :=
    match admission with
    | .admitted => ⟨id, type, .pool place body, 0, none⟩
    | .byCaller => ⟨id, type, .caller place host body, 0, none⟩
    | .discarded => ⟨id, type, .nowhere, 0, some (.error (.rejected type discardedReason))⟩
  let session := { session with tasks := session.tasks ++ [task], next := id + 1 }
  if admission = .byCaller then session.startGuest place id else session

/-- Submit a task; the result is its number. -/
def submit (session : Session α) (type : ExecutorType) (callerCanRun : Bool) (body : Body α) :
    Session α × Except Error Nat :=
  match session.scheduler.submit type session.next callerCanRun with
  | (scheduler, .error error) => ({ session with scheduler }, .error error)
  | (scheduler, .ok (place, admission)) =>
    let session := { session with scheduler }
    (session.addTask place none admission body, .ok session.next)

/-- Submit a chain of two stages; the result is its number. -/
def submitChain (session : Session α) (type : ExecutorType) (callerCanRun : Bool) (body : Body α)
    (next : α → Stage α) : Session α × Except Error Nat :=
  match session.scheduler.resolve .default with
  | (scheduler, .error error) => ({ session with scheduler }, .error error)
  | (scheduler, .ok place) =>
    match { session with scheduler }.submit type callerCanRun body with
    | (session, .error error) => (session, .error error)
    | (session, .ok first) =>
      let id := session.next
      let task : Task α := ⟨id, .default, .chain place first next [] none, 0, none⟩
      ({ session with tasks := session.tasks ++ [task], next := id + 1 }, .ok id)

/-- Submit a chain of two stages whose transform does not panic; the result is its number. -/
def submitThen (session : Session α) (type : ExecutorType) (callerCanRun : Bool) (body : Body α)
    (next : α → Body α) : Session α × Except Error Nat :=
  session.submitChain type callerCanRun body fun value => .body (next value)

/-- Submit a task that runs after a delay; the result is its number. -/
def submitDelayed (session : Session α) (delay : Nat) (body : Body α) :
    Session α × Except Error Nat :=
  let id := session.next
  let outcome := do
    let place ← session.scheduler.scheduledPlace
    return (place, ← session.scheduler.delayAt place id)
  match outcome with
  | .error error => (session, .error error)
  | .ok (place, scheduler) =>
    let task : Task α := ⟨id, .scheduled, .delayed place (session.clock + delay) body, 0, none⟩
    ({ session with scheduler, tasks := session.tasks ++ [task], next := id + 1 }, .ok id)

/-- Submit a periodic task; the result is its number. -/
def submitCyclic (session : Session α) (envelope : CyclicEnvelope) (script : List Bool) :
    Session α × Except Error Nat :=
  let id := session.next
  let outcome := do
    let place ← session.scheduler.scheduledPlace
    return (place, ← session.scheduler.cycleAt place id envelope)
  match outcome with
  | .error error => (session, .error error)
  | .ok (place, scheduler) =>
    let due := session.clock + envelope.initialDelay.millis
    let schedule : Schedule := ⟨id, place, envelope, script, 0, due⟩
    ({ session with scheduler, schedules := session.schedules ++ [schedule], next := id + 1 },
      .ok id)

/-- Put a changed scheduled pool into its place. -/
def setScheduled (session : Session α) (place : Nat) (pool : PeriodicPool) : Session α :=
  { session with
    scheduler :=
      { session.scheduler with governor := session.scheduler.governor.setScheduled place pool } }

/-- The work of a task leaves its thread for blocking work, if it has one. -/
def leaveThread (session : Session α) (id : Nat) : Session α :=
  { session with works := BlockingWork.leave id session.works }

/-- The body of a task in a normal pool ends, if it runs and its gate is open. -/
def finishIn (session : Session α) (task : Task α) (place : Nat) (thread : String)
    (body : Body α) : Option (Session α) := do
  let pool ← session.scheduler.governor.built[place]?
  if session.isOpen body.gate ∧ BlockingWork.isServed task.id session.works then
    let pool ← pool.finish task.id .zero
    let ending := body.run ⟨task.id, thread⟩
    return ((session.setPool place pool).leaveThread task.id).resolve task.id
      (ending.result task.type task.id)
  else none

/-- The body of a delayed task ends, if it runs and its gate is open. -/
def finishDelayed (session : Session α) (task : Task α) (place : Nat) (body : Body α) :
    Option (Session α) := do
  let pool ← session.scheduler.governor.builtScheduled[place]?
  if session.isOpen body.gate then
    let ending := body.run ⟨task.id, "thread-" ++ ExecutorType.scheduled.threadName⟩
    let pool ← pool.finish task.id (match ending with | .value _ => false | _ => true) .zero
    return (session.setScheduled place pool).resolve task.id (ending.result task.type task.id)
  else none

/-- A chain gives a value to its transform and submits what that makes of it. -/
def submitSecond (session : Session α) (task : Task α) (place first : Nat) (next : α → Stage α)
    (given : List α) (value : α) : Session α :=
  let give (second : Option Nat) (session : Session α) : Session α :=
    session.setTask task.id fun task =>
      { task with site := .chain place first next (given ++ [value]) second }
  match next value with
  | .panic message =>
    (give none session).resolve task.id ((Ending.panic message).result task.type task.id)
  | .body stage =>
    match session.scheduler.spawnAt place session.next true with
    | .error error => (give none session).resolve task.id (.error error.wrap)
    | .ok (scheduler, admission) =>
      give (some session.next)
        ({ session with scheduler }.addTask place (some place) admission stage)

/-- Go on with a chain: submit its second stage when the first has a value, and end with the second
stage or with the first error. -/
def advanceChain (session : Session α) (task : Task α) (place first : Nat) (next : α → Stage α)
    (given : List α) (second : Option Nat) : Option (Session α) :=
  match second with
  | none =>
    (session.result? first).map fun
      | .error error => session.resolve task.id (.error error.wrap)
      | .ok value => session.submitSecond task place first next given value
  | some second =>
    (session.result? second).map fun
      | .error error => session.resolve task.id (.error error.wrap)
      | .ok value => session.resolve task.id (.ok value)

/-- The next thing that happens to a task by itself. -/
def advanceTask (session : Session α) (task : Task α) : Option (Session α) :=
  if task.result.isSome then none
  else
    match task.site with
    | .pool place body => session.finishIn task place (session.threadOf place) body
    | .caller place host body =>
      session.finishIn task place ((host.map session.threadOf).getD "caller") body
    | .delayed place due body =>
      match session.finishDelayed task place body with
      | some session => some session
      | none => do
        let pool ← session.scheduler.governor.builtScheduled[place]?
        if due ≤ session.clock then
          return session.setScheduled place (← pool.wake task.id)
        else none
    | .chain place first next given second =>
      session.advanceChain task place first next given second
    | .nowhere => none

/-- When the run after one that has ended now is due. -/
def nextDue (clock : Nat) (schedule : Schedule) : Nat :=
  if schedule.envelope.fixedRate then schedule.due + schedule.envelope.period.millis
  else clock + schedule.envelope.period.millis

/-- The next thing that happens to a periodic task by itself. -/
def advanceSchedule (session : Session α) (schedule : Schedule) : Option (Session α) := do
  let pool ← session.scheduler.governor.builtScheduled[schedule.place]?
  match ← pool.find? schedule.id with
  | { phase := .sleeping, .. } =>
    if schedule.due ≤ session.clock then
      return session.setScheduled schedule.place (← pool.wake schedule.id)
    else none
  | { phase := .running, .. } =>
    let failed ← schedule.script[schedule.begun - 1]?
    let pool ← pool.finish schedule.id failed .zero
    return (session.setScheduled schedule.place pool).setSchedule schedule.id fun schedule =>
      { schedule with due := nextDue session.clock schedule }
  | _ => none

/-- A waiting task of the normal pool at a place takes a slot. -/
def startIn (session : Session α) (place : Nat) : Option (Session α) := do
  let pool ← session.scheduler.governor.built[place]?
  let id ← pool.nextWaiting?
  let pool ← pool.start id
  return (session.setPool place pool).begin id

/-- Waiting work of the scheduled pool at a place takes a slot. -/
def startScheduledIn (session : Session α) (place : Nat) : Option (Session α) := do
  let pool ← session.scheduler.governor.builtScheduled[place]?
  let (id, pool) ← pool.start
  return ((session.setScheduled place pool).began id).setSchedule id fun schedule =>
    { schedule with begun := schedule.begun + 1 }

/-- Blocking work gets a thread, and the body that asked for it begins. -/
def giveThread (session : Session α) : Option (Session α) := do
  let threads (place : Nat) : Nat :=
    (session.scheduler.governor.built[place]?).elim 0 Pool.blockingThreads
  let work ← BlockingWork.next? threads session.works
  return { session with works := BlockingWork.give work.task session.works }.began work.task

/-- Work of a task that has been cancelled ends, if it has a thread and its gate is open. -/
def endWork (session : Session α) (work : BlockingWork) : Option (Session α) := do
  let task ← session.task? work.task
  if work.hasThread ∧ session.isOpen work.gate ∧ task.result.isSome then
    return session.leaveThread work.task
  else none

/-- The next thing that happens by itself at this time. -/
def advance (session : Session α) : Option (Session α) :=
  let governor := session.scheduler.governor
  ((List.range governor.built.length).findSome? session.startIn).or <|
  ((List.range governor.builtScheduled.length).findSome? session.startScheduledIn).or <|
  session.giveThread.or <|
  (session.works.findSome? session.endWork).or <|
  (session.tasks.findSome? session.advanceTask).or <|
  session.schedules.findSome? session.advanceSchedule

/-- Let things happen. -/
def settleWith : (fuel : Nat) → Session α → Session α
  | 0, session => session
  | fuel + 1, session =>
    match session.advance with
    | none => session
    | some session => settleWith fuel session

/-- More than all that can happen: no task does more than eight things, and no run of a periodic
task more than three. -/
def bound (session : Session α) : Nat :=
  session.schedules.foldl (fun total schedule => total + 3 * (schedule.script.length + 2))
    (12 * session.tasks.length + 1)

/-- Let everything happen that happens at this time. -/
def settle (session : Session α) : Session α :=
  settleWith session.bound session

/-- The times that sleeping work waits for. -/
def dues (session : Session α) : List Nat :=
  let sleeps (place id : Nat) : Bool :=
    match session.scheduler.governor.builtScheduled[place]? >>= fun pool => pool.find? id with
    | some { phase := .sleeping, .. } => true
    | _ => false
  session.tasks.filterMap (fun task =>
    match task.site with
    | .delayed place due _ => if sleeps place task.id then some due else none
    | _ => none) ++
  session.schedules.filterMap fun schedule =>
    if sleeps schedule.place schedule.id then some schedule.due else none

/-- Let time pass until something has come about, as long as sleeping work wakes. -/
def waitWith (isDone : Session α → Bool) : (fuel : Nat) → Session α → Session α
  | 0, session => session
  | fuel + 1, session =>
    let session := session.settle
    if isDone session then session
    else
      match session.dues.min? with
      | none => session
      | some due => waitWith isDone fuel { session with clock := max session.clock due }

/-- Let time pass until something has come about, as long as sleeping work wakes. -/
def waitFor (session : Session α) (isDone : Session α → Bool) : Session α :=
  waitWith isDone session.bound session

/-- Let a span of time pass. -/
def pause (session : Session α) (ms : Nat) : Session α :=
  let until_ := session.clock + ms
  let session := session.waitFor fun session =>
    match session.dues.min? with
    | none => true
    | some due => until_ < due
  { session with clock := max session.clock until_ }.settle

/-- Open a gate for good. -/
def openGate (session : Session α) (gate : String) : Session α :=
  { session with gates := gate :: session.gates }

/-- Open a gate for good, and let everything happen. -/
def release (session : Session α) (gate : String) : Session α :=
  (session.openGate gate).settle

/-- A task gives back what it has in its pool. -/
def giveBack (session : Session α) (task : Task α) : Session α :=
  match task.site with
  | .pool place _ | .caller place _ _ =>
    ((session.scheduler.governor.built[place]? >>= fun pool => pool.abort task.id .zero).map
      (session.setPool place)).getD session
  | .delayed place _ _ =>
    ((session.scheduler.governor.builtScheduled[place]? >>= fun pool =>
      pool.cancel task.id .zero).map (session.setScheduled place)).getD session
  | _ => session

/-- A task ends before its body does. -/
def cut (session : Session α) (task : Task α) (result : Except Error α) : Session α :=
  (session.giveBack task).resolve task.id result

/-- Cancel a task that has no result, and let everything happen. -/
def abort (session : Session α) (id : Nat) : Session α :=
  match session.task? id with
  | none => session
  | some task =>
    if task.result.isSome then session else (session.cut task (cancelled task.type)).settle

/-- A periodic task is called off. -/
def callOff (session : Session α) (schedule : Schedule) : Session α :=
  ((session.scheduler.governor.builtScheduled[schedule.place]? >>= fun pool =>
    pool.cancel schedule.id .zero).map (session.setScheduled schedule.place)).getD session

/-- Cancel a periodic task, and let everything happen. -/
def cancel (session : Session α) (id : Nat) : Session α :=
  match session.schedule? id with
  | none => session
  | some schedule => (session.callOff schedule).settle

/-- Shut down all registered pools: what they have not finished is cancelled. -/
def shutDown (session : Session α) : Session α :=
  let normal := session.scheduler.governor.table.map (·.2)
  let scheduled := session.scheduler.governor.scheduled.toList
  { session with
    scheduler := session.scheduler.stop .zero
    tasks := session.tasks.map (.lose normal scheduled) }

/-- Shut down all registered pools, and let everything happen. -/
def stop (session : Session α) : Session α := session.shutDown.settle

/-- How often a schedule has run, how often it has failed, and whether it is over. -/
def progress (session : Session α) (id : Nat) : Option (Nat × Nat × Bool) := do
  let schedule ← session.schedule? id
  let pool ← session.scheduler.governor.builtScheduled[schedule.place]?
  let task ← pool.find? id
  return (task.executions, task.failures, task.phase = .ended)

/-- Whether a periodic task has reached the run that does not end. -/
def isEndless (session : Session α) (id : Nat) : Bool :=
  match session.schedule? id with
  | none => true
  | some schedule => schedule.script.length < schedule.begun

end Session
end ClusterMember
