import ClusterMember.Executor.Session.Course
import Mathlib.Tactic.Common

/-!
# What can happen to a session

Each thing that happens needs something of the session and changes a few parts of it.  Both are told
here once for each of them: for submissions first, then for what happens by itself.
-/

namespace ClusterMember

namespace Scheduler

variable {scheduler after : Scheduler}

/-- The place of the pool that a submission of a kind is for: that of its own pool, or that of the
default pool. -/
def target? (scheduler : Scheduler) (type : ExecutorType) : Option Nat :=
  (scheduler.governor.place? type).or (scheduler.governor.place? .default)

/-- A search for a pool finds the one that a submission is for, and counts when this is not its
own. -/
theorem resolve_eq (scheduler : Scheduler) (type : ExecutorType) :
    scheduler.resolve type =
      ({ scheduler with
          fallbacks := scheduler.fallbacks + (scheduler.governor.place? type).isNone.toNat },
        (scheduler.target? type).elim (.error noDefaultPool) .ok) := by
  unfold resolve target?
  cases scheduler.governor.place? type with
  | some place => rfl
  | none => cases scheduler.governor.place? .default <;> rfl

/-- A pool takes a task, or lets its submitter run it, or drops it. -/
theorem spawnAt_cases {place task : Nat} {callerCanRun : Bool} {admission : Admission}
    (spawned : scheduler.spawnAt place task callerCanRun = .ok (after, admission)) :
    ∃ pool taken, scheduler.governor.built[place]? = some pool ∧
      pool.spawn task callerCanRun = .ok (taken, admission) ∧
      after = { scheduler with governor := scheduler.governor.setPool place taken } := by
  unfold spawnAt at spawned
  split at spawned
  next => cases spawned
  next pool found =>
    split at spawned
    next => cases spawned
    next taken answer spawns =>
      cases spawned
      exact ⟨pool, taken, found, spawns, rfl⟩

/-- A pool refuses a task, or there is none. -/
theorem spawnAt_error_cases {place task : Nat} {callerCanRun : Bool} {error : Error}
    (refused : scheduler.spawnAt place task callerCanRun = .error error) :
    (scheduler.governor.built[place]? = none ∧ error = noDefaultPool) ∨
    ∃ pool, scheduler.governor.built[place]? = some pool ∧
      pool.spawn task callerCanRun = .error error := by
  unfold spawnAt at refused
  split at refused
  next absent =>
    cases refused
    exact .inl ⟨absent, rfl⟩
  next pool found =>
    split at refused
    next refuses =>
      cases refused
      exact .inr ⟨pool, found, refuses⟩
    next => cases refused

/-- A scheduled pool takes work. -/
theorem delayAt_cases {place task : Nat} (delayed : scheduler.delayAt place task = .ok after) :
    ∃ taken,
      after = { scheduler with governor := scheduler.governor.setScheduled place taken } := by
  unfold delayAt at delayed
  split at delayed
  · cases delayed
  · split at delayed
    · cases delayed
    next taken _ => exact ⟨taken, (Except.ok.inj delayed).symm⟩

/-- A scheduled pool takes a schedule. -/
theorem cycleAt_cases {place task : Nat} {envelope : CyclicEnvelope}
    (cycled : scheduler.cycleAt place task envelope = .ok after) :
    ∃ taken,
      after = { scheduler with governor := scheduler.governor.setScheduled place taken } := by
  unfold cycleAt at cycled
  split at cycled
  · cases cycled
  · split at cycled
    · cases cycled
    next taken _ => exact ⟨taken, (Except.ok.inj cycled).symm⟩

end Scheduler

namespace Session

variable {α : Type} {session after : Session α}

/-- The normal pools that were ever built. -/
def pools (session : Session α) : List Pool := session.scheduler.governor.built

/-- The scheduled pools that were ever built. -/
def scheduledPools (session : Session α) : List PeriodicPool :=
  session.scheduler.governor.builtScheduled

/-- The pool at a place has a permit for another task. -/
def HasRoom (session : Session α) (place : Nat) : Prop :=
  ∃ pool, session.pools[place]? = some pool ∧ 0 < pool.permits

/-! ## Submissions -/

/-- A session once the pool for a submission of a kind has been looked for. -/
def looked (session : Session α) (type : ExecutorType) : Session α :=
  { session with scheduler := (session.scheduler.resolve type).1 }

/-- A task is submitted to the pool that it is for, if there is one. -/
theorem submit_cases (session : Session α) (type : ExecutorType) (callerCanRun : Bool)
    (body : Body α) :
    (session.scheduler.target? type = none ∧
      session.submit type callerCanRun body =
        (session.looked type, .error Scheduler.noDefaultPool)) ∨
    ∃ place, session.scheduler.target? type = some place ∧
      ((∃ error,
        (session.looked type).scheduler.spawnAt place session.next callerCanRun = .error error ∧
        session.submit type callerCanRun body = (session.looked type, .error error)) ∨
      ∃ scheduler admission,
        (session.looked type).scheduler.spawnAt place session.next callerCanRun =
          .ok (scheduler, admission) ∧
        session.submit type callerCanRun body =
          ({ session with scheduler }.addTask place none admission body, .ok session.next)) := by
  have resolved := Scheduler.resolve_eq session.scheduler type
  cases target : session.scheduler.target? type with
  | none =>
      refine .inl ⟨rfl, ?_⟩
      simp only [target, Option.elim_none] at resolved
      simp only [submit, Scheduler.submit, looked, resolved]
  | some place =>
      refine .inr ⟨place, rfl, ?_⟩
      simp only [target, Option.elim_some] at resolved
      cases spawned : (session.looked type).scheduler.spawnAt place session.next callerCanRun with
      | error error =>
          simp only [looked, resolved] at spawned
          refine .inl ⟨error, rfl, ?_⟩
          simp only [submit, Scheduler.submit, looked, resolved, spawned]
      | ok answer =>
          simp only [looked, resolved] at spawned
          refine .inr ⟨answer.1, answer.2, rfl, ?_⟩
          simp only [submit, Scheduler.submit, resolved, spawned]

/-- A chain is submitted once the default pool has been found. -/
theorem submitChain_cases (session : Session α) (type : ExecutorType) (callerCanRun : Bool)
    (body : Body α) (next : α → Stage α) :
    (session.scheduler.governor.place? .default = none ∧
      session.submitChain type callerCanRun body next =
        (session.looked .default, .error Scheduler.noDefaultPool)) ∨
    ∃ place, session.scheduler.governor.place? .default = some place ∧
      ((∃ after error, session.submit type callerCanRun body = (after, .error error) ∧
        session.submitChain type callerCanRun body next = (after, .error error)) ∨
      ∃ after first, session.submit type callerCanRun body = (after, .ok first) ∧
        session.submitChain type callerCanRun body next =
          ({ after with
              tasks := after.tasks ++
                [⟨after.next, .default, .chain place first next [] none, 0, none⟩]
              next := after.next + 1 }, .ok after.next)) := by
  have resolved := Scheduler.resolve_eq session.scheduler .default
  cases target : session.scheduler.governor.place? .default with
  | none =>
      refine .inl ⟨rfl, ?_⟩
      simp only [Scheduler.target?, target, Option.or_none, Option.elim_none] at resolved
      simp only [submitChain, looked, resolved]
  | some place =>
      refine .inr ⟨place, rfl, ?_⟩
      have found : session.scheduler.resolve .default = (session.scheduler, .ok place) := by
        simp only [Scheduler.resolve, target]
      cases submitted : session.submit type callerCanRun body with
      | mk after answer =>
          cases answer with
          | error error =>
              refine .inl ⟨after, error, rfl, ?_⟩
              simp only [submitChain, found, submitted]
          | ok first =>
              refine .inr ⟨after, first, rfl, ?_⟩
              simp only [submitChain, found, submitted]

/-- A delayed task is submitted, or refused. -/
theorem submitDelayed_cases (session : Session α) (delay : Nat) (body : Body α) :
    (∃ error, session.submitDelayed delay body = (session, .error error)) ∨
    ∃ place taken, (session.submitDelayed delay body).1 =
      { session.setScheduled place taken with
        tasks := session.tasks ++
          [⟨session.next, .scheduled, .delayed place (session.clock + delay) body, 0, none⟩]
        next := session.next + 1 } := by
  unfold submitDelayed
  cases session.scheduler.scheduledPlace with
  | error error => exact .inl ⟨error, rfl⟩
  | ok place =>
      cases delayed : session.scheduler.delayAt place session.next with
      | error error => exact .inl ⟨error, by simp [delayed, bind, Except.bind]⟩
      | ok scheduler =>
          obtain ⟨taken, rfl⟩ := Scheduler.delayAt_cases delayed
          refine .inr ⟨place, taken, ?_⟩
          simp [delayed, bind, Except.bind, pure, Except.pure, setScheduled]

/-- A periodic task is submitted, or refused. -/
theorem submitCyclic_cases (session : Session α) (envelope : CyclicEnvelope)
    (script : List Bool) :
    (∃ error, session.submitCyclic envelope script = (session, .error error)) ∨
    ∃ place taken, (session.submitCyclic envelope script).1 =
      { session.setScheduled place taken with
        schedules := session.schedules ++
          [⟨session.next, place, envelope, script, 0,
            session.clock + envelope.initialDelay.millis⟩]
        next := session.next + 1 } := by
  unfold submitCyclic
  cases session.scheduler.scheduledPlace with
  | error error => exact .inl ⟨error, rfl⟩
  | ok place =>
      cases cycled : session.scheduler.cycleAt place session.next envelope with
      | error error => exact .inl ⟨error, by simp [cycled, bind, Except.bind]⟩
      | ok scheduler =>
          obtain ⟨taken, rfl⟩ := Scheduler.cycleAt_cases cycled
          refine .inr ⟨place, taken, ?_⟩
          simp [cycled, bind, Except.bind, pure, Except.pure, setScheduled]

/-! ## What happens by itself -/

/-- A waiting task takes a slot, or begins with its submitter. -/
theorem startTask_cases {place id : Nat} (started : session.startTask place id = some after) :
    ∃ pool begun, session.pools[place]? = some pool ∧ pool.start id = some begun ∧
      after = (session.setPool place begun).begin id := by
  simp only [startTask, Option.bind_eq_bind, Option.bind_eq_some_iff, Option.pure_def,
    Option.some.injEq] at started
  obtain ⟨pool, found, begun, begins, rfl⟩ := started
  exact ⟨pool, begun, found, begins, rfl⟩

/-- The waiting task that was admitted first takes a slot. -/
theorem startIn_cases {place : Nat} (started : session.startIn place = some after) :
    ∃ pool id, session.pools[place]? = some pool ∧ pool.nextWaiting? = some id ∧
      session.startTask place id = some after := by
  simp only [startIn, Option.bind_eq_bind, Option.bind_eq_some_iff] at started
  obtain ⟨pool, found, id, waits, begun, begins, eq⟩ := started
  refine ⟨pool, id, found, waits, ?_⟩
  simp only [startTask, Option.bind_eq_bind, Option.bind_eq_some_iff]
  exact ⟨pool, found, begun, begins, eq⟩

theorem startScheduledIn_cases {place : Nat}
    (started : session.startScheduledIn place = some after) :
    ∃ pool id begun, session.scheduledPools[place]? = some pool ∧ pool.start = some (id, begun) ∧
      after = ((session.setScheduled place begun).began id).setSchedule id fun schedule =>
        { schedule with begun := schedule.begun + 1 } := by
  simp only [startScheduledIn, Option.bind_eq_bind, Option.bind_eq_some_iff, Option.pure_def,
    Option.some.injEq, Prod.exists] at started
  obtain ⟨pool, found, id, begun, begins, rfl⟩ := started
  exact ⟨pool, id, begun, found, begins, rfl⟩

/-- How many threads for blocking work the pool at a place has. -/
def threads (session : Session α) (place : Nat) : Nat :=
  (session.pools[place]?).elim 0 Pool.blockingThreads

/-- Blocking work that asks for a thread gets one. -/
theorem giveThread_cases (given : session.giveThread = some after) :
    ∃ work, BlockingWork.next? session.threads session.works = some work ∧
      after = { session with works := BlockingWork.give work.task session.works }.began
        work.task := by
  simp only [giveThread, Option.bind_eq_bind, Option.bind_eq_some_iff, Option.pure_def,
    Option.some.injEq] at given
  obtain ⟨work, found, rfl⟩ := given
  exact ⟨work, found, rfl⟩

/-- Blocking work that a cancelled task has left behind ends. -/
theorem endWork_cases {work : BlockingWork} (ended : session.endWork work = some after) :
    ∃ task, session.task? work.task = some task ∧ work.hasThread = true ∧
      session.isOpen work.gate = true ∧ task.result.isSome = true ∧
      after = session.leaveThread work.task := by
  simp only [endWork, Option.bind_eq_bind, Option.bind_eq_some_iff, Option.pure_def] at ended
  obtain ⟨task, found, ended⟩ := ended
  split at ended
  next ready => exact ⟨task, found, ready.1, ready.2.1, ready.2.2, (Option.some.inj ended).symm⟩
  next => cases ended

/-- The body of a task in a normal pool or with its submitter ends. -/
theorem finishIn_cases {task : Task α} {place : Nat} {thread : String} {body : Body α}
    (finished : session.finishIn task place thread body = some after) :
    ∃ pool left, session.pools[place]? = some pool ∧ session.isOpen body.gate = true ∧
      BlockingWork.isServed task.id session.works = true ∧
      pool.finish task.id .zero = some left ∧
      after = ((session.setPool place left).leaveThread task.id).resolve task.id
        ((body.run ⟨task.id, thread⟩).result task.type task.id) := by
  simp only [finishIn, Option.bind_eq_bind, Option.bind_eq_some_iff, Option.pure_def] at finished
  obtain ⟨pool, found, finished⟩ := finished
  split at finished
  next ready =>
    obtain ⟨left, leaves, eq⟩ := Option.bind_eq_some_iff.1 finished
    exact ⟨pool, left, found, ready.1, ready.2, leaves, (Option.some.inj eq).symm⟩
  next => cases finished

/-- The body of a delayed task ends. -/
theorem finishDelayed_cases {task : Task α} {place : Nat} {body : Body α}
    (finished : session.finishDelayed task place body = some after) :
    ∃ pool failed left result, session.scheduledPools[place]? = some pool ∧
      pool.finish task.id failed .zero = some left ∧
      after = (session.setScheduled place left).resolve task.id result := by
  simp only [finishDelayed, Option.bind_eq_bind, Option.bind_eq_some_iff, Option.pure_def]
    at finished
  obtain ⟨pool, found, finished⟩ := finished
  split at finished
  next =>
    obtain ⟨left, leaves, eq⟩ := Option.bind_eq_some_iff.1 finished
    exact ⟨pool, _, left, _, found, leaves, (Option.some.inj eq).symm⟩
  next => cases finished

/-- A delayed task ends, or wakes. -/
theorem advanceDelayed_cases {task : Task α} {place due : Nat} {body : Body α}
    (pending : task.result = none) (site : task.site = .delayed place due body)
    (advanced : session.advanceTask task = some after) :
    session.finishDelayed task place body = some after ∨
    ∃ pool woken, session.scheduledPools[place]? = some pool ∧ pool.wake task.id = some woken ∧
      due ≤ session.clock ∧ after = session.setScheduled place woken := by
  simp only [advanceTask, pending, site, Option.isSome_none, Bool.false_eq_true, if_false]
    at advanced
  split at advanced
  next finished => exact .inl (finished.trans advanced)
  next =>
    obtain ⟨pool, found, advanced⟩ := Option.bind_eq_some_iff.1 advanced
    split at advanced
    next isDue =>
      obtain ⟨woken, wakes, eq⟩ := Option.bind_eq_some_iff.1 advanced
      exact .inr ⟨pool, woken, found, wakes, isDue, (Option.some.inj eq).symm⟩
    next => cases advanced

/-- A task that goes on has no result yet, and goes on as its site says. -/
theorem advanceTask_cases {task : Task α} (advanced : session.advanceTask task = some after) :
    task.result = none ∧
      ((∃ place body, task.site = .pool place body ∧
        session.finishIn task place (session.threadOf place) body = some after) ∨
      (∃ place host body, task.site = .caller place host body ∧
        session.finishIn task place ((host.map session.threadOf).getD "caller") body =
          some after) ∨
      (∃ place due body, task.site = .delayed place due body ∧
        (session.finishDelayed task place body = some after ∨
        ∃ pool woken, session.scheduledPools[place]? = some pool ∧
          pool.wake task.id = some woken ∧ due ≤ session.clock ∧
          after = session.setScheduled place woken)) ∨
      (∃ place first next given second, task.site = .chain place first next given second ∧
        session.advanceChain task place first next given second = some after)) := by
  have pending : task.result = none := by
    by_contra resolved
    simp [advanceTask, Option.isSome_iff_ne_none, resolved] at advanced
  refine ⟨pending, ?_⟩
  cases site : task.site with
  | delayed place due body =>
      exact .inr (.inr (.inl ⟨place, due, body, rfl,
        advanceDelayed_cases pending site advanced⟩))
  | pool place body =>
      simp only [advanceTask, pending, site, Option.isSome_none, Bool.false_eq_true, if_false]
        at advanced
      exact .inl ⟨place, body, rfl, advanced⟩
  | caller place host body =>
      simp only [advanceTask, pending, site, Option.isSome_none, Bool.false_eq_true, if_false]
        at advanced
      exact .inr (.inl ⟨place, host, body, rfl, advanced⟩)
  | chain place first next given second =>
      simp only [advanceTask, pending, site, Option.isSome_none, Bool.false_eq_true, if_false]
        at advanced
      exact .inr (.inr (.inr ⟨place, first, next, given, second, rfl, advanced⟩))
  | nowhere => simp [advanceTask, site] at advanced

/-- A chain goes on: it ends with the error of its first stage, gives the value of that to its
transform, or ends as its second stage did. -/
theorem advanceChain_cases {task : Task α} {place first : Nat} {next : α → Stage α}
    {given : List α} {second : Option Nat}
    (advanced : session.advanceChain task place first next given second = some after) :
    (second = none ∧ ∃ error, session.result? first = some (.error error) ∧
      after = session.resolve task.id (.error error.wrap)) ∨
    (second = none ∧ ∃ value, session.result? first = some (.ok value) ∧
      after = session.submitSecond task place first next given value) ∨
    (∃ stage error, second = some stage ∧ session.result? stage = some (.error error) ∧
      after = session.resolve task.id (.error error.wrap)) ∨
    (∃ stage value, second = some stage ∧ session.result? stage = some (.ok value) ∧
      after = session.resolve task.id (.ok value)) := by
  cases second with
  | none =>
      simp only [advanceChain, Option.map_eq_some_iff] at advanced
      obtain ⟨result, known, eq⟩ := advanced
      cases result with
      | error error => exact .inl ⟨rfl, error, known, eq.symm⟩
      | ok value => exact .inr (.inl ⟨rfl, value, known, eq.symm⟩)
  | some stage =>
      simp only [advanceChain, Option.map_eq_some_iff] at advanced
      obtain ⟨result, known, eq⟩ := advanced
      cases result with
      | error error => exact .inr (.inr (.inl ⟨stage, error, rfl, known, eq.symm⟩))
      | ok value => exact .inr (.inr (.inr ⟨stage, value, rfl, known, eq.symm⟩))

/-- A periodic task goes on: it wakes, or a run of it ends. -/
theorem advanceSchedule_cases {schedule : Schedule}
    (advanced : session.advanceSchedule schedule = some after) :
    ∃ pool changed, session.scheduledPools[schedule.place]? = some pool ∧
      (after = session.setScheduled schedule.place changed ∨
        after = (session.setScheduled schedule.place changed).setSchedule schedule.id
          fun schedule => { schedule with due := nextDue session.clock schedule }) := by
  simp only [advanceSchedule, Option.bind_eq_bind, Option.bind_eq_some_iff] at advanced
  obtain ⟨pool, found, state, known, advanced⟩ := advanced
  split at advanced
  · split at advanced
    · obtain ⟨woken, -, eq⟩ := Option.bind_eq_some_iff.1 advanced
      exact ⟨pool, woken, found, .inl (Option.some.inj eq).symm⟩
    · cases advanced
  · obtain ⟨failed, -, advanced⟩ := Option.bind_eq_some_iff.1 advanced
    obtain ⟨left, -, eq⟩ := Option.bind_eq_some_iff.1 advanced
    exact ⟨pool, left, found, .inr (Option.some.inj eq).symm⟩
  · cases advanced

/-- A task that is cut off is known, has no result yet, and meets the condition. -/
theorem cutIf_cases {id : Nat} {condition : Task α → Bool} {result : Task α → Except Error α}
    (cut : session.cutIf id condition result = some after) :
    ∃ task, session.task? id = some task ∧ task.result = none ∧ condition task = true ∧
      after = session.cut task (result task) := by
  simp only [cutIf, pending?, Option.bind_eq_some_iff, Option.filter_eq_some_iff,
    Option.isNone_iff_eq_none] at cut
  obtain ⟨task, ⟨known, pending⟩, cut⟩ := cut
  split at cut
  next holds => exact ⟨task, known, pending, holds, (Option.some.inj cut).symm⟩
  next => cases cut

end Session
end ClusterMember
