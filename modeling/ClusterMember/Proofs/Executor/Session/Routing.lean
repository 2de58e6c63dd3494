import ClusterMember.Proofs.Executor.Registration
import ClusterMember.Proofs.Executor.Session.Steps

/-!
# Reroutings and their count

A submission looks for the pool of its kind, and a chain looks for the default pool before that.  The
scheduler counts every search that finds no pool of the kind itself, before it looks for the default
pool.  So its count is the number of submissions that were handed to the default pool for want of
their own, and of those that were refused for want of a default pool.
-/

namespace ClusterMember

namespace SessionEvent

variable {α : Type}

/-- Whether a submission has no pool of its kind and is handed to the default pool. -/
def isRerouted (governor : Governor) : SessionEvent α → Bool
  | .submit type _ _ | .submitChain type _ _ _ =>
    (governor.place? type).isNone && (governor.place? .default).isSome
  | _ => false

/-- Whether a submission needs the default pool, and there is none. -/
def isStranded (governor : Governor) : SessionEvent α → Bool
  | .submit type _ _ => (governor.place? type).isNone && (governor.place? .default).isNone
  | .submitChain .. => (governor.place? .default).isNone
  | _ => false

/-- Whether tasks can run where a submission comes from. -/
def callerCanRun : SessionEvent α → Bool
  | .submit _ callerCanRun _ | .submitChain _ callerCanRun _ _ => callerCanRun
  | _ => false

end SessionEvent

namespace Session

variable {α : Type}

/-- The answer to a submission: the number of the task or of the chain. -/
def answer? (session : Session α) : SessionEvent α → Option (Except Error Nat)
  | .submit type callerCanRun body => some (session.submit type callerCanRun body).2
  | .submitChain type callerCanRun body next =>
    some (session.submitChain type callerCanRun body next).2
  | _ => none

/-- The count of a session. -/
def fallbacks (session : Session α) : Nat := session.scheduler.fallbacks

/-- How many events of a row are of a sort that depends on the pools at that time. -/
def tally (isOfSort : Governor → SessionEvent α → Bool) :
    Session α → List (SessionEvent α) → Nat
  | _, [] => 0
  | session, event :: events =>
    (isOfSort session.scheduler.governor event).toNat +
      tally isOfSort (session.step event) events

/-! ## What leaves the count alone -/

@[simp]
theorem fallbacks_setTask (session : Session α) (id : Nat) (change : Task α → Task α) :
    (session.setTask id change).fallbacks = session.fallbacks := rfl

@[simp]
theorem fallbacks_setSchedule (session : Session α) (id : Nat) (change : Schedule → Schedule) :
    (session.setSchedule id change).fallbacks = session.fallbacks := rfl

@[simp]
theorem fallbacks_resolve (session : Session α) (id : Nat) (result : Except Error α) :
    (session.resolve id result).fallbacks = session.fallbacks := rfl

@[simp]
theorem fallbacks_began (session : Session α) (id : Nat) :
    (session.began id).fallbacks = session.fallbacks := rfl

@[simp]
theorem fallbacks_begin (session : Session α) (id : Nat) :
    (session.begin id).fallbacks = session.fallbacks := by
  unfold begin
  split <;> rfl

@[simp]
theorem fallbacks_setPool (session : Session α) (place : Nat) (pool : Pool) :
    (session.setPool place pool).fallbacks = session.fallbacks := rfl

@[simp]
theorem fallbacks_setScheduled (session : Session α) (place : Nat) (pool : PeriodicPool) :
    (session.setScheduled place pool).fallbacks = session.fallbacks := rfl

@[simp]
theorem fallbacks_setGovernor (session : Session α) (governor : Governor) :
    (session.setGovernor governor).fallbacks = session.fallbacks := rfl

@[simp]
theorem fallbacks_leaveThread (session : Session α) (id : Nat) :
    (session.leaveThread id).fallbacks = session.fallbacks := rfl

@[simp]
theorem fallbacks_startGuest (session : Session α) (place id : Nat) :
    (session.startGuest place id).fallbacks = session.fallbacks := by
  unfold startGuest
  split
  · simp
  · rfl

@[simp]
theorem fallbacks_addTask (session : Session α) (place : Nat) (host : Option Nat)
    (admission : Admission) (body : Body α) :
    (session.addTask place host admission body).fallbacks = session.fallbacks := by
  cases admission with
  | admitted => rfl
  | discarded => rfl
  | byCaller => exact fallbacks_startGuest _ _ _

/-- A change that only puts a pool into its place counts nothing, if it happens at all. -/
theorem fallbacks_getD_map {β : Type} (session : Session α) (found : Option β)
    (put : β → Session α) (keeps : ∀ value, (put value).fallbacks = session.fallbacks) :
    ((found.map put).getD session).fallbacks = session.fallbacks := by
  cases found with
  | none => rfl
  | some value => exact keeps value

@[simp]
theorem fallbacks_giveBack (session : Session α) (task : Task α) :
    (session.giveBack task).fallbacks = session.fallbacks := by
  unfold giveBack
  split
  · exact fallbacks_getD_map _ _ _ fun _ => rfl
  · exact fallbacks_getD_map _ _ _ fun _ => rfl
  · exact fallbacks_getD_map _ _ _ fun _ => rfl
  · rfl

@[simp]
theorem fallbacks_callOff (session : Session α) (schedule : Schedule) :
    (session.callOff schedule).fallbacks = session.fallbacks :=
  fallbacks_getD_map _ _ _ fun _ => rfl

variable {session after : Session α}

theorem fallbacks_submitSecond (session : Session α) (task : Task α) (place first : Nat)
    (next : α → Stage α) (given : List α) (value : α) :
    (session.submitSecond task place first next given value).fallbacks = session.fallbacks := by
  unfold submitSecond
  split
  · rfl
  · split
    · rfl
    next spawned =>
      obtain ⟨pool, taken, -, -, rfl⟩ := Scheduler.spawnAt_cases spawned
      rw [fallbacks_setTask, fallbacks_addTask]
      rfl

theorem fallbacks_of_advanceChain {task : Task α} {place first : Nat} {next : α → Stage α}
    {given : List α} {second : Option Nat}
    (advanced : session.advanceChain task place first next given second = some after) :
    after.fallbacks = session.fallbacks := by
  rcases advanceChain_cases advanced with ⟨-, error, -, rfl⟩ | ⟨-, value, -, rfl⟩ |
    ⟨stage, error, -, -, rfl⟩ | ⟨stage, value, -, -, rfl⟩
  · rfl
  · exact fallbacks_submitSecond session task place first next given value
  · rfl
  · rfl

theorem fallbacks_of_advanceTask {task : Task α}
    (advanced : session.advanceTask task = some after) : after.fallbacks = session.fallbacks := by
  obtain ⟨-, ⟨place, body, -, finished⟩ | ⟨place, host, body, -, finished⟩ |
    ⟨place, due, body, -, finished | ⟨pool, woken, -, -, -, rfl⟩⟩ |
    ⟨place, first, next, given, second, -, advanced⟩⟩ := advanceTask_cases advanced
  · obtain ⟨pool, left, -, -, -, -, rfl⟩ := finishIn_cases finished
    rfl
  · obtain ⟨pool, left, -, -, -, -, rfl⟩ := finishIn_cases finished
    rfl
  · obtain ⟨pool, failed, left, result, -, -, rfl⟩ := finishDelayed_cases finished
    rfl
  · rfl
  · exact fallbacks_of_advanceChain advanced

theorem fallbacks_of_cutIf {id : Nat} {condition : Task α → Bool}
    {result : Task α → Except Error α} (cut : session.cutIf id condition result = some after) :
    after.fallbacks = session.fallbacks := by
  obtain ⟨task, -, -, -, rfl⟩ := cutIf_cases cut
  exact fallbacks_giveBack session task

/-! ## What a submission counts -/

theorem fallbacks_looked (session : Session α) (type : ExecutorType) :
    (session.looked type).fallbacks =
      session.fallbacks + (session.scheduler.governor.place? type).isNone.toNat := by
  rw [fallbacks, looked, Scheduler.resolve_eq]
  rfl

theorem fallbacks_submit (session : Session α) (type : ExecutorType) (callerCanRun : Bool)
    (body : Body α) :
    (session.submit type callerCanRun body).1.fallbacks =
      session.fallbacks + (session.scheduler.governor.place? type).isNone.toNat := by
  rw [← fallbacks_looked]
  rcases session.submit_cases type callerCanRun body with ⟨-, submitted⟩ |
    ⟨place, -, ⟨error, -, submitted⟩ | ⟨scheduler, admission, spawned, submitted⟩⟩ <;>
    rw [submitted]
  obtain ⟨pool, taken, -, -, rfl⟩ := Scheduler.spawnAt_cases spawned
  exact fallbacks_addTask _ _ _ _ _

theorem fallbacks_submitChain (session : Session α) (type : ExecutorType) (callerCanRun : Bool)
    (body : Body α) (next : α → Stage α) :
    (session.submitChain type callerCanRun body next).1.fallbacks = session.fallbacks +
      if (session.scheduler.governor.place? .default).isNone then 1
      else (session.scheduler.governor.place? type).isNone.toNat := by
  have submit_count := session.fallbacks_submit type callerCanRun body
  rcases session.submitChain_cases type callerCanRun body next with ⟨absent, submitted⟩ |
    ⟨place, found, ⟨after, error, first, submitted⟩ | ⟨after, number, first, submitted⟩⟩
  · rw [submitted, fallbacks_looked, absent]
    rfl
  · rw [first] at submit_count
    rw [submitted, found]
    exact submit_count
  · rw [first] at submit_count
    rw [submitted, found]
    exact submit_count

/-- An event counts a submission that is rerouted, and one that is stranded. -/
theorem fallbacks_step (session : Session α) (event : SessionEvent α) :
    (session.step event).fallbacks = session.fallbacks +
      (event.isRerouted session.scheduler.governor).toNat +
      (event.isStranded session.scheduler.governor).toNat := by
  have aside (happened : Option (Session α))
      (keeps : ∀ after, happened = some after → after.fallbacks = session.fallbacks) :
      (happened.getD session).fallbacks = session.fallbacks := by
    cases happened with
    | none => rfl
    | some after => exact keeps after rfl
  cases event with
  | submit type callerCanRun body =>
      refine (session.fallbacks_submit type callerCanRun body).trans ?_
      simp only [SessionEvent.isRerouted, SessionEvent.isStranded]
      cases session.scheduler.governor.place? type <;>
        cases session.scheduler.governor.place? .default <;> rfl
  | submitChain type callerCanRun body next =>
      refine (session.fallbacks_submitChain type callerCanRun body next).trans ?_
      simp only [SessionEvent.isRerouted, SessionEvent.isStranded]
      cases session.scheduler.governor.place? type <;>
        cases session.scheduler.governor.place? .default <;> rfl
  | submitDelayed delay body =>
      rcases session.submitDelayed_cases delay body with ⟨error, submitted⟩ |
        ⟨place, taken, submitted⟩ <;> simp only [step, step?, submitted, Option.getD_some] <;> rfl
  | submitCyclic envelope script =>
      rcases session.submitCyclic_cases envelope script with ⟨error, submitted⟩ |
        ⟨place, taken, submitted⟩ <;> simp only [step, step?, submitted, Option.getD_some] <;> rfl
  | start place task =>
      refine aside _ fun after started => ?_
      obtain ⟨pool, begun, -, -, rfl⟩ := startTask_cases started
      exact fallbacks_begin _ _
  | startScheduled place =>
      refine aside _ fun after started => ?_
      obtain ⟨pool, id, begun, -, -, rfl⟩ := startScheduledIn_cases started
      rfl
  | giveThread =>
      refine aside _ fun after given => ?_
      obtain ⟨work, -, rfl⟩ := giveThread_cases given
      rfl
  | endWork task =>
      refine aside _ fun after ended => ?_
      obtain ⟨work, -, ended⟩ := Option.bind_eq_some_iff.1 ended
      obtain ⟨owner, -, -, -, -, rfl⟩ := endWork_cases ended
      rfl
  | advance task =>
      refine aside _ fun after advanced => ?_
      obtain ⟨owner, -, advanced⟩ := Option.bind_eq_some_iff.1 advanced
      exact fallbacks_of_advanceTask advanced
  | advanceSchedule schedule =>
      refine aside _ fun after advanced => ?_
      obtain ⟨known, -, advanced⟩ := Option.bind_eq_some_iff.1 advanced
      obtain ⟨pool, changed, -, rfl | rfl⟩ := advanceSchedule_cases advanced <;> rfl
  | callOff schedule =>
      refine aside _ fun after calledOff => ?_
      obtain ⟨known, -, rfl⟩ := Option.map_eq_some_iff.1 calledOff
      exact fallbacks_callOff session known
  | abort task | turnAway task label | lose task =>
      exact aside _ fun after cut => fallbacks_of_cutIf cut
  | close place | closeScheduled place =>
      refine aside _ fun after closed => ?_
      simp only [step?, Option.ite_none_left_eq_some] at closed
      obtain ⟨-, eq⟩ := closed
      cases eq
      rfl
  | register descriptor | registerScheduled core daemon | openGate gate | pass ms | withdraw
  | shutDown => rfl

/-! ## What a row of events counts -/

theorem fallbacks_follow (session : Session α) (events : List (SessionEvent α)) :
    (session.follow events).fallbacks = session.fallbacks +
      session.tally SessionEvent.isRerouted events +
      session.tally SessionEvent.isStranded events := by
  induction events generalizing session with
  | nil => rfl
  | cons event events induction =>
      have count := session.fallbacks_step event
      have rest := induction (session.step event)
      simp only [follow, List.foldl_cons, tally] at rest ⊢
      omega

/-- A sort of events that does not occur at any time. -/
theorem tally_eq_zero_iff (isOfSort : Governor → SessionEvent α → Bool) (session : Session α)
    (events : List (SessionEvent α)) :
    session.tally isOfSort events = 0 ↔
      ∀ earlier event later, events = earlier ++ event :: later →
        isOfSort (session.follow earlier).scheduler.governor event = false := by
  induction events generalizing session with
  | nil => simp [tally]
  | cons first events induction =>
      simp only [tally, Nat.add_eq_zero_iff, induction]
      constructor
      · rintro ⟨isNot, rest⟩ earlier event later eq
        cases earlier with
        | nil =>
            cases eq
            exact Bool.toNat_eq_zero.1 isNot
        | cons other earlier =>
            cases eq
            exact rest earlier event later rfl
      · intro never
        refine ⟨?_, fun earlier event later eq => never (first :: earlier) event later (by rw [eq]; rfl)⟩
        exact Bool.toNat_eq_zero.2 (never [] first events rfl)

/-! ## What becomes of the submissions that are counted -/

/-- The count does not matter to a pool. -/
theorem map_spawnAt_looked (session : Session α) (type : ExecutorType) (place task : Nat)
    (callerCanRun : Bool) (number : Nat) :
    ((session.looked type).scheduler.spawnAt place task callerCanRun).map (fun _ => number) =
      (session.scheduler.spawnAt place task callerCanRun).map fun _ => number := by
  simp only [looked, Scheduler.resolve_eq, Scheduler.spawnAt]
  cases session.scheduler.governor.built[place]? with
  | none => rfl
  | some pool =>
      dsimp only
      cases pool.spawn task callerCanRun <;> rfl

/-- The pool at a place answers a submission: it refuses the task, or the task gets its number. -/
def AnsweredAt (session : Session α) (event : SessionEvent α) (place : Nat) : Prop :=
  ∃ number, session.answer? event =
    some ((session.scheduler.spawnAt place session.next event.callerCanRun).map fun _ => number)

theorem answeredAt_submit {type : ExecutorType} {place : Nat}
    (target : session.scheduler.target? type = some place) (callerCanRun : Bool) (body : Body α) :
    (session.submit type callerCanRun body).2 =
      (session.scheduler.spawnAt place session.next callerCanRun).map fun _ => session.next := by
  rw [← session.map_spawnAt_looked type]
  rcases session.submit_cases type callerCanRun body with ⟨absent, -⟩ |
    ⟨found, found_eq, ⟨error, spawned, submitted⟩ | ⟨scheduler, admission, spawned, submitted⟩⟩
  · rw [target] at absent
    cases absent
  · cases target.symm.trans found_eq
    rw [submitted, spawned]
    rfl
  · cases target.symm.trans found_eq
    rw [submitted, spawned]
    rfl

/-- The default pool answers a submission that is rerouted. -/
theorem answeredAt_of_isRerouted {event : SessionEvent α}
    (rerouted : event.isRerouted session.scheduler.governor = true) :
    ∃ place, session.scheduler.governor.place? .default = some place ∧
      session.AnsweredAt event place := by
  have target {type : ExecutorType}
      (isRerouted : ((session.scheduler.governor.place? type).isNone &&
        (session.scheduler.governor.place? .default).isSome) = true) :
      ∃ place, session.scheduler.governor.place? .default = some place ∧
        session.scheduler.target? type = some place := by
    rw [Bool.and_eq_true, Option.isNone_iff_eq_none, Option.isSome_iff_exists] at isRerouted
    obtain ⟨absent, place, found⟩ := isRerouted
    exact ⟨place, found, by rw [Scheduler.target?, absent, found, Option.none_or]⟩
  cases event with
  | submit type callerCanRun body =>
      obtain ⟨place, found, target⟩ := target rerouted
      exact ⟨place, found, session.next, congrArg some (answeredAt_submit target _ _)⟩
  | submitChain type callerCanRun body next =>
      obtain ⟨place, found, target⟩ := target rerouted
      have first := answeredAt_submit target callerCanRun body
      refine ⟨place, found, ?_⟩
      rcases session.submitChain_cases type callerCanRun body next with ⟨absent, -⟩ |
        ⟨default, -, ⟨after, error, submitted, chained⟩ | ⟨after, number, submitted, chained⟩⟩
      · rw [found] at absent
        cases absent
      · rw [submitted] at first
        refine ⟨0, ?_⟩
        cases spawned : session.scheduler.spawnAt place session.next callerCanRun with
        | error refusal =>
            rw [spawned] at first
            cases first
            simp [answer?, chained, SessionEvent.callerCanRun, spawned, Except.map]
        | ok answer =>
            rw [spawned] at first
            cases first
      · rw [submitted] at first
        refine ⟨after.next, ?_⟩
        cases spawned : session.scheduler.spawnAt place session.next callerCanRun with
        | error refusal =>
            rw [spawned] at first
            cases first
        | ok answer => simp [answer?, chained, SessionEvent.callerCanRun, spawned, Except.map]
  | _ => cases rerouted

/-- A submission that is stranded is refused, and nothing but the count changes. -/
theorem refused_of_isStranded {event : SessionEvent α}
    (stranded : event.isStranded session.scheduler.governor = true) :
    session.answer? event = some (.error Scheduler.noDefaultPool) ∧
      ∃ type, session.step event = session.looked type := by
  cases event with
  | submit type callerCanRun body =>
      simp only [SessionEvent.isStranded, Bool.and_eq_true, Option.isNone_iff_eq_none] at stranded
      have target : session.scheduler.target? type = none := by
        rw [Scheduler.target?, stranded.1, stranded.2, Option.none_or]
      rcases session.submit_cases type callerCanRun body with ⟨-, submitted⟩ |
        ⟨place, found, -⟩
      · exact ⟨by rw [answer?, submitted], type, congrArg Prod.fst submitted⟩
      · rw [target] at found
        cases found
  | submitChain type callerCanRun body next =>
      rw [SessionEvent.isStranded, Option.isNone_iff_eq_none] at stranded
      rcases session.submitChain_cases type callerCanRun body next with ⟨-, submitted⟩ |
        ⟨place, found, -⟩
      · exact ⟨by rw [answer?, submitted], .default, congrArg Prod.fst submitted⟩
      · rw [stranded] at found
        cases found
  | _ => cases stranded

/-- What the count of a session says about a row of events. -/
structure Counted (caps : ResourceCaps) (events : List (SessionEvent α)) : Prop where
  /-- Each rerouted submission counts, and each stranded one. -/
  fallbacks_eq : (run caps events).fallbacks =
    (empty caps).tally SessionEvent.isRerouted events +
      (empty caps).tally SessionEvent.isStranded events
  /-- The count is that of the reroutings alone exactly if no submission was ever stranded. -/
  exact_iff : (run caps events).fallbacks = (empty caps).tally SessionEvent.isRerouted events ↔
    ∀ earlier event later, events = earlier ++ event :: later →
      event.isStranded (run caps earlier).scheduler.governor = false
  /-- A rerouted submission is handed to the default pool. -/
  rerouted : ∀ earlier event later, events = earlier ++ event :: later →
    event.isRerouted (run caps earlier).scheduler.governor = true →
    ∃ place, (run caps earlier).scheduler.governor.place? .default = some place ∧
      (run caps earlier).AnsweredAt event place
  /-- A stranded submission is refused. -/
  stranded : ∀ earlier event later, events = earlier ++ event :: later →
    event.isStranded (run caps earlier).scheduler.governor = true →
    (run caps earlier).answer? event = some (.error Scheduler.noDefaultPool) ∧
      ∃ type, run caps (earlier ++ [event]) = (run caps earlier).looked type

/-- The count of reroutings is exact up to the submissions that are refused because there is no
default pool. -/
theorem run_counted (caps : ResourceCaps) (events : List (SessionEvent α)) :
    Counted caps events where
  fallbacks_eq := by
    have count := (empty caps).fallbacks_follow events
    simpa [fallbacks, empty, ofScheduler, Scheduler.ofGovernor, run] using count
  exact_iff := by
    have count := (empty caps).fallbacks_follow events
    have none_stranded := tally_eq_zero_iff SessionEvent.isStranded (empty caps) events
    have start : (empty caps : Session α).fallbacks = 0 := rfl
    have run_eq : run caps events = (empty caps).follow events := rfl
    rw [run_eq, count, start, Nat.zero_add, Nat.add_eq_left]
    exact none_stranded
  rerouted earlier event later _ isRerouted := answeredAt_of_isRerouted isRerouted
  stranded earlier event later _ isStranded := by
    obtain ⟨answer, type, stepped⟩ := refused_of_isStranded isStranded
    refine ⟨answer, type, ?_⟩
    rw [run, follow, List.foldl_append]
    exact stepped

/-- A submission that is refused for want of a default pool is counted, though it is handed to no
pool. -/
theorem counted_without_default_pool :
    let caps : ResourceCaps := ⟨4, 8, 16, 32, 4⟩
    let archive : SessionEvent Nat := .register { type := .archive, core := 1, max := 2 }
    let submission : SessionEvent Nat := .submit .compact true (.prompt fun _ => .value 7)
    (run caps [archive]).answer? submission = some (.error Scheduler.noDefaultPool) ∧
      (run caps [archive, submission]).fallbacks = 1 ∧
      (empty caps).tally SessionEvent.isRerouted [archive, submission] = 0 := by
  decide +kernel

end Session
end ClusterMember
