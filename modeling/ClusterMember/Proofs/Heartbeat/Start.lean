import ClusterMember.Proofs.Heartbeat.Link

/-!
# Starting a heartbeat

A start that fails leaves the heartbeat as it was, unless it fails over the schedule: the link is
set before the schedule is submitted, and nothing takes it back.  A heartbeat that is linked without
a schedule has no beats, and it cannot be started any more.
-/

namespace ClusterMember
namespace Heartbeat

/-- Why a scheduler does not take the beats of a heartbeat. -/
inductive Service.Refused (service : Service) (scheduler : Scheduler) : Error → Prop where
  | unregistered (missing : scheduler.governor.scheduledPool? = none) :
      Refused service scheduler Scheduler.noScheduledPool
  | shut {pool : PeriodicPool} (registered : scheduler.governor.scheduledPool? = some pool)
      (isShut : pool.isShut = true) : Refused service scheduler PeriodicPool.shutFault
  | ceaseless {pool : PeriodicPool} (registered : scheduler.governor.scheduledPool? = some pool)
      (running : pool.isShut = false) (interval_eq : service.config.intervalMs = 0) :
      Refused service scheduler (zeroPeriodFault "heartbeat")

namespace Slave

/-! ## The link -/

/-- A start gets as far as to set a link. -/
structure Links (slave : Slave) (answer : Option Identity) (link : Link) : Prop where
  answer_eq : answer = some link.master
  built : (slave.buildStub link.master).2 = .ok link.stub
  idle : slave.service.phase = .idle
  unlinked : slave.service.link = none

/-- Why a start does not get as far as to set a link. -/
inductive Halts (slave : Slave) : Option Identity → Error → Prop where
  | missing : Halts slave none noMaster
  | unbuilt {master : Identity} {error : Error}
      (failed : (slave.buildStub master).2 = .error error) : Halts slave (some master) error
  | taken {master : Identity} {stub : Stub ChannelRef}
      (built : (slave.buildStub master).2 = .ok stub)
      (in_use : slave.service.phase ≠ .idle ∨ slave.service.link.isSome = true) :
      Halts slave (some master) alreadyStarted

/-- A slave with other clients. -/
def withClients (slave : Slave) (clients : Clients) : Slave := { slave with clients }

theorem buildStub_eq (slave : Slave) (master : Identity) :
    slave.buildStub master =
      (slave.withClients (slave.buildStub master).1.clients, (slave.buildStub master).2) := by
  unfold buildStub
  split <;> rfl

variable {slave : Slave} {answer : Option Identity}

theorem Halts.not_links {error : Error} (halts : slave.Halts answer error) (link : Link) :
    ¬slave.Links answer link := by
  rintro ⟨rfl, built, idle, unlinked⟩
  cases halts with
  | unbuilt failed => cases failed.symm.trans built
  | taken _ in_use => simp [idle, unlinked] at in_use

/-- The part of a start up to the link changes nothing but the clients, unless it sets the link. -/
theorem linkFirst_spec (slave : Slave) (answer : Option Identity) :
    (∃ error clients, slave.Halts answer error ∧ slave.clients.Grows clients ∧
        slave.linkFirst answer = (slave.withClients clients, .error error)) ∨
      ∃ link, slave.Links answer link ∧
        slave.linkFirst answer = ((slave.buildStub link.master).1.setLink link, .ok ()) := by
  cases answer with
  | none => exact .inl ⟨_, slave.clients, .missing, .refl _, rfl⟩
  | some master =>
      have grows := slave.grows_buildStub master
      have built_eq := slave.buildStub_eq master
      cases result : (slave.buildStub master).2 with
      | error error =>
          rw [result] at built_eq
          refine .inl ⟨error, _, .unbuilt result, grows, ?_⟩
          rw [linkFirst, built_eq]
          rfl
      | ok stub =>
          rw [result] at built_eq
          by_cases in_use : slave.service.phase ≠ .idle ∨ slave.service.link.isSome = true
          · refine .inl ⟨_, _, .taken result in_use, grows, ?_⟩
            rw [linkFirst, built_eq]
            exact if_pos in_use
          · obtain ⟨idle, unlinked⟩ := not_or.1 in_use
            refine .inr ⟨⟨master, stub⟩, ⟨rfl, result, not_not.1 idle, by simpa using unlinked⟩, ?_⟩
            rw [linkFirst, built_eq]
            exact if_neg in_use

/-! ## The schedule -/

theorem submitBeats_cases {slave : Slave} {scheduler after : Scheduler} {task : Nat}
    (submitted : slave.submitBeats scheduler task = .ok after) :
    ∃ place, scheduler.cycleAt place task slave.service.envelope = .ok after := by
  unfold submitBeats at submitted
  split at submitted
  next => cases submitted
  next place _ => exact ⟨place, submitted⟩

/-- A schedule is submitted to the registered pool. -/
theorem submitBeats_eq {scheduler : Scheduler} {pool : PeriodicPool}
    (registered : scheduler.governor.scheduledPool? = some pool) (slave : Slave) (task : Nat) :
    ∃ place, slave.submitBeats scheduler task =
      (pool.spawnCyclic task slave.service.envelope).map fun pool =>
        { scheduler with governor := scheduler.governor.setScheduled place pool } := by
  obtain ⟨place, scheduled, built⟩ := Option.bind_eq_some_iff.1 registered
  refine ⟨place, ?_⟩
  simp only [submitBeats, Scheduler.scheduledPlace, scheduled, Scheduler.cycleAt, built]
  cases pool.spawnCyclic task slave.service.envelope <;> rfl

theorem submitBeats_of_unregistered {scheduler : Scheduler}
    (missing : scheduler.governor.scheduledPool? = none) (slave : Slave) (task : Nat) :
    slave.submitBeats scheduler task = .error Scheduler.noScheduledPool := by
  unfold submitBeats Scheduler.scheduledPlace
  cases scheduled : scheduler.governor.scheduled with
  | none => rfl
  | some place =>
      rw [Governor.scheduledPool?, scheduled] at missing
      have nothing_built : scheduler.governor.builtScheduled[place]? = none := missing
      simp only [Scheduler.cycleAt, nothing_built]

/-- A schedule is taken unless there is a reason to refuse it. -/
theorem submitBeats_spec (slave : Slave) (scheduler : Scheduler) (task : Nat) :
    (∃ error, slave.service.Refused scheduler error ∧
        slave.submitBeats scheduler task = .error error) ∨
      (∀ error, ¬slave.service.Refused scheduler error) ∧
        ∃ after, slave.submitBeats scheduler task = .ok after := by
  cases registered : scheduler.governor.scheduledPool? with
  | none =>
      exact .inl ⟨_, .unregistered registered, submitBeats_of_unregistered registered slave task⟩
  | some pool =>
      obtain ⟨place, submitted_eq⟩ := submitBeats_eq registered slave task
      have period_zero_iff : slave.service.envelope.period = .zero ↔
          slave.service.config.intervalMs = 0 := Duration.ofMillis_eq_zero_iff _
      rw [submitted_eq, PeriodicPool.spawnCyclic]
      cases isShut : pool.isShut with
      | true => exact .inl ⟨_, .shut registered isShut, rfl⟩
      | false =>
          by_cases interval_eq : slave.service.config.intervalMs = 0
          · refine .inl ⟨_, .ceaseless registered isShut interval_eq, ?_⟩
            rw [if_neg (by decide), if_pos (period_zero_iff.2 interval_eq)]
            rfl
          · rw [if_neg (by decide), if_neg (mt period_zero_iff.1 interval_eq)]
            refine .inr ⟨fun error refused => ?_, _, rfl⟩
            cases refused with
            | unregistered missing => cases missing.symm.trans registered
            | shut same shut_too =>
                cases same.symm.trans registered
                cases shut_too.symm.trans isShut
            | ceaseless _ _ zero => exact interval_eq zero

/-! ## The start -/

/-- All that a start can do. -/
inductive Begins (slave : Slave) (scheduler : Scheduler) (task : Nat) (answer : Option Identity) :
    Slave → Scheduler → Except Error Unit → Prop where
  | halted {clients : Clients} {error : Error} (grows : slave.clients.Grows clients)
      (halts : slave.Halts answer error) :
      Begins slave scheduler task answer (slave.withClients clients) scheduler (.error error)
  | refused {link : Link} {error : Error} (links : slave.Links answer link)
      (refused : slave.service.Refused scheduler error) :
      Begins slave scheduler task answer ((slave.buildStub link.master).1.setLink link) scheduler
        (.error error)
  | begun {link : Link} {later : Scheduler} (links : slave.Links answer link)
      (taken : ∀ error, ¬slave.service.Refused scheduler error)
      (submitted : slave.submitBeats scheduler task = .ok later) :
      Begins slave scheduler task answer
        { (slave.buildStub link.master).1 with
          service := { slave.service with link := some link, schedule := some task } }
        later (.ok ())

theorem begins_start (slave : Slave) (scheduler : Scheduler) (task : Nat)
    (answer : Option Identity) :
    slave.Begins scheduler task answer (slave.start scheduler task answer).1
      (slave.start scheduler task answer).2.1 (slave.start scheduler task answer).2.2 := by
  rcases slave.linkFirst_spec answer with
    ⟨error, clients, halts, grows, linkFirst_eq⟩ | ⟨link, links, linkFirst_eq⟩
  · rw [start, linkFirst_eq]
    exact .halted grows halts
  · have submitted_eq : ((slave.buildStub link.master).1.setLink link).submitBeats scheduler task =
        slave.submitBeats scheduler task := by
      rw [buildStub_eq]
      rfl
    rw [start, linkFirst_eq]
    simp only [submitted_eq]
    rcases slave.submitBeats_spec scheduler task with ⟨error, refused, eq⟩ | ⟨taken, later, eq⟩
    · rw [eq]
      exact .refused links refused
    · rw [eq]
      simp only [setLink, service_buildStub]
      exact .begun links taken eq

/-- A start leaves to others all channels that there are. -/
theorem grows_start (slave : Slave) (scheduler : Scheduler) (task : Nat)
    (answer : Option Identity) :
    slave.clients.Grows (slave.start scheduler task answer).1.clients := by
  have begins := slave.begins_start scheduler task answer
  generalize slave.start scheduler task answer = result at begins
  obtain ⟨after, later, outcome⟩ := result
  cases begins with
  | halted grows => exact grows
  | refused | begun => exact slave.grows_buildStub _

/-- A heartbeat that is started is linked to the master that the resolver answers, and has its
schedule. -/
theorem start_cases {slave started : Slave} {scheduler after : Scheduler} {task : Nat}
    {answer : Option Identity}
    (eq : slave.start scheduler task answer = (started, after, .ok ())) :
    ∃ first stub, answer = some first ∧ (slave.buildStub first).2 = .ok stub ∧
      started.clients = (slave.buildStub first).1.clients ∧
      started.service =
        { slave.service with link := some ⟨first, stub⟩, schedule := some task } ∧
      ∃ place envelope, scheduler.cycleAt place task envelope = .ok after := by
  have begins := slave.begins_start scheduler task answer
  rw [eq] at begins
  cases begins with
  | @begun link _ links _ submitted =>
      obtain ⟨place, taken⟩ := submitBeats_cases submitted
      exact ⟨link.master, link.stub, links.answer_eq, links.built, rfl, rfl, place, _, taken⟩

/-- When a heartbeat can be started. -/
theorem start_ok_iff (slave : Slave) (scheduler : Scheduler) (task : Nat)
    (answer : Option Identity) :
    (slave.start scheduler task answer).2.2 = .ok () ↔
      (∃ link, slave.Links answer link) ∧ ∀ error, ¬slave.service.Refused scheduler error := by
  have begins := slave.begins_start scheduler task answer
  generalize slave.start scheduler task answer = result at begins
  obtain ⟨after, later, outcome⟩ := result
  cases begins with
  | halted grows halts =>
      exact ⟨nofun, fun ⟨⟨link, links⟩, _⟩ => absurd links (halts.not_links link)⟩
  | refused links refused => exact ⟨nofun, fun ⟨_, taken⟩ => absurd refused (taken _)⟩
  | begun links taken => exact ⟨fun _ => ⟨⟨_, links⟩, taken⟩, fun _ => rfl⟩

/-! ## Staying linked -/

variable (linked : slave.service.link.isSome = true)
include linked

theorem isLinked_relink (master : Identity) :
    (slave.relink master).service.link.isSome = true := by
  rcases slave.linked_relink master with ⟨link, link_eq, -⟩ | ⟨-, kept⟩
  · rw [link_eq]
    rfl
  · rwa [kept]

theorem isLinked_step (event : Event) : (slave.step event).service.link.isSome = true := by
  have taken := slave.takes_step event
  generalize slave.step event = after at taken
  cases taken with
  | begun =>
      unfold beat
      split <;> exact linked
  | failed _ answer =>
      cases answer with
      | some master =>
          have still_linked : slave.countFailure.service.link.isSome = true := linked
          exact isLinked_relink still_linked master
      | none =>
          rw [fail_none, service_nextCheck]
          exact linked
  | @probed check _ answer =>
      cases answer with
      | some master => exact isLinked_relink linked master
      | none =>
          rw [probe, service_nextCheck]
          exact linked
  | acknowledged | stopRequested | abortRequested | clientsClosed | outOfTurn => exact linked

/-- Nothing that happens to a heartbeat takes its link back. -/
theorem isLinked_run (events : List Event) : (slave.run events).service.link.isSome = true := by
  induction events generalizing slave with
  | nil => exact linked
  | cons event rest induction => exact induction (isLinked_step linked event)

theorem start_ne_ok_of_linked (scheduler : Scheduler) (task : Nat) (answer : Option Identity) :
    (slave.start scheduler task answer).2.2 ≠ .ok () := by
  intro started
  obtain ⟨⟨link, links⟩, -⟩ := (slave.start_ok_iff scheduler task answer).1 started
  rw [links.unlinked] at linked
  cases linked

omit linked

/-! ## Failures -/

/-- What a failed start leaves behind. -/
structure FailedStart (slave : Slave) (scheduler : Scheduler) (answer : Option Identity)
    (after : Slave) (later : Scheduler) (error : Error) : Prop where
  scheduler_eq : later = scheduler
  grows : slave.clients.Grows after.clients
  /-- It fails before the link is set, and then changes nothing but the clients, or afterwards. -/
  cause : slave.Halts answer error ∧ after = slave.withClients after.clients ∨
    ∃ link, slave.Links answer link ∧ slave.service.Refused scheduler error ∧
      after = (slave.withClients after.clients).setLink link
  schedule_eq : after.service.schedule = slave.service.schedule
  link_eq_iff : after.service.link = slave.service.link ↔ slave.Halts answer error
  /-- A heartbeat that had not been started can be, once nothing stands in the way, unless it is
  linked by now. -/
  again : slave.service.phase = .idle → slave.service.link = none → ∀ scheduler task next,
    (after.start scheduler task next).2.2 = .ok () ↔
      slave.Halts answer error ∧
        (∃ master stub, next = some master ∧ (after.buildStub master).2 = .ok stub) ∧
        ∀ reason, ¬slave.service.Refused scheduler reason
  /-- A start that fails over the schedule is the last one, whatever happens next. -/
  never : ¬slave.Halts answer error → ∀ events scheduler task next,
    ((after.run events).start scheduler task next).2.2 ≠ .ok ()

/-- A start that fails changes nothing but the clients, unless it fails over the schedule. -/
theorem start_failed {scheduler later : Scheduler} {task : Nat} {after : Slave} {error : Error}
    (failed : slave.start scheduler task answer = (after, later, .error error)) :
    FailedStart slave scheduler answer after later error := by
  have begins := slave.begins_start scheduler task answer
  rw [failed] at begins
  cases begins with
  | @halted clients _ grows halts =>
      refine ⟨rfl, grows, .inl ⟨halts, rfl⟩, rfl, iff_of_true rfl halts, ?_, absurd halts⟩
      intro idle unlinked scheduler task next
      rw [start_ok_iff]
      constructor
      · rintro ⟨⟨link, links⟩, taken⟩
        exact ⟨halts, ⟨link.master, link.stub, links.answer_eq, links.built⟩, taken⟩
      · rintro ⟨-, ⟨master, stub, rfl, built⟩, taken⟩
        exact ⟨⟨⟨master, stub⟩, rfl, built, idle, unlinked⟩, taken⟩
  | @refused link _ links refused =>
      have not_halts : ¬slave.Halts answer error := fun halts => halts.not_links link links
      have grows := slave.grows_buildStub link.master
      rw [buildStub_eq] at grows ⊢
      -- The link is set by now, and that alone keeps every later start from getting anywhere.
      have linked : ((slave.withClients (slave.buildStub link.master).1.clients).setLink
          link).service.link.isSome = true := rfl
      refine ⟨rfl, grows, .inr ⟨link, links, refused, rfl⟩, rfl, iff_of_false ?_ not_halts, ?_, ?_⟩
      · rw [links.unlinked]
        exact Option.some_ne_none link
      · intro idle unlinked scheduler task next
        exact iff_of_false (start_ne_ok_of_linked linked scheduler task next)
          fun possible => not_halts possible.1
      · intro _ events scheduler task next
        exact start_ne_ok_of_linked (isLinked_run linked events) scheduler task next

/-- A heartbeat that has not been started. -/
def unstarted : Slave :=
  ⟨.create ⟨"worker-1", none, 10060, 1, by decide +kernel⟩ { intervalMs := 10 },
    .ofConfig { serverThreads := 2 }, {}⟩

/-- A master to start with. -/
def firstMaster : Identity := ⟨"primary-1", none, 10050, 0, by decide +kernel⟩

/-- A scheduler without any pool. -/
def poolless : Scheduler := .ofGovernor (.empty ⟨1, 1, 1, 1, 1⟩)

/-- A scheduler with a scheduled pool of one thread. -/
def pooled : Scheduler := .ofGovernor (Governor.enterScheduled 1 true poolless.governor)

theorem not_refused_pooled (error : Error) : ¬unstarted.service.Refused pooled error := by
  intro refused
  cases refused with
  | unregistered missing => cases missing
  | shut registered isShut =>
      cases registered
      cases isShut
  | ceaseless _ _ interval_eq => cases interval_eq

/-- A heartbeat that was started too early for its master is started later. -/
theorem start_failed_too_early :
    (unstarted.start pooled 0 none).2.2 = .error noMaster ∧
      ((unstarted.start pooled 0 none).1.start pooled 0 (some firstMaster)).2.2 = .ok () := by
  have result : unstarted.start pooled 0 none = (unstarted, pooled, .error noMaster) := rfl
  have failed := start_failed result
  rw [result]
  refine ⟨rfl, (failed.again rfl rfl pooled 0 (some firstMaster)).2
    ⟨.missing, ⟨firstMaster, _, rfl, rfl⟩, not_refused_pooled⟩⟩

/-- A heartbeat that was started too early for the scheduled pool is linked, and is not started any
more. -/
theorem linked_without_schedule :
    let early := unstarted.start poolless 0 (some firstMaster)
    unstarted.service.link.isNone = true ∧
      early.2.2 = .error Scheduler.noScheduledPool ∧
      early.1.service.link.isSome = true ∧ early.1.service.schedule = none ∧
      (unstarted.start pooled 0 (some firstMaster)).2.2 = .ok () ∧
      (early.1.start pooled 0 (some firstMaster)).2.2 = .error alreadyStarted := by
  refine ⟨?_, ?_, ?_, ?_, ?_, ?_⟩ <;> rfl

end Slave
end Heartbeat
end ClusterMember
