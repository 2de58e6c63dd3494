import ClusterMember.Proofs.Executor.Schedule
import ClusterMember.Proofs.Heartbeat.CleanStop
import ClusterMember.Proofs.Heartbeat.Start

/-!
# What a heartbeat accounts for

The counters of a heartbeat, its view of the cluster and its link are told by what came of its
reports and checks.  Each report that is not under way any more was acknowledged or failed, and the
link points at the last master that a stub could be had for.
-/

namespace ClusterMember
namespace Heartbeat

namespace Slave

variable {slave : Slave} (stopped : slave.control.flags.stopped = true)
  (idle : slave.service.phase = .idle)
include stopped idle

/-- Once the node is to stop and no beat is under way, no event changes the heartbeat. -/
theorem service_step_of_stopped (event : Slave.Event) :
    (slave.step event).service = slave.service := by
  have taken := slave.takes_step event
  generalize slave.step event = after at taken
  cases taken with
  | begun => rw [Slave.beat_of_stopped stopped]
  | acknowledged reporting => cases reporting.symm.trans idle
  | failed reporting => cases reporting.symm.trans idle
  | probed waiting => cases waiting.symm.trans idle
  | stopRequested | abortRequested | clientsClosed | outOfTurn => rfl

end Slave

namespace History

/-- What a heartbeat says of itself is told by its first master and by what came of its reports and
checks. -/
structure Accounted (first : Identity) (task : Nat) (history : History) : Prop where
  acknowledged_eq : history.slave.service.acknowledged =
    history.deeds.countP Deed.isAcknowledged
  failures_eq : history.slave.service.failures = history.deeds.countP Deed.isFailed
  attempts_eq : history.slave.service.attempts =
    history.slave.service.acknowledged + history.slave.service.failures +
      history.slave.reportsUnderWay
  isClusterUp_iff : history.slave.service.isClusterUp = true ↔ Deed.InTouch history.deeds
  /-- The master is the last one that was linked to. -/
  leadsTo : history.slave.LeadsTo ((history.deeds.filterMap Deed.linked?).getLastD first)
  schedule_eq : history.slave.service.schedule = some task
  sound : history.slave.clients.Sound

variable {first : Identity} {task : Nat} {history : History}

theorem Accounted.step (accounted : history.Accounted first task) (occurrence : Occurrence) :
    (history.step occurrence).Accounted first task := by
  cases occurrence with
  | others event =>
      -- Whatever others do with the clients, the channel of the link leads to where it led.
      have grows := history.slave.clients.grows_step event
      have follows : history.slave.Follows none (history.step (.others event)).slave :=
        Slave.follows_of_link_eq rfl grows
      exact
        { accounted with
          leadsTo := follows.leadsTo accounted.sound _ accounted.leadsTo
          sound := grows.sound accounted.sound }
  | event event =>
      have counts := history.slave.counts_step event
      have follows := history.slave.follows_step event
      have leadsTo := follows.leadsTo accounted.sound _ accounted.leadsTo
      rw [History.step]
      constructor
      · rw [List.countP_append, counts.acknowledged_eq, accounted.acknowledged_eq]
      · rw [List.countP_append, counts.failures_eq, accounted.failures_eq]
      · exact counts.balance accounted.attempts_eq
      · rw [counts.isClusterUp_iff, accounted.isClusterUp_iff]
        cases history.slave.deed? event with
        | none => simp
        | some deed =>
            rw [Option.toList_some, Deed.inTouch_append_singleton_iff]
            simp only [Option.some.injEq, ne_eq]
      · cases made : history.slave.deed? event with
        | none => simpa [made] using leadsTo
        | some deed => cases linked : deed.linked? <;> simpa [made, linked] using leadsTo
      · exact (history.slave.sameTerms_step event).schedule_eq.trans accounted.schedule_eq
      · exact follows.grows.sound accounted.sound

theorem Accounted.run (accounted : history.Accounted first task) (occurrences : List Occurrence) :
    (history.run occurrences).Accounted first task := by
  induction occurrences generalizing history with
  | nil => exact accounted
  | cons occurrence rest induction => exact induction (accounted.step occurrence)

theorem accounted_start {identity : Identity} {config : HeartbeatConfig} {clients : Clients}
    {control : Control} {scheduler after : Scheduler} {answer : Option Identity} {slave : Slave}
    (sound : clients.Sound)
    (started : Slave.start ⟨.create identity config, clients, control⟩ scheduler task answer =
      (slave, after, .ok ())) :
    ∃ first, answer = some first ∧ (⟨slave, []⟩ : History).Accounted first task := by
  obtain ⟨first, stub, rfl, built, clients_eq, service_eq, -⟩ := Slave.start_cases started
  have leads := Slave.leadsTo_buildStub sound built
  have grows := Slave.grows_buildStub ⟨.create identity config, clients, control⟩ first
  refine ⟨first, rfl, ?_⟩
  constructor
  · rw [service_eq]; rfl
  · rw [service_eq]; rfl
  · simp only [Slave.reportsUnderWay, service_eq]; rfl
  · rw [service_eq]
    simp [Service.create, Deed.InTouch]
  · obtain ⟨link, link_eq, leads⟩ := leads
    refine ⟨link, ?_, ?_⟩
    · rw [service_eq]
      exact link_eq
    · rw [clients_eq]
      exact leads
  · rw [service_eq]
  · rw [clients_eq]
    exact grows.sound sound

theorem service_run_of_stopped (stopped : history.slave.control.flags.stopped = true)
    (idle : history.slave.service.phase = .idle) (later : List Occurrence) :
    (history.run later).slave.service = history.slave.service := by
  induction later generalizing history with
  | nil => rfl
  | cons occurrence rest induction =>
      cases occurrence with
      | others event => exact @induction (history.step (.others event)) stopped idle
      | event event =>
          have same := Slave.service_step_of_stopped stopped idle event
          have onwards := @induction (history.step (.event event))
            (Slave.stopped_step stopped event) ((congrArg Service.phase same).trans idle)
          exact onwards.trans same

/-- What a heartbeat says of itself, and how it goes on. -/
structure Accountable (first : Identity) (task : Nat) (history : History) : Prop extends
    Accounted first task history where
  /-- Without a master that can be linked to, the link stays as it is. -/
  link_eq : ∀ event, (history.slave.deed? event).bind Deed.linked? = none →
    (history.slave.step event).service.link = history.slave.service.link
  /-- The schedule sleeps again after each beat, in whatever pool it is. -/
  resumes : ∀ (pool after : PeriodicPool) failed elapsed entry,
    pool.find? task = some entry → entry.isCyclic = true →
      pool.finish task failed elapsed = some after →
        ∃ asleep, after.find? task = some asleep ∧ asleep.isCyclic = true ∧
          asleep.phase = .sleeping
  /-- Once the node is to stop, no further beat changes anything. -/
  service_eq : history.slave.control.flags.stopped = true → history.slave.service.phase = .idle →
    ∀ later, (history.run later).slave.service = history.slave.service

/-- A heartbeat that was started accounts for whatever happens to it. -/
theorem run_accountable {identity : Identity} {config : HeartbeatConfig} {rpc : RpcConfig}
    {uses : List Clients.Event} {control : Control} {scheduler after : Scheduler}
    {answer : Option Identity} {slave : Slave}
    (started : Slave.start ⟨.create identity config, (Clients.ofConfig rpc).run uses, control⟩
      scheduler task answer = (slave, after, .ok ()))
    (occurrences : List Occurrence) :
    (∃ pool ∈ after.governor.builtScheduled, ⟨task, true, .sleeping, 0, 0⟩ ∈ pool.tasks) ∧
      ∃ first, answer = some first ∧
        ((⟨slave, []⟩ : History).run occurrences).Accountable first task := by
  have sound : ((Clients.ofConfig rpc).run uses).Sound :=
    (Clients.grows_run _ uses).sound (Clients.sound_ofConfig rpc)
  obtain ⟨first, answer_eq, accounted⟩ := accounted_start sound started
  have accounted := accounted.run occurrences
  obtain ⟨-, -, -, -, -, -, place, envelope, taken⟩ := Slave.start_cases started
  refine ⟨Scheduler.asleep_of_cycleAt taken, first, answer_eq, accounted, ?_, ?_, ?_⟩
  · exact fun event unlinked => (Slave.follows_step _ event).link_eq unlinked
  · intro pool after failed elapsed entry there isCyclic finished
    exact PeriodicPool.asleep_of_finish finished there isCyclic
  · exact fun stopped idle later => service_run_of_stopped stopped idle later

/-- A slave that was started. -/
def enlisted : Slave × Scheduler × Except Error Unit :=
  let service := Service.create ⟨"member-1", none, 10060, 1, by decide +kernel⟩ {}
  let governor := Governor.enterScheduled 1 true (.empty ⟨1, 1, 1, 1, 1⟩)
  let master : Identity := ⟨"leader-1", none, 10050, 0, by decide +kernel⟩
  let clients := Clients.ofConfig { serverThreads := 2 }
  Slave.start ⟨service, clients.run [], {}⟩ (.ofGovernor governor) 0 (some master)

/-- A master moves while no stub can be built, and is followed after another failed report. -/
theorem run_accountable_through_outage :
    let moved : Identity := ⟨"leader-2", none, 10051, 7, by decide +kernel⟩
    let history := (⟨enlisted.1, []⟩ : History).run
      [.event .beatDue, .event .reportAcknowledged, .event .beatDue, .others .outage,
        .event (.reportFailed (some moved)), .others .recovery, .event .beatDue,
        .event (.reportFailed (some moved))]
    history.slave.service.attempts = 3 ∧ history.slave.LeadsTo moved := by
  intro moved history
  have started : enlisted.2.2 = .ok () := rfl
  obtain ⟨-, first, -, accountable⟩ := run_accountable (Prod.ext rfl (Prod.ext rfl started))
    [.event .beatDue, .event .reportAcknowledged, .event .beatDue, .others .outage,
      .event (.reportFailed (some moved)), .others .recovery, .event .beatDue,
      .event (.reportFailed (some moved))]
  have accountable : history.Accountable first 0 := accountable
  have linked : history.deeds.filterMap Deed.linked? = [moved] := rfl
  have leads := accountable.leadsTo
  rw [linked] at leads
  refine ⟨?_, leads⟩
  rw [accountable.attempts_eq, accountable.acknowledged_eq, accountable.failures_eq]
  rfl

end History
end Heartbeat
end ClusterMember
