import ClusterMember.Heartbeat.Vigil.Course
import ClusterMember.Proofs.Config.Validation
import ClusterMember.Proofs.Heartbeat.CleanStop
import ClusterMember.Proofs.Heartbeat.Start
import ClusterMember.Proofs.Heartbeat.Vigil

/-!
# How patient a heartbeat is

Before a heartbeat aborts its node it makes as many checks as the restart timeout holds whole
intervals, each after a whole sleep.  That is at least one exactly if the timeout is no shorter than
the interval, which validation does not ask for: with a shorter timeout the heartbeat aborts as soon
as a report fails and no master is there.
-/

namespace ClusterMember

theorem HeartbeatConfig.maxRestartChecks_eq {heartbeat : HeartbeatConfig}
    (interval_pos : 0 < heartbeat.intervalMs) :
    heartbeat.maxRestartChecks = heartbeat.masterRestartTimeoutMs / heartbeat.intervalMs := by
  rw [maxRestartChecks, Nat.max_eq_left interval_pos]

namespace Heartbeat

namespace Slave

/-! ## Going on to a check -/

variable {slave : Slave} {event : Event}

/-- The heartbeat waits for a check only if there is room for it, and for no other one. -/
theorem waiting_nextCheck {check other : Nat}
    (waiting : (slave.nextCheck check).service.phase = .waiting other) :
    other = check ∧ check ≤ slave.service.config.maxRestartChecks := by
  unfold nextCheck at waiting
  split at waiting
  next => cases waiting
  next left =>
    split at waiting
    next => cases waiting
    next => exact ⟨(BeatPhase.waiting.inj waiting).symm, Nat.not_lt.1 left⟩

/-- A heartbeat that gives up has the answer that there is no master, and has no check left. -/
theorem givesUp_cases (gives_up : slave.givesUp event = true) :
    slave.service.config.maxRestartChecks ≤ slave.service.phase.checks ∧
      ((slave.service.phase = .reporting ∧ event = .reportFailed none) ∨
        ∃ check, slave.service.phase = .waiting check ∧ event = .checkDue none) := by
  obtain ⟨last, answer_eq⟩ := (givesUp_eq_true_iff event).1 gives_up
  refine ⟨of_decide_eq_true last, ?_⟩
  unfold answer? at answer_eq
  split at answer_eq
  next phase_eq => exact .inl ⟨phase_eq, by rw [Option.some.inj answer_eq]⟩
  next check phase_eq => exact .inr ⟨check, phase_eq, by rw [Option.some.inj answer_eq]⟩
  next => cases answer_eq

/-- A heartbeat that has a check left does not give up. -/
theorem not_givesUp_of_left
    (left : slave.service.phase.checks < slave.service.config.maxRestartChecks) :
    slave.givesUp event = false := by
  apply Bool.eq_false_iff.2
  intro gives_up
  exact Nat.not_lt.2 (givesUp_cases gives_up).1 left

/-- A heartbeat that gives up aborts its node. -/
theorem control_step_of_givesUp (gives_up : slave.givesUp event = true) :
    (slave.step event).control = (slave.control.abort masterLost).1 := by
  obtain ⟨used_up, ⟨phase_eq, rfl⟩ | ⟨check, phase_eq, rfl⟩⟩ := givesUp_cases gives_up
  · rw [phase_eq] at used_up
    have used_up : slave.miss.service.config.maxRestartChecks < 1 := Nat.lt_succ_of_le used_up
    simp only [step, phase_eq]
    rw [fail_none, nextCheck_of_used_up used_up]
    rfl
  · rw [phase_eq] at used_up
    have used_up : slave.service.config.maxRestartChecks < check + 1 := Nat.lt_succ_of_le used_up
    simp only [step, phase_eq]
    rw [probe, nextCheck_of_used_up used_up]

end Slave

namespace Vigil

variable {heartbeat : HeartbeatConfig} {vigil : Vigil}

/-! ## What has been done -/

theorem not_mem_fruitless (interval checks : Nat) : .aborted ∉ fruitless interval checks := by
  induction checks with
  | zero => exact List.not_mem_nil
  | succ checks induction => simp [fruitless, induction]

theorem sum_probes_fruitless (interval checks : Nat) :
    ((fruitless interval checks).map VigilAct.probes).sum = checks := by
  induction checks with
  | zero => rfl
  | succ checks induction => simp [fruitless, induction, VigilAct.probes]

theorem parting_of_givesUp {slave : Slave} {event : Slave.Event}
    (gives_up : slave.givesUp event = true) : parting slave event = [.aborted] :=
  if_pos gives_up

theorem parting_of_not_givesUp {slave : Slave} {event : Slave.Event}
    (going : slave.givesUp event = false) : parting slave event = [] :=
  if_neg (Bool.eq_false_iff.1 going)

theorem actsAfter_of_not_isDue {event : Slave.Event} (not_due : vigil.slave.isDue event = false) :
    vigil.actsAfter event = vigil.acts := by
  unfold actsAfter
  split
  next reporting => simp [Slave.isDue, Slave.answer?, reporting] at not_due
  next waiting => simp [Slave.isDue, Slave.answer?, waiting] at not_due
  next => rfl

/-- What a heartbeat has done fits the check that it waits for, and when it has given up it has made
all checks that there are. -/
structure Accounts (heartbeat : HeartbeatConfig) (vigil : Vigil) : Prop where
  config_eq : vigil.slave.service.config = heartbeat
  waiting : ∀ number, vigil.slave.service.phase = .waiting number →
    ∃ checks < heartbeat.maxRestartChecks, number = checks + 1 ∧
      vigil.acts = fruitless heartbeat.intervalMs checks
  acts_eq : .aborted ∈ vigil.acts →
    vigil.acts = fruitless heartbeat.intervalMs heartbeat.maxRestartChecks ++ [.aborted]

namespace Accounts

variable (accounts : vigil.Accounts heartbeat)
include accounts

/-- Nothing is added to the account as long as no check is begun. -/
theorem rest {after : Slave} (config_eq : after.service.config = heartbeat)
    (phase : ∀ number, after.service.phase = .waiting number →
      vigil.slave.service.phase = .waiting number) :
    Accounts heartbeat ⟨after, vigil.acts⟩ where
  config_eq := config_eq
  waiting number waiting := accounts.waiting number (phase number waiting)
  acts_eq := accounts.acts_eq

/-- A report that fails begins a new account. -/
theorem fail (reporting : vigil.slave.service.phase = .reporting) (answer : Option Identity)
    (config_eq : (vigil.slave.fail answer).service.config = heartbeat) :
    Accounts heartbeat
      ⟨vigil.slave.fail answer, parting vigil.slave (.reportFailed answer)⟩ := by
  refine ⟨config_eq, fun number waiting => ?_, fun gave_up => ?_⟩
  · cases answer with
    | some master => cases waiting
    | none =>
        obtain ⟨rfl, left⟩ := Slave.waiting_nextCheck waiting
        have left : 0 < vigil.slave.service.config.maxRestartChecks := left
        have going : vigil.slave.givesUp (.reportFailed none) = false := by
          apply Slave.not_givesUp_of_left
          rwa [reporting]
        rw [accounts.config_eq] at left
        exact ⟨0, left, rfl, parting_of_not_givesUp going⟩
  · cases gives_up : vigil.slave.givesUp (.reportFailed answer) with
    | false =>
        rw [parting_of_not_givesUp gives_up] at gave_up
        cases gave_up
    | true =>
        obtain ⟨used_up, -⟩ := Slave.givesUp_cases gives_up
        rw [reporting, accounts.config_eq] at used_up
        have no_checks : heartbeat.maxRestartChecks = 0 := Nat.le_zero.1 used_up
        rw [no_checks]
        exact parting_of_givesUp gives_up

/-- A check adds its sleep and its question to the account. -/
theorem probe {number : Nat} (waiting : vigil.slave.service.phase = .waiting number)
    (answer : Option Identity)
    (config_eq : (vigil.slave.probe number answer).service.config = heartbeat) :
    Accounts heartbeat
      ⟨vigil.slave.probe number answer,
        vigil.acts ++ .slept heartbeat.intervalMs :: .probed answer ::
          parting vigil.slave (.checkDue answer)⟩ := by
  obtain ⟨checks, lt, rfl, acts_eq⟩ := accounts.waiting number waiting
  refine ⟨config_eq, fun number again => ?_, fun gave_up => ?_⟩
  · cases answer with
    | some master => cases again
    | none =>
        obtain ⟨rfl, left⟩ := Slave.waiting_nextCheck again
        have going : vigil.slave.givesUp (.checkDue none) = false := by
          apply Slave.not_givesUp_of_left
          rwa [waiting]
        rw [accounts.config_eq] at left
        refine ⟨checks + 1, left, rfl, ?_⟩
        rw [parting_of_not_givesUp going, acts_eq, fruitless]
  · cases gives_up : vigil.slave.givesUp (.checkDue answer) with
    | false =>
        rw [parting_of_not_givesUp gives_up, acts_eq] at gave_up
        simp [not_mem_fruitless] at gave_up
    | true =>
        obtain ⟨used_up, ⟨reporting, -⟩ | ⟨check, -, event_eq⟩⟩ := Slave.givesUp_cases gives_up
        · cases reporting.symm.trans waiting
        · cases event_eq
          rw [waiting, accounts.config_eq] at used_up
          have last_check : heartbeat.maxRestartChecks = checks + 1 := Nat.le_antisymm used_up lt
          rw [parting_of_givesUp gives_up, acts_eq, last_check, fruitless]
          simp

theorem step (occurrence : Occurrence) : (vigil.step occurrence).Accounts heartbeat := by
  cases occurrence with
  | others event => exact accounts.rest accounts.config_eq fun _ waiting => waiting
  | event event =>
      have config_eq : (vigil.slave.step event).service.config = heartbeat :=
        (vigil.slave.sameTerms_step event).config_eq.trans accounts.config_eq
      have taken := vigil.slave.takes_step event
      rw [Vigil.step]
      generalize vigil.slave.step event = after at taken config_eq
      cases taken with
      | begun =>
          refine accounts.rest config_eq fun number waiting => ?_
          unfold Slave.beat at waiting
          split at waiting
          next => exact waiting
          next => cases waiting
      | acknowledged => exact accounts.rest config_eq nofun
      | failed reporting answer =>
          simp only [actsAfter, reporting]
          exact accounts.fail reporting answer config_eq
      | probed waiting answer =>
          simp only [actsAfter, waiting, accounts.config_eq]
          exact accounts.probe waiting answer config_eq
      | stopRequested | abortRequested | clientsClosed =>
          exact accounts.rest config_eq fun _ waiting => waiting
      | outOfTurn _ not_due =>
          rw [actsAfter_of_not_isDue not_due]
          exact accounts.rest config_eq fun _ waiting => waiting

end Accounts

theorem Attended.accounts (attended : Attended heartbeat vigil) : vigil.Accounts heartbeat := by
  induction attended with
  | started begun =>
      obtain ⟨first, stub, -, -, -, service_eq, -⟩ := Slave.start_cases begun
      refine ⟨?_, fun number waiting => ?_, nofun⟩
      · rw [service_eq]
        rfl
      · rw [service_eq] at waiting
        cases waiting
  | onwards _ occurrence induction => exact induction.step occurrence

theorem mem_actsAfter_of_givesUp {event : Slave.Event}
    (gives_up : vigil.slave.givesUp event = true) : .aborted ∈ vigil.actsAfter event := by
  have parting_eq := parting_of_givesUp gives_up
  obtain ⟨-, ⟨phase_eq, rfl⟩ | ⟨check, phase_eq, rfl⟩⟩ := Slave.givesUp_cases gives_up
  · simp [actsAfter, phase_eq, parting_eq]
  · simp [actsAfter, phase_eq, parting_eq]

/-- What a heartbeat does before it aborts its node, and that it aborts it for nothing else. -/
structure Persistent (heartbeat : HeartbeatConfig) (vigil : Vigil) : Prop where
  /-- A heartbeat that has given up has slept and asked as often as the restart timeout holds whole
  intervals, and no more often. -/
  acts_eq : .aborted ∈ vigil.acts →
    vigil.acts = fruitless heartbeat.intervalMs
      (heartbeat.masterRestartTimeoutMs / heartbeat.intervalMs) ++ [.aborted]
  aborts : ∀ event, vigil.slave.givesUp event = true →
    .aborted ∈ (vigil.step (.event event)).acts ∧
      (vigil.step (.event event)).slave.control = (vigil.slave.control.abort masterLost).1
  spares : ∀ event, vigil.slave.givesUp event = false → event.isAbort = false →
    (vigil.step (.event event)).slave.control.flags.aborted = vigil.slave.control.flags.aborted

theorem Attended.persistent (attended : Attended heartbeat vigil)
    (interval_pos : 0 < heartbeat.intervalMs) : vigil.Persistent heartbeat where
  acts_eq gave_up := by
    have acts_eq := attended.accounts.acts_eq gave_up
    rwa [HeartbeatConfig.maxRestartChecks_eq interval_pos] at acts_eq
  aborts event gives_up :=
    ⟨mem_actsAfter_of_givesUp gives_up, Slave.control_step_of_givesUp gives_up⟩
  spares event going not_abort := by
    have aborted_eq := vigil.slave.aborted_step event
    rw [going, not_abort, Bool.or_false, Bool.or_false] at aborted_eq
    exact aborted_eq

theorem Persistent.timeSlept_eq (persistent : vigil.Persistent heartbeat)
    (gave_up : .aborted ∈ vigil.acts) :
    vigil.timeSlept =
      heartbeat.masterRestartTimeoutMs / heartbeat.intervalMs * heartbeat.intervalMs := by
  simp [timeSlept, persistent.acts_eq gave_up, sum_time_fruitless, VigilAct.time]

theorem Persistent.probes_eq (persistent : vigil.Persistent heartbeat)
    (gave_up : .aborted ∈ vigil.acts) :
    vigil.probes = heartbeat.masterRestartTimeoutMs / heartbeat.intervalMs := by
  simp [probes, persistent.acts_eq gave_up, sum_probes_fruitless, VigilAct.probes]

/-! ## A heartbeat without patience -/

/-- A heartbeat with some settings that has not been started. -/
def unstarted (heartbeat : HeartbeatConfig) : Slave :=
  { Slave.unstarted with service := .create Slave.unstarted.service.identity heartbeat }

theorem not_refused_unstarted (interval_pos : 0 < heartbeat.intervalMs) (error : Error) :
    ¬(unstarted heartbeat).service.Refused Slave.pooled error := by
  intro refused
  cases refused with
  | unregistered missing => cases missing
  | shut registered isShut =>
      cases registered
      cases isShut
  | ceaseless _ _ interval_eq => exact absurd interval_eq (Nat.ne_of_gt interval_pos)

/-- A report of a heartbeat can be under way. -/
theorem exists_reporting (interval_pos : 0 < heartbeat.intervalMs) :
    ∃ vigil, Attended heartbeat vigil ∧ vigil.slave.service.phase = .reporting := by
  have links : (unstarted heartbeat).Links (some Slave.firstMaster) ⟨Slave.firstMaster, _⟩ :=
    ⟨rfl, rfl, rfl, rfl⟩
  have outcome := ((unstarted heartbeat).start_ok_iff Slave.pooled 0 _).2
    ⟨⟨_, links⟩, not_refused_unstarted interval_pos⟩
  have control_eq := (unstarted heartbeat).start_control Slave.pooled 0 (some Slave.firstMaster)
  generalize result :
    (unstarted heartbeat).start Slave.pooled 0 (some Slave.firstMaster) = started
    at outcome control_eq
  obtain ⟨slave, after, answer⟩ := started
  cases outcome
  obtain ⟨first, stub, -, -, -, service_eq, -⟩ := Slave.start_cases result
  have attended : Attended heartbeat ⟨slave, []⟩ := .started result
  refine ⟨_, attended.onwards (.event .beatDue), ?_⟩
  have control_eq : slave.control = {} := control_eq
  simp [Vigil.step, Slave.step, Slave.beat, service_eq, control_eq, unstarted, Service.create]

/-- A heartbeat whose restart timeout is shorter than its interval can give up without a sleep. -/
theorem exists_hasty (interval_pos : 0 < heartbeat.intervalMs)
    (short : heartbeat.masterRestartTimeoutMs < heartbeat.intervalMs) :
    ∃ vigil, Attended heartbeat vigil ∧ vigil.acts = [.aborted] ∧
      vigil.slave.control.flags.aborted = true := by
  obtain ⟨vigil, attended, reporting⟩ := exists_reporting interval_pos
  have no_checks : heartbeat.maxRestartChecks = 0 := by
    rw [HeartbeatConfig.maxRestartChecks_eq interval_pos]
    exact Nat.div_eq_of_lt short
  have gives_up : vigil.slave.givesUp (.reportFailed none) = true := by
    simp [Slave.givesUp, Slave.answer?, Slave.isLastChance, reporting, attended.accounts.config_eq,
      no_checks]
  have aborted_eq := vigil.slave.aborted_step (.reportFailed none)
  rw [gives_up, Bool.or_true] at aborted_eq
  refine ⟨_, attended.onwards (.event (.reportFailed none)), ?_, aborted_eq⟩
  simp only [Vigil.step, actsAfter, reporting]
  exact parting_of_givesUp gives_up

end Vigil

end Heartbeat

/-! ## A chance to come back -/

open Heartbeat

/-- A heartbeat aborts its node for want of a master only after it has slept for an interval and
asked the resolver once more. -/
def HeartbeatConfig.GrantsChance (heartbeat : HeartbeatConfig) : Prop :=
  ∀ vigil, Vigil.Attended heartbeat vigil → .aborted ∈ vigil.acts →
    heartbeat.intervalMs ≤ vigil.timeSlept ∧ 1 ≤ vigil.probes

namespace NodeConfig

/-- A heartbeat waits for as many whole intervals as the restart timeout holds, and validation does
not ask for one. -/
theorem grantsChance_iff (config : NodeConfig) (accepted : config.fault? = none) :
    (∀ vigil, Vigil.Attended config.heartbeat vigil → vigil.Persistent config.heartbeat) ∧
      (config.heartbeat.GrantsChance ↔
        config.heartbeat.intervalMs ≤ config.heartbeat.masterRestartTimeoutMs) := by
  have interval_pos := ((fault?_eq_none_iff config).1 accepted).intervalMs_pos
  have persists (vigil : Vigil) (attended : Vigil.Attended config.heartbeat vigil) :
      vigil.Persistent config.heartbeat := attended.persistent interval_pos
  refine ⟨persists, fun grants => ?_, fun le vigil attended gave_up => ?_⟩
  · by_contra short
    obtain ⟨vigil, attended, acts_eq, -⟩ := Vigil.exists_hasty interval_pos (Nat.not_le.1 short)
    obtain ⟨-, probed⟩ := grants vigil attended (by simp [acts_eq])
    simp [Vigil.probes, acts_eq, VigilAct.probes] at probed
  · have some_check :
        1 ≤ config.heartbeat.masterRestartTimeoutMs / config.heartbeat.intervalMs :=
      Nat.div_pos le interval_pos
    have persistent := persists vigil attended
    rw [persistent.timeSlept_eq gave_up, persistent.probes_eq gave_up]
    exact ⟨Nat.le_mul_of_pos_left _ some_check, some_check⟩

/-- A configuration whose heartbeat beats and gives up after so many milliseconds. -/
def beating (interval timeout : Nat) : NodeConfig :=
  { rpc := { serverThreads := 2 }
    executor := { scheduled := { coreThreads := 1 } }
    heartbeat := { intervalMs := interval, masterRestartTimeoutMs := timeout } }

/-- A heartbeat with room for two checks grants a chance. -/
theorem grantsChance_two_checks :
    (beating 10 25).fault? = none ∧ (beating 10 25).heartbeat.GrantsChance := by
  have accepted : (beating 10 25).fault? = none := by decide +kernel
  have grants_iff := (grantsChance_iff (beating 10 25) accepted).2
  exact ⟨accepted, grants_iff.2 (by decide)⟩

/-- A heartbeat whose restart timeout is shorter than its interval aborts its node as soon as a
report fails, without a sleep or another question. -/
theorem not_grantsChance_short_timeout :
    (beating 20 10).fault? = none ∧
      (∃ vigil, Vigil.Attended (beating 20 10).heartbeat vigil ∧ vigil.acts = [.aborted] ∧
        vigil.slave.control.flags.aborted = true) ∧
      ¬(beating 20 10).heartbeat.GrantsChance := by
  have interval_pos : 0 < (beating 20 10).heartbeat.intervalMs := by decide
  have short : (beating 20 10).heartbeat.masterRestartTimeoutMs <
      (beating 20 10).heartbeat.intervalMs := by decide
  obtain ⟨vigil, attended, acts_eq, aborted⟩ := Vigil.exists_hasty interval_pos short
  refine ⟨by decide +kernel, ⟨vigil, attended, acts_eq, aborted⟩, fun grants => ?_⟩
  obtain ⟨-, probed⟩ := grants vigil attended (by simp [acts_eq])
  simp [Vigil.probes, acts_eq, VigilAct.probes] at probed

end NodeConfig
end ClusterMember
