import ClusterMember.Proofs.Heartbeat.CleanStop
import ClusterMember.Proofs.Heartbeat.Vigil

/-!
# The wait for a master is what a heartbeat does

A heartbeat over a network on which its report fails does just what is watched of it, and asks its
resolver once for the failed report and once for each check.
-/

namespace ClusterMember
namespace Heartbeat
namespace Vigil

variable {slave : Slave} {resolutions : Nat → Resolution}

/-! ## Questions -/

theorem probes_parting (slave : Slave) (event : Slave.Event) :
    ((parting slave event).map VigilAct.probes).sum = 0 := by
  unfold parting
  split <;> rfl

theorem probes_begin (slave : Slave) (resolution : Resolution) :
    (begin slave resolution).probes = 0 :=
  probes_parting _ _

theorem probes_check {vigil : Vigil} {check : Nat}
    (waiting : vigil.slave.service.phase = .waiting check) (resolution : Resolution) :
    (vigil.check resolution).probes = vigil.probes + 1 := by
  simp only [Vigil.check, waiting, probes, List.map_append, List.map_cons, List.sum_append,
    List.sum_cons, VigilAct.probes, probes_parting]

end Vigil

/-! ## Courses -/

namespace Course

/-- What the resolver of a course answers when it will have been asked so often. -/
def upcoming (course : Course) (number : Nat) : Resolution :=
  course.answers[number]?.getD (course.answers.getLast?.getD ⟨none, []⟩)

theorem ask_cases (course : Course) :
    ∃ after, course.ask = (after, (course.upcoming 0).answer) ∧
      after.slave = course.slave.run (course.upcoming 0).meanwhile ∧
      after.asked = course.asked + 1 ∧
      ∀ number, after.upcoming number = course.upcoming (number + 1) := by
  obtain ⟨slave, answers, asked⟩ := course
  match answers with
  | [] => exact ⟨_, rfl, rfl, rfl, fun _ => rfl⟩
  | [only] => exact ⟨_, rfl, rfl, rfl, fun number => by cases number <;> rfl⟩
  | first :: second :: rest =>
      refine ⟨_, rfl, rfl, rfl, fun number => ?_⟩
      simp [upcoming]

/-- A course after the first thing that it does when the report under way fails. -/
theorem advance_reporting {course : Course} {network : Network} {now : UInt64} {error : Error}
    (reporting : course.slave.service.phase = .reporting)
    (failed : course.slave.report network now = .error error) :
    ∃ after, course.advance network now = some after ∧
      after.slave = (Vigil.begin course.slave (course.upcoming 0)).slave ∧
      after.asked = course.asked + 1 ∧
      ∀ number, after.upcoming number = course.upcoming (number + 1) := by
  obtain ⟨asking, ask_eq, slave_eq, asked_eq, upcoming_eq⟩ := course.ask_cases
  refine ⟨{ asking with
    slave := asking.slave.step (.reportFailed (course.upcoming 0).answer) }, ?_, ?_, asked_eq,
    upcoming_eq⟩
  · simp only [advance, reporting, failed, ask_eq]
  · rw [slave_eq]
    rfl

/-- A course after a check. -/
theorem advance_waiting {course : Course} {check : Nat} {vigil : Vigil}
    (waiting : course.slave.service.phase = .waiting check) (slave_eq : course.slave = vigil.slave)
    (network : Network) (now : UInt64) :
    ∃ after, course.advance network now = some after ∧
      after.slave = (vigil.check (course.upcoming 0)).slave ∧
      after.asked = course.asked + 1 ∧
      ∀ number, after.upcoming number = course.upcoming (number + 1) := by
  obtain ⟨asking, ask_eq, asking_eq, asked_eq, upcoming_eq⟩ := course.ask_cases
  have vigil_waiting : vigil.slave.service.phase = .waiting check := slave_eq ▸ waiting
  refine ⟨{ asking with slave := asking.slave.step (.checkDue (course.upcoming 0).answer) }, ?_,
    ?_, asked_eq, upcoming_eq⟩
  · simp only [advance, waiting, ask_eq]
  · simp only [Vigil.check, vigil_waiting, asking_eq, slave_eq]

end Course

namespace Vigil

variable {slave : Slave} {resolutions : Nat → Resolution}

/-- No report is under way during the wait. -/
theorem Deserted.watch_not_reporting (deserted : Deserted slave resolutions) (checks : Nat) :
    (watch slave resolutions checks).slave.service.phase ≠ .reporting := by
  induction checks with
  | zero =>
      have nothing_found := deserted.watch_of_quiet deserted.quiet_zero (Nat.zero_le _)
      rw [nothing_found]
      exact Slave.nextCheck_not_reporting _ 1
  | succ checks induction =>
      rw [watch, check]
      split
      next check waiting =>
        rw [← Slave.service_run_of_isOutside (deserted.outside (checks + 1))] at waiting
        simp only [Slave.step, waiting]
        exact Slave.probe_not_reporting _ check _
      next => exact induction

/-- A course does what is watched, and asks its resolver once for each check. -/
structure Follows (slave : Slave) (resolutions : Nat → Resolution) (asked checks : Nat)
    (course : Course) : Prop where
  slave_eq : course.slave = (watch slave resolutions checks).slave
  asked_eq : course.asked = asked + (watch slave resolutions checks).probes

theorem Deserted.finish (deserted : Deserted slave resolutions) (network : Network) (now : UInt64)
    {asked checks : Nat} {course : Course} (follows : Follows slave resolutions asked checks course)
    (upcoming_eq : ∀ number, course.upcoming number = resolutions (checks + 1 + number))
    (fuel : Nat) :
    Follows slave resolutions asked (checks + fuel) (Course.finish network now fuel course) := by
  induction fuel generalizing course checks with
  | zero => exact follows
  | succ fuel induction =>
      have ⟨slave_eq, asked_eq⟩ := follows
      cases phase_eq : course.slave.service.phase with
      | reporting =>
          rw [slave_eq] at phase_eq
          exact absurd phase_eq (deserted.watch_not_reporting checks)
      | idle =>
          have stays : course.advance network now = none := by simp only [Course.advance, phase_eq]
          rw [slave_eq] at phase_eq
          have same := watch_of_idle phase_eq (Nat.le_add_right checks (fuel + 1))
          rw [Course.finish, stays]
          exact ⟨by rw [same, slave_eq], by rw [same, asked_eq]⟩
      | waiting check =>
          obtain ⟨after, advanced, after_slave, after_asked, after_upcoming⟩ :=
            Course.advance_waiting phase_eq slave_eq network now
          have next_eq := upcoming_eq 0
          rw [Nat.add_zero] at next_eq
          rw [next_eq] at after_slave
          rw [slave_eq] at phase_eq
          have probes_eq := probes_check phase_eq (resolutions (checks + 1))
          rw [Course.finish, advanced, Nat.add_comm fuel 1, ← Nat.add_assoc]
          refine induction ⟨after_slave, ?_⟩ fun number => ?_
          · rw [after_asked, asked_eq, watch, probes_eq, Nat.add_assoc]
          · rw [after_upcoming, upcoming_eq]
            congr 1
            omega

/-- What becomes of a slave whose report fails without a master, in all that can come of it. -/
structure Exact (slave : Slave) (resolutions : Nat → Resolution) : Prop where
  ends : (∃ check master, Finds slave resolutions check master) ∨
    (∃ check, SeesStop slave resolutions check) ∨ Quiet slave resolutions (room slave)
  followed : ∀ check master, Finds slave resolutions check master → ∀ checks, check ≤ checks →
    Followed slave resolutions check master (watch slave resolutions checks)
  leftOff : ∀ check, SeesStop slave resolutions check → ∀ checks, check - 1 ≤ checks →
    LeftOff slave resolutions check (watch slave resolutions checks)
  givenUp : Quiet slave resolutions (room slave) → ∀ checks, room slave ≤ checks →
    GivenUp slave resolutions (watch slave resolutions checks)
  timeSlept_le : ∀ checks, (watch slave resolutions checks).timeSlept ≤
    slave.service.config.masterRestartTimeoutMs
  /-- A heartbeat over a network on which the report fails does what is watched. -/
  follows : ∀ (course : Course) network now error, course.slave = slave →
    (∀ number, course.upcoming number = resolutions number) →
    slave.report network now = .error error → ∀ checks,
      Follows slave resolutions (course.asked + 1) checks
        (Course.finish network now (checks + 1) course)

/-- The wait for a master is bounded and exact, whatever the resolver answers and whenever the node
is to stop. -/
theorem watch_exact (deserted : Deserted slave resolutions) : Exact slave resolutions where
  ends := deserted.ends
  followed check master finds checks le := by
    have followed := deserted.followed finds
    rwa [watch_of_idle followed.idle le]
  leftOff check seen checks le := by
    have leftOff := deserted.leftOff seen
    rwa [watch_of_idle leftOff.idle le]
  givenUp quiet checks le := by
    have givenUp := deserted.givenUp quiet
    rwa [watch_of_idle givenUp.idle le]
  timeSlept_le := deserted.timeSlept_le
  follows course network now error slave_eq upcoming_eq failed checks := by
    subst slave_eq
    obtain ⟨after, advanced, after_slave, after_asked, after_upcoming⟩ :=
      Course.advance_reporting deserted.reporting failed
    rw [Course.finish, advanced]
    have begun : Follows course.slave resolutions (course.asked + 1) 0 after := by
      refine ⟨?_, ?_⟩
      · rw [after_slave, upcoming_eq]
        rfl
      · rw [after_asked, watch, probes_begin]
    have finished := deserted.finish network now begun (fun number => ?_) checks
    · rwa [Nat.zero_add] at finished
    · rw [after_upcoming, upcoming_eq]
      congr 1
      omega

/-- A master that has come back at another place. -/
def movedMaster : Identity := ⟨"master-2", none, 10051, 1, by decide +kernel⟩

/-- A resolver that finds a master at the second check, when the node has just been stopped. -/
def findsSecond : Nat → Resolution
  | 2 => ⟨some movedMaster, [.stopRequested "over"]⟩
  | _ => ⟨none, []⟩

/-- A slave with room for three checks that found a master again and reports to it. -/
def reporting : Slave := (Slave.bereft 3).run [.checkDue (some movedMaster), .beatDue]

/-- The third check is not made, and the stop does not keep the heartbeat from the master that has
come back. -/
theorem watch_exact_second_check :
    Deserted reporting findsSecond ∧
      (watch reporting findsSecond 5).acts =
        [.slept 10, .probed none, .slept 10, .probed (some movedMaster)] ∧
      (watch reporting findsSecond 5).slave.control.flags.stopped = true ∧
      (watch reporting findsSecond 5).slave.control.flags.aborted = false := by
  have deserted : Deserted reporting findsSecond := by
    refine ⟨by decide +kernel, by decide +kernel, fun number event mem => ?_, rfl⟩
    unfold findsSecond at mem
    split at mem
    next =>
      rw [List.mem_singleton.1 mem]
      rfl
    next => cases mem
  have finds : Finds reporting findsSecond 2 movedMaster := by
    refine ⟨by decide, by decide +kernel, ⟨fun check small => ?_, fun check small => ?_⟩,
      by decide +kernel, rfl⟩
    · unfold findsSecond
      split
      next => exact absurd small (by decide)
      next => rfl
    · rw [Nat.lt_one_iff.1 small]
      decide +kernel
  have followed := (watch_exact deserted).followed 2 movedMaster finds 5 (by decide)
  have interval_eq : reporting.service.config.intervalMs = 10 := by decide +kernel
  refine ⟨deserted, ?_, ?_, ?_⟩
  · rw [followed.acts_eq, interval_eq]
    rfl
  · rw [followed.control_eq]
    decide +kernel
  · rw [followed.control_eq]
    decide +kernel

end Vigil
end Heartbeat
end ClusterMember
