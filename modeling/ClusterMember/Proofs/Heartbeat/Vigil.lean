import ClusterMember.Proofs.Heartbeat.Link
import ClusterMember.Proofs.Heartbeat.Outside
import Mathlib.Algebra.GroupWithZero.Nat

/-!
# How long a heartbeat waits for a master

As many whole intervals as the restart timeout has room for, with one question to the resolver after
each.  What comes of the wait is told by the answers and by when the node was to stop: the first
master that is answered is followed, a stop that is seen before a check ends the wait, and when
neither comes, the heartbeat aborts its node.
-/

namespace ClusterMember
namespace Heartbeat
namespace Slave

/-! ## Going on to a check -/

theorem nextCheck_setPhase (slave : Slave) (phase : BeatPhase) (check : Nat) :
    (slave.setPhase phase).nextCheck check = slave.nextCheck check := rfl

variable {slave : Slave} {check : Nat}

theorem nextCheck_of_used_up (used_up : slave.service.config.maxRestartChecks < check) :
    slave.nextCheck check =
      { slave.setPhase .idle with control := (slave.control.abort masterLost).1 } :=
  if_pos used_up

theorem nextCheck_of_stopped (left : check ≤ slave.service.config.maxRestartChecks)
    (stopped : slave.control.flags.stopped = true) :
    slave.nextCheck check = slave.setPhase .idle := by
  rw [nextCheck, if_neg (Nat.not_lt.2 left), if_pos stopped]

theorem nextCheck_of_going (left : check ≤ slave.service.config.maxRestartChecks)
    (going : slave.control.flags.stopped = false) :
    slave.nextCheck check = slave.setPhase (.waiting check) := by
  rw [nextCheck, if_neg (Nat.not_lt.2 left), if_neg (by simp [going])]

theorem nextCheck_not_reporting (slave : Slave) (check : Nat) :
    (slave.nextCheck check).service.phase ≠ .reporting := by
  unfold nextCheck
  split
  next => simp [setPhase]
  next => split <;> simp [setPhase]

theorem probe_not_reporting (slave : Slave) (check : Nat) (answer : Option Identity) :
    (slave.probe check answer).service.phase ≠ .reporting := by
  cases answer with
  | some master => simp [probe, setPhase]
  | none => exact nextCheck_not_reporting slave (check + 1)

end Slave

/-! ## Time -/

/-- How long an act takes, in milliseconds. -/
def VigilAct.time : VigilAct → Nat
  | .slept time => time
  | _ => 0

/-- How often an act asks the resolver. -/
def VigilAct.probes : VigilAct → Nat
  | .probed _ => 1
  | _ => 0

namespace Vigil

/-- How long a heartbeat has slept, in milliseconds. -/
def timeSlept (vigil : Vigil) : Nat := (vigil.acts.map VigilAct.time).sum

/-- How often a heartbeat has asked the resolver since its report failed and it asked first. -/
def probes (vigil : Vigil) : Nat := (vigil.acts.map VigilAct.probes).sum

/-- So many checks that find no master. -/
def fruitless (interval : Nat) : Nat → List VigilAct
  | 0 => []
  | checks + 1 => fruitless interval checks ++ [.slept interval, .probed none]

theorem sum_time_fruitless (interval checks : Nat) :
    ((fruitless interval checks).map VigilAct.time).sum = checks * interval := by
  induction checks with
  | zero => simp [fruitless]
  | succ checks induction => simp [fruitless, induction, VigilAct.time, Nat.succ_mul]

/-! ## Waiting -/

variable (slave : Slave) (resolutions : Nat → Resolution)

/-- What others have made of a slave when the resolver answers after so many checks. -/
def beset : Nat → Slave
  | 0 => slave.run (resolutions 0).meanwhile
  | checks + 1 => (beset checks).run (resolutions (checks + 1)).meanwhile

/-- How many checks the restart timeout has room for. -/
def room : Nat :=
  slave.service.config.masterRestartTimeoutMs / slave.service.config.intervalMs

/-- The report of a slave fails without a master, and only others do anything else. -/
structure Deserted : Prop where
  reporting : slave.service.phase = .reporting
  interval_pos : 0 < slave.service.config.intervalMs
  outside : ∀ number, ∀ event ∈ (resolutions number).meanwhile, event.isOutside = true
  missing : (resolutions 0).answer = none

/-- None of so many checks finds a master, and no stop is seen before any of them. -/
structure Quiet (checks : Nat) : Prop where
  unanswered : ∀ check ≤ checks, (resolutions check).answer = none
  going : ∀ check < checks, (beset slave resolutions check).control.flags.stopped = false

variable {slave resolutions}

theorem Quiet.mono {fewer checks : Nat} (quiet : Quiet slave resolutions checks)
    (le : fewer ≤ checks) : Quiet slave resolutions fewer where
  unanswered check small := quiet.unanswered check (Nat.le_trans small le)
  going check small := quiet.going check (Nat.lt_of_lt_of_le small le)

namespace Deserted

variable (deserted : Deserted slave resolutions)
include deserted

theorem quiet_zero : Quiet slave resolutions 0 where
  unanswered check small := by
    rw [Nat.le_zero.1 small]
    exact deserted.missing
  going check small := absurd small (Nat.not_lt_zero check)

theorem service_beset (checks : Nat) :
    (beset slave resolutions checks).service = slave.service := by
  induction checks with
  | zero => exact Slave.service_run_of_isOutside (deserted.outside 0) slave
  | succ checks induction =>
      exact (Slave.service_run_of_isOutside (deserted.outside _) _).trans induction

theorem maxRestartChecks_miss (checks : Nat) :
    (beset slave resolutions checks).miss.service.config.maxRestartChecks = room slave := by
  have service_eq := deserted.service_beset checks
  have interval_pos := deserted.interval_pos
  simp only [Slave.miss, Slave.countFailure, service_eq, HeartbeatConfig.maxRestartChecks, room]
  rw [Nat.max_eq_left interval_pos]

theorem interval_beset (checks : Nat) :
    (beset slave resolutions checks).service.config.intervalMs =
      slave.service.config.intervalMs := by
  rw [deserted.service_beset]

/-- A check sleeps for an interval and asks, and gives up when there is no master and no other check
is left. -/
theorem check_waiting (checks : Nat) (acts : List VigilAct) :
    check ⟨(beset slave resolutions checks).miss.setPhase (.waiting (checks + 1)), acts⟩
        (resolutions (checks + 1)) =
      ⟨((beset slave resolutions (checks + 1)).miss.setPhase (.waiting (checks + 1))).probe
          (checks + 1) (resolutions (checks + 1)).answer,
        acts ++ .slept slave.service.config.intervalMs ::
          .probed (resolutions (checks + 1)).answer ::
          parting ((beset slave resolutions (checks + 1)).miss.setPhase (.waiting (checks + 1)))
            (.checkDue (resolutions (checks + 1)).answer)⟩ := by
  have interval_eq := deserted.interval_beset (checks + 1)
  have run_eq := Slave.run_miss_setPhase (deserted.outside (checks + 1))
    (beset slave resolutions checks) (.waiting (checks + 1))
  rw [← interval_eq]
  simp only [check, Slave.setPhase]
  rw [← beset] at run_eq
  simp only [Slave.setPhase] at run_eq
  rw [run_eq]
  rfl

theorem givesUp_checkDue (checks check : Nat) :
    ((beset slave resolutions checks).miss.setPhase (.waiting check)).givesUp (.checkDue none) =
      decide (room slave ≤ check) := by
  rw [← deserted.maxRestartChecks_miss checks]
  rfl

/-- A heartbeat that has still room for a check and sees no stop makes that check. -/
theorem watch_succ {checks : Nat}
    (earlier : watch slave resolutions checks =
      ⟨(beset slave resolutions checks).miss.nextCheck (checks + 1),
        fruitless slave.service.config.intervalMs checks ++
          if room slave ≤ checks then [.aborted] else []⟩)
    (lt : checks < room slave)
    (going : (beset slave resolutions checks).control.flags.stopped = false) :
    watch slave resolutions (checks + 1) =
      ⟨((beset slave resolutions (checks + 1)).miss.setPhase (.waiting (checks + 1))).probe
          (checks + 1) (resolutions (checks + 1)).answer,
        fruitless slave.service.config.intervalMs checks ++
          .slept slave.service.config.intervalMs :: .probed (resolutions (checks + 1)).answer ::
          parting ((beset slave resolutions (checks + 1)).miss.setPhase (.waiting (checks + 1)))
            (.checkDue (resolutions (checks + 1)).answer)⟩ := by
  have left : checks + 1 ≤
      (beset slave resolutions checks).miss.service.config.maxRestartChecks := by
    rwa [deserted.maxRestartChecks_miss]
  rw [if_neg (Nat.not_le.2 lt), List.append_nil, Slave.nextCheck_of_going left going] at earlier
  rw [watch, earlier, deserted.check_waiting]

/-- Checks that find no master and see no stop leave everything to the next one, if there is room
for it. -/
theorem watch_of_quiet {checks : Nat} (quiet : Quiet slave resolutions checks)
    (le : checks ≤ room slave) :
    watch slave resolutions checks =
      ⟨(beset slave resolutions checks).miss.nextCheck (checks + 1),
        fruitless slave.service.config.intervalMs checks ++
          if room slave ≤ checks then [.aborted] else []⟩ := by
  induction checks with
  | zero =>
      have reporting : (beset slave resolutions 0).service.phase = .reporting := by
        rw [deserted.service_beset, deserted.reporting]
      have limit_eq := deserted.maxRestartChecks_miss 0
      have gives_up : (beset slave resolutions 0).givesUp (.reportFailed none) =
          decide (room slave ≤ 0) := by
        simp only [← limit_eq, Slave.givesUp, Slave.answer?, Slave.isLastChance, reporting]
        rfl
      have failed : (beset slave resolutions 0).step (.reportFailed none) =
          (beset slave resolutions 0).miss.nextCheck 1 := by
        simp only [Slave.step, reporting, Slave.fail_none]
      rw [watch, begin, deserted.missing, ← beset, failed, parting, gives_up, fruitless]
      simp only [List.nil_append, decide_eq_true_eq]
  | succ checks induction =>
      -- There was room for this check, so that the ones before it did not end in an abort.
      have earlier := induction (quiet.mono (Nat.le_succ _)) (Nat.le_of_succ_le le)
      have going := quiet.going checks (Nat.lt_succ_self _)
      rw [deserted.watch_succ earlier le going, quiet.unanswered _ (Nat.le_refl _), parting,
        deserted.givesUp_checkDue, fruitless]
      simp only [Slave.probe, Slave.nextCheck_setPhase, List.append_assoc, decide_eq_true_eq]
      rfl

end Deserted

/-- Nothing more is done once the heartbeat does not wait any more. -/
theorem watch_of_idle {checks later : Nat}
    (idle : (watch slave resolutions checks).slave.service.phase = .idle) (le : checks ≤ later) :
    watch slave resolutions later = watch slave resolutions checks := by
  obtain ⟨more, rfl⟩ := Nat.exists_eq_add_of_le le
  clear le
  induction more with
  | zero => rfl
  | succ more induction => rw [← Nat.add_assoc, watch, induction, check, idle]

/-! ## Outcomes -/

variable (slave resolutions)

/-- A check finds a master, none before it does, and no stop is seen. -/
structure Finds (check : Nat) (master : Identity) : Prop where
  first_le : 1 ≤ check
  le_room : check ≤ room slave
  quiet : Quiet slave resolutions (check - 1)
  going : (beset slave resolutions (check - 1)).control.flags.stopped = false
  answer_eq : (resolutions check).answer = some master

/-- A stop is seen before a check, and no master was found before it. -/
structure SeesStop (check : Nat) : Prop where
  first_le : 1 ≤ check
  le_room : check ≤ room slave
  quiet : Quiet slave resolutions (check - 1)
  stopped : (beset slave resolutions (check - 1)).control.flags.stopped = true

/-- The heartbeat has slept and asked once for each check and leaves its node alone.  It follows the
master of the last answer, so that its link names it, unless no stub can be built for it. -/
structure Followed (check : Nat) (master : Identity) (vigil : Vigil) : Prop where
  acts_eq : vigil.acts = fruitless slave.service.config.intervalMs (check - 1) ++
    [.slept slave.service.config.intervalMs, .probed (some master)]
  slave_eq : vigil.slave =
    (((beset slave resolutions check).miss.setPhase (.waiting check)).relink master).setPhase .idle
  linked : (∃ link, vigil.slave.service.link = some link ∧ (link.master == master) = true) ∨
    (∃ error, ((beset slave resolutions check).buildStub master).2 = .error error) ∧
      vigil.slave.service.link = slave.service.link
  control_eq : vigil.slave.control = (beset slave resolutions check).control

/-- The heartbeat has slept and asked once for each check before one, and leaves off. -/
structure LeftOff (check : Nat) (vigil : Vigil) : Prop where
  acts_eq : vigil.acts = fruitless slave.service.config.intervalMs (check - 1)
  slave_eq : vigil.slave = (beset slave resolutions (check - 1)).miss.setPhase .idle
  link_eq : vigil.slave.service.link = slave.service.link

/-- The heartbeat has slept and asked as often as there was room for, and has aborted its node once.
-/
structure GivenUp (vigil : Vigil) : Prop where
  acts_eq : vigil.acts =
    fruitless slave.service.config.intervalMs (room slave) ++ [.aborted]
  slave_eq : vigil.slave =
    { (beset slave resolutions (room slave)).miss.setPhase .idle with
      control := ((beset slave resolutions (room slave)).control.abort masterLost).1 }
  link_eq : vigil.slave.service.link = slave.service.link
  timeout_lt : slave.service.config.masterRestartTimeoutMs <
    vigil.timeSlept + slave.service.config.intervalMs

variable {slave resolutions}

theorem Followed.idle {check : Nat} {master : Identity} {vigil : Vigil}
    (followed : Followed slave resolutions check master vigil) :
    vigil.slave.service.phase = .idle := by
  rw [followed.slave_eq]
  rfl

theorem LeftOff.idle {check : Nat} {vigil : Vigil}
    (leftOff : LeftOff slave resolutions check vigil) : vigil.slave.service.phase = .idle := by
  rw [leftOff.slave_eq]
  rfl

theorem GivenUp.idle {vigil : Vigil} (givenUp : GivenUp slave resolutions vigil) :
    vigil.slave.service.phase = .idle := by
  rw [givenUp.slave_eq]
  rfl

namespace Deserted

variable (deserted : Deserted slave resolutions)
include deserted

theorem link_beset (checks : Nat) :
    (beset slave resolutions checks).service.link = slave.service.link := by
  rw [deserted.service_beset]

theorem followed {check : Nat} {master : Identity} (finds : Finds slave resolutions check master) :
    Followed slave resolutions check master (watch slave resolutions check) := by
  obtain ⟨first_le, le_room, quiet, going, answer_eq⟩ := finds
  obtain ⟨checks, rfl⟩ : ∃ checks, check = checks + 1 := ⟨check - 1, by omega⟩
  rw [Nat.add_sub_cancel] at quiet going
  have watch_eq := deserted.watch_succ (deserted.watch_of_quiet quiet (Nat.le_of_succ_le le_room))
    le_room going
  have linked := Slave.linked_relink
    ((beset slave resolutions (checks + 1)).miss.setPhase (.waiting (checks + 1))) master
  rw [Slave.buildStub_miss_setPhase] at linked
  rw [answer_eq] at watch_eq
  rw [watch_eq]
  refine ⟨rfl, rfl, linked.imp_right fun kept => ⟨kept.1, ?_⟩, ?_⟩
  · exact kept.2.trans (deserted.link_beset (checks + 1))
  · exact Slave.probe_control _ (checks + 1) master

theorem leftOff {check : Nat} (seen : SeesStop slave resolutions check) :
    LeftOff slave resolutions check (watch slave resolutions (check - 1)) := by
  obtain ⟨first_le, le_room, quiet, stopped⟩ := seen
  have lt : check - 1 < room slave := by omega
  have left : check - 1 + 1 ≤
      (beset slave resolutions (check - 1)).miss.service.config.maxRestartChecks := by
    rwa [deserted.maxRestartChecks_miss]
  rw [deserted.watch_of_quiet quiet (Nat.le_of_lt lt), if_neg (Nat.not_le.2 lt), List.append_nil,
    Slave.nextCheck_of_stopped left stopped]
  exact ⟨rfl, rfl, deserted.link_beset (check - 1)⟩

theorem givenUp (quiet : Quiet slave resolutions (room slave)) :
    GivenUp slave resolutions (watch slave resolutions (room slave)) := by
  have used_up :
      (beset slave resolutions (room slave)).miss.service.config.maxRestartChecks <
        room slave + 1 := by
    rw [deserted.maxRestartChecks_miss]
    exact Nat.lt_succ_self _
  rw [deserted.watch_of_quiet quiet (Nat.le_refl _), if_pos (Nat.le_refl _),
    Slave.nextCheck_of_used_up used_up]
  refine ⟨rfl, rfl, deserted.link_beset (room slave), ?_⟩
  simp only [timeSlept, List.map_append, List.sum_append, sum_time_fruitless]
  exact Nat.lt_div_mul_add deserted.interval_pos

/-- One of the three comes of every wait. -/
theorem ends : (∃ check master, Finds slave resolutions check master) ∨
    (∃ check, SeesStop slave resolutions check) ∨ Quiet slave resolutions (room slave) := by
  -- Of the checks made so far, none found a master or one ended the wait.
  have so_far (checks : Nat) (le : checks ≤ room slave) :
      (∃ check master, Finds slave resolutions check master) ∨
        (∃ check, SeesStop slave resolutions check) ∨ Quiet slave resolutions checks := by
    induction checks with
    | zero => exact .inr (.inr deserted.quiet_zero)
    | succ checks induction =>
        rcases induction (Nat.le_of_succ_le le) with found | seen | quiet
        · exact .inl found
        · exact .inr (.inl seen)
        · cases stopped : (beset slave resolutions checks).control.flags.stopped with
          | true => exact .inr (.inl ⟨checks + 1, Nat.succ_pos _, le, quiet, stopped⟩)
          | false =>
              cases answer_eq : (resolutions (checks + 1)).answer with
              | some master =>
                  exact .inl ⟨checks + 1, master, Nat.succ_pos _, le, quiet, stopped, answer_eq⟩
              | none =>
                  refine .inr (.inr ⟨fun check small => ?_, fun check small => ?_⟩)
                  · rcases Nat.le_succ_iff.1 small with earlier | rfl
                    · exact quiet.unanswered check earlier
                    · exact answer_eq
                  · rcases Nat.lt_succ_iff_lt_or_eq.1 small with earlier | rfl
                    · exact quiet.going check earlier
                    · exact stopped
  exact so_far (room slave) (Nat.le_refl _)

end Deserted

/-! ## Time -/

theorem timeSlept_check_le (vigil : Vigil) (resolution : Resolution) :
    vigil.timeSlept ≤ (vigil.check resolution).timeSlept := by
  unfold check
  split
  next => simp [timeSlept]
  next => exact Nat.le_refl _

theorem timeSlept_watch_le {checks later : Nat} (le : checks ≤ later) :
    (watch slave resolutions checks).timeSlept ≤ (watch slave resolutions later).timeSlept := by
  obtain ⟨more, rfl⟩ := Nat.exists_eq_add_of_le le
  clear le
  induction more with
  | zero => exact Nat.le_refl _
  | succ more induction => exact Nat.le_trans induction (timeSlept_check_le _ _)

/-- So many checks take no longer than the restart timeout. -/
theorem mul_interval_le {checks : Nat} (le : checks ≤ room slave) :
    checks * slave.service.config.intervalMs ≤ slave.service.config.masterRestartTimeoutMs :=
  Nat.le_trans (Nat.mul_le_mul_right _ le) (Nat.div_mul_le_self _ _)

theorem Followed.timeSlept_le {check : Nat} {master : Identity} {vigil : Vigil}
    (followed : Followed slave resolutions check master vigil) (first_le : 1 ≤ check)
    (le_room : check ≤ room slave) :
    vigil.timeSlept ≤ slave.service.config.masterRestartTimeoutMs := by
  have time_eq : vigil.timeSlept = check * slave.service.config.intervalMs := by
    obtain ⟨checks, rfl⟩ : ∃ checks, check = checks + 1 := ⟨check - 1, by omega⟩
    simp [timeSlept, followed.acts_eq, sum_time_fruitless, VigilAct.time, Nat.succ_mul]
  rw [time_eq]
  exact mul_interval_le le_room

theorem LeftOff.timeSlept_le {check : Nat} {vigil : Vigil}
    (leftOff : LeftOff slave resolutions check vigil) (le_room : check ≤ room slave) :
    vigil.timeSlept ≤ slave.service.config.masterRestartTimeoutMs := by
  rw [timeSlept, leftOff.acts_eq, sum_time_fruitless]
  exact mul_interval_le (Nat.le_trans (Nat.sub_le _ _) le_room)

theorem GivenUp.timeSlept_le {vigil : Vigil} (givenUp : GivenUp slave resolutions vigil) :
    vigil.timeSlept ≤ slave.service.config.masterRestartTimeoutMs := by
  simp only [timeSlept, givenUp.acts_eq, List.map_append, List.sum_append, sum_time_fruitless]
  exact mul_interval_le (Nat.le_refl _)

/-- The heartbeat is over its wait after some checks, and was not slept for too long. -/
theorem Deserted.exists_over (deserted : Deserted slave resolutions) :
    ∃ checks, (watch slave resolutions checks).slave.service.phase = .idle ∧
      (watch slave resolutions checks).timeSlept ≤
        slave.service.config.masterRestartTimeoutMs := by
  rcases deserted.ends with ⟨check, master, finds⟩ | ⟨check, seen⟩ | quiet
  · have followed := deserted.followed finds
    exact ⟨check, followed.idle, followed.timeSlept_le finds.first_le finds.le_room⟩
  · have leftOff := deserted.leftOff seen
    exact ⟨check - 1, leftOff.idle, leftOff.timeSlept_le seen.le_room⟩
  · have givenUp := deserted.givenUp quiet
    exact ⟨room slave, givenUp.idle, givenUp.timeSlept_le⟩

theorem Deserted.timeSlept_le (deserted : Deserted slave resolutions) (checks : Nat) :
    (watch slave resolutions checks).timeSlept ≤
      slave.service.config.masterRestartTimeoutMs := by
  obtain ⟨last, idle, time_le⟩ := deserted.exists_over
  have later : (watch slave resolutions checks).timeSlept ≤
      (watch slave resolutions (max checks last)).timeSlept :=
    timeSlept_watch_le (Nat.le_max_left checks last)
  rw [watch_of_idle idle (Nat.le_max_right checks last)] at later
  exact Nat.le_trans later time_le

end Vigil
end Heartbeat
end ClusterMember
