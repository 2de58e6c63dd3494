import ClusterMember.Lifecycle.Wait
import Mathlib.Algebra.Order.Floor.Div

/-!
# Bounded waits end and answer rightly

A wait ends with the first of its looks that sees the flag, a reason to give up, or the time over.
Looks are made at the multiples of the time between two of them, so one of them is made when the
time is over, however the flag and the reasons change meanwhile.
-/

namespace ClusterMember
namespace Wait

/-- The time between two looks. -/
def pace (wait : Wait) : Nat := max wait.step 1

/-- Whether a look at a time gives up unless it sees the flag. -/
def givesUp (wait : Wait) (time : Nat) : Bool :=
  wait.isOver time || decide (wait.timeout ≤ time)

/-- Whether a look at a time sees the flag, as it begins or before it gives up. -/
def sees (wait : Wait) (time : Nat) : Bool :=
  wait.isSet time || (wait.givesUp time && wait.isSetLate time)

/-- Whether a look at a time is the last one. -/
def isLast (wait : Wait) (time : Nat) : Bool :=
  wait.isSet time || wait.givesUp time

theorem pace_pos (wait : Wait) : 0 < wait.pace :=
  Nat.lt_of_lt_of_le Nat.zero_lt_one (Nat.le_max_right wait.step 1)

variable {wait : Wait} {time : Nat}

theorem isLast_of_timeout_le (late : wait.timeout ≤ time) : wait.isLast time = true := by
  simp [isLast, givesUp, late]

theorem isLast_of_sees (seen : wait.sees time = true) : wait.isLast time = true := by
  rw [sees, Bool.or_eq_true, Bool.and_eq_true] at seen
  rw [isLast, Bool.or_eq_true]
  exact seen.imp_right And.left

theorem givesUp_of_isLast (last : wait.isLast time = true) (unseen : wait.sees time = false) :
    wait.givesUp time = true := by
  rw [sees, Bool.or_eq_false_iff] at unseen
  rw [isLast, unseen.1] at last
  exact last

/-! ## Looks -/

theorem lookFrom_of_isLast (last : wait.isLast time = true) (looks : Nat) :
    wait.lookFrom time looks = ⟨wait.sees time, looks + 1, time⟩ := by
  rw [lookFrom]
  cases set_eq : wait.isSet time with
  | true => simp [sees, set_eq]
  | false =>
      have gives_up : wait.givesUp time = true := by simpa [isLast, set_eq] using last
      have at_end : wait.isOver time = true ∨ wait.timeout ≤ time := by
        simpa [givesUp] using gives_up
      rw [if_neg Bool.false_ne_true, if_pos at_end]
      simp [sees, set_eq, gives_up]

theorem lookFrom_of_not_isLast (going : wait.isLast time = false) (looks : Nat) :
    wait.lookFrom time looks = wait.lookFrom (time + wait.pace) (looks + 1) := by
  rw [isLast, Bool.or_eq_false_iff] at going
  have not_at_end : ¬(wait.isOver time = true ∨ wait.timeout ≤ time) := by
    simpa [givesUp] using going.2
  rw [lookFrom, going.1, if_neg Bool.false_ne_true, if_neg not_at_end]
  rfl

/-- As long as no look is the last one, the next one is made. -/
theorem run_eq_lookFrom {looks : Nat}
    (going : ∀ look < looks, wait.isLast (look * wait.pace) = false) :
    wait.run = wait.lookFrom (looks * wait.pace) looks := by
  induction looks with
  | zero => rw [Nat.zero_mul, run]
  | succ looks induction =>
      have so_far := induction fun look lt => going look (Nat.lt_succ_of_lt lt)
      rw [so_far, lookFrom_of_not_isLast (going looks (Nat.lt_succ_self looks)), Nat.succ_mul]

/-- A look is the last one of a wait, and no look before it is. -/
structure EndsWith (wait : Wait) (look : Nat) : Prop where
  last : wait.isLast (look * wait.pace) = true
  going : ∀ earlier < look, wait.isLast (earlier * wait.pace) = false

theorem EndsWith.run_eq {look : Nat} (ends : wait.EndsWith look) :
    wait.run = ⟨wait.sees (look * wait.pace), look + 1, look * wait.pace⟩ := by
  rw [run_eq_lookFrom ends.going]
  exact lookFrom_of_isLast ends.last look

/-- One of the looks up to the time at which the wait is over is the last one. -/
theorem exists_endsWith (wait : Wait) :
    ∃ look ≤ wait.timeout ⌈/⌉ wait.pace, wait.EndsWith look := by
  have late : wait.timeout ≤ (wait.timeout ⌈/⌉ wait.pace) * wait.pace := by
    rw [Nat.mul_comm]
    exact le_smul_ceilDiv wait.pace_pos
  have some_last : ∃ look, wait.isLast (look * wait.pace) = true :=
    ⟨_, isLast_of_timeout_le late⟩
  refine ⟨Nat.find some_last, ?_, Nat.find_spec some_last, fun earlier lt => ?_⟩
  · apply Nat.find_min' some_last
    exact isLast_of_timeout_le late
  · apply Bool.eq_false_iff.2
    exact Nat.find_min some_last lt

/-! ## Outcomes -/

/-- A wait with a time between its looks ends soon, and its answer is right. -/
structure Settles (wait : Wait) (step : Nat) : Prop where
  looks_pos : 0 < wait.run.looks
  looks_le : wait.run.looks ≤ wait.timeout ⌈/⌉ step + 1
  /-- Nothing takes time but the sleep between two looks. -/
  time_eq : wait.run.time = (wait.run.looks - 1) * step
  answer_iff : wait.run.answer = true ↔ ∃ look < wait.run.looks, wait.sees (look * step) = true
  /-- Without the flag it ends only when the time is over or there is a reason to give up. -/
  late_or_over : wait.run.answer = false →
    wait.timeout ≤ wait.run.time ∨ wait.isOver wait.run.time = true
  /-- No look before the last one finds anything that would end the wait. -/
  going : ∀ look, look + 1 < wait.run.looks → wait.isSet (look * step) = false ∧
    wait.isOver (look * step) = false ∧ look * step < wait.timeout

theorem settles (wait : Wait) : wait.Settles wait.pace := by
  obtain ⟨last, last_le, ends⟩ := wait.exists_endsWith
  have run_eq := ends.run_eq
  constructor
  · rw [run_eq]
    exact Nat.succ_pos last
  · rw [run_eq]
    exact Nat.succ_le_succ last_le
  · rw [run_eq, Nat.add_sub_cancel]
  · rw [run_eq]
    constructor
    · intro seen
      exact ⟨last, Nat.lt_succ_self last, seen⟩
    · rintro ⟨look, look_lt, seen⟩
      -- A look that sees the flag is the last one.
      rcases Nat.lt_succ_iff_lt_or_eq.1 look_lt with earlier | rfl
      · have not_last := ends.going look earlier
        rw [isLast_of_sees seen] at not_last
        cases not_last
      · exact seen
  · rw [run_eq]
    intro unseen
    have gives_up := givesUp_of_isLast ends.last unseen
    rw [givesUp, Bool.or_eq_true, decide_eq_true_eq] at gives_up
    exact gives_up.symm
  · rw [run_eq]
    intro look look_lt
    have not_last := ends.going look (Nat.lt_of_succ_lt_succ look_lt)
    simp only [isLast, givesUp, Bool.or_eq_false_iff, decide_eq_false_iff_not, not_le] at not_last
    exact not_last

end Wait

/-- The wait for a safe exit and the wait of a slave for its cluster are bounded by their timeouts,
and each answers what its looks see, however the flags change meanwhile. -/
theorem waits_settle {lifecycle : LifecycleConfig} (poll_pos : 0 < lifecycle.exitPollIntervalMs)
    (heartbeat : HeartbeatConfig) (isUp isUpLate : Nat → Bool) (flags : Nat → Flags) :
    ((lifecycle.exitWait flags).Settles lifecycle.exitPollIntervalMs ∧
      (∀ time, (lifecycle.exitWait flags).sees time = (flags time).exitSafe) ∧
      ((lifecycle.exitWait flags).run.answer = false →
        lifecycle.exitWaitTimeoutMs ≤ (lifecycle.exitWait flags).run.time)) ∧
    (heartbeat.clusterWait isUp isUpLate flags).Settles (max heartbeat.clusterUpPollMs 1) := by
  have exit_settles := (lifecycle.exitWait flags).settles
  have cluster_settles := (heartbeat.clusterWait isUp isUpLate flags).settles
  have exit_pace : (lifecycle.exitWait flags).pace = lifecycle.exitPollIntervalMs :=
    Nat.max_eq_left poll_pos
  have cluster_pace : (heartbeat.clusterWait isUp isUpLate flags).pace =
      max heartbeat.clusterUpPollMs 1 :=
    Nat.max_eq_left (Nat.le_max_right heartbeat.clusterUpPollMs 1)
  rw [exit_pace] at exit_settles
  rw [cluster_pace] at cluster_settles
  refine ⟨⟨exit_settles, fun time => ?_, fun unseen => ?_⟩, cluster_settles⟩
  · simp [Wait.sees, LifecycleConfig.exitWait]
  · rcases exit_settles.late_or_over unseen with late | stopped
    · exact late
    · cases stopped

/-- The last look comes after the time is over, and what it sees still counts. -/
theorem waits_settle_past_deadline :
    let lifecycle : LifecycleConfig := { exitWaitTimeoutMs := 10, exitPollIntervalMs := 4 }
    let flags (time : Nat) : Flags := { exitSafe := decide (11 ≤ time) }
    let outcome := (lifecycle.exitWait flags).run
    0 < lifecycle.exitPollIntervalMs ∧ outcome.answer = true ∧ outcome.looks = 4 ∧
      outcome.time = 12 := by
  intro lifecycle flags outcome
  have poll_pos : 0 < lifecycle.exitPollIntervalMs := by decide
  obtain ⟨⟨settles, sees_eq, late⟩, -⟩ :=
    waits_settle poll_pos {} (fun _ => false) (fun _ => false) flags
  have ceil_eq : 10 ⌈/⌉ 4 = 3 := by rw [Nat.ceilDiv_eq_add_pred_div]
  have looks_le : outcome.looks ≤ 3 + 1 := ceil_eq ▸ settles.looks_le
  have time_eq : outcome.time = (outcome.looks - 1) * 4 := settles.time_eq
  have seen : outcome.answer = true := by
    by_contra unseen
    have time_over : 10 ≤ outcome.time := late (Bool.eq_false_iff.2 unseen)
    have missed : ¬∃ look < outcome.looks, (lifecycle.exitWait flags).sees (look * 4) = true :=
      fun look => unseen (settles.answer_iff.2 look)
    apply missed
    exact ⟨3, by omega, by rw [sees_eq]; rfl⟩
  obtain ⟨look, look_lt, found⟩ := settles.answer_iff.1 seen
  rw [sees_eq] at found
  have at_last : 11 ≤ look * 4 := of_decide_eq_true found
  have look_lt : look < outcome.looks := look_lt
  exact ⟨poll_pos, seen, by omega, by omega⟩

end ClusterMember
