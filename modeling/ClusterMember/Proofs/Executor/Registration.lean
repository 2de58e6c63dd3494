import ClusterMember.Executor.Governor.Calls
import Mathlib.Tactic.Common

/-!
# What a registration needs and what it does

A call of a governor is a row of checks with a row of changes behind it.  So a call that is refused
leaves the governor as it was.  A call that is accepted has passed all its checks, which are stated
here as conditions on the governor, and its changes are those of the call.
-/

namespace ClusterMember

/-- What a governor must be like to accept a normal pool. -/
structure Governor.Admits (governor : Governor) (descriptor : PoolDescriptor) : Prop where
  type_ne : descriptor.type ≠ .scheduled
  max_pos : 0 < descriptor.max
  /-- There are not more core threads than tasks that run at once. -/
  core_le_max : descriptor.core ≤ descriptor.max
  core_le : descriptor.core ≤ governor.caps.perPoolCore
  /-- The tasks that run at once are within the budget of one pool. -/
  max_le : descriptor.max ≤ governor.caps.perPoolMax
  vacant : governor.place? descriptor.type = none
  core_word : (governor.withPool descriptor).normalCore ≤ word64Max
  /-- The new total of tasks that run at once is a word. -/
  max_word : (governor.withPool descriptor).normalMax ≤ word64Max
  core_total : (governor.withPool descriptor).normalCore ≤ governor.caps.normalCoreTotal
  /-- The new total of tasks that run at once is within its budget. -/
  max_total : (governor.withPool descriptor).normalMax ≤ governor.caps.normalMaxTotal
  nameable : '\x00' ∉ descriptor.threadName.toList
  buildable : descriptor.capacity ≤ maxPermits

/-- What a governor must be like to accept a scheduled pool. -/
structure Governor.AdmitsScheduled (governor : Governor) (core : Nat) : Prop where
  core_pos : 0 < core
  core_le : core ≤ governor.caps.perPoolCore
  vacant : governor.scheduled = none
  core_word : (governor.withScheduled core).scheduledCore ≤ word64Max
  core_total : (governor.withScheduled core).scheduledCore ≤ governor.caps.scheduledCoreTotal
  buildable : core ≤ maxPermits

namespace Governor

theorem shapeFault?_eq_none_iff (descriptor : PoolDescriptor) :
    shapeFault? descriptor = none ↔
      descriptor.type ≠ .scheduled ∧ 0 < descriptor.max ∧ descriptor.core ≤ descriptor.max := by
  unfold shapeFault?
  split
  next isScheduled => simp [isScheduled]
  next notScheduled =>
    split
    next misshapen =>
      simp only [reduceCtorEq, false_iff, not_and]
      omega
    next shaped =>
      simp only [true_iff]
      exact ⟨notScheduled, by omega, by omega⟩

theorem duplicatePool?_eq_none_iff (type : ExecutorType) (governor : Governor) :
    duplicatePool? type governor = none ↔ governor.place? type = none := by
  simp [duplicatePool?]

theorem duplicateScheduled?_eq_none_iff (governor : Governor) :
    duplicateScheduled? governor = none ↔ governor.scheduled = none := by
  simp [duplicateScheduled?]

theorem poolChecks_eq_none_iff (governor : Governor) (descriptor : PoolDescriptor) :
    ((poolChecks descriptor).findSome? fun fault? => fault? governor) = none ↔
      governor.Admits descriptor := by
  rw [List.findSome?_eq_none_iff]
  simp only [poolChecks, List.forall_mem_cons, List.not_mem_nil, false_imp_iff, implies_true,
    and_true, shapeFault?_eq_none_iff, duplicatePool?_eq_none_iff, overLimit?_eq_none_iff,
    tooLarge?_eq_none_iff, threadName?_eq_none_iff]
  constructor
  · rintro ⟨⟨type_ne, max_pos, core_le_max⟩, core_le, max_le, vacant, core_word, max_word,
      core_total, max_total, nameable, buildable⟩
    exact ⟨type_ne, max_pos, core_le_max, core_le, max_le, vacant, core_word, max_word,
      core_total, max_total, nameable, buildable⟩
  · rintro ⟨type_ne, max_pos, core_le_max, core_le, max_le, vacant, core_word, max_word,
      core_total, max_total, nameable, buildable⟩
    exact ⟨⟨type_ne, max_pos, core_le_max⟩, core_le, max_le, vacant, core_word, max_word,
      core_total, max_total, nameable, buildable⟩

theorem scheduledChecks_eq_none_iff (governor : Governor) (core : Nat) :
    ((scheduledChecks core).findSome? fun fault? => fault? governor) = none ↔
      governor.AdmitsScheduled core := by
  rw [List.findSome?_eq_none_iff]
  simp only [scheduledChecks, List.forall_mem_cons, List.not_mem_nil, false_imp_iff, implies_true,
    and_true, duplicateScheduled?_eq_none_iff, overLimit?_eq_none_iff, tooLarge?_eq_none_iff,
    ite_eq_right_iff, reduceCtorEq, imp_false]
  constructor
  · rintro ⟨core_ne, core_le, vacant, core_word, core_total, buildable⟩
    exact ⟨Nat.pos_of_ne_zero core_ne, core_le, vacant, core_word, core_total, buildable⟩
  · rintro ⟨core_pos, core_le, vacant, core_word, core_total, buildable⟩
    exact ⟨Nat.ne_of_gt core_pos, core_le, vacant, core_word, core_total, buildable⟩

theorem register_eq (governor : Governor) (descriptor : PoolDescriptor) :
    governor.register descriptor =
      match (poolChecks descriptor).findSome? fun fault? => fault? governor with
      | some fault => .error fault
      | none => .ok (countPool descriptor (enterPool descriptor governor)) := by
  have taken := RegistrationStep.takeAll_checks_append (poolChecks descriptor)
    [enterPool descriptor, countPool descriptor] governor
  rw [register, poolSteps]
  simp only [List.map_cons, List.map_nil] at taken
  rw [taken]
  cases (poolChecks descriptor).findSome? fun fault? => fault? governor <;> rfl

theorem registerScheduled_eq (governor : Governor) (core : Nat) (daemon : Bool) :
    governor.registerScheduled core daemon =
      match (scheduledChecks core).findSome? fun fault? => fault? governor with
      | some fault => .error fault
      | none => .ok (countScheduled core (enterScheduled core daemon governor)) := by
  have taken := RegistrationStep.takeAll_checks_append (scheduledChecks core)
    [enterScheduled core daemon, countScheduled core] governor
  rw [registerScheduled, scheduledSteps]
  simp only [List.map_cons, List.map_nil] at taken
  rw [taken]
  cases (scheduledChecks core).findSome? fun fault? => fault? governor <;> rfl

end Governor

namespace GovernorCall

/-- In every call the checks come before the changes. -/
theorem steps_eq (call : GovernorCall) :
    call.steps = call.checks.map .check ++ call.changes.map .change := by
  cases call <;> rfl

end GovernorCall

namespace Governor

theorem perform_eq (governor : Governor) (call : GovernorCall) :
    governor.perform call =
      match call.checks.findSome? fun fault? => fault? governor with
      | some fault => (.error fault, governor)
      | none => (.ok (), call.changes.foldl (fun governor next => next governor) governor) := by
  rw [perform, GovernorCall.steps_eq]
  exact RegistrationStep.takeAll_checks_append call.checks call.changes governor

/-- All that a call can do: be refused and change nothing, or register a pool that the governor
admits, or stop all pools. -/
theorem perform_cases (governor : Governor) (call : GovernorCall) :
    (∃ fault, governor.perform call = (.error fault, governor)) ∨
    (∃ descriptor, call = .register descriptor ∧ governor.Admits descriptor ∧
      governor.perform call =
        (.ok (), countPool descriptor (enterPool descriptor governor))) ∨
    (∃ core daemon, call = .registerScheduled core daemon ∧ governor.AdmitsScheduled core ∧
      governor.perform call =
        (.ok (), countScheduled core (enterScheduled core daemon governor))) ∨
    (∃ elapsed, call = .stop elapsed ∧
      governor.perform call = (.ok (), governor.stop elapsed)) := by
  cases checked : call.checks.findSome? fun fault? => fault? governor with
  | some fault =>
      left
      exact ⟨fault, by rw [perform_eq, checked]⟩
  | none =>
      right
      have performed : governor.perform call =
          (.ok (), call.changes.foldl (fun governor next => next governor) governor) := by
        rw [perform_eq, checked]
      cases call with
      | register descriptor =>
          left
          exact ⟨descriptor, rfl, (poolChecks_eq_none_iff governor descriptor).1 checked, performed⟩
      | registerScheduled core daemon =>
          right; left
          exact ⟨core, daemon, rfl, (scheduledChecks_eq_none_iff governor core).1 checked,
            performed⟩
      | stop elapsed =>
          right; right
          exact ⟨elapsed, rfl, performed⟩

/-- A call that is refused leaves the governor as it was. -/
theorem perform_of_error {governor : Governor} {call : GovernorCall} {fault : RegistrationFault}
    (refused : (governor.perform call).1 = .error fault) :
    (governor.perform call).2 = governor := by
  rcases perform_cases governor call with ⟨_, performed⟩ | ⟨_, _, _, performed⟩ |
    ⟨_, _, _, _, performed⟩ | ⟨_, _, performed⟩
  · rw [performed]
  all_goals
    rw [performed] at refused
    cases refused

/-- A call that is accepted adds its threads to the totals. -/
theorem accounting_of_ok {governor : Governor} {call : GovernorCall}
    (accepted : (governor.perform call).1 = .ok ()) :
    (governor.perform call).2.accounting =
      ⟨governor.accounting.normalCore + call.normalCore,
        governor.accounting.normalMax + call.normalMax,
        governor.accounting.scheduledCore + call.scheduledCore⟩ := by
  rcases perform_cases governor call with ⟨_, performed⟩ | ⟨_, rfl, _, performed⟩ |
    ⟨_, _, rfl, _, performed⟩ | ⟨_, rfl, performed⟩
  · rw [performed] at accepted
    cases accepted
  all_goals
    rw [performed]
    rfl

@[simp]
theorem perform_caps (governor : Governor) (call : GovernorCall) :
    (governor.perform call).2.caps = governor.caps := by
  rcases perform_cases governor call with ⟨_, performed⟩ | ⟨_, _, _, performed⟩ |
    ⟨_, _, _, _, performed⟩ | ⟨_, _, performed⟩ <;> rw [performed] <;> rfl

end Governor
end ClusterMember
