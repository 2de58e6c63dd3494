import ClusterMember.Proofs.Executor.Table
import Mathlib.Algebra.GroupWithZero.Nat

/-!
# The budget ratchet

Whatever pools are registered and stopped, the totals of a governor are the sums over all
registrations that it has accepted, they stay within their budgets, and they never shrink.  Budgets
whose sums are words of 64 bits keep every addition of a registration within such words.
-/

namespace ClusterMember

/-- Totals are compared one by one. -/
instance : LE ThreadAccounting where
  le a b :=
    a.normalCore ≤ b.normalCore ∧ a.normalMax ≤ b.normalMax ∧ a.scheduledCore ≤ b.scheduledCore

namespace ResourceCaps

/-- The largest totals that the budgets allow. -/
def totals (caps : ResourceCaps) : ThreadAccounting :=
  ⟨caps.normalCoreTotal, caps.normalMaxTotal, caps.scheduledCoreTotal⟩

/-- The budgets of a pool can be added to those of all pools in 64 bits. -/
structure FitWords (caps : ResourceCaps) : Prop where
  normalCore : caps.perPoolCore + caps.normalCoreTotal < 2 ^ 64
  /-- Tasks that normal pools run at once. -/
  normalMax : caps.perPoolMax + caps.normalMaxTotal < 2 ^ 64
  scheduledCore : caps.perPoolCore + caps.scheduledCoreTotal < 2 ^ 64

end ResourceCaps

namespace Governor

/-- A call never takes threads back. -/
theorem accounting_le_perform (governor : Governor) (call : GovernorCall) :
    governor.accounting ≤ (governor.perform call).2.accounting := by
  cases answer : (governor.perform call).1 with
  | error fault =>
      rw [perform_of_error answer]
      exact ⟨Nat.le_refl _, Nat.le_refl _, Nat.le_refl _⟩
  | ok =>
      rw [accounting_of_ok answer]
      exact ⟨Nat.le_add_right _ _, Nat.le_add_right _ _, Nat.le_add_right _ _⟩

/-- A call never takes the totals beyond the budgets. -/
theorem within_perform {governor : Governor} (call : GovernorCall)
    (within : governor.accounting ≤ governor.caps.totals) :
    (governor.perform call).2.accounting ≤ governor.caps.totals := by
  rcases perform_cases governor call with ⟨_, performed⟩ | ⟨_, _, admits, performed⟩ |
    ⟨_, _, _, admits, performed⟩ | ⟨_, _, performed⟩ <;> rw [performed]
  · exact within
  · exact ⟨admits.core_total, admits.max_total, within.2.2⟩
  · exact ⟨within.1, within.2.1, admits.core_total⟩
  · exact within

end Governor

namespace GovernorHistory

/-- The governor of a history has counted what it accepted, and has kept to its budgets. -/
structure Tallies (caps : ResourceCaps) (history : GovernorHistory) : Prop where
  caps_eq : history.governor.caps = caps
  /-- The core threads are those of all normal pools that were ever accepted. -/
  normalCore_eq : history.governor.accounting.normalCore =
    (history.accepted.map GovernorCall.normalCore).sum
  /-- The tasks that run at once are those of all normal pools that were ever accepted. -/
  normalMax_eq : history.governor.accounting.normalMax =
    (history.accepted.map GovernorCall.normalMax).sum
  /-- The scheduled core threads are those of all scheduled pools that were ever accepted. -/
  scheduledCore_eq : history.governor.accounting.scheduledCore =
    (history.accepted.map GovernorCall.scheduledCore).sum
  within : history.governor.accounting ≤ caps.totals
  orderly : history.governor.Orderly

theorem tallies_start (caps : ResourceCaps) : (start caps).Tallies caps where
  caps_eq := rfl
  normalCore_eq := rfl
  normalMax_eq := rfl
  scheduledCore_eq := rfl
  within := ⟨Nat.zero_le _, Nat.zero_le _, Nat.zero_le _⟩
  orderly := Governor.orderly_empty caps

/-- One more call keeps the count. -/
theorem Tallies.call {caps : ResourceCaps} {history : GovernorHistory}
    (tallies : history.Tallies caps) (call : GovernorCall) : (history.call call).Tallies caps := by
  have within := Governor.within_perform call (tallies.caps_eq ▸ tallies.within)
  have orderly := tallies.orderly.perform call
  have caps_eq : (history.governor.perform call).2.caps = caps := by
    rw [Governor.perform_caps, tallies.caps_eq]
  rw [tallies.caps_eq] at within
  unfold GovernorHistory.call
  split
  next governor performed =>
    have accounting_eq := Governor.accounting_of_ok (congrArg Prod.fst performed)
    rw [performed] at within orderly caps_eq accounting_eq
    refine ⟨caps_eq, ?_, ?_, ?_, within, orderly⟩
    · rw [accounting_eq, tallies.normalCore_eq]
      simp
    · rw [accounting_eq, tallies.normalMax_eq]
      simp
    · rw [accounting_eq, tallies.scheduledCore_eq]
      simp
  next fault governor performed =>
    have unchanged := Governor.perform_of_error (congrArg Prod.fst performed)
    rw [performed] at unchanged
    subst unchanged
    exact tallies

/-- Any row of calls keeps the count. -/
theorem tallies_run (caps : ResourceCaps) (calls : List GovernorCall) :
    (run caps calls).Tallies caps := by
  have keeps : ∀ history : GovernorHistory, history.Tallies caps →
      (calls.foldl GovernorHistory.call history).Tallies caps := by
    induction calls with
    | nil => exact fun _ tallies => tallies
    | cons call calls induction =>
        intro history tallies
        exact induction (history.call call) (tallies.call call)
  exact keeps (start caps) (tallies_start caps)

end GovernorHistory

namespace Governor

/-- Sums of totals within budgets and of threads within the budgets of a pool are words. -/
structure AddsWords (governor : Governor) : Prop where
  normalCore : ∀ descriptor : PoolDescriptor, descriptor.core ≤ governor.caps.perPoolCore →
    (governor.withPool descriptor).normalCore < 2 ^ 64
  /-- Adding the tasks that a normal pool runs at once. -/
  normalMax : ∀ descriptor : PoolDescriptor, descriptor.max ≤ governor.caps.perPoolMax →
    (governor.withPool descriptor).normalMax < 2 ^ 64
  scheduledCore : ∀ core ≤ governor.caps.perPoolCore,
    (governor.withScheduled core).scheduledCore < 2 ^ 64

theorem addsWords_of_within {governor : Governor} (fit : governor.caps.FitWords)
    (within : governor.accounting ≤ governor.caps.totals) : governor.AddsWords := by
  obtain ⟨core_le, max_le, scheduled_le⟩ := within
  simp only [ResourceCaps.totals] at core_le max_le scheduled_le
  constructor
  · intro descriptor _
    have := fit.normalCore
    simp only [withPool]
    omega
  · intro descriptor _
    have := fit.normalMax
    simp only [withPool]
    omega
  · intro core _
    have := fit.scheduledCore
    simp only [withScheduled]
    omega

/-- The first fault of a row of checks is that of its first check or, when there is none, that of
the others. -/
theorem findSome?_cons_eq_some_iff (first : Governor → Option RegistrationFault)
    (rest : List (Governor → Option RegistrationFault)) (governor : Governor)
    (fault : RegistrationFault) :
    ((first :: rest).findSome? fun fault? => fault? governor) = some fault ↔
      first governor = some fault ∨
        (first governor = none ∧ (rest.findSome? fun fault? => fault? governor) = some fault) := by
  rw [List.findSome?_cons]
  cases first governor <;> simp

theorem shapeFault?_ne_tooLarge (descriptor : PoolDescriptor) (number : Nat) :
    shapeFault? descriptor ≠ some (.tooLarge number) := by
  unfold shapeFault?
  split
  · simp
  · split <;> simp

theorem duplicatePool?_ne_tooLarge (type : ExecutorType) (governor : Governor) (number : Nat) :
    duplicatePool? type governor ≠ some (.tooLarge number) := by
  unfold duplicatePool?
  split <;> simp

theorem duplicateScheduled?_ne_tooLarge (governor : Governor) (number : Nat) :
    duplicateScheduled? governor ≠ some (.tooLarge number) := by
  unfold duplicateScheduled?
  split <;> simp

/-- When sums are words, a normal pool is too large only for its own permits. -/
theorem tooLarge_of_poolChecks {governor : Governor} (adds : governor.AddsWords)
    {descriptor : PoolDescriptor} {number : Nat}
    (checked : ((poolChecks descriptor).findSome? fun fault? => fault? governor) =
      some (.tooLarge number)) : number = descriptor.capacity ∧ maxPermits < number := by
  simp only [poolChecks, findSome?_cons_eq_some_iff, List.findSome?_nil, shapeFault?_ne_tooLarge,
    duplicatePool?_ne_tooLarge, overLimit?_eq_some_iff, tooLarge?_eq_some_iff,
    threadName?_eq_some_iff, overLimit?_eq_none_iff, reduceCtorEq, and_false, false_or, or_false,
    RegistrationFault.tooLarge.injEq] at checked
  obtain ⟨-, core_le, max_le, -, core_over | ⟨-, max_over | ⟨-, -, -, -, exceeded, rfl⟩⟩⟩ := checked
  · have := adds.normalCore descriptor core_le
    simp only [word64Max, UInt64.size] at core_over
    omega
  · have := adds.normalMax descriptor max_le
    simp only [word64Max, UInt64.size] at max_over
    omega
  · exact ⟨rfl, exceeded⟩

/-- When sums are words, a scheduled pool is too large only for its own permits. -/
theorem tooLarge_of_scheduledChecks {governor : Governor} (adds : governor.AddsWords)
    {core number : Nat}
    (checked : ((scheduledChecks core).findSome? fun fault? => fault? governor) =
      some (.tooLarge number)) : number = core ∧ maxPermits < number := by
  simp only [scheduledChecks, findSome?_cons_eq_some_iff, List.findSome?_nil,
    duplicateScheduled?_ne_tooLarge, overLimit?_eq_some_iff, tooLarge?_eq_some_iff,
    overLimit?_eq_none_iff, reduceCtorEq, and_false, false_or, or_false, ite_eq_right_iff,
    imp_false, Option.ite_none_right_eq_some, Option.some.injEq,
    RegistrationFault.tooLarge.injEq] at checked
  obtain ⟨-, core_le, -, total_over | ⟨-, -, exceeded, rfl⟩⟩ := checked
  · have := adds.scheduledCore core core_le
    simp only [word64Max, UInt64.size] at total_over
    omega
  · exact ⟨rfl, exceeded⟩

/-- When sums are words, no call fails because a sum is none. -/
theorem tooLarge_of_perform {governor : Governor} (adds : governor.AddsWords)
    {call : GovernorCall} {number : Nat}
    (refused : (governor.perform call).1 = .error (.tooLarge number)) :
    number = call.permits ∧ maxPermits < number := by
  rw [perform_eq] at refused
  cases checked : call.checks.findSome? fun fault? => fault? governor with
  | none =>
      rw [checked] at refused
      cases refused
  | some fault =>
      rw [checked] at refused
      cases refused
      cases call with
      | register descriptor => exact tooLarge_of_poolChecks adds checked
      | registerScheduled core daemon => exact tooLarge_of_scheduledChecks adds checked
      | stop elapsed => cases checked

end Governor

namespace GovernorHistory

/-- The budget ratchet: after any calls of a new governor the totals are the sums over all accepted
registrations and within their budgets, and its table has one open pool of each kind at most.  What
is called next adds words only, takes nothing back, changes nothing when it is refused, and empties
the table when it stops all pools. -/
theorem run_ratchet (caps : ResourceCaps) (fit : caps.FitWords) (calls : List GovernorCall) :
    (run caps calls).Tallies caps ∧ (run caps calls).governor.AddsWords ∧
      (∀ call, let governor := (run caps calls).governor
        governor.accounting ≤ (governor.perform call).2.accounting ∧
        (∀ number, (governor.perform call).1 = .error (.tooLarge number) →
          number = call.permits ∧ maxPermits < number) ∧
        ∀ fault, (governor.perform call).1 = .error fault →
          (governor.perform call).2 = governor) ∧
      ∀ elapsed, let governor := (run caps calls).governor
        let stopped := governor.perform (.stop elapsed)
        stopped.1 = .ok () ∧ stopped.2.table = [] ∧ stopped.2.scheduled = none ∧
          stopped.2.accounting = governor.accounting := by
  have tallies := tallies_run caps calls
  have adds : (run caps calls).governor.AddsWords :=
    Governor.addsWords_of_within (tallies.caps_eq.symm ▸ fit)
      (tallies.caps_eq.symm ▸ tallies.within)
  refine ⟨tallies, adds, fun call => ?_, fun elapsed => ⟨rfl, rfl, rfl, rfl⟩⟩
  exact ⟨Governor.accounting_le_perform _ call, fun _ => Governor.tooLarge_of_perform adds,
    fun _ => Governor.perform_of_error⟩

/-- Two lives of an archive pool: a second one beside the first is refused, one after a stop is
not, and a third life no longer fits. -/
theorem run_ratchet_two_lives :
    let caps : ResourceCaps := ⟨4, 8, 5, 16, 2⟩
    let archive : GovernorCall := .register { type := .archive, core := 2, max := 4 }
    let calls : List GovernorCall := [archive, archive, .registerScheduled 2 true, .stop .zero,
      archive, .registerScheduled 1 true, .stop .zero, archive]
    caps.FitWords ∧ (run caps calls).Tallies caps ∧
      (run caps calls).governor.accounting = ⟨4, 8, 2⟩ ∧ (run caps calls).accepted.length = 5 := by
  intro caps archive calls
  have fit : caps.FitWords := ⟨by decide, by decide, by decide⟩
  exact ⟨fit, (run_ratchet caps fit calls).1, by decide +kernel, by decide +kernel⟩

end GovernorHistory
end ClusterMember
