import ClusterMember.Heartbeat.History
import ClusterMember.Proofs.Heartbeat.Steps

/-!
# What a heartbeat counts

A beat counts an attempt as it begins, and an acknowledgement or a failure as its report ends.  The
resolver and the checks count nothing, and only a failure that finds no master changes the view of
the cluster for the worse.
-/

namespace ClusterMember
namespace Heartbeat

/-- A report was acknowledged, and no later one failed without a master. -/
def Deed.InTouch (deeds : List Deed) : Prop :=
  ∃ before after, deeds = before ++ .acknowledged :: after ∧ .failed none ∉ after

theorem Deed.inTouch_append_singleton_iff (deeds : List Deed) (deed : Deed) :
    InTouch (deeds ++ [deed]) ↔
      deed = .acknowledged ∨ (deed ≠ .failed none ∧ InTouch deeds) := by
  constructor
  · rintro ⟨before, after, deeds_eq, unmissed⟩
    -- The last deed is the acknowledgement itself, or comes after it.
    rcases List.eq_nil_or_concat after with rfl | ⟨rest, last, rfl⟩
    · left
      simpa using (List.append_inj' deeds_eq rfl).2
    · right
      have deeds_eq : deeds ++ [deed] = (before ++ .acknowledged :: rest) ++ [last] := by
        simpa using deeds_eq
      obtain ⟨rfl, last_eq⟩ := List.append_inj' deeds_eq rfl
      cases last_eq
      rw [List.concat_eq_append, List.mem_append, not_or, List.mem_singleton] at unmissed
      exact ⟨Ne.symm unmissed.2, before, rest, rfl, unmissed.1⟩
  · rintro (rfl | ⟨deed_ne, before, after, rfl, unmissed⟩)
    · exact ⟨deeds, [], rfl, nofun⟩
    · refine ⟨before, after ++ [deed], by simp, ?_⟩
      rw [List.mem_append, not_or, List.mem_singleton]
      exact ⟨unmissed, deed_ne.symm⟩

namespace Slave

/-- How many reports are under way. -/
def reportsUnderWay (slave : Slave) : Nat := if slave.service.phase = .reporting then 1 else 0

/-- What two services have in common when only a resolver lies between them. -/
structure SameCounts (before after : Service) : Prop where
  attempts_eq : after.attempts = before.attempts
  acknowledged_eq : after.acknowledged = before.acknowledged
  failures_eq : after.failures = before.failures
  isClusterUp_eq : after.isClusterUp = before.isClusterUp

theorem sameCounts_relink (slave : Slave) (master : Identity) :
    SameCounts slave.service (slave.relink master).service := by
  rw [service_relink]
  exact ⟨rfl, rfl, rfl, rfl⟩

theorem sameCounts_nextCheck (slave : Slave) (check : Nat) :
    SameCounts slave.service (slave.nextCheck check).service := by
  rw [service_nextCheck]
  exact ⟨rfl, rfl, rfl, rfl⟩

theorem reportsUnderWay_nextCheck (slave : Slave) (check : Nat) :
    (slave.nextCheck check).reportsUnderWay = 0 := by
  unfold nextCheck
  split
  next => rfl
  next => split <;> rfl

/-- What counts a slave gets to by what came of a report or check. -/
structure Counts (before : Slave) (deed : Option Deed) (after : Slave) : Prop where
  acknowledged_eq : after.service.acknowledged =
    before.service.acknowledged + deed.toList.countP Deed.isAcknowledged
  failures_eq : after.service.failures =
    before.service.failures + deed.toList.countP Deed.isFailed
  /-- Each report is under way, acknowledged or failed. -/
  balance :
    before.service.attempts =
        before.service.acknowledged + before.service.failures + before.reportsUnderWay →
      after.service.attempts =
        after.service.acknowledged + after.service.failures + after.reportsUnderWay
  isClusterUp_iff : after.service.isClusterUp = true ↔
    deed = some .acknowledged ∨ (deed ≠ some (.failed none) ∧ before.service.isClusterUp = true)

theorem SameCounts.counts {before after : Slave} (same : SameCounts before.service after.service)
    (underWay_eq : after.reportsUnderWay = before.reportsUnderWay) : before.Counts none after where
  acknowledged_eq := same.acknowledged_eq
  failures_eq := same.failures_eq
  balance balanced := by
    rw [same.attempts_eq, same.acknowledged_eq, same.failures_eq, underWay_eq, balanced]
  isClusterUp_iff := by simp [same.isClusterUp_eq]

/-- A check counts nothing. -/
theorem Counts.checked {before after : Slave} (counts : before.Counts none after)
    (found : Option Finding) : before.Counts (some (.checked found)) after where
  acknowledged_eq := counts.acknowledged_eq
  failures_eq := counts.failures_eq
  balance := counts.balance
  isClusterUp_iff := by simpa using counts.isClusterUp_iff

theorem deed?_of_not_isDue {slave : Slave} {event : Event} (not_due : slave.isDue event = false) :
    slave.deed? event = none := by
  cases event <;> cases phase_eq : slave.service.phase <;>
    simp_all [deed?, isDue, isAcknowledgedBy, answer?]

theorem counts_beat (slave : Slave) : slave.Counts none slave.beat := by
  unfold beat
  split
  next => exact SameCounts.counts ⟨rfl, rfl, rfl, rfl⟩ rfl
  next begins =>
    have idle : slave.service.phase = .idle :=
      Decidable.byContradiction fun other => begins (.inr (.inr other))
    have settled : slave.reportsUnderWay = 0 := by rw [reportsUnderWay, idle, if_neg nofun]
    exact
      { acknowledged_eq := rfl
        failures_eq := rfl
        balance := fun balanced => by
          rw [settled] at balanced
          exact congrArg (· + 1) balanced
        isClusterUp_iff := by simp }

section Reporting

variable {slave : Slave} (reporting : slave.service.phase = .reporting)
include reporting

theorem reportsUnderWay_of_reporting : slave.reportsUnderWay = 1 := by
  rw [reportsUnderWay, if_pos reporting]

theorem counts_acknowledge : slave.Counts (some .acknowledged) slave.acknowledge where
  acknowledged_eq := rfl
  failures_eq := rfl
  balance balanced := by
    have settled : slave.acknowledge.reportsUnderWay = 0 := rfl
    rw [reportsUnderWay_of_reporting reporting] at balanced
    rw [settled]
    simp only [acknowledge, balanced]
    omega
  isClusterUp_iff := by simp [acknowledge]

theorem counts_fail (answer : Option Identity) :
    slave.Counts (some (.failed (answer.map slave.find))) (slave.fail answer) := by
  have settled : (slave.fail answer).reportsUnderWay = 0 := by
    cases answer with
    | some master => rfl
    | none => exact slave.miss.reportsUnderWay_nextCheck 1
  have same : SameCounts (answer.elim slave.miss fun _ => slave.countFailure).service
      (slave.fail answer).service := by
    cases answer with
    | some master =>
        obtain ⟨attempts, acknowledged, failures, isClusterUp⟩ :=
          slave.countFailure.sameCounts_relink master
        exact ⟨attempts, acknowledged, failures, isClusterUp⟩
    | none => exact slave.miss.sameCounts_nextCheck 1
  constructor
  · rw [same.acknowledged_eq]
    cases answer <;> rfl
  · rw [same.failures_eq]
    cases answer <;> rfl
  · intro balanced
    rw [reportsUnderWay_of_reporting reporting] at balanced
    rw [same.attempts_eq, same.acknowledged_eq, same.failures_eq, settled]
    cases answer <;> simp [miss, countFailure] <;> omega
  · rw [same.isClusterUp_eq]
    cases answer <;> simp [miss, countFailure]

end Reporting

theorem counts_probe {slave : Slave} {check : Nat} (waiting : slave.service.phase = .waiting check)
    (answer : Option Identity) :
    slave.Counts (some (.checked (answer.map slave.find))) (slave.probe check answer) := by
  have before : slave.reportsUnderWay = 0 := by rw [reportsUnderWay, waiting, if_neg nofun]
  refine Counts.checked (SameCounts.counts ?_ ?_) _
  · cases answer with
    | some master =>
        obtain ⟨attempts, acknowledged, failures, isClusterUp⟩ := slave.sameCounts_relink master
        exact ⟨attempts, acknowledged, failures, isClusterUp⟩
    | none => exact slave.sameCounts_nextCheck (check + 1)
  · rw [before]
    cases answer with
    | some master => rfl
    | none => exact slave.reportsUnderWay_nextCheck (check + 1)

/-- Each event counts what comes of it. -/
theorem counts_step (slave : Slave) (event : Event) :
    slave.Counts (slave.deed? event) (slave.step event) := by
  have taken := slave.takes_step event
  generalize slave.step event = after at taken
  cases taken with
  | begun => exact slave.counts_beat
  | acknowledged phase_eq =>
      simpa only [deed?, phase_eq] using counts_acknowledge phase_eq
  | failed phase_eq answer =>
      simpa only [deed?, phase_eq] using counts_fail phase_eq answer
  | probed phase_eq answer =>
      simpa only [deed?, phase_eq] using counts_probe phase_eq answer
  | stopRequested | abortRequested | clientsClosed =>
      simp only [deed?]
      exact SameCounts.counts ⟨rfl, rfl, rfl, rfl⟩ rfl
  | outOfTurn _ not_due =>
      rw [deed?_of_not_isDue not_due]
      exact SameCounts.counts ⟨rfl, rfl, rfl, rfl⟩ rfl

end Slave
end Heartbeat
end ClusterMember
