import ClusterMember.Heartbeat.Answer
import ClusterMember.Proofs.Heartbeat.Quiet

/-!
# What a step of a heartbeat does

An event moves the beat that is under way, begins one, comes from outside, or is out of turn.  The
settings never change, and whether the beat waits for an event depends on its phase alone.
-/

namespace ClusterMember
namespace Heartbeat
namespace Slave

/-- All that an event can do to a slave. -/
inductive Takes (slave : Slave) : Event → Slave → Prop where
  | begun : Takes slave .beatDue slave.beat
  | acknowledged (phase_eq : slave.service.phase = .reporting) :
      Takes slave .reportAcknowledged slave.acknowledge
  | failed (phase_eq : slave.service.phase = .reporting) (answer : Option Identity) :
      Takes slave (.reportFailed answer) (slave.fail answer)
  | probed {check : Nat} (phase_eq : slave.service.phase = .waiting check)
      (answer : Option Identity) : Takes slave (.checkDue answer) (slave.probe check answer)
  | stopRequested (why : String) :
      Takes slave (.stopRequested why) (slave.withControl (slave.control.requestStop why).1)
  | abortRequested (why : String) :
      Takes slave (.abortRequested why) (slave.withControl (slave.control.abort why).1)
  | clientsClosed : Takes slave .clientsClosed { slave with clients := slave.clients.close }
  /-- The beat does not wait for the event. -/
  | outOfTurn {event : Event} (comes_from_within : event ≠ .beatDue ∧ event.isAbort = false)
      (not_due : slave.isDue event = false) : Takes slave event slave

theorem takes_step (slave : Slave) (event : Event) : slave.Takes event (slave.step event) := by
  cases event with
  | beatDue => exact .begun
  | stopRequested why => exact .stopRequested why
  | abortRequested why => exact .abortRequested why
  | clientsClosed => exact .clientsClosed
  | reportAcknowledged =>
      cases phase_eq : slave.service.phase with
      | reporting =>
          simp only [step, phase_eq]
          exact .acknowledged phase_eq
      | _ =>
          simp only [step, phase_eq]
          exact .outOfTurn ⟨by simp, rfl⟩ (by simp [isDue, isAcknowledgedBy, answer?, phase_eq])
  | reportFailed answer =>
      cases phase_eq : slave.service.phase with
      | reporting =>
          simp only [step, phase_eq]
          exact .failed phase_eq answer
      | _ =>
          simp only [step, phase_eq]
          exact .outOfTurn ⟨by simp, rfl⟩ (by simp [isDue, isAcknowledgedBy, answer?, phase_eq])
  | checkDue answer =>
      cases phase_eq : slave.service.phase with
      | waiting check =>
          simp only [step, phase_eq]
          exact .probed phase_eq answer
      | _ =>
          simp only [step, phase_eq]
          exact .outOfTurn ⟨by simp, rfl⟩ (by simp [isDue, isAcknowledgedBy, answer?, phase_eq])

/-! ## Recovering -/

/-- A report failed, and there is no master. -/
def miss (slave : Slave) : Slave :=
  { slave.countFailure with service := { slave.countFailure.service with isClusterUp := false } }

theorem fail_none (slave : Slave) : slave.fail none = slave.miss.nextCheck 1 := rfl

@[simp]
theorem control_miss (slave : Slave) : slave.miss.control = slave.control := rfl

@[simp]
theorem service_buildStub (slave : Slave) (master : Identity) :
    (slave.buildStub master).1.service = slave.service := by
  unfold buildStub
  split <;> rfl

/-- Whether a slave can follow a master: it is linked to it, or a stub can be built for it. -/
theorem relink_cases (slave : Slave) (master : Identity) :
    ((slave.service.link.any fun link => link.master == master) = true ∧
        slave.relink master = slave) ∨
      ((slave.service.link.any fun link => link.master == master) = false ∧
        ((∃ error, (slave.buildStub master).2 = .error error ∧
            slave.relink master = (slave.buildStub master).1) ∨
          ∃ stub, (slave.buildStub master).2 = .ok stub ∧
            slave.relink master = (slave.buildStub master).1.setLink ⟨master, stub⟩)) := by
  unfold relink
  split
  next linked => exact .inl ⟨linked, rfl⟩
  next unlinked =>
    refine .inr ⟨Bool.eq_false_iff.2 unlinked, ?_⟩
    split
    next built error eq => exact .inl ⟨error, by rw [eq], by rw [eq]⟩
    next built stub eq => exact .inr ⟨stub, by rw [eq], by rw [eq]⟩

/-- Pointing the link at a master changes nothing but the link. -/
theorem service_relink (slave : Slave) (master : Identity) :
    (slave.relink master).service =
      { slave.service with link := (slave.relink master).service.link } := by
  rcases slave.relink_cases master with ⟨-, same⟩ | ⟨-, ⟨-, -, failed⟩ | ⟨stub, -, linked⟩⟩
  · rw [same]
  · rw [failed, service_buildStub]
  · rw [linked]
    simp only [setLink, service_buildStub]

/-- Going on to a check changes nothing but what the heartbeat is doing. -/
theorem service_nextCheck (slave : Slave) (check : Nat) :
    (slave.nextCheck check).service =
      { slave.service with phase := (slave.nextCheck check).service.phase } := by
  unfold nextCheck
  split
  next => rfl
  next => split <;> rfl

/-! ## What never changes -/

/-- What two services have in common when only beats lie between them. -/
structure SameTerms (before after : Service) : Prop where
  config_eq : after.config = before.config
  schedule_eq : after.schedule = before.schedule

theorem sameTerms_relink (slave : Slave) (master : Identity) :
    SameTerms slave.service (slave.relink master).service := by
  rw [service_relink]
  exact ⟨rfl, rfl⟩

theorem sameTerms_nextCheck (slave : Slave) (check : Nat) :
    SameTerms slave.service (slave.nextCheck check).service := by
  rw [service_nextCheck]
  exact ⟨rfl, rfl⟩

/-- No event changes the settings or the schedule. -/
theorem sameTerms_step (slave : Slave) (event : Event) :
    SameTerms slave.service (slave.step event).service := by
  have taken := slave.takes_step event
  generalize slave.step event = after at taken
  cases taken with
  | begun =>
      unfold beat
      split <;> exact ⟨rfl, rfl⟩
  | acknowledged => exact ⟨rfl, rfl⟩
  | failed _ answer =>
      cases answer with
      | some master =>
          have terms := slave.countFailure.sameTerms_relink master
          exact ⟨terms.config_eq, terms.schedule_eq⟩
      | none =>
          have terms := slave.miss.sameTerms_nextCheck 1
          exact ⟨terms.config_eq, terms.schedule_eq⟩
  | @probed check _ answer =>
      cases answer with
      | some master =>
          have terms := slave.sameTerms_relink master
          exact ⟨terms.config_eq, terms.schedule_eq⟩
      | none => exact slave.sameTerms_nextCheck (check + 1)
  | stopRequested | abortRequested | clientsClosed | outOfTurn => exact ⟨rfl, rfl⟩

end Slave
end Heartbeat
end ClusterMember
