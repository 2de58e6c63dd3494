import ClusterMember.Heartbeat.Vigil
import ClusterMember.Proofs.Heartbeat.Steps

/-!
# Events from outside the heartbeat

Others may stop or abort the node and close its clients at any time.  They neither read nor change
the heartbeat, so that it does not matter to it whether they come before or after what it does
itself.
-/

namespace ClusterMember
namespace Heartbeat
namespace Slave

/-- Change the heartbeat of a slave. -/
def mapService (change : Service → Service) (slave : Slave) : Slave :=
  { slave with service := change slave.service }

theorem miss_setPhase (slave : Slave) (phase : BeatPhase) :
    slave.miss.setPhase phase = slave.mapService fun service =>
      { service with failures := service.failures + 1, isClusterUp := false, phase } := rfl

/-- Events from outside neither read nor change the heartbeat. -/
theorem step_mapService {event : Event} (outside : event.isOutside = true)
    (change : Service → Service) (slave : Slave) :
    (slave.mapService change).step event = (slave.step event).mapService change := by
  cases event with
  | stopRequested | abortRequested | clientsClosed => rfl
  | _ => cases outside

theorem service_step_of_isOutside {event : Event} (outside : event.isOutside = true)
    (slave : Slave) : (slave.step event).service = slave.service := by
  cases event with
  | stopRequested | abortRequested | clientsClosed => rfl
  | _ => cases outside

variable {events : List Event} (outside : ∀ event ∈ events, event.isOutside = true)
include outside

theorem run_mapService (change : Service → Service) (slave : Slave) :
    (slave.mapService change).run events = (slave.run events).mapService change := by
  induction events generalizing slave with
  | nil => rfl
  | cons event rest induction =>
      obtain ⟨first, later⟩ := List.forall_mem_cons.1 outside
      have onwards := induction later (slave.step event)
      rw [← step_mapService first] at onwards
      exact onwards

theorem service_run_of_isOutside (slave : Slave) : (slave.run events).service = slave.service := by
  induction events generalizing slave with
  | nil => rfl
  | cons event rest induction =>
      obtain ⟨first, later⟩ := List.forall_mem_cons.1 outside
      exact (induction later _).trans (service_step_of_isOutside first slave)

/-- What comes from outside during a sleep might as well have come before the report failed. -/
theorem run_miss_setPhase (slave : Slave) (phase : BeatPhase) :
    (slave.miss.setPhase phase).run events = (slave.run events).miss.setPhase phase := by
  rw [miss_setPhase, miss_setPhase, run_mapService outside]

omit outside

theorem buildStub_mapService (slave : Slave) (change : Service → Service) (master : Identity) :
    (slave.mapService change).buildStub master =
      ((slave.buildStub master).1.mapService change, (slave.buildStub master).2) := by
  unfold buildStub
  rw [mapService]
  split
  next clients fault built => rw [built]; rfl
  next clients stub built => rw [built]; rfl

theorem buildStub_miss_setPhase (slave : Slave) (phase : BeatPhase) (master : Identity) :
    ((slave.miss.setPhase phase).buildStub master).2 = (slave.buildStub master).2 := by
  rw [miss_setPhase, buildStub_mapService]

end Slave
end Heartbeat
end ClusterMember
