import ClusterMember.Heartbeat.History
import ClusterMember.Heartbeat.Vigil

/-!
# All that a heartbeat does for a master that is gone

A heartbeat that was started, with whatever happens to it and to the clients of its node, and with
what it has done since a report of it failed last.
-/

namespace ClusterMember
namespace Heartbeat
namespace Vigil

/-- What a heartbeat has done since a report failed last, after an event.  A report that fails now
begins a new account. -/
def actsAfter (vigil : Vigil) (event : Slave.Event) : List VigilAct :=
  match event, vigil.slave.service.phase with
  | .reportFailed _, .reporting => parting vigil.slave event
  | .checkDue answer, .waiting _ =>
    vigil.acts ++ .slept vigil.slave.service.config.intervalMs :: .probed answer ::
      parting vigil.slave event
  | _, _ => vigil.acts

/-- A vigil after an occurrence. -/
def step (vigil : Vigil) : Occurrence → Vigil
  | .event event => ⟨vigil.slave.step event, vigil.actsAfter event⟩
  | .others event =>
    { vigil with slave := { vigil.slave with clients := vigil.slave.clients.step event } }

/-- A heartbeat with some settings that was started, after whatever has happened to it. -/
inductive Attended (heartbeat : HeartbeatConfig) : Vigil → Prop where
  | started {identity : Identity} {clients : Clients} {control : Control}
      {scheduler after : Scheduler} {task : Nat} {answer : Option Identity} {slave : Slave}
      (begun : Slave.start ⟨.create identity heartbeat, clients, control⟩ scheduler task answer =
        (slave, after, .ok ())) : Attended heartbeat ⟨slave, []⟩
  | onwards {vigil : Vigil} (attended : Attended heartbeat vigil) (occurrence : Occurrence) :
      Attended heartbeat (vigil.step occurrence)

end Vigil
end Heartbeat
end ClusterMember
