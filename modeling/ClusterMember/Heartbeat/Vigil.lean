import ClusterMember.Heartbeat.Answer
import ClusterMember.Heartbeat.Course

/-!
# The wait for a master

What a heartbeat does from a failed report on, with a resolver that answers each time it is asked:
it sleeps and asks again, one check after the other, until it need not or must not go on.  Stops,
aborts and the closing of the clients may come from outside at any time of it.
-/

namespace ClusterMember
namespace Heartbeat

/-- Whether an event comes from outside the heartbeat. -/
def Slave.Event.isOutside : Slave.Event → Bool
  | .stopRequested _ | .abortRequested _ | .clientsClosed => true
  | _ => false

/-- What a heartbeat does while it waits for a master. -/
inductive VigilAct where
  /-- It sleeps for some milliseconds. -/
  | slept (time : Nat)
  /-- It asks the resolver, which answers. -/
  | probed (answer : Option Identity)
  /-- It aborts its node. -/
  | aborted

/-- A slave whose report has failed, with what its heartbeat has done since. -/
structure Vigil where
  slave : Slave
  /-- What it has done, oldest first. -/
  acts : List VigilAct

namespace Vigil

/-- What a heartbeat does besides in an event. -/
def parting (slave : Slave) (event : Slave.Event) : List VigilAct :=
  if slave.givesUp event then [.aborted] else []

/-- The report that is under way fails, and the resolver answers. -/
def begin (slave : Slave) (resolution : Resolution) : Vigil :=
  let slave := slave.run resolution.meanwhile
  let event := .reportFailed resolution.answer
  ⟨slave.step event, parting slave event⟩

/-- A check, if the heartbeat waits for one: it sleeps, and the resolver answers. -/
def check (vigil : Vigil) (resolution : Resolution) : Vigil :=
  match vigil.slave.service.phase with
  | .waiting _ =>
    let slave := vigil.slave.run resolution.meanwhile
    let event := .checkDue resolution.answer
    { slave := slave.step event
      acts := vigil.acts ++ .slept slave.service.config.intervalMs :: .probed resolution.answer ::
        parting slave event }
  | _ => vigil

/-- What becomes of a slave whose report fails, after so many checks. -/
def watch (slave : Slave) (resolutions : Nat → Resolution) : (checks : Nat) → Vigil
  | 0 => begin slave (resolutions 0)
  | checks + 1 => (watch slave resolutions checks).check (resolutions (checks + 1))

end Vigil
end Heartbeat
end ClusterMember
