import ClusterMember.Heartbeat.Answer
import ClusterMember.Transport.Clients.Course

/-!
# The history of a heartbeat

What came of the reports and checks of a slave, one after the other, while others do as they like
with the clients that the slave shares with its node.
-/

namespace ClusterMember
namespace Heartbeat

/-- A master that the resolver answered. -/
structure Finding where
  master : Identity
  /-- Whether the slave was linked to it already, or a stub was built for it. -/
  isLinked : Bool

/-- What came of a report or of a check. -/
inductive Deed where
  | acknowledged
  /-- The report failed, with what the resolver then answered. -/
  | failed (found : Option Finding)
  /-- The sleep before a check was over, with what the resolver then answered. -/
  | checked (found : Option Finding)

namespace Deed

/-- Whether a report was acknowledged. -/
def isAcknowledged : Deed → Bool
  | .acknowledged => true
  | _ => false

/-- Whether a report failed. -/
def isFailed : Deed → Bool
  | .failed _ => true
  | _ => false

/-- The master that was answered, if the slave was or became linked to it. -/
def linked? : Deed → Option Identity
  | .acknowledged => none
  | .failed found => (found.filter (·.isLinked)).map (·.master)
  | .checked found => (found.filter (·.isLinked)).map (·.master)

end Deed

namespace Slave

/-- What becomes of a master that the resolver answers. -/
def find (slave : Slave) (master : Identity) : Finding where
  master := master
  isLinked :=
    (slave.service.link.any fun link => link.master == master) || (slave.buildStub master).2.isOk

/-- What comes of a report or of a check by an event. -/
def deed? (slave : Slave) (event : Event) : Option Deed :=
  match event, slave.service.phase with
  | .reportAcknowledged, .reporting => some .acknowledged
  | .reportFailed answer, .reporting => some (.failed (answer.map slave.find))
  | .checkDue answer, .waiting _ => some (.checked (answer.map slave.find))
  | _, _ => none

end Slave

/-- What happens to a slave, or to the clients that it shares with others. -/
inductive Occurrence where
  | event (event : Slave.Event)
  | others (event : Clients.Event)

/-- A slave with all that came of its reports and checks, oldest first. -/
structure History where
  slave : Slave
  deeds : List Deed

namespace History

/-- A history after an occurrence. -/
def step (history : History) : Occurrence → History
  | .event event => ⟨history.slave.step event, history.deeds ++ (history.slave.deed? event).toList⟩
  | .others event =>
    { history with
      slave := { history.slave with clients := history.slave.clients.step event } }

/-- A history after a row of occurrences. -/
def run (history : History) (occurrences : List Occurrence) : History :=
  occurrences.foldl step history

end History
end Heartbeat
end ClusterMember
