import ClusterMember.Identity.Basic

/-!
# Heartbeat messages

What a slave reports to its master, and what the master keeps of it.
-/

namespace ClusterMember
namespace Heartbeat

/-- Name of the service that takes reports. -/
def serviceName : String := "heartbeat"

/-- Name of its one method. -/
def methodName : String := "report"

/-- A report. -/
structure Request where
  sender : Identity
  /-- When, by the clock of the sender, in milliseconds. -/
  reportTime : UInt64

/-- A report that has arrived. -/
structure Record where
  sender : Identity
  /-- When, by the clock of the sender, in milliseconds. -/
  reportTime : UInt64
  /-- When it arrived, by the clock of the master, in milliseconds. -/
  receivedAt : UInt64

end Heartbeat
end ClusterMember
