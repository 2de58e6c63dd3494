import ClusterMember.Heartbeat.Manager
import ClusterMember.Transport.Network

/-!
# How a master answers reports

Reports come to one path.  A body that is too large or that does not decode is refused and leaves
the table as it is; any other is accepted and acknowledged with an empty body.
-/

namespace ClusterMember
namespace Heartbeat
namespace Manager

/-- The path that reports come to. -/
def path : String := Transport.rpcPath serviceName methodName

/-- The text of a refused body as bytes. -/
def refusal (status : Nat) (text : String) : Delivery :=
  .reply status text.toUTF8.toList

/-- Answer a body that comes to a path.  Bodies of more than `cap` bytes are too large. -/
def answer (manager : Manager) (cap : Nat) (at_ : String) (body : List UInt8) (now : UInt64) :
    Manager × Delivery :=
  if at_ ≠ path then (manager, .reply 404 [])
  else if cap < body.length then
    (manager, refusal 413 "Failed to buffer the request body: length limit exceeded")
  else
    match Wire.decode Wire.readRequest body with
    | .error fault => (manager, refusal 400 fault.transport.message)
    | .ok request => ((manager.accept request now).manager, .reply 200 [])

end Manager
end Heartbeat
end ClusterMember
