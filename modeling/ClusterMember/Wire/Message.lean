import ClusterMember.Heartbeat.Message
import ClusterMember.Identity.Text
import ClusterMember.Wire.Basic

/-!
# Binary forms of identities and heartbeats

Each value is the row of its fields in their order.  An identity is checked as soon as its last
field has been taken.
-/

namespace ClusterMember
namespace Wire

/-- The form of an identity. -/
def identity (value : Identity) : List UInt8 :=
  text value.host ++ optional address value.ip ++ number 2 value.port.toNat ++
    number 8 value.startTime.toNat

/-- Take an identity. -/
def readIdentity : Reader Identity :=
  readText.andThen fun host =>
  (readOptional readAddress).andThen fun ip =>
  (readNumber 2).andThen fun port =>
  (readNumber 8).andThen fun startTime =>
    match Identity.make host ip port.toUInt16 startTime.toUInt64 with
    | .ok value => .done value
    | .error fault => .fail (.refused (IdentityFault.host fault).error.text)

/-- The form of a report. -/
def request (value : Heartbeat.Request) : List UInt8 :=
  identity value.sender ++ number 8 value.reportTime.toNat

/-- Take a report. -/
def readRequest : Reader Heartbeat.Request :=
  readIdentity.andThen fun sender =>
  (readNumber 8).andThen fun reportTime =>
    .done ⟨sender, reportTime.toUInt64⟩

/-- The form of a report that has arrived. -/
def record (value : Heartbeat.Record) : List UInt8 :=
  identity value.sender ++ number 8 value.reportTime.toNat ++ number 8 value.receivedAt.toNat

/-- Take a report that has arrived. -/
def readRecord : Reader Heartbeat.Record :=
  readIdentity.andThen fun sender =>
  (readNumber 8).andThen fun reportTime =>
  (readNumber 8).andThen fun receivedAt =>
    .done ⟨sender, reportTime.toUInt64, receivedAt.toUInt64⟩

end Wire
end ClusterMember
