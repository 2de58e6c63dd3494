import ClusterMember.Form.Value
import ClusterMember.Wire.Message

/-!
# Messages in forms

The forms of what goes over the wire.
-/

namespace ClusterMember
namespace Form

/-- The bytes of a value of some kind. -/
def encoded (form : Document) : Reading (List UInt8) := do
  let kind ← text form "kind"
  let value := part form "value"
  match kind with
  | "identity" => return Wire.identity (← identity value)
  | "request" => return Wire.request (← request value)
  | "record" =>
    let report ← request value
    return Wire.record
      ⟨report.sender, report.reportTime, (← nat value "received_at").toUInt64⟩
  | "response" => return []
  | "string" => return Wire.text (← text form "value")
  | _ => throw (.refused "unknown kind")

end Form
end ClusterMember
