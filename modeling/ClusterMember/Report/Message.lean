import ClusterMember.Report.Value
import ClusterMember.Wire.Message

/-!
# Reports on messages

What operators are shown of what has come over the wire.
-/

namespace ClusterMember
namespace Report

/-- The value of some kind that bytes begin with; none when there is no such kind. -/
def decoded (kind : String) (bytes : List UInt8) : Option (Except Wire.Fault Document) :=
  match kind with
  | "identity" => some ((Wire.decode Wire.readIdentity bytes).map identity)
  | "request" =>
    some ((Wire.decode Wire.readRequest bytes).map fun report =>
      record ⟨report.sender, report.reportTime, 0⟩)
  | "record" => some ((Wire.decode Wire.readRecord bytes).map arrival)
  | "response" => some (.ok (.table []))
  | "string" => some ((Wire.decode Wire.readText bytes).map .str)
  | _ => none

end Report
end ClusterMember
