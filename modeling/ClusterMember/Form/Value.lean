import ClusterMember.Config.Document
import ClusterMember.Config.Validation
import ClusterMember.Form.Field
import ClusterMember.Heartbeat.Message
import ClusterMember.Identity.Text
import ClusterMember.Lifecycle.Control

/-!
# Values in forms

The forms of the values that nodes are described with.
-/

namespace ClusterMember
namespace Form

/-- Forms are taken as on a machine with one processor. -/
scoped instance : Processors := .single

/-- Take what is there, or refuse the form. -/
def known {α : Type} (refusal : String) : Option α → Reading α
  | some value => .ok value
  | none => .error (.refused refusal)

/-- An identity. -/
def identity (form : Document) : Reading Identity := do
  let ip ← (← text? form "ip").mapM fun text =>
    known "ip does not parse" (IpAddress.ofString? text)
  let host ← text form "host"
  let port ← port form "port"
  let start ← nat form "start_time"
  match Identity.make host ip port start.toUInt64 with
  | .ok identity => return identity
  | .error fault => throw (.error (IdentityFault.host fault).error)

/-- A report. -/
def request (form : Document) : Reading Heartbeat.Request := do
  let sender ← identity (part form "sender")
  return ⟨sender, (← nat form "report_time").toUInt64⟩

/-- A span of time. -/
def duration (form : Document) : Reading Duration := do
  let secs := (← nat? form "secs").getD 0
  let nanos := (← nat? form "nanos").getD 0
  if h : nanos < 1000000000 then return ⟨secs, nanos, h⟩
  else throw (.refused "nanos must be below 1000000000")

/-- A kind of pool. -/
def executor (form : Document) (name : String) : Reading ExecutorType := do
  match ExecutorType.ofName (← text form name) with
  | .ok type => return type
  | .error fault => throw (.error fault.error)

/-- A role. -/
def role (form : Document) (name : String) : Reading Role := do
  match Role.ofName (← text form name) with
  | .ok role => return role
  | .error fault => throw (.error fault.error)

/-- A pool. -/
def descriptor (form : Document) : Reading PoolDescriptor := do
  let type ← executor form "type"
  let core ← nat form "core"
  let max ← nat form "max"
  let base : PoolDescriptor := { type, core, max }
  let queue ← int? form "queue_size"
  let keep ← nat? form "keep_alive_ms"
  let daemon ← bool? form "daemon"
  let thread ← text? form "prefix"
  let policy ← (← text? form "rejection").mapM fun name =>
    known "unknown rejection" (RejectionPolicy.ofName? name)
  return { base with
    queue := (queue.map Queue.ofSize).getD base.queue
    keepAlive := (keep.map Duration.ofMillis).getD base.keepAlive
    daemon := daemon.getD base.daemon
    threadName := thread.getD base.threadName
    rejection := policy.getD base.rejection }

/-- Budgets of threads, those of the default configuration when they are left out. -/
def caps (form : Document) : Reading ResourceCaps :=
  match given? form "caps" with
  | none => .ok .default
  | some value => known "caps do not decode" (ResourceCaps.ofDocument? .json value)

/-- A style of calls. -/
def style (form : Document) (name : String) : Reading CallStyle := do
  let text ← text form name
  known "unknown flavor" (CallStyle.all.find? (·.name = text))

/-- A flag. -/
def flag (form : Document) (name : String) : Reading Flag := do
  let text ← text form name
  known "unknown flag" (Flag.all.find? (·.name = text))

/-- An error. -/
def error (form : Document) : (depth : Nat) → Reading Error
  | 0 => .error (.refused "unknown variant")
  | depth + 1 => do
    match ← text form "variant" with
    | "configuration" => return .configuration (← text form "text")
    | "invalid_identity" => return .invalidIdentity (← text form "text")
    | "master_unavailable" => return .masterUnavailable (← text form "text")
    | "channel_shutdown" => return .transport (.channelShutdown (← text form "text"))
    | "unknown_service" => return .transport (.unknownService (← text form "text"))
    | "no_runtime" => return .transport (.noRuntime (← text form "text"))
    | "resource_exceeded" =>
      return .resourceExceeded (← text form "text") (← nat form "requested") (← nat form "limit")
    | "duplicate" => return .duplicateRegistration (← text form "kind") (← text form "text")
    | "rpc_timeout" => return .rpcTimeout (← duration form)
    | "rejected" => return .rejected (← executor form "executor") (← text form "text")
    | "fault" =>
      let chain ← texts form "chain"
      return .fault (if chain.isEmpty then [""] else chain)
    | "fault_of" => return (← error (part form "inner") depth).wrap
    | "flavor_mismatch" =>
      return .transport
        (.flavorMismatch (← text form "text") (← style form "expected") (← style form "actual"))
    | "status" => return .transport (.status (← text form "text") (← port form "status").toNat)
    | "message_too_large" =>
      return .transport (.messageTooLarge (← nat form "size") (← nat form "limit"))
    | _ => throw (.refused "unknown variant")

end Form
end ClusterMember
