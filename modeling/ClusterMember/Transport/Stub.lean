import ClusterMember.Text.Quoted
import ClusterMember.Transport.Network

/-!
# Stubs

A stub binds a service to a channel in one style of calls.  A call in another style is refused
first, then a call of an unknown method; a call that blocks its thread needs a runtime that can do
without that thread.
-/

namespace ClusterMember

/-- The runtime that a thread belongs to. -/
inductive RuntimeKind where
  | none
  | currentThread
  | multiThread
  deriving DecidableEq, Repr

/-- A stub for a service over the channel that `κ` names. -/
structure Stub (κ : Type) where
  service : Transport.ServiceDescriptor
  style : CallStyle
  channel : κ
  deriving DecidableEq

namespace Stub

variable {κ : Type}

/-- A stub for a service by its name, built on a thread of a runtime or of none. -/
def build (service : String) (style : CallStyle) (channel : κ) (runtime : RuntimeKind) :
    Except TransportFault (Stub κ) :=
  match Transport.lookup service with
  | .error fault => .error fault
  | .ok descriptor =>
    if runtime = .none then .error (.noRuntime "rpc stub") else .ok ⟨descriptor, style, channel⟩

/-- Why a call of a method in a style is refused. -/
def refusal? (stub : Stub κ) (style : CallStyle) (method : String) : Option TransportFault :=
  if stub.style ≠ style then some (.flavorMismatch stub.service.service style stub.style)
  else if method ∉ stub.service.methods then
    some (.unknownService (stub.service.service ++ "/" ++ method))
  else none

/-- Why a call from a thread of a runtime cannot block that thread. -/
def blockingRefusal? (style : CallStyle) (runtime : RuntimeKind) : Option TransportFault :=
  if style = .blocking ∧ runtime = .currentThread then
    some (.noRuntime "blocking rpc on a current-thread runtime")
  else none

/-- Call a method in a style from a thread of a runtime. -/
def call {α : Type} (stub : Stub Channel) (network : Network) (style : CallStyle)
    (runtime : RuntimeKind) (method : String) (body : List UInt8) (read : Wire.Reader α) :
    CallEnd α :=
  match (stub.refusal? style method).or (blockingRefusal? style runtime) with
  | some fault => .failed fault
  | none => stub.channel.call network stub.service.service method body read

/-- The text of a stub, with a text for the number of its channel. -/
def debug (stub : Stub Channel) (id : String) : String :=
  "ServiceStub \x7b service: " ++ Text.quoted stub.service.service ++ ", flavor: " ++
    stub.style.title ++ ", channel: Channel \x7b id: " ++ id ++ ", target: " ++
    Text.quoted stub.channel.target ++ ", state: " ++ stub.channel.state.name ++ " \x7d \x7d"

end Stub
end ClusterMember
