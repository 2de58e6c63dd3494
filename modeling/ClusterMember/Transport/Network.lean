import ClusterMember.Transport.Channel
import ClusterMember.Wire.Message

/-!
# Calls over a network

What a network makes of a call is given from outside: a reply, no connection, or silence.  A caller
takes a reply with a status of success whose body is not larger than messages may be.
-/

namespace ClusterMember

/-- A call as it is sent. -/
structure Call where
  url : String
  body : List UInt8
  deriving DecidableEq

/-- What a network makes of a call. -/
inductive Delivery where
  | reply (status : Nat) (body : List UInt8)
  /-- The endpoint is not reached, or the connection breaks. -/
  | broken
  /-- Nothing ever comes back. -/
  | silence
  deriving DecidableEq

/-- A network delivers calls. -/
abbrev Network := Call → Delivery

/-- A network that reaches no endpoint. -/
def Network.unreachable : Network := fun _ => .broken

/-- What comes of a call. -/
inductive CallEnd (α : Type) where
  | answered (value : α)
  | failed (fault : TransportFault)
  /-- Nothing, for ever. -/
  | pending
  deriving DecidableEq

namespace Channel

/-- The URL of a method at the endpoint of a channel. -/
def urlOf (channel : Channel) (service method : String) : String :=
  channel.target ++ Transport.rpcPath service method

/-- What a caller makes of what the network delivers. -/
def receive (channel : Channel) (url : String) : Delivery → CallEnd (List UInt8)
  | .broken => .failed (.request url)
  | .silence => .pending
  | .reply status body =>
    if ¬(200 ≤ status ∧ status < 300) then .failed (.status url status)
    else if channel.maxMessageSize < body.length then
      .failed (.messageTooLarge body.length channel.maxMessageSize)
    else .answered body

/-- Call a method with bytes. -/
def callRaw (channel : Channel) (network : Network) (service method : String)
    (body : List UInt8) : CallEnd (List UInt8) :=
  match channel.refusal? body.length with
  | some fault => .failed fault
  | none =>
    let url := channel.urlOf service method
    channel.receive url (network ⟨url, body⟩)

/-- Call a method and decode the reply. -/
def call {α : Type} (channel : Channel) (network : Network) (service method : String)
    (body : List UInt8) (read : Wire.Reader α) : CallEnd α :=
  match channel.callRaw network service method body with
  | .failed fault => .failed fault
  | .pending => .pending
  | .answered bytes =>
    match Wire.decode read bytes with
    | .ok value => .answered value
    | .error fault => .failed fault.transport

end Channel
end ClusterMember
