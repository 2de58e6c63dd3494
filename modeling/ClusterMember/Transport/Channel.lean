import ClusterMember.Config.Basic
import ClusterMember.Net.Address
import ClusterMember.Transport.Path

/-!
# Channels

A channel carries calls to one endpoint.  It takes calls until it is shut down; calls that are under
way then may still end, and the last of them terminates the channel.  A call is refused before it is
sent when the channel is shut down, and else when its body is larger than messages may be.
-/

namespace ClusterMember

/-- How far a channel is. -/
inductive ChannelState where
  | ready
  /-- It takes no calls, and some are under way. -/
  | shutdown
  /-- It takes no calls, and none is under way. -/
  | terminated
  deriving DecidableEq, Repr

/-- The name of a state. -/
def ChannelState.name : ChannelState → String
  | .ready => "Ready"
  | .shutdown => "Shutdown"
  | .terminated => "Terminated"

/-- A channel to an endpoint. -/
structure Channel where
  /-- The endpoint, as the start of a URL. -/
  target : String
  /-- The largest message, in bytes. -/
  maxMessageSize : Nat
  state : ChannelState
  inFlight : Nat
  deriving DecidableEq

namespace Channel

/-- The start of the URLs of an endpoint. -/
def targetOf (host : String) (port : UInt16) : String :=
  "http://" ++ host ++ ":" ++ Decimal.write port.toNat

/-- A new channel. -/
def connect (host : String) (port : UInt16) (maxMessageSize : Nat) : Channel where
  target := targetOf host port
  maxMessageSize := maxMessageSize
  state := .ready
  inFlight := 0

/-- Whether it takes calls. -/
def isUsable (channel : Channel) : Bool := channel.state = .ready

/-- A channel that takes no calls terminates when none is under way. -/
def tryTerminate (channel : Channel) : Channel :=
  if channel.state = .shutdown ∧ channel.inFlight = 0 then { channel with state := .terminated }
  else channel

/-- Take no more calls: the result says whether the channel took calls before. -/
def shutdown (channel : Channel) : Channel × Bool :=
  if channel.state = .ready then ({ channel with state := .shutdown }.tryTerminate, true)
  else (channel.tryTerminate, false)

/-- Why a call with a body of a size is not sent. -/
def refusal? (channel : Channel) (size : Nat) : Option TransportFault :=
  if channel.state ≠ .ready then some (.channelShutdown channel.target)
  else if channel.maxMessageSize < size then some (.messageTooLarge size channel.maxMessageSize)
  else none

/-- A call with a body of a size begins, unless it is refused. -/
def enter (channel : Channel) (size : Nat) : Except TransportFault Channel :=
  match channel.refusal? size with
  | some fault => .error fault
  | none => .ok { channel with inFlight := channel.inFlight + 1 }

/-- A call that is under way ends, in whatever way. -/
def leave (channel : Channel) : Channel :=
  { channel with inFlight := channel.inFlight - 1 }.tryTerminate

end Channel
end ClusterMember
