import ClusterMember.Transport.ChannelPool.Course
import ClusterMember.Transport.Clients

/-!
# The course of the clients of a node

The parts of a node share its clients.  Each of them asks for stubs, calls over channels and shuts
channels down, in any order, and at times no stub can be built.
-/

namespace ClusterMember

/-- What others do with the clients of a node. -/
inductive Clients.Event where
  | getStub (service : String) (style : CallStyle) (endpoint : Endpoint) (runtime : RuntimeKind)
  | channelShutdown (ref : ChannelRef)
  | callBegins (ref : ChannelRef) (size : Nat)
  | callEnds (ref : ChannelRef)
  | close
  /-- From now on no stub can be built. -/
  | outage
  /-- From now on stubs can be built. -/
  | recovery

namespace Clients

/-- Change the channel that a reference names. -/
def modifyChannel (clients : Clients) (ref : ChannelRef) (change : Channel → Channel) : Clients :=
  { clients with built := clients.built.modify ref.client (·.modify ref.channel change) }

/-- Build what is asked for. -/
def reopen (clients : Clients) : Clients := { clients with isClosed := false }

/-- Clients after an event. -/
def step (clients : Clients) : Event → Clients
  | .getStub service style endpoint runtime =>
    (clients.getStub service style endpoint.1 endpoint.2 runtime).1
  | .channelShutdown ref => (clients.shutdownChannel ref).1
  | .callBegins ref size => clients.modifyChannel ref (.begin size)
  | .callEnds ref => clients.modifyChannel ref .finish
  | .close => clients.close
  | .outage => clients.markClosed
  | .recovery => clients.reopen

/-- Clients after a row of events. -/
def run (clients : Clients) (events : List Event) : Clients := events.foldl step clients

end Clients
end ClusterMember
