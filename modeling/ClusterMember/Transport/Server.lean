import ClusterMember.Config.Basic
import ClusterMember.Net.Address
import ClusterMember.Transport.Fault

/-!
# The endpoint of a node

A node listens at one address for calls of all its services.  An endpoint that is shut down does not
listen again; what it was bound to stays known.
-/

namespace ClusterMember

/-- The endpoint of a node. -/
structure Server where
  role : Role
  address : SocketAddress
  /-- The largest message, in bytes. -/
  maxMessageSize : Nat
  /-- The window of flow control, in bytes. -/
  window : Nat
  /-- Whether it can still listen. -/
  isAlive : Bool
  bound : Option SocketAddress
  deriving DecidableEq

namespace Server

/-- The largest window that there is. -/
def maxWindow : Nat := word32Max / 2

/-- An endpoint that does not listen yet. -/
def create (role : Role) (address : SocketAddress) (maxMessageSize : Nat) : Server where
  role := role
  address := address
  maxMessageSize := maxMessageSize
  window := 80 * 1024 * 1024
  isAlive := true
  bound := none

/-- Set the window of flow control. -/
def withWindow (server : Server) (window : Nat) : Server :=
  { server with window := min window maxWindow }

/-- Listen.  `bindTo` says which address the machine binds an address to, or why it cannot. -/
def start (server : Server) (bindTo : SocketAddress → Except String SocketAddress) :
    Except TransportFault Server :=
  if ¬server.isAlive then .error (.noRuntime "rpc server already shut down")
  else
    match bindTo server.address with
    | .error cause => .error (.bind server.address.text cause)
    | .ok address => .ok { server with bound := some address }

/-- Stop listening for good. -/
def shutdown (server : Server) : Server := { server with isAlive := false }

end Server
end ClusterMember
