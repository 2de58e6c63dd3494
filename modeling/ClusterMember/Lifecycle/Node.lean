import ClusterMember.Executor.Governor
import ClusterMember.Heartbeat.Course
import ClusterMember.Heartbeat.Manager
import ClusterMember.Heartbeat.Resolver
import ClusterMember.Identity.Origin
import ClusterMember.Lifecycle.Component
import ClusterMember.Lifecycle.Monitor
import ClusterMember.Lifecycle.Wait
import ClusterMember.Net.Binding
import ClusterMember.Transport.Registry
import ClusterMember.Transport.Server

/-!
# Nodes

A node is what its components share, with the components in the order in which they start.  The
first one is built in: a master keeps the table of its slaves, and a slave has a heartbeat.
-/

namespace ClusterMember

/-- What a node has done to its components and to itself. -/
inductive NodeEvent where
  | registered (place : Nat)
  | opening
  | listening
  | initialized (place : Nat)
  | stopped (place : Nat)
  | endpointClosed
  | clientsClosed
  | executorsStopped
  /-- A flag was set. -/
  | raised (flag : Flag)
  deriving DecidableEq, Repr

/-- A node. -/
structure Node where
  role : Role
  config : NodeConfig
  identity : Identity
  scheduler : Scheduler
  /-- Its services, with the places of the components that they belong to. -/
  registry : Registry Nat
  clients : Clients
  monitor : Monitor
  /-- Its flags and the wake of its idle loop. -/
  control : Control
  server : Server
  resolver : Heartbeat.Resolver
  heartbeat : Option Heartbeat.Service
  manager : Option Heartbeat.Manager
  /-- The components that were added, in order. -/
  components : List Component
  /-- Whether it was torn down. -/
  isTornDown : Bool
  /-- What it has done, in order. -/
  trace : List NodeEvent

/-- What a node finds around itself. -/
structure Surroundings where
  /-- The address that the machine binds an address to, or why it cannot. -/
  bindTo : SocketAddress → Except String SocketAddress
  network : Network
  /-- The time, in milliseconds. -/
  now : UInt64

/-- What a node finds on a machine without addresses, whose network carries no calls. -/
def Surroundings.isolated (now : UInt64) : Surroundings := ⟨SocketAddress.bind, .unreachable, now⟩

/-- A component in its place. -/
inductive Part where
  | manager
  | heartbeat
  | added (component : Component)
  deriving DecidableEq

/-- The name of a component. -/
def Part.name : Part → String
  | .manager => "heartbeat-manager"
  | .heartbeat => "heartbeat"
  | .added component => component.name

namespace Node

/-- The host that a node goes by: the configured one, or that of the machine. -/
def hostOf (config : NodeConfig) (machine : Option String) : String :=
  (config.hostName.or machine).getD "localhost"

/-- Why a master does not start on a machine. -/
def hostFault? (role : Role) (config : NodeConfig) (machine : Option String) : Option Error :=
  let host := hostOf config machine
  if role = .master ∧ config.lifecycle.verifyLocalHostname ∧ machine ≠ some host then
    some (.configuration ("master host " ++ host ++ " is not this machine (" ++
      machine.getD "unknown" ++ ")"))
  else none

/-- The name of a node that starts now on a machine. -/
def identityOf (role : Role) (config : NodeConfig) (machine : Option String) (now : UInt64) :
    Except Error Identity :=
  match hostFault? role config machine with
  | some error => .error error
  | none =>
    match Identity.starting (hostOf config machine) (config.rpcPort role).toUInt16 now with
    | .error fault => .error (IdentityFault.host fault).error
    | .ok identity => .ok identity

/-- The address that a node is to listen at. -/
def bindAddress (role : Role) (config : NodeConfig) : Except Error SocketAddress :=
  match SocketAddress.ofString?
      (config.rpc.bindAddress ++ ":" ++ Decimal.write (config.rpcPort role)) with
  | some address => .ok address
  | none => .error (.configuration "bad rpc bind address: invalid socket address syntax")

/-- The parts of a node that have been made, put together. -/
def assemble (role : Role) (config : NodeConfig) (resolver : Heartbeat.Resolver)
    (identity : Identity) (governor : Governor) (address : SocketAddress) : Node where
  role := role
  config := config
  identity := identity
  scheduler := .ofGovernor governor
  registry := .empty
  clients := .ofConfig config.rpc
  monitor := .empty
  control := {}
  server := (Server.create role address config.rpc.maxMessageSize).withWindow
    config.rpc.flowControlWindow
  resolver := resolver
  heartbeat :=
    match role with
    | .master => none
    | .slave => some (.create identity config.heartbeat)
  manager :=
    match role with
    | .master => some .empty
    | .slave => none
  components := []
  isTornDown := false
  trace := []

/-- Build a node that starts now on a machine, with a resolver for its master. -/
def build (role : Role) (config : NodeConfig) (resolver : Heartbeat.Resolver)
    (machine : Option String) (now : UInt64) : Except RegistrationFault Node :=
  match config.fault? with
  | some fault => .error (.refused fault.error)
  | none =>
    match identityOf role config machine now with
    | .error error => .error (.refused error)
    | .ok identity =>
      match Governor.ofConfig config.executor with
      | .error fault => .error fault
      | .ok governor =>
        match bindAddress role config with
        | .error error => .error (.refused error)
        | .ok address => .ok (assemble role config resolver identity governor address)

/-- Build a node that looks for its master where its settings say. -/
def ofConfig (role : Role) (config : NodeConfig) (machine : Option String) (now : UInt64) :
    Except RegistrationFault Node :=
  build role config (Heartbeat.Resolver.ofConfig config.heartbeat).1 machine now

/-- Add a component, behind those that there are. -/
def add (node : Node) (component : Component) : Node :=
  { node with components := node.components ++ [component] }

/-- Add components, in order. -/
def addAll (node : Node) (components : List Component) : Node := components.foldl add node

/-- The component that is built in. -/
def builtIn (node : Node) : Part :=
  match node.role with
  | .master => .manager
  | .slave => .heartbeat

/-- All components in the order in which they start. -/
def parts (node : Node) : List Part :=
  node.builtIn :: node.components.map .added

/-- The name of the node after its role. -/
def title (node : Node) : String :=
  node.role.name ++ " node " ++ node.identity.canonical

/-- Note that something was done. -/
def note (node : Node) (event : NodeEvent) : Node :=
  { node with trace := node.trace ++ [event] }

/-- Set a flag. -/
def raise (node : Node) (flag : Flag) : Node :=
  { node with control := node.control.set flag true }.note (.raised flag)

/-- Do what a component asks. -/
def serve (node : Node) (requests : List ControlRequest) : Node :=
  { node with control := node.control.serveAll requests }

/-- Change what the node says that it is doing. -/
def report (node : Node) (change : Monitor → Monitor) : Node :=
  { node with monitor := change node.monitor }

/-- The heartbeat with what it shares with the node. -/
def slave? (node : Node) : Option Heartbeat.Slave :=
  node.heartbeat.map fun service => ⟨service, node.clients, node.control⟩

/-- Take over what a heartbeat has changed. -/
def setSlave (node : Node) (slave : Heartbeat.Slave) : Node :=
  { node with
    heartbeat := some slave.service, clients := slave.clients, control := slave.control }

/-- Wait until the node may exit safely: the result says whether it may. -/
def waitExitSafe (node : Node) : Bool :=
  (node.config.lifecycle.exitWait fun _ => node.control.flags).run.answer

end Node
end ClusterMember
