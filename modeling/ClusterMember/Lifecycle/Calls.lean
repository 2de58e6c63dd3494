import ClusterMember.Lifecycle.Run

/-!
# What a node is asked during a run

Components ask their node to stop or to abort when they are told to initialize themselves and when
they are told to stop, and the node may be asked while it idles.  A start that fails aborts the node
in the same way.  Each request finds the flags of the node as they are at that moment.
-/

namespace ClusterMember

/-- A request with the flags that it finds. -/
structure ControlCall where
  found : Flags
  request : ControlRequest
  deriving DecidableEq

/-- Requests that are made one after the other. -/
def Control.calls : Control → List ControlRequest → List ControlCall
  | _, [] => []
  | control, request :: rest => ⟨control.flags, request⟩ :: (control.serve request).calls rest

namespace Node

/-- What a component asks when it is told to initialize itself. -/
def initPartCalls (node : Node) : Part → List ControlCall
  | .manager => []
  | .heartbeat => []
  | .added component => node.control.calls component.initRequests

/-- What components ask that are told to initialize themselves, one after the other. -/
def initPartsCalls (id : Nat) : (place : Nat) → List Part → Node → List ControlCall
  | _, [], _ => []
  | place, part :: rest, node =>
    node.initPartCalls part ++
      match node.initPart id place part with
      | (node, .done) => initPartsCalls id (place + 1) rest node
      | _ => []

/-- What components ask once the endpoint is told to listen. -/
def openUpCalls (node : Node) (around : Surroundings) (id : Nat) : List ControlCall :=
  let node := node.report fun monitor => (monitor.setStatus id "starting rpc endpoint" 0).1
  match node.listen around with
  | (node, .done) => initPartsCalls id 0 node.parts node
  | _ => []

/-- What components ask once they are told to register their services. -/
def startPartsCalls (node : Node) (around : Surroundings) (id : Nat) : List ControlCall :=
  match node.registerParts 0 node.parts with
  | (node, .done) => node.openUpCalls around id
  | _ => []

/-- What components ask during a start. -/
def startCalls (node : Node) (around : Surroundings) : List ControlCall :=
  match node.monitor.create ("Starting " ++ node.title) 0 with
  | (monitor, id, _) =>
    let node := { node with monitor }
    let node := if node.role = .master then node.raise .active else node
    let node := node.report fun monitor => (monitor.setStatus id "registering rpc services" 0).1
    node.startPartsCalls around id

/-- What a component asks when it is told to stop. -/
def stopPartCalls (node : Node) : Part → List ControlCall
  | .manager => []
  | .heartbeat => []
  | .added component => node.control.calls component.stopRequests

/-- What components ask that are told to stop, one after the other. -/
def stopPartsCalls (id : Nat) : List (Part × Nat) → Node → List ControlCall
  | [], _ => []
  | (part, place) :: rest, node =>
    node.stopPartCalls part ++
      match node.stopPart id place part with
      | (_, .panicked _) => []
      | (node, _) => stopPartsCalls id rest node

/-- What components ask during a teardown. -/
def shutdownCalls (node : Node) : List ControlCall :=
  if node.isTornDown then []
  else
    let node := node.beginShutdown
    match node.monitor.create ("Closing " ++ node.title) 0 with
    | (monitor, id, _) => stopPartsCalls id node.parts.zipIdx.reverse { node with monitor }

/-- What a node is asked during a run, in which it is given some requests while it idles. -/
def runCalls (node : Node) (around : Surroundings) (requests : List ControlRequest) :
    List ControlCall :=
  node.startCalls around ++
    match node.start around with
    | (node, ending) =>
      match startFailure? ending with
      | some (reason, _) =>
        node.control.calls [.abort reason] ++
          { node with control := (node.control.abort reason).1 }.shutdownCalls
      | none =>
        let idle := node.serve requests
        node.control.calls requests ++
          if idle.control.flags.stopped then idle.shutdownCalls else []

end Node
end ClusterMember
