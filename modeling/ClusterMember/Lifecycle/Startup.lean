import ClusterMember.Lifecycle.Node

/-!
# How a node starts

All components register their services, then the endpoint listens, then the components initialize
themselves, each time in order.  The first failure ends the start.  A slave then waits for its
master to acknowledge a report, and comes up in any case.
-/

namespace ClusterMember
namespace Node

/-- Register services of a component under their names. -/
def offer (place : Nat) : List String → Node → Node × StepEnd
  | [], node => (node, .done)
  | name :: rest, node =>
    match node.registry.register name place with
    | .error error => (node, .failed error)
    | .ok registry => offer place rest { node with registry }

/-- Tell a component to register its services. -/
def registerPart (node : Node) (place : Nat) (part : Part) : Node × StepEnd :=
  let node := node.note (.registered place)
  match part with
  | .manager => node.offer place [Heartbeat.serviceName]
  | .heartbeat => (node, .done)
  | .added component =>
    match node.offer place component.services with
    | (node, .done) => (node, component.registering)
    | failure => failure

/-- Tell components, of which the first has the given place, to register their services. -/
def registerParts : (place : Nat) → List Part → Node → Node × StepEnd
  | _, [], node => (node, .done)
  | place, part :: rest, node =>
    match node.registerPart place part with
    | (node, .done) => registerParts (place + 1) rest node
    | failure => failure

/-- Make the endpoint listen.  Its address is bound before the services are mounted. -/
def listen (node : Node) (around : Surroundings) : Node × StepEnd :=
  let node := node.note .opening
  match node.server.start around.bindTo with
  | .error fault => (node, .failed (.transport fault))
  | .ok server =>
    if node.registry.hasStar then (node, .panicked (some Registry.starMessage))
    else (({ node with server }.note .listening).raise .receptorStarted, .done)

/-- The number of the schedule of beats. -/
def beatTask : Nat := 0

/-- Start the heartbeat. -/
def startHeartbeat (node : Node) : Node × StepEnd :=
  match node.slave? with
  | none => (node, .done)
  | some slave =>
    match slave.start node.scheduler beatTask node.resolver.master with
    | (slave, scheduler, result) =>
      ({ node.setSlave slave with scheduler },
        match result with
        | .ok () => .done
        | .error error => .failed error)

/-- Tell a component to initialize itself. -/
def initPart (node : Node) (id place : Nat) (part : Part) : Node × StepEnd :=
  let node := (node.report fun monitor =>
    (monitor.setStatus id ("initializing " ++ part.name) 0).1).note (.initialized place)
  match part with
  | .manager => (node, .done)
  | .heartbeat => node.startHeartbeat
  | .added component => (node.serve component.initRequests, component.initializing)

/-- Tell components, of which the first has the given place, to initialize themselves. -/
def initParts (id : Nat) : (place : Nat) → List Part → Node → Node × StepEnd
  | _, [], node => (node, .done)
  | place, part :: rest, node =>
    match node.initPart id place part with
    | (node, .done) => initParts id (place + 1) rest node
    | failure => failure

/-- Let the heartbeat beat once. -/
def beat (node : Node) (around : Surroundings) : Node :=
  match node.slave? with
  | none => node
  | some slave =>
    let course : Heartbeat.Course := ⟨slave, [{ answer := node.resolver.master }], 0⟩
    node.setSlave (course.beat around.network around.now).slave

/-- Wait until the master has acknowledged a report: the result says whether it has. -/
def waitClusterUp (node : Node) : Bool :=
  node.heartbeat.any fun service =>
    (service.config.clusterWait (fun _ => service.isClusterUp) (fun _ => service.isClusterUp)
      fun _ => node.control.flags).run.answer

/-- A slave waits for its master to acknowledge a report. -/
def awaitCluster (node : Node) (around : Surroundings) (id : Nat) : Node :=
  if node.heartbeat.isNone then node
  else
    let node := node.report fun monitor =>
      monitor.pause id "waiting for the master to acknowledge" 0
    let node := node.beat around
    node.report fun monitor =>
      monitor.resume id
        (if node.waitClusterUp then "cluster is up"
          else "master has not acknowledged yet, continuing") 0

/-- All components are up. -/
def comeUp (node : Node) (id : Nat) : Node :=
  let node := node.raise .initialized
  let node := if node.role = .master then node.raise .premiered else node
  node.report fun monitor => (monitor.complete id (node.title ++ " is up") 0).1

/-- Initialize the components, under an activity of the monitor. -/
def initAll (node : Node) (around : Surroundings) (id : Nat) : Node × StepEnd :=
  match node.initParts id 0 node.parts with
  | (node, .done) => ((node.awaitCluster around id).comeUp id, .done)
  | failure => failure

/-- Make the endpoint listen, and go on. -/
def openUp (node : Node) (around : Surroundings) (id : Nat) : Node × StepEnd :=
  let node := node.report fun monitor => (monitor.setStatus id "starting rpc endpoint" 0).1
  match node.listen around with
  | (node, .done) => node.initAll around id
  | failure => failure

/-- Make the components register their services, and go on. -/
def startParts (node : Node) (around : Surroundings) (id : Nat) : Node × StepEnd :=
  match node.registerParts 0 node.parts with
  | (node, .done) => node.openUp around id
  | failure => failure

/-- Start a node. -/
def start (node : Node) (around : Surroundings) : Node × StepEnd :=
  match node.monitor.create ("Starting " ++ node.title) 0 with
  | (monitor, id, _) =>
    let node := { node with monitor }
    let node := if node.role = .master then node.raise .active else node
    let node := node.report fun monitor => (monitor.setStatus id "registering rpc services" 0).1
    match node.startParts around id with
    | (node, ending) => (node.report fun monitor => (monitor.drop id 0).1, ending)

end Node
end ClusterMember
