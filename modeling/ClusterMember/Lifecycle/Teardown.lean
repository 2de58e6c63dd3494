import ClusterMember.Lifecycle.Node

/-!
# How a node is torn down

All components stop in the reverse order of their start, whether they were initialized or not; then
the endpoint, the clients and the pools go.  This happens once: a panic of a component that stops
cuts it short, and it is not taken up again.
-/

namespace ClusterMember
namespace Node

/-- Stop the heartbeat and cancel its schedule. -/
def stopHeartbeat (node : Node) : Node :=
  match node.slave? with
  | none => node
  | some slave =>
    let scheduler :=
      match slave.service.schedule with
      | none => node.scheduler
      | some task =>
        { node.scheduler with
          governor :=
            { node.scheduler.governor with
              builtScheduled := node.scheduler.governor.builtScheduled.map fun pool =>
                (pool.cancel task .zero).getD pool } }
    { node.setSlave slave.stop with scheduler }

/-- Tell a component to stop. -/
def stopPart (node : Node) (id place : Nat) (part : Part) : Node × StepEnd :=
  let node := (node.report fun monitor =>
    (monitor.setStatus id ("stopping " ++ part.name) 0).1).note (.stopped place)
  match part with
  | .manager => (node, .done)
  | .heartbeat => (node.stopHeartbeat, .done)
  | .added component => (node.serve component.stopRequests, component.stopping)

/-- Tell components, each with its place, to stop; only a panic keeps the rest from being told. -/
def stopParts (id : Nat) : List (Part × Nat) → Node → Node × StepEnd
  | [], node => (node, .done)
  | (part, place) :: rest, node =>
    match node.stopPart id place part with
    | (node, .panicked message) => (node, .panicked message)
    | (node, _) => stopParts id rest node

/-- Shut down the endpoint, the clients and the pools. -/
def closeDown (node : Node) (id : Nat) : Node :=
  let node := node.report fun monitor => (monitor.setStatus id "stopping rpc endpoint" 0).1
  let node := { node with server := node.server.shutdown }.note .endpointClosed
  let node := { node with clients := node.clients.close }.note .clientsClosed
  let node := node.report fun monitor => (monitor.setStatus id "stopping executors" 0).1
  { node with scheduler := node.scheduler.stop .zero }.note .executorsStopped

/-- The teardown has come to its end. -/
def comeDown (node : Node) (id : Nat) : Node :=
  let node := if node.role = .slave then node.raise .exitSafe else node
  node.report fun monitor =>
    if node.control.flags.aborted then (monitor.abort id "node aborted" 0).1
    else (monitor.complete id "node closed" 0).1

/-- A node is to stop, and its idle loop is woken. -/
def beginShutdown (node : Node) : Node :=
  let node := { node with isTornDown := true }.raise .stopped
  { node with control := node.control.wake }

/-- Tear down what a node has, under an activity of the monitor. -/
def shutdownParts (node : Node) (id : Nat) : Node × StepEnd :=
  match stopParts id node.parts.zipIdx.reverse node with
  | (node, .panicked message) =>
    (node.report fun monitor => (monitor.drop id 0).1, .panicked message)
  | (node, _) =>
    (((node.closeDown id).comeDown id).report fun monitor => (monitor.drop id 0).1, .done)

/-- Tear down a node, unless that was begun before. -/
def shutdown (node : Node) : Node × StepEnd :=
  if node.isTornDown then (node, .done)
  else
    let node := node.beginShutdown
    match node.monitor.create ("Closing " ++ node.title) 0 with
    | (monitor, id, _) => { node with monitor }.shutdownParts id

end Node
end ClusterMember
