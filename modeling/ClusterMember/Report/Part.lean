import ClusterMember.Executor.Session
import ClusterMember.Heartbeat.Course
import ClusterMember.Lifecycle.Node
import ClusterMember.Report.Value

/-!
# Reports on the parts of a node

What operators are shown of pools, heartbeats and nodes, as documents.
-/

namespace ClusterMember
namespace Report

/-- Threads registered so far. -/
def accounting (threads : ThreadAccounting) : Document :=
  .table
    [("normal_core", .nat threads.normalCore), ("normal_max", .nat threads.normalMax),
      ("scheduled_core", .nat threads.scheduledCore)]

/-- How many tasks each registered pool has run. -/
def executed (governor : Governor) : Document :=
  .table (governor.report.map fun (type, summary) => (type.name, .nat summary.count))

/-- The registered kinds of pools. -/
def registered (governor : Governor) : Document :=
  texts (governor.registered.map ExecutorType.name)

/-- A governor. -/
def governor (governor : Governor) : Document :=
  .table
    [("registered", registered governor),
      ("scheduled", .optional (fun (pool : PeriodicPool) =>
        .table [("core", .nat pool.core), ("daemon", .bool pool.daemon)]) governor.scheduledPool?),
      ("accounting", accounting governor.accounting), ("report", executed governor)]

/-- A pool at work. -/
def pool (pool : Pool) : Document :=
  .table
    [("type", .str pool.type.name), ("in_flight", .nat pool.inFlight),
      ("shut_down", .bool pool.isShut), ("latency", latency pool.latency.summary)]

/-- How busy pools are. -/
def load (scheduler : Scheduler) : Document :=
  let governor := scheduler.governor
  .table
    [("in_flight", .table (governor.registered.filterMap fun type =>
        (governor.pool? type).map fun pool => (type.name, .nat pool.inFlight))),
      ("executed", executed governor), ("fallbacks", .nat scheduler.fallbacks)]

/-- A submitted task. -/
def task {α : Type} (task : Task α) : List (String × Document) :=
  [("executor", .str task.type.name),
    ("discarded", .bool (match task.site with | .nowhere => true | _ => false))]

/-- A table of slaves after a step: what the step gave, who heard what, and what the log says. -/
def manager (manager : Heartbeat.Manager) (result : Document)
    (heard : List (String × Heartbeat.Record)) (lines : List LogLine) : Document :=
  .table
    [("result", result), ("heard", .list (heard.map fun (name, record) =>
      .list [.str name, .str record.sender.canonical, .nat record.reportTime.toNat])),
      ("log", log lines), ("received", .nat manager.received), ("slaves", .nat manager.count)]

/-- A registry after a step: what the step gave, and what the log says. -/
def registry {σ : Type} (registry : Registry σ) (result : Document) (lines : List LogLine) :
    Document :=
  .table
    [("result", result), ("log", log lines), ("services", texts registry.names),
      ("count", .nat registry.count)]

/-- The paths of a method and of its service, with what looking up the service gives. -/
def paths (service method : String) (found : Document) : Document :=
  .table
    [("rpc_path", .str (Transport.rpcPath service method)),
      ("service_path", .str (Transport.servicePath service)), ("lookup", found)]

/-- How far a periodic task is. -/
def progress (executions failures : Nat) (isOver : Bool) : Document :=
  .table
    [("executions", .nat executions), ("failures", .nat failures), ("cancelled", .bool isOver)]

/-- The entries about a heartbeat on its course, whose master goes by a name. -/
def courseEntries (course : Heartbeat.Course) (name : Option String) :
    List (String × Document) :=
  let service := course.slave.service
  [("cluster_up", .bool service.isClusterUp), ("attempts", .nat service.attempts),
    ("acknowledged", .nat service.acknowledged), ("failures", .nat service.failures),
    ("resolved", .nat course.asked),
    ("current_master", .optional (fun (link : Heartbeat.Link) =>
      .table
        [("master", .optional .str name), ("start_time", .nat link.master.startTime.toNat)])
      service.link),
    ("lifecycle", .table (flagEntries course.slave.control.flags))]

/-- The window of an endpoint before and after it is set. -/
def window (server : Server) (window : Nat) : Document :=
  .table
    [("default", .nat server.window), ("window", .nat (server.withWindow window).window),
      ("bound", .bool server.bound.isSome)]

/-- Whether a heartbeat has found a cluster. -/
def heartbeat (service : Heartbeat.Service) : Document :=
  .table
    [("cluster_up", .bool service.isClusterUp), ("has_master", .bool service.link.isSome)]

/-- A node. -/
def node (node : Node) : Document :=
  let governor := node.scheduler.governor
  .table
    [("role", .str node.role.name), ("host", .str node.identity.host),
      ("port", .nat node.identity.port.toNat), ("ip", ip node.identity.ip),
      ("bound", .bool node.server.bound.isSome), ("has_heartbeat", .bool node.heartbeat.isSome),
      ("has_manager", .bool node.manager.isSome), ("services", texts node.registry.names),
      ("pools", registered governor), ("accounting", accounting governor.accounting)]

/-- What added components were told, in order; those with nothing to register were not told to. -/
def calls (node : Node) : Document :=
  let call (phase : String) (place : Nat) (isTold : Component → Bool) : Option Document :=
    match place with
    | 0 => none
    | place + 1 => (node.components[place]?.filter isTold).map fun component =>
      .str (phase ++ ":" ++ component.name)
  .list (node.trace.filterMap fun event =>
    match event with
    | .registered place => call "rpc" place Component.offers
    | .initialized place => call "init" place fun _ => true
    | .stopped place => call "stop" place fun _ => true
    | _ => none)

end Report
end ClusterMember
