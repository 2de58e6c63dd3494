import ClusterMember.Executor.Scheduler
import ClusterMember.Heartbeat.Message
import ClusterMember.Lifecycle.Control
import ClusterMember.Transport.Clients

/-!
# The heartbeat of a slave

A slave reports to its master at each beat.  A beat that fails asks the resolver anew.  A master at
another place or with another start time gets a new stub; when there is no master, the beat goes on
with checks, each after an interval, until there is one again, the node is to stop, or the checks
are used up, which aborts the node.

A beat takes time, and the node may be stopped at any point of it, so a beat is a row of events.
-/

namespace ClusterMember
namespace Heartbeat

/-- What a slave reports to. -/
structure Link where
  master : Identity
  stub : Stub ChannelRef

/-- What a heartbeat is doing. -/
inductive BeatPhase where
  | idle
  | reporting
  | waiting (check : Nat)
  deriving DecidableEq, Repr

/-- The heartbeat of a slave. -/
structure Service where
  identity : Identity
  /-- How often, and how patient it is. -/
  config : HeartbeatConfig
  link : Option Link
  schedule : Option Nat
  /-- Whether the master has acknowledged a report and has not been missed since. -/
  isClusterUp : Bool
  attempts : Nat
  acknowledged : Nat
  failures : Nat
  phase : BeatPhase

/-- The heartbeat of a slave with what it shares with its node. -/
structure Slave where
  service : Service
  clients : Clients
  /-- The flags and the wake of the node. -/
  control : Control

/-- A heartbeat that has not been started. -/
def Service.create (identity : Identity) (config : HeartbeatConfig) : Service where
  identity := identity
  config := config
  link := none
  schedule := none
  isClusterUp := false
  attempts := 0
  acknowledged := 0
  failures := 0
  phase := .idle

/-- The schedule of beats. -/
def Service.envelope (service : Service) : CyclicEnvelope where
  label := "heartbeat"
  period := .ofMillis service.config.intervalMs
  fixedRate := false

/-- No master was found at the start. -/
def noMaster : Error := .masterUnavailable "resolver returned no master at startup"

/-- A heartbeat is started once. -/
def alreadyStarted : Error := .configuration "heartbeat service already started"

/-- Why a node is aborted whose master stays away. -/
def masterLost : String := "master did not come back before the restart timeout"

namespace Slave

/-- Build a stub for the heartbeat service of a master. -/
def buildStub (slave : Slave) (master : Identity) : Slave × Except Error (Stub ChannelRef) :=
  match slave.clients.getStub serviceName .future master.host master.port .multiThread with
  | (clients, .error fault) => ({ slave with clients }, .error (.transport fault))
  | (clients, .ok stub) => ({ slave with clients }, .ok stub)

/-- Set the link. -/
def setLink (slave : Slave) (link : Link) : Slave :=
  { slave with service := { slave.service with link := some link } }

/-- Do something else. -/
def setPhase (slave : Slave) (phase : BeatPhase) : Slave :=
  { slave with service := { slave.service with phase } }

/-- Link to the master that the resolver answers, unless the heartbeat has been started. -/
def linkFirst (slave : Slave) (answer : Option Identity) : Slave × Except Error Unit :=
  match answer with
  | none => (slave, .error noMaster)
  | some master =>
    match slave.buildStub master with
    | (slave, .error error) => (slave, .error error)
    | (slave, .ok stub) =>
      if slave.service.phase ≠ .idle ∨ slave.service.link.isSome then
        (slave, .error alreadyStarted)
      else (slave.setLink ⟨master, stub⟩, .ok ())

/-- Give the schedule of beats a number and submit it. -/
def submitBeats (slave : Slave) (scheduler : Scheduler) (task : Nat) :
    Except Error Scheduler :=
  match scheduler.scheduledPlace with
  | .error error => .error error
  | .ok place => scheduler.cycleAt place task slave.service.envelope

/-- Start the heartbeat: link to the master that the resolver answers, then submit the schedule. -/
def start (slave : Slave) (scheduler : Scheduler) (task : Nat) (answer : Option Identity) :
    Slave × Scheduler × Except Error Unit :=
  match slave.linkFirst answer with
  | (slave, .error error) => (slave, scheduler, .error error)
  | (slave, .ok ()) =>
    match slave.submitBeats scheduler task with
    | .error error => (slave, scheduler, .error error)
    | .ok scheduler =>
      ({ slave with service := { slave.service with schedule := some task } }, scheduler, .ok ())

/-- Point the link at a master, with a new stub if the master moved or restarted.  When no stub can
be built, the link stays. -/
def relink (slave : Slave) (master : Identity) : Slave :=
  if slave.service.link.any fun link => link.master == master then slave
  else
    match slave.buildStub master with
    | (slave, .error _) => slave
    | (slave, .ok stub) => slave.setLink ⟨master, stub⟩

/-- A beat begins, unless the node is to stop or nothing is linked. -/
def beat (slave : Slave) : Slave :=
  if slave.control.flags.stopped ∨ slave.service.link.isNone ∨ slave.service.phase ≠ .idle then
    slave
  else
    { slave with
      service :=
        { slave.service with attempts := slave.service.attempts + 1, phase := .reporting } }

/-- The report is acknowledged. -/
def acknowledge (slave : Slave) : Slave :=
  { slave with
    service :=
      { slave.service with
        acknowledged := slave.service.acknowledged + 1
        isClusterUp := true
        phase := .idle } }

/-- Go on to a check: abort when the checks are used up, leave off when the node is to stop, and
sleep else. -/
def nextCheck (slave : Slave) (check : Nat) : Slave :=
  if slave.service.config.maxRestartChecks < check then
    { slave.setPhase .idle with control := (slave.control.abort masterLost).1 }
  else if slave.control.flags.stopped then slave.setPhase .idle
  else slave.setPhase (.waiting check)

/-- Count a failure. -/
def countFailure (slave : Slave) : Slave :=
  { slave with service := { slave.service with failures := slave.service.failures + 1 } }

/-- The report fails, and the resolver answers. -/
def fail (slave : Slave) (answer : Option Identity) : Slave :=
  let slave := slave.countFailure
  match answer with
  | some master => (slave.relink master).setPhase .idle
  | none => { slave with service := { slave.service with isClusterUp := false } }.nextCheck 1

/-- The sleep before a check is over, and the resolver answers. -/
def probe (slave : Slave) (check : Nat) (answer : Option Identity) : Slave :=
  match answer with
  | some master => (slave.relink master).setPhase .idle
  | none => slave.nextCheck (check + 1)

/-- Stop the heartbeat: its schedule and the beat that is under way are over. -/
def stop (slave : Slave) : Slave :=
  { slave with service := { slave.service with schedule := none, phase := .idle } }

/-- What comes of a report over a network. -/
def report (slave : Slave) (network : Network) (now : UInt64) : Except Error Unit :=
  match slave.service.link >>= fun link => slave.clients.withChannel? link.stub with
  | none => .error (.transport (.channelShutdown ""))
  | some stub =>
    match stub.call network .future .multiThread methodName
        (Wire.request ⟨slave.service.identity, now⟩) (.done ()) with
    | .answered () => .ok ()
    | .failed fault => .error (.transport fault)
    | .pending => .error (.rpcTimeout (.ofMillis slave.service.config.rpcTimeoutMs))

/-- What happens to a slave. -/
inductive Event where
  | beatDue
  | reportAcknowledged
  /-- The report fails or takes too long, and the resolver answers. -/
  | reportFailed (answer : Option Identity)
  /-- The sleep before a check is over, and the resolver answers. -/
  | checkDue (answer : Option Identity)
  | stopRequested (why : String)
  | abortRequested (why : String)
  | clientsClosed

/-- A slave after an event; an event that cannot happen now changes nothing. -/
def step (slave : Slave) (event : Event) : Slave :=
  match event, slave.service.phase with
  | .beatDue, _ => slave.beat
  | .reportAcknowledged, .reporting => slave.acknowledge
  | .reportFailed answer, .reporting => slave.fail answer
  | .checkDue answer, .waiting check => slave.probe check answer
  | .stopRequested why, _ => { slave with control := (slave.control.requestStop why).1 }
  | .abortRequested why, _ => { slave with control := (slave.control.abort why).1 }
  | .clientsClosed, _ => { slave with clients := slave.clients.close }
  | _, _ => slave

/-- A slave after a row of events. -/
def run (slave : Slave) (events : List Event) : Slave := events.foldl step slave

end Slave
end Heartbeat
end ClusterMember
