import ClusterMember.Lifecycle.Control

/-!
# The idle loop of a node

A node idles in a loop that looks whether it is to stop and sleeps when it is not, until a wake
comes or a period is over.  Whoever stops the node sets a flag and then wakes the loop.  These two
steps of everyone and the steps of the loop mix in any way.

A wake that comes while the loop sleeps reaches that sleep; any other one is kept for the next
sleep.  A sleep that notices the end of its period first gives a wake that has reached it back.
-/

namespace ClusterMember

/-- How someone stops a node. -/
inductive StopRequest where
  /-- With a clean stop. -/
  | stop
  | abort (reason : String)
  /-- By tearing it down, which only the first one does who tries. -/
  | tearDown
  deriving DecidableEq, Repr

/-- How far someone is who stops a node. -/
inductive StopPhase where
  | begun
  /-- It is the first one to tear the node down, and the flag has to be set. -/
  | admitted
  /-- The flag is set, and the wake has to be sent. -/
  | flagSet
  | done
  /-- Someone else tears the node down, and it leaves off. -/
  | turnedAway
  deriving DecidableEq, Repr

/-- Where the idle loop is. -/
inductive IdlePhase where
  /-- It has to look whether the node is to stop. -/
  | looking
  /-- The node was not to stop, and the loop has to sleep. -/
  | tired
  /-- It sleeps, and a wake may have reached it. -/
  | sleeping (isWoken : Bool)
  | left
  deriving DecidableEq, Repr

/-- An idle loop with all who stop the node. -/
structure Idle where
  /-- The flags of the node, and the wake that is kept. -/
  control : Control
  /-- Whether someone has begun to tear the node down. -/
  isTornDown : Bool
  phase : IdlePhase
  /-- How often it has fallen asleep. -/
  sleeps : Nat
  /-- Those who stop the node, and how far they are. -/
  stoppers : List (StopRequest × StopPhase)
  deriving DecidableEq

/-- What happens while a node idles. -/
inductive IdleEvent where
  | look
  | fallAsleep
  | awake
  | periodOver
  /-- Someone who stops the node goes on. -/
  | stopper (number : Nat)
  /-- Someone wakes the loop and does not stop the node. -/
  | wake
  deriving DecidableEq, Repr

namespace Idle

/-- The loop begins, and some will stop the node. -/
def start (control : Control) (isTornDown : Bool) (requests : List StopRequest) : Idle where
  control := control
  isTornDown := isTornDown
  phase := .looking
  sleeps := 0
  stoppers := requests.map (·, .begun)

/-- Set the flag that a request sets. -/
def setFlag (control : Control) : StopRequest → Control
  | .stop | .tearDown => control.set .stopped true
  | .abort reason => { control with flags := (control.flags.abort reason).1 }

/-- Someone is somewhere else. -/
def setStopper (idle : Idle) (number : Nat) (stopper : StopRequest × StopPhase) : Idle :=
  { idle with stoppers := idle.stoppers.set number stopper }

/-- Someone sends a wake: it reaches a sleep that no other wake has reached, or it is kept. -/
def wake (idle : Idle) : Idle :=
  match idle.phase with
  | .sleeping false => { idle with phase := .sleeping true }
  | _ => { idle with control := idle.control.wake }

/-- The loop falls asleep, and a wake that was kept reaches it at once. -/
def fallAsleep (idle : Idle) : Idle :=
  match idle.control.sleep with
  | (control, isWoken) =>
    { idle with control, phase := .sleeping isWoken, sleeps := idle.sleeps + 1 }

/-- The next step of someone who stops the node; none when nothing is left to do. -/
def stepStopper (idle : Idle) (number : Nat) : StopRequest × StopPhase → Option Idle
  | (.tearDown, .begun) =>
    some (if idle.isTornDown then idle.setStopper number (.tearDown, .turnedAway)
      else { idle with isTornDown := true }.setStopper number (.tearDown, .admitted))
  | (request, .begun) | (request, .admitted) =>
    some ({ idle with control := setFlag idle.control request }.setStopper number
      (request, .flagSet))
  | (request, .flagSet) => some (idle.wake.setStopper number (request, .done))
  | (_, .done) | (_, .turnedAway) => none

/-- An idle loop after an event; none when the event cannot happen. -/
def step (idle : Idle) : IdleEvent → Option Idle
  | .look =>
    if idle.phase = .looking then
      some { idle with phase := if idle.control.flags.stopped then .left else .tired }
    else none
  | .fallAsleep => if idle.phase = .tired then some idle.fallAsleep else none
  | .awake => if idle.phase = .sleeping true then some { idle with phase := .looking } else none
  | .periodOver =>
    match idle.phase with
    | .sleeping false => some { idle with phase := .looking }
    | .sleeping true => some { idle with phase := .looking, control := idle.control.wake }
    | _ => none
  | .stopper number => idle.stoppers[number]? >>= idle.stepStopper number
  | .wake => some idle.wake

/-- An idle loop after a row of events, of which those that cannot happen change nothing. -/
def run (idle : Idle) (events : List IdleEvent) : Idle :=
  events.foldl (fun idle event => (idle.step event).getD idle) idle

end Idle
end ClusterMember
