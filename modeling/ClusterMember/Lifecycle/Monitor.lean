import ClusterMember.Document.Json
import ClusterMember.Log

/-!
# The monitor of activities

A bounded table of what a node is doing and has lately done.  Each activity is held by a guard; when
the guard goes while the activity is unfinished, the activity counts as aborted.  An entry goes when
it has been finished for long enough and someone looks, or when it is the oldest one and a new one
needs its place.
-/

namespace ClusterMember

/-- The state of an activity. -/
inductive ActivityState where
  | running
  | waiting
  | complete
  | aborted
  deriving DecidableEq, Repr

namespace ActivityState

/-- Whether an activity is over. -/
def isFinished : ActivityState → Bool
  | .complete => true
  | .aborted => true
  | _ => false

/-- The name of a state in documents. -/
def name : ActivityState → String
  | .running => "RUNNING"
  | .waiting => "WAITING"
  | .complete => "COMPLETE"
  | .aborted => "ABORTED"

/-- The name of a state in texts. -/
def title : ActivityState → String
  | .running => "Running"
  | .waiting => "Waiting"
  | .complete => "Complete"
  | .aborted => "Aborted"

end ActivityState

/-- What is done through the guard of an activity, with a text. -/
inductive GuardAction where
  | setStatus
  | setDescription
  | complete
  | pause
  | resume
  | abort
  deriving DecidableEq, Repr

namespace GuardAction

/-- All actions. -/
def all : List GuardAction := [.setStatus, .setDescription, .complete, .pause, .resume, .abort]

/-- The name of an action. -/
def name : GuardAction → String
  | .setStatus => "set_status"
  | .setDescription => "set_description"
  | .complete => "complete"
  | .pause => "pause"
  | .resume => "resume"
  | .abort => "abort"

end GuardAction

/-- An entry of the monitor.  Times are in milliseconds. -/
structure Activity where
  id : Nat
  description : String
  status : String
  state : ActivityState
  startTime : Nat
  statusTime : Nat
  stateTime : Nat
  /-- When it finished, as long as it is finished. -/
  finishedAt : Option Nat
  deriving DecidableEq

/-- What holds an activity. -/
structure ActivityGuard where
  id : Nat
  description : String
  deriving DecidableEq

/-- The monitor of a node. -/
structure Monitor where
  /-- The entries, oldest first. -/
  entries : List Activity
  guards : List ActivityGuard
  next : Nat
  /-- The most entries, at least one. -/
  capacity : Nat
  /-- How long a finished entry is kept, in milliseconds. -/
  expiration : Nat

namespace Monitor

/-- An empty monitor. -/
def withLimits (capacity expiration : Nat) : Monitor where
  entries := []
  guards := []
  next := 1
  capacity := max capacity 1
  expiration := expiration

/-- The monitor of a node: a thousand entries, and a minute. -/
def empty : Monitor := withLimits 1000 60000

/-- Whether an entry has been finished for long enough. -/
def isExpired (expiration now : Nat) (entry : Activity) : Bool :=
  match entry.finishedAt with
  | some finished => expiration ≤ now - finished
  | none => false

/-- Drop the entries that have been finished for long enough. -/
def purge (monitor : Monitor) (now : Nat) : Monitor :=
  { monitor with
    entries := monitor.entries.filter fun entry => !isExpired monitor.expiration now entry }

/-- Drop the oldest entry. -/
def evict (monitor : Monitor) : Monitor × List LogLine :=
  match monitor.entries with
  | [] => (monitor, [])
  | oldest :: rest =>
    ({ monitor with entries := rest },
      [⟨.warn, "Task monitor full, dropping oldest entry: " ++ oldest.description⟩])

/-- Make room for one more entry. -/
def makeRoom (monitor : Monitor) (now : Nat) : Monitor × List LogLine :=
  let monitor :=
    if monitor.capacity ≤ monitor.entries.length then monitor.purge now else monitor
  if monitor.capacity ≤ monitor.entries.length then monitor.evict else (monitor, [])

/-- Begin an activity: the result is the number of its guard. -/
def create (monitor : Monitor) (description : String) (now : Nat) :
    Monitor × Nat × List LogLine :=
  match monitor.makeRoom now with
  | (monitor, log) =>
    let id := monitor.next
    ({ monitor with
        entries := monitor.entries ++ [⟨id, description, "", .running, now, now, now, none⟩]
        guards := monitor.guards ++ [⟨id, description⟩]
        next := id + 1 },
      id, log)

/-- The entry of an activity. -/
def entry? (monitor : Monitor) (id : Nat) : Option Activity :=
  monitor.entries.find? (·.id = id)

/-- The guard of an activity. -/
def guard? (monitor : Monitor) (id : Nat) : Option ActivityGuard :=
  monitor.guards.find? (·.id = id)

/-- Change the entry of an activity, if it is there. -/
def modify (monitor : Monitor) (id : Nat) (change : Activity → Activity) : Monitor :=
  { monitor with
    entries := monitor.entries.map fun entry => if entry.id = id then change entry else entry }

/-- Put an entry into a state. -/
def setState (state : ActivityState) (now : Nat) (entry : Activity) : Activity :=
  { entry with
    state := state
    stateTime := now
    finishedAt := if state.isFinished then some now else none }

/-- What the guard of an activity says that the activity is. -/
def describe (monitor : Monitor) (id : Nat) : String :=
  ((monitor.guard? id).map (·.description)).getD ""

/-- Put an activity into a state and set its status. -/
def transition (monitor : Monitor) (id : Nat) (state : ActivityState) (status : String)
    (now : Nat) : Monitor :=
  monitor.modify id fun entry =>
    { setState state now entry with status := status, statusTime := now }

/-- Set the status of an activity. -/
def setStatus (monitor : Monitor) (id : Nat) (status : String) (now : Nat) :
    Monitor × List LogLine :=
  (monitor.modify id fun entry => { entry with status := status, statusTime := now },
    [⟨.info, "## " ++ monitor.describe id ++ ": " ++ status⟩])

/-- Say anew what an activity is. -/
def setDescription (monitor : Monitor) (id : Nat) (description : String) : Monitor :=
  let monitor := monitor.modify id fun entry => { entry with description := description }
  { monitor with
    guards := monitor.guards.map fun held =>
      if held.id = id then { held with description := description } else held }

/-- An activity has come to its end. -/
def complete (monitor : Monitor) (id : Nat) (status : String) (now : Nat) :
    Monitor × List LogLine :=
  (monitor.transition id .complete status now,
    [⟨.info, "## " ++ monitor.describe id ++ " complete: " ++ status⟩])

/-- An activity waits. -/
def pause (monitor : Monitor) (id : Nat) (status : String) (now : Nat) : Monitor :=
  monitor.transition id .waiting status now

/-- An activity goes on. -/
def resume (monitor : Monitor) (id : Nat) (status : String) (now : Nat) : Monitor :=
  monitor.transition id .running status now

/-- An activity is given up. -/
def abort (monitor : Monitor) (id : Nat) (status : String) (now : Nat) :
    Monitor × List LogLine :=
  (monitor.transition id .aborted status now,
    [⟨.warn, "## " ++ monitor.describe id ++ " aborted: " ++ status⟩])

/-- Do something through the guard of an activity. -/
def act (monitor : Monitor) (id : Nat) (action : GuardAction) (text : String) (now : Nat) :
    Monitor × List LogLine :=
  match action with
  | .setStatus => monitor.setStatus id text now
  | .setDescription => (monitor.setDescription id text, [])
  | .complete => monitor.complete id text now
  | .pause => (monitor.pause id text now, [])
  | .resume => (monitor.resume id text now, [])
  | .abort => monitor.abort id text now

/-- The guard of an activity goes. -/
def drop (monitor : Monitor) (id : Nat) (now : Nat) : Monitor × List LogLine :=
  let rest := { monitor with guards := monitor.guards.filter (·.id ≠ id) }
  match monitor.entry? id with
  | some entry =>
    if entry.state.isFinished then (rest, [])
    else
      (rest.modify id (setState .aborted now),
        [⟨.warn, "Monitored task leaked while still running: " ++ monitor.describe id⟩])
  | none => (rest, [])

/-- The entries, oldest first, without those that have been finished for long enough. -/
def snapshot (monitor : Monitor) (now : Nat) : Monitor × List Activity :=
  let monitor := monitor.purge now
  (monitor, monitor.entries)

end Monitor

namespace Activity

/-- An entry as a document. -/
def toDocument (entry : Activity) : Document :=
  .table
    [("id", .nat entry.id), ("description", .str entry.description), ("status", .str entry.status),
      ("state", .str entry.state.name), ("start_time", .nat entry.startTime),
      ("status_time", .nat entry.statusTime), ("state_time", .nat entry.stateTime)]

/-- Three lines about an entry. -/
def text (now : Nat) (entry : Activity) : String :=
  "Task: " ++ entry.description ++ "\n  Status: " ++ entry.state.title ++ ": " ++ entry.status ++
    "\n  Running for " ++ Decimal.write (now - entry.startTime) ++ " ms\n"

end Activity

namespace Monitor

/-- The entries as a text. -/
def dump (monitor : Monitor) (now : Nat) : Monitor × String :=
  match monitor.snapshot now with
  | (monitor, entries) => (monitor, String.join (entries.map (·.text now)))

/-- The entries as an indented JSON text. -/
def json (monitor : Monitor) (now : Nat) : Monitor × String :=
  match monitor.snapshot now with
  | (monitor, entries) =>
    (monitor, Json.writeIndented (.list (entries.map Activity.toDocument)))

end Monitor
end ClusterMember
