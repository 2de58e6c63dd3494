import ClusterMember.Log

/-!
# Stopping and aborting a node

The state of a node is a set of flags, each on its own, and a wake for its idle loop.  A wake that
nobody waits for is kept, and any number of them count as one.  Only the first abort of a node gives
it a reason.
-/

namespace ClusterMember

/-- The flags of a node. -/
structure Flags where
  stopped : Bool := false
  aborted : Bool := false
  active : Bool := false
  initialized : Bool := false
  receptorStarted : Bool := false
  premiered : Bool := false
  exitSafe : Bool := false
  reason : Option String := none
  deriving DecidableEq

/-- The flags that can be set and cleared. -/
inductive Flag where
  | stopped
  | active
  | initialized
  | receptorStarted
  | premiered
  | exitSafe
  deriving DecidableEq, Repr

namespace Flag

/-- All flags that can be set and cleared. -/
def all : List Flag :=
  [.stopped, .active, .initialized, .receptorStarted, .premiered, .exitSafe]

/-- The name of a flag. -/
def name : Flag → String
  | .stopped => "stopped"
  | .active => "active"
  | .initialized => "initialized"
  | .receptorStarted => "receptor_started"
  | .premiered => "premiered"
  | .exitSafe => "exit_safe"

end Flag

namespace Flags

/-- Set or clear a flag. -/
def set (flags : Flags) (flag : Flag) (value : Bool) : Flags :=
  match flag with
  | .stopped => { flags with stopped := value }
  | .active => { flags with active := value }
  | .initialized => { flags with initialized := value }
  | .receptorStarted => { flags with receptorStarted := value }
  | .premiered => { flags with premiered := value }
  | .exitSafe => { flags with exitSafe := value }

/-- Abort: the result says whether this is the first time. -/
def abort (flags : Flags) (reason : String) : Flags × Bool :=
  ({ flags with
      stopped := true
      aborted := true
      reason := if flags.aborted then flags.reason else some reason },
    !flags.aborted)

end Flags

/-- What components of a node use to stop it. -/
structure Control where
  /-- The flags of the node. -/
  flags : Flags := {}
  /-- Whether a wake waits for the idle loop. -/
  isWakePending : Bool := false
  deriving DecidableEq

namespace Control

/-- Wake the idle loop. -/
def wake (control : Control) : Control :=
  { control with isWakePending := true }

/-- Sleep for a period: the result says whether a wake cuts it short. -/
def sleep (control : Control) : Control × Bool :=
  ({ control with isWakePending := false }, control.isWakePending)

/-- Set or clear a flag. -/
def set (control : Control) (flag : Flag) (value : Bool) : Control :=
  { control with flags := control.flags.set flag value }

/-- Ask for a clean stop. -/
def requestStop (control : Control) (why : String) : Control × List LogLine :=
  ((control.set .stopped true).wake,
    if control.flags.stopped then [] else [⟨.info, "Stop requested: " ++ why⟩])

/-- Stop because of a fault. -/
def abort (control : Control) (why : String) : Control × List LogLine :=
  match control.flags.abort why with
  | (flags, first) =>
    ({ control with flags }.wake, if first then [⟨.error, "Aborting node: " ++ why⟩] else [])

end Control
end ClusterMember
