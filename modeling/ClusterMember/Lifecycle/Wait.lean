import ClusterMember.Config.Basic
import ClusterMember.Lifecycle.Control

/-!
# Bounded waits

Someone who waits for a flag looks at it again and again, with a sleep between two looks, until the
flag is set, there is a reason to give up, or the time is over.  A slave waits so for its cluster,
and whoever ends a slave waits so until it may exit safely.
-/

namespace ClusterMember

/-- What came of a wait. -/
structure WaitEnd where
  /-- Whether the flag was seen. -/
  answer : Bool
  /-- How often it was looked at. -/
  looks : Nat
  time : Nat
  deriving DecidableEq

/-- How to wait.  Times are in milliseconds from the begin of the wait.  A look reads more than once,
and others may change what it reads in between, so each of its readings is told on its own. -/
structure Wait where
  timeout : Nat
  /-- The time between two looks, at least one. -/
  step : Nat
  /-- When the flag is set. -/
  isSet : Nat → Bool
  isOver : Nat → Bool := fun _ => false
  /-- When the flag is set as it is read once more before giving up. -/
  isSetLate : Nat → Bool := fun _ => false

namespace Wait

/-- Look at the flag from a time on. -/
def lookFrom (wait : Wait) (now looks : Nat) : WaitEnd :=
  if wait.isSet now then ⟨true, looks + 1, now⟩
  else if wait.isOver now ∨ wait.timeout ≤ now then ⟨wait.isSetLate now, looks + 1, now⟩
  else wait.lookFrom (now + max wait.step 1) (looks + 1)
termination_by wait.timeout - now

/-- Wait. -/
def run (wait : Wait) : WaitEnd := wait.lookFrom 0 0

end Wait

/-- The wait until a node may exit safely, with its flags at each time. -/
def LifecycleConfig.exitWait (lifecycle : LifecycleConfig) (flags : Nat → Flags) : Wait where
  timeout := lifecycle.exitWaitTimeoutMs
  step := lifecycle.exitPollIntervalMs
  isSet time := (flags time).exitSafe

/-- The wait of a slave for its cluster, which a stop of the node cuts short: whether the cluster is
up when a look begins and when it is about to give up, and the flags of the node. -/
def HeartbeatConfig.clusterWait (heartbeat : HeartbeatConfig) (isUp isUpLate : Nat → Bool)
    (flags : Nat → Flags) : Wait where
  timeout := heartbeat.clusterUpTimeoutMs
  step := max heartbeat.clusterUpPollMs 1
  isSet := isUp
  isOver time := (flags time).stopped
  isSetLate := isUpLate

end ClusterMember
