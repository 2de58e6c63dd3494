import ClusterMember.Duration

/-!
# Latency statistics

The number, smallest, largest and mean of the run times of a pool, in whole milliseconds.  A time is
taken modulo 2^64, and the sum of the times stops growing at 2^64 - 1.
-/

namespace ClusterMember

/-- Run times seen so far. -/
structure Latency where
  count : Nat
  /-- Their sum, up to the largest word. -/
  sum : Nat
  min? : Option Nat
  /-- The largest, zero when there is none. -/
  max : Nat
  deriving DecidableEq, Repr

/-- What statistics show. -/
structure LatencySummary where
  count : Nat
  min : Nat
  max : Nat
  /-- The mean, rounded down. -/
  mean : Nat
  deriving DecidableEq, Repr

namespace Latency

/-- Nothing recorded. -/
def empty : Latency := ⟨0, 0, none, 0⟩

/-- Record a number of milliseconds. -/
def recordMillis (latency : Latency) (ms : Nat) : Latency where
  count := latency.count + 1
  sum := Nat.min (latency.sum + ms) word64Max
  min? := some (match latency.min? with | none => ms | some least => Nat.min least ms)
  max := Nat.max latency.max ms

/-- Record a run time. -/
def record (latency : Latency) (elapsed : Duration) : Latency :=
  latency.recordMillis (elapsed.millis % UInt64.size)

/-- What the statistics show; all zero when nothing was recorded. -/
def summary (latency : Latency) : LatencySummary where
  count := latency.count
  min := latency.min?.getD 0
  max := latency.max
  mean := latency.sum / latency.count

/-- The summaries before and after each of several runs. -/
def summaries (latency : Latency) : List Duration → List LatencySummary
  | [] => [latency.summary]
  | elapsed :: rest => latency.summary :: (latency.record elapsed).summaries rest

end Latency
end ClusterMember
