import ClusterMember.Heartbeat.Service

/-!
# What a beat waits for

A beat that is under way waits for one thing at a time: for what becomes of its report, or for the
end of the sleep before a check.  Unless the report is acknowledged, the resolver answers then, and
when it names no master and no check is left, the heartbeat gives up and aborts its node.
-/

namespace ClusterMember
namespace Heartbeat

/-- How many checks have been slept for when the resolver answers next. -/
def BeatPhase.checks : BeatPhase → Nat
  | .waiting check => check
  | _ => 0

namespace Slave

/-- Whether an event acknowledges the report that is under way. -/
def isAcknowledgedBy (slave : Slave) (event : Event) : Bool :=
  match event, slave.service.phase with
  | .reportAcknowledged, .reporting => true
  | _, _ => false

/-- What the resolver answers in an event, if the beat under way asks it then. -/
def answer? (slave : Slave) (event : Event) : Option (Option Identity) :=
  match event, slave.service.phase with
  | .reportFailed answer, .reporting => some answer
  | .checkDue answer, .waiting _ => some answer
  | _, _ => none

/-- Whether an event is the one thing that the beat under way waits for. -/
def isDue (slave : Slave) (event : Event) : Bool :=
  slave.isAcknowledgedBy event || (slave.answer? event).isSome

/-- Whether no check is left when the resolver answers next. -/
def isLastChance (slave : Slave) : Bool :=
  slave.service.config.maxRestartChecks ≤ slave.service.phase.checks

/-- Whether the heartbeat gives up by an event: no check is left, and there is no master. -/
def givesUp (slave : Slave) (event : Event) : Bool :=
  match slave.answer? event with
  | some none => slave.isLastChance
  | _ => false

/-- Whether the heartbeat gives up somewhere in a row of events. -/
def givesUpIn (slave : Slave) : List Event → Bool
  | [] => false
  | event :: rest => slave.givesUp event || (slave.step event).givesUpIn rest

end Slave

/-- Whether an event is someone else's abort of the node. -/
def Slave.Event.isAbort : Slave.Event → Bool
  | .abortRequested _ => true
  | _ => false

end Heartbeat
end ClusterMember
