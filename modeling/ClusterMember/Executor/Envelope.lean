import ClusterMember.Duration
import ClusterMember.Text.Quoted

/-!
# Periodic work

A periodic task has a label, a period and a first delay.  At a fixed rate the period counts from
start to start, and otherwise from the end of a run to the next start.
-/

namespace ClusterMember

/-- When a periodic task runs. -/
structure CyclicEnvelope where
  label : String
  period : Duration
  initialDelay : Duration := .zero
  /-- Whether the period counts from start to start. -/
  fixedRate : Bool

namespace CyclicEnvelope

/-- The debug text of periodic work. -/
def debug (envelope : CyclicEnvelope) : String :=
  "CyclicTaskEnvelope \x7b label: " ++ Text.quoted envelope.label ++ ", period: " ++
    envelope.period.text ++ ", initial_delay: " ++ envelope.initialDelay.text ++
    ", fixed_rate: " ++ (if envelope.fixedRate then "true" else "false") ++ " \x7d"

end CyclicEnvelope
end ClusterMember
