import ClusterMember.Proofs.Heartbeat.Steps

/-!
# Heartbeats and clean stops

A heartbeat aborts its node exactly when it gives up, and nothing else that it does touches the
flags.  Once the node is to stop, no beat begins, and a beat that is under way ends with the one
thing that it waits for.  So a clean stop stays clean, unless it comes when no check is left: then a
resolver without a master still makes the heartbeat abort the node.
-/

namespace ClusterMember
namespace Heartbeat
namespace Slave

/-! ## Flags -/

/-- Going on to a check aborts the node exactly when the checks are used up. -/
theorem aborted_nextCheck (slave : Slave) (check : Nat) :
    (slave.nextCheck check).control.flags.aborted =
      (slave.control.flags.aborted || decide (slave.service.config.maxRestartChecks < check)) := by
  unfold nextCheck
  split
  next used_up => simp [used_up, Control.abort, Control.wake, Flags.abort]
  next left => split <;> simp [left, setPhase]

theorem stopped_nextCheck {slave : Slave} (stopped : slave.control.flags.stopped = true)
    (check : Nat) :
    (slave.nextCheck check).control.flags.stopped = true := by
  rw [nextCheck, if_pos stopped]
  split
  next => rfl
  next => exact stopped

theorem givesUp_of_not_isDue {slave : Slave} {event : Event} (not_due : slave.isDue event = false) :
    slave.givesUp event = false := by
  simp only [isDue, Bool.or_eq_false_iff, Option.isSome_eq_false_iff, Option.isNone_iff_eq_none]
    at not_due
  rw [givesUp, not_due.2]

/-- The node is aborted by someone else, or by a heartbeat that gives up. -/
theorem aborted_step (slave : Slave) (event : Event) :
    (slave.step event).control.flags.aborted =
      (slave.control.flags.aborted || event.isAbort || slave.givesUp event) := by
  have taken := slave.takes_step event
  generalize slave.step event = after at taken
  cases taken with
  | begun => simp [beat_control, Event.isAbort, givesUp, answer?]
  | acknowledged => simp [acknowledge, Event.isAbort, givesUp, answer?]
  | failed phase_eq answer =>
      cases answer with
      | some master => simp [fail_control, Event.isAbort, givesUp, answer?, phase_eq]
      | none =>
          have used_up : decide (slave.miss.service.config.maxRestartChecks < 1) =
              slave.isLastChance := by
            rw [isLastChance, phase_eq, decide_eq_decide]
            exact Nat.lt_succ_iff
          rw [fail_none, aborted_nextCheck, used_up]
          simp [Event.isAbort, givesUp, answer?, phase_eq]
  | @probed check phase_eq answer =>
      cases answer with
      | some master => simp [probe_control, Event.isAbort, givesUp, answer?, phase_eq]
      | none =>
          have used_up : decide (slave.service.config.maxRestartChecks < check + 1) =
              slave.isLastChance := by
            rw [isLastChance, phase_eq, decide_eq_decide]
            exact Nat.lt_succ_iff
          rw [probe, aborted_nextCheck, used_up]
          simp [Event.isAbort, givesUp, answer?, phase_eq]
  | stopRequested why =>
      simp [Control.requestStop, Control.set, Control.wake, Flags.set, Event.isAbort, givesUp,
        answer?]
  | abortRequested why => simp [Control.abort, Control.wake, Flags.abort, Event.isAbort]
  | clientsClosed => simp [Event.isAbort, givesUp, answer?]
  | outOfTurn inner not_due => simp [inner.2, givesUp_of_not_isDue not_due]

/-- Over a row of events the node is aborted by someone else, or by a heartbeat that gives up. -/
theorem aborted_run (slave : Slave) (events : List Event) :
    (slave.run events).control.flags.aborted =
      (slave.control.flags.aborted || events.any Event.isAbort || slave.givesUpIn events) := by
  induction events generalizing slave with
  | nil => simp [run, givesUpIn]
  | cons event rest induction =>
      have onwards := induction (slave.step event)
      rw [aborted_step] at onwards
      simp only [run, List.foldl_cons, List.any_cons, givesUpIn] at onwards ⊢
      rw [onwards]
      ac_rfl

/-! ## What a beat waits for -/

theorem isDue_of_idle {slave : Slave} (idle : slave.service.phase = .idle) (event : Event) :
    slave.isDue event = false := by
  cases event <;> simp [isDue, isAcknowledgedBy, answer?, idle]

/-- What a beat waits for depends on its phase alone. -/
theorem answer?_congr {before after : Slave}
    (phase_eq : after.service.phase = before.service.phase) : after.answer? = before.answer? := by
  funext event
  simp only [answer?, phase_eq]

theorem isDue_congr {before after : Slave}
    (phase_eq : after.service.phase = before.service.phase) : after.isDue = before.isDue := by
  funext event
  simp only [isDue, isAcknowledgedBy, answer?_congr phase_eq, phase_eq]

theorem givesUp_congr {before after : Slave}
    (phase_eq : after.service.phase = before.service.phase)
    (config_eq : after.service.config = before.service.config) :
    after.givesUp = before.givesUp := by
  funext event
  simp only [givesUp, isLastChance, answer?_congr phase_eq, phase_eq, config_eq]

/-! ## After a stop -/

variable {slave : Slave} (stopped : slave.control.flags.stopped = true)
include stopped

theorem beat_of_stopped : slave.beat = slave := by
  rw [beat, if_pos (.inl stopped)]

/-- A stop is never taken back. -/
theorem stopped_step (event : Event) : (slave.step event).control.flags.stopped = true := by
  have taken := slave.takes_step event
  generalize slave.step event = after at taken
  cases taken with
  | begun => rwa [beat_control]
  | acknowledged => exact stopped
  | failed _ answer =>
      cases answer with
      | some master => rwa [fail_control]
      | none =>
          have stopped : slave.miss.control.flags.stopped = true := stopped
          exact stopped_nextCheck stopped 1
  | probed _ answer =>
      cases answer with
      | some master => rwa [probe_control]
      | none => exact stopped_nextCheck stopped _
  | stopRequested | abortRequested => rfl
  | clientsClosed | outOfTurn => exact stopped

theorem phase_nextCheck (check : Nat) : (slave.nextCheck check).service.phase = .idle := by
  rw [nextCheck, if_pos stopped]
  split <;> rfl

/-- What a beat waits for ends it, once the node is to stop. -/
theorem phase_step_of_isDue {event : Event} (due : slave.isDue event = true) :
    (slave.step event).service.phase = .idle := by
  have taken := slave.takes_step event
  generalize slave.step event = after at taken
  cases taken with
  | acknowledged => rfl
  | failed _ answer =>
      cases answer with
      | some master => rfl
      | none =>
          have stopped : slave.miss.control.flags.stopped = true := stopped
          exact phase_nextCheck stopped 1
  | probed _ answer =>
      cases answer with
      | some master => rfl
      | none => exact phase_nextCheck stopped _
  | outOfTurn _ not_due => exact absurd due (by simp [not_due])
  | _ => simp [isDue, isAcknowledgedBy, answer?] at due

/-- What a beat does not wait for leaves its phase, once the node is to stop. -/
theorem phase_step_of_not_isDue {event : Event} (not_due : slave.isDue event = false) :
    (slave.step event).service.phase = slave.service.phase := by
  have taken := slave.takes_step event
  generalize slave.step event = after at taken
  cases taken with
  | begun => rw [beat_of_stopped stopped]
  | acknowledged phase_eq => simp [isDue, isAcknowledgedBy, phase_eq] at not_due
  | failed phase_eq => simp [isDue, answer?, phase_eq] at not_due
  | probed phase_eq => simp [isDue, answer?, phase_eq] at not_due
  | stopRequested | abortRequested | clientsClosed | outOfTurn => rfl

/-- Once the node is to stop, only the next thing that the beat waits for can make it give up. -/
theorem givesUpIn_of_stopped (events : List Event) :
    slave.givesUpIn events = (events.find? slave.isDue).any slave.givesUp := by
  induction events generalizing slave with
  | nil => rfl
  | cons event rest induction =>
      have onwards := induction (stopped_step stopped event)
      cases due : slave.isDue event with
      | true =>
          have none_due : rest.find? (slave.step event).isDue = none :=
            List.find?_eq_none.2 fun next _ => by
              simp [isDue_of_idle (phase_step_of_isDue stopped due) next]
          rw [givesUpIn, onwards, none_due, List.find?_cons_of_pos due]
          exact Bool.or_false _
      | false =>
          have phase_eq := phase_step_of_not_isDue stopped due
          have config_eq := (slave.sameTerms_step event).config_eq
          rw [givesUpIn, onwards, givesUp_of_not_isDue due, isDue_congr phase_eq,
            givesUp_congr phase_eq config_eq, List.find?_cons_of_neg (by simp [due])]
          rfl

omit stopped in
theorem givesUp_eq_true_iff (event : Event) :
    slave.givesUp event = true ↔ slave.isLastChance = true ∧ slave.answer? event = some none := by
  unfold givesUp
  split
  next answer_eq => simp [answer_eq]
  next other => simpa using fun _ answer_eq => other answer_eq

/-- When a node that is to stop is aborted: someone else aborts it, or its heartbeat gives up.  The
heartbeat gives up only when the stop came with no check left and the next thing that the beat waits
for finds no master. -/
theorem aborted_after_stop_iff (events : List Event) :
    ((slave.run events).control.flags.aborted = true ↔
      slave.control.flags.aborted = true ∨ (∃ event ∈ events, event.isAbort = true) ∨
        slave.givesUpIn events = true) ∧
      (slave.givesUpIn events = true ↔
        slave.isLastChance = true ∧
          ∃ event, events.find? slave.isDue = some event ∧ slave.answer? event = some none) := by
  constructor
  · rw [aborted_run, Bool.or_eq_true, Bool.or_eq_true, List.any_eq_true, or_assoc]
  · rw [givesUpIn_of_stopped stopped, Option.any_eq_true]
    simp only [givesUp_eq_true_iff]
    constructor
    · rintro ⟨event, found, last, missing⟩
      exact ⟨last, event, found, missing⟩
    · rintro ⟨last, event, found, missing⟩
      exact ⟨event, found, last, missing⟩

omit stopped

/-- A slave that allows for so many checks, and that no longer finds its master at its first beat. -/
def bereft (checks : Nat) : Slave :=
  let service := Service.create ⟨"slave-1", none, 10060, 1, by decide +kernel⟩
    { intervalMs := 10, masterRestartTimeoutMs := 10 * checks }
  let governor := Governor.enterScheduled 1 true (.empty ⟨1, 1, 1, 1, 1⟩)
  let master : Identity := ⟨"master-1", none, 10050, 0, by decide +kernel⟩
  let started := start ⟨service, .ofConfig { serverThreads := 2 }, {}⟩ (.ofGovernor governor) 0 (some master)
  started.1.run [.beatDue, .reportFailed none]

/-- A stop in the first wait of two is a clean one. -/
theorem spared_after_stop :
    let slave := (bereft 2).run [.stopRequested "over"]
    slave.control.flags.stopped = true ∧ slave.service.phase = .waiting 1 ∧
      (slave.run [.checkDue none]).control.flags.aborted ≠ true := by
  intro slave
  have stopped : slave.control.flags.stopped = true := by decide +kernel
  obtain ⟨aborted_iff, givesUp_iff⟩ := aborted_after_stop_iff stopped [.checkDue none]
  refine ⟨stopped, by decide +kernel, fun aborted => ?_⟩
  rcases aborted_iff.1 aborted with before | ⟨event, mem, abort⟩ | gives_up
  · exact absurd before (by decide +kernel)
  · rw [List.mem_singleton.1 mem] at abort
    cases abort
  · exact absurd (givesUp_iff.1 gives_up).1 (by decide +kernel)

/-- A stop in the last wait still ends in an abort, though nobody but the heartbeat asks for one. -/
theorem aborted_after_stop_in_last_wait :
    let slave := (bereft 1).run [.stopRequested "over"]
    slave.control.flags.stopped = true ∧ slave.control.flags.aborted = false ∧
      slave.service.phase = .waiting 1 ∧ slave.givesUpIn [.checkDue none] = true ∧
      (slave.run [.checkDue none]).control.flags.aborted = true := by
  decide +kernel

end Slave
end Heartbeat
end ClusterMember
