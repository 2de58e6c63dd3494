import ClusterMember.Proofs.Lifecycle.Teardown

/-!
# What a run does

A run is a start, a time in which the node idles, and a teardown.  A failed start is an abort that
nobody has asked for, and it takes the place of the idle time.  A run does not end when the start
ends well and nobody asks for anything.
-/

namespace ClusterMember
namespace Node

/-- What is asked between a start and the teardown: a failed start counts as an abort, and leaves
no time for the rest. -/
def idleRequests (node : Node) (around : Surroundings) (requests : List ControlRequest) :
    List ControlRequest :=
  match startFailure? (node.startEnd around) with
  | some (reason, _) => [.abort reason]
  | none => requests

/-- What is asked before the teardown. -/
def upRequests (node : Node) (around : Surroundings) (requests : List ControlRequest) :
    List ControlRequest :=
  node.startRequests around ++ node.idleRequests around requests

/-- How a run ends whose teardown comes to its end and leaves a certain node. -/
def downEnd (node : Node) (around : Surroundings) (after : Node) : RunEnd :=
  match startFailure? (node.startEnd around) with
  | some (_, error) => .failed error
  | none => after.outcome

/-- How a run ends that leaves a certain node. -/
def runEnd (node : Node) (around : Surroundings) (after : Node) : RunEnd :=
  match node.stopEnd with
  | .panicked message => .panicked message
  | _ => node.downEnd around after

theorem startFailure?_eq_none_iff (ending : StepEnd) :
    startFailure? ending = none ↔ ending = .done := by
  cases ending <;> simp [startFailure?]

variable {node : Node} {around : Surroundings} {requests : List ControlRequest}

/-- Nothing is asked before the teardown when the start ends well and nobody asks for anything. -/
theorem upRequests_eq_nil_iff : node.upRequests around requests = [] ↔
    node.startEnd around = .done ∧ node.startRequests around = [] ∧ requests = [] := by
  rw [upRequests, idleRequests, List.append_eq_nil_iff, ← startFailure?_eq_none_iff]
  cases startFailure? (node.startEnd around) with
  | none => simp
  | some failure => simp

/-- The parts of a node that tell what a teardown does. -/
theorem Acts.tear_eq {events : List NodeEvent} {before after : Node}
    (acts : Acts events before after) : after.stopEnd = before.stopEnd ∧
      after.stopRequests = before.stopRequests ∧ after.tearTrace = before.tearTrace := by
  have ends_eq : after.stopEnds = before.stopEnds := by rw [stopEnds, acts.parts_eq, ← stopEnds]
  have end_eq : after.stopEnd = before.stopEnd := by rw [stopEnd, ends_eq, ← stopEnd]
  refine ⟨end_eq, ?_, ?_⟩
  · rw [stopRequests, ends_eq, acts.parts_eq, ← stopRequests]
  · rw [tearTrace, stopPlaces, closeTrace, end_eq, ends_eq, acts.parts_eq, acts.role_eq]
    rfl

/-- A start, and what is asked between it and the teardown. -/
theorem Acts.serve_idle {started : Node}
    (acts : Acts (node.startTrace around) (node.serve (node.startRequests around)) started) :
    Acts (node.startTrace around) (node.serve (node.upRequests around requests))
      (started.serve (node.idleRequests around requests)) := by
  rw [upRequests, serve_append]
  exact acts.deferred _

namespace Fresh

/-- What a run has done when the teardown is due. -/
theorem run_eq (fresh : node.Fresh) (around : Surroundings) (requests : List ControlRequest) :
    ∃ mid, Acts (node.startTrace around) (node.serve (node.upRequests around requests)) mid ∧
      node.StartReported around mid.monitor ∧
      node.run around requests =
        if mid.control.flags.stopped then mid.endRun (node.downEnd around)
        else (mid, .idling) := by
  obtain ⟨started, start_eq, acts, reported⟩ := start_eq fresh around
  refine ⟨started.serve (node.idleRequests around requests), acts.serve_idle, reported, ?_⟩
  unfold run idleRequests downEnd
  rw [start_eq]
  dsimp only
  cases startFailure? (node.startEnd around) with
  | none => rfl
  | some failure => rfl

/-- The teardown is due exactly when the start has failed or somebody has asked for something. -/
theorem stopped_iff (fresh : node.Fresh) {mid : Node}
    (acts : Acts (node.startTrace around) (node.serve (node.upRequests around requests)) mid) :
    mid.control.flags.stopped = true ↔ node.upRequests around requests ≠ [] := by
  have not_started := node.stopped_notMem_startTrace around
  have stopped_eq := acts.flag_eq .stopped
  rw [serve_flag, fresh.control_eq] at stopped_eq
  change mid.control.flags.get .stopped = true ↔ _
  rw [stopped_eq]
  simp [not_started, Flags.get]

/-- A run that nobody ends goes on. -/
theorem run_idling (fresh : node.Fresh) (silent : node.upRequests around requests = []) :
    ∃ mid, node.run around requests = (mid, .idling) ∧ Acts (node.startTrace around) node mid := by
  obtain ⟨mid, acts, -, run_eq⟩ := fresh.run_eq around requests
  have not_stopped : ¬ mid.control.flags.stopped = true := fun stopped =>
    (fresh.stopped_iff acts).1 stopped silent
  rw [run_eq, if_neg not_stopped]
  rw [silent] at acts
  exact ⟨mid, rfl, acts⟩

/-- What a run does that ends, how it ends, what it leaves and what it reports. -/
theorem run_ends (fresh : node.Fresh) (asked : node.upRequests around requests ≠ []) :
    ∃ after, node.run around requests = (after, node.runEnd around after) ∧
      Acts (node.startTrace around ++ node.tearTrace)
        ({ node with isTornDown := true }.serve
          (node.upRequests around requests ++ node.stopRequests)) after ∧
      (node.stopEnd = .done → after.Closed) ∧
      after.monitor.outline =
        [(1, "Starting " ++ node.title,
            if node.startEnd around = .done then .complete else .aborted),
          (2, "Closing " ++ node.title,
            if node.stopEnd = .done then after.closedState else .aborted)] ∧
      after.monitor.guards = [] := by
  obtain ⟨mid, acts, reported, run_eq⟩ := fresh.run_eq around requests
  have room : mid.monitor.entries.length < mid.monitor.capacity := by
    have length_eq : mid.monitor.entries.length = mid.monitor.outline.length :=
      (List.length_map _).symm
    rw [length_eq, reported.outline_eq, reported.capacity_eq]
    exact (by decide : 1 < 1000)
  have older_ne : ∀ entry ∈ mid.monitor.outline, entry.1 ≠ mid.monitor.next := by
    rw [reported.outline_eq, reported.next_eq]
    simp
  have intact : mid.isTornDown = false := acts.isTornDown_eq.trans fresh.isTornDown_eq
  obtain ⟨after, shutdown_eq, torn, closed, outline_eq, released⟩ :=
    shutdown_eq intact room older_ne reported.guards_eq (acts.orderly fresh.orderly)
  have end_eq : mid.stopEnd = node.stopEnd := acts.tear_eq.1
  have requests_eq : mid.stopRequests = node.stopRequests := acts.tear_eq.2.1
  have trace_eq : mid.tearTrace = node.tearTrace := acts.tear_eq.2.2
  have begun : Acts (node.startTrace around)
      ({ node with isTornDown := true }.serve (node.upRequests around requests))
      { mid with isTornDown := true } :=
    { acts with isTornDown_eq := rfl }
  have title_eq : mid.title = node.title := acts.title_eq
  have stopped := (fresh.stopped_iff acts).2 asked
  rw [requests_eq, trace_eq] at torn
  rw [end_eq] at shutdown_eq closed
  refine ⟨after, ?_, begun.followed torn, closed, ?_, released⟩
  · rw [run_eq, if_pos stopped, endRun, shutdown_eq, runEnd]
    cases node.stopEnd <;> rfl
  · rw [outline_eq, reported.outline_eq, reported.next_eq, title_eq, end_eq]
    rfl

end Fresh
end Node
end ClusterMember
