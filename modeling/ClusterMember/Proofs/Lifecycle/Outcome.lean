import ClusterMember.Proofs.Lifecycle.Calls
import ClusterMember.Proofs.Lifecycle.Life

/-!
# How a run ends

Whatever a node is asked and whenever, the first abort counts: it gives the reason that all later
requests find, and the run ends in it unless the start itself has failed.
-/

namespace ClusterMember

/-- The text of a fault ends with its message. -/
theorem Error.suffix_text_fault (message : String) :
    message.toList <:+ (Error.fault [message]).text.toList := by
  have text_eq : (Error.fault [message]).text = "unhandled fault: " ++ message :=
    congrArg ("unhandled fault: " ++ ·) String.intercalate_singleton
  exact ⟨_, String.toList_append.symm.trans (congrArg String.toList text_eq.symm)⟩

/-- A run comes back, well or in an error. -/
def RunEnd.Returns : RunEnd → Prop
  | .done => True
  | .failed _ => True
  | .panicked _ => False
  | .idling => False

namespace Node

variable {node : Node} {around : Surroundings} {requests : List ControlRequest}

theorem allRequests_eq_nil_iff :
    node.allRequests around requests = [] ↔ node.upRequests around requests = [] := by
  rw [allRequests]
  by_cases silent : node.upRequests around requests = [] <;> simp [silent]

/-- After a run, nothing is known of aborts but what came of the requests. -/
theorem run_agrees (fresh : node.Fresh) (around : Surroundings)
    (requests : List ControlRequest) :
    (node.run around requests).1.control.Agrees
      (node.control.serveAll (node.allRequests around requests)) := by
  by_cases silent : node.upRequests around requests = []
  · obtain ⟨mid, run_eq, acts⟩ := fresh.run_idling silent
    rw [run_eq, allRequests_eq_nil_iff.2 silent]
    exact acts.agrees
  · obtain ⟨after, run_eq, acts, -⟩ := fresh.run_ends silent
    rw [run_eq, allRequests, if_neg silent]
    exact acts.agrees

/-- How a run ends that comes back: in the failure of its start, or else in the first abort. -/
def answer (node : Node) (around : Surroundings) (requests : List ControlRequest) : RunEnd :=
  match startFailure? (node.startEnd around) with
  | some (_, error) => .failed error
  | none =>
    match ControlRequest.reasons (node.allRequests around requests) with
    | [] => .done
    | why :: _ => .failed (.fault ["node aborted: " ++ why])

theorem downEnd_eq_answer {after : Node}
    (agrees : after.control.Agrees
      (({} : Control).serveAll (node.allRequests around requests))) :
    node.downEnd around after = node.answer around requests := by
  rw [downEnd, answer]
  cases startFailure? (node.startEnd around) with
  | some failure => rfl
  | none =>
      simp only [outcome, agrees.aborted_eq, agrees.reason_eq, Control.serveAll_flags]
      cases ControlRequest.reasons (node.allRequests around requests) <;> rfl

theorem answer_returns (node : Node) (around : Surroundings) (requests : List ControlRequest) :
    (node.answer around requests).Returns := by
  rw [answer]
  split
  next => trivial
  next => split <;> trivial

theorem answer_eq_done_iff (node : Node) (around : Surroundings)
    (requests : List ControlRequest) : node.answer around requests = .done ↔
      node.startEnd around = .done ∧
        ControlRequest.reasons (node.allRequests around requests) = [] := by
  rw [answer]
  cases node.startEnd around with
  | done =>
      cases ControlRequest.reasons (node.allRequests around requests) <;> simp [startFailure?]
  | failed error => simp [startFailure?]
  | panicked message => simp [startFailure?]

/-- A run goes on, or comes back in its answer, or panics as a component that stops. -/
theorem Fresh.ending_cases (fresh : node.Fresh) (around : Surroundings)
    (requests : List ControlRequest) :
    (node.upRequests around requests = [] ∧ (node.run around requests).2 = .idling) ∨
      node.upRequests around requests ≠ [] ∧
        ((node.stopEnd = .done ∧
            (node.run around requests).2 = node.answer around requests) ∨
          ∃ message, node.stopEnd = .panicked message ∧
            (node.run around requests).2 = .panicked message) := by
  by_cases silent : node.upRequests around requests = []
  · obtain ⟨mid, run_eq, -⟩ := fresh.run_idling silent
    exact .inl ⟨silent, by rw [run_eq]⟩
  · obtain ⟨after, run_eq, -⟩ := fresh.run_ends silent
    have agrees := run_agrees fresh around requests
    rw [run_eq, fresh.control_eq] at agrees
    refine .inr ⟨silent, ?_⟩
    rw [run_eq, runEnd]
    rcases node.stopEnd_cases with done | ⟨message, panicked⟩
    · rw [done]
      exact .inl ⟨rfl, downEnd_eq_answer agrees⟩
    · rw [panicked]
      exact .inr ⟨message, rfl, rfl⟩

theorem Fresh.idling_iff_silent (fresh : node.Fresh) :
    (node.run around requests).2 = .idling ↔ node.upRequests around requests = [] := by
  rcases fresh.ending_cases around requests with
    ⟨silent, idling⟩ | ⟨asked, ⟨-, answered⟩ | ⟨message, -, panicked⟩⟩
  · exact iff_of_true idling silent
  · refine iff_of_false (fun idling => ?_) asked
    have returns := node.answer_returns around requests
    rwa [← answered, idling] at returns
  · exact iff_of_false (fun idling => by cases panicked.symm.trans idling) asked

/-- A run that comes back comes back in its answer. -/
theorem Fresh.eq_answer_of_returns (fresh : node.Fresh)
    (returns : (node.run around requests).2.Returns) :
    (node.run around requests).2 = node.answer around requests := by
  rcases fresh.ending_cases around requests with
    ⟨-, idling⟩ | ⟨-, ⟨-, answered⟩ | ⟨message, -, panicked⟩⟩
  · rw [idling] at returns
    exact returns.elim
  · exact answered
  · rw [panicked] at returns
    exact returns.elim

/-- What comes of a run, whatever is asked and whenever. -/
structure Outcome (node : Node) (around : Surroundings) (requests : List ControlRequest)
    (result : Node × RunEnd) : Prop where
  /-- Components ask while they initialize themselves, then the start fails or the node idles, and
  then components ask while they stop. -/
  asked : (node.runCalls around requests).map ControlCall.request =
    if result.2 = .idling then []
    else node.startRequests around ++ node.idleRequests around requests ++ node.stopRequests
  /-- The node is aborted once an abort has been asked, for the reason of the first. -/
  found : ∀ earlier call later, node.runCalls around requests = earlier ++ call :: later →
    call.found.aborted = !(ControlCall.reasons earlier).isEmpty ∧
      call.found.reason = (ControlCall.reasons earlier).head?
  /-- Only the first abort is told that it is the first. -/
  first : ∀ earlier found why later,
    node.runCalls around requests = earlier ++ ⟨found, .abort why⟩ :: later →
      ((found.abort why).2 = true ↔ ControlCall.reasons earlier = [])
  aborted_eq : result.1.control.flags.aborted =
    !(ControlCall.reasons (node.runCalls around requests)).isEmpty
  reason_eq : result.1.control.flags.reason =
    (ControlCall.reasons (node.runCalls around requests)).head?
  /-- Nothing that is asked later changes that. -/
  kept : result.1.control.flags.aborted = true → ∀ more,
    (result.1.serve more).control.flags.aborted = true ∧
      (result.1.serve more).control.flags.reason = result.1.control.flags.reason
  /-- The run goes on only when the start has ended well and nobody asks for anything. -/
  idling_iff : result.2 = .idling ↔
    (node.start around).2 = .done ∧ node.runCalls around requests = []
  stopped : result.2 ≠ .idling → result.1.control.flags.stopped = true
  /-- Otherwise it comes back, unless a component panics when it stops. -/
  returns : result.2 ≠ .idling →
    (∀ component ∈ node.components, ∀ message, component.stopping ≠ .panicked message) →
      result.2.Returns
  /-- It comes back well exactly when the start has ended well and no abort has been asked. -/
  done_iff : result.2.Returns → (result.2 = .done ↔
    (node.start around).2 = .done ∧ ControlCall.reasons (node.runCalls around requests) = [])
  /-- A start that fails gives the error. -/
  failed : result.2.Returns → ∀ error, (node.start around).2 = .failed error →
    result.2 = .failed error
  /-- A start that panics gives an error that names the panic. -/
  caught : result.2.Returns → ∀ message, (node.start around).2 = .panicked message →
    result.2 = .failed (.fault ["startup panicked: " ++ panicText message])
  /-- Otherwise the first abort gives the error. -/
  aborted : result.2.Returns → (node.start around).2 = .done → ∀ why rest,
    ControlCall.reasons (node.runCalls around requests) = why :: rest →
      result.2 = .failed (.fault ["node aborted: " ++ why]) ∧
        ("node aborted: " ++ why).toList <:+
          (Error.fault ["node aborted: " ++ why]).text.toList

theorem Fresh.outcome_of_run (fresh : node.Fresh) (around : Surroundings)
    (requests : List ControlRequest) :
    node.Outcome around requests (node.run around requests) := by
  have follow := runCalls_follow fresh around requests
  have agrees := run_agrees fresh around requests
  rw [fresh.control_eq] at follow agrees
  have reasons_eq : ControlCall.reasons (node.runCalls around requests) =
      ControlRequest.reasons (node.allRequests around requests) := by
    rw [ControlCall.reasons, follow.map_request]
  have found : ∀ earlier call later, node.runCalls around requests = earlier ++ call :: later →
      call.found.aborted = !(ControlCall.reasons earlier).isEmpty ∧
        call.found.reason = (ControlCall.reasons earlier).head? := by
    intro earlier call later split_eq
    obtain ⟨aborted_eq, reason_eq⟩ := follow.found split_eq
    rw [aborted_eq, reason_eq, Control.serveAll_flags]
    simp [ControlCall.reasons]
  have silent_iff : node.runCalls around requests = [] ↔ node.upRequests around requests = [] := by
    rw [← allRequests_eq_nil_iff, ← follow.map_request, List.map_eq_nil_iff]
  obtain ⟨started, start_eq, -⟩ := start_eq fresh around
  have start_end : (node.start around).2 = node.startEnd around := by rw [start_eq]
  exact
    { asked := by
        rw [follow.map_request, allRequests]
        by_cases silent : node.upRequests around requests = []
        · rw [if_pos (fresh.idling_iff_silent.2 silent), silent, if_pos rfl]
          rfl
        · rw [if_neg (mt fresh.idling_iff_silent.1 silent), if_neg silent]
          rfl
      found := found
      first := by
        intro earlier found_flags why later split_eq
        have known : found_flags.aborted = _ := (found earlier _ later split_eq).1
        rw [Flags.abort, known]
        simp
      aborted_eq := by rw [agrees.aborted_eq, reasons_eq, Control.serveAll_flags]; rfl
      reason_eq := by rw [agrees.reason_eq, reasons_eq, Control.serveAll_flags]; simp
      kept := fun already more => by
        rw [serve, Control.serveAll_flags]
        simp [already]
      idling_iff := by
        rw [start_end, fresh.idling_iff_silent, silent_iff]
        exact ⟨fun silent => ⟨(upRequests_eq_nil_iff.1 silent).1, silent⟩, And.right⟩
      stopped := fun ended => by
        obtain ⟨after, run_eq, acts, -⟩ := fresh.run_ends (mt fresh.idling_iff_silent.2 ended)
        have stopped_eq := acts.flag_eq .stopped
        rw [run_eq]
        exact stopped_eq.trans (by simp [tearTrace])
      returns := fun ended back => by
        rcases fresh.ending_cases around requests with
          ⟨-, idling⟩ | ⟨-, ⟨-, answered⟩ | ⟨message, panicked, -⟩⟩
        · exact absurd idling ended
        · rw [answered]
          exact node.answer_returns around requests
        · cases panicked.symm.trans ((stopEnd_eq_done_iff node).2 back)
      done_iff := fun returns => by
        rw [fresh.eq_answer_of_returns returns, answer_eq_done_iff, start_end, reasons_eq]
      failed := fun returns error failed => by
        rw [fresh.eq_answer_of_returns returns, answer, ← start_end, failed]
        rfl
      caught := fun returns message panicked => by
        rw [fresh.eq_answer_of_returns returns, answer, ← start_end, panicked]
        rfl
      aborted := fun returns done why rest aborts => by
        rw [reasons_eq] at aborts
        refine ⟨?_, Error.suffix_text_fault _⟩
        rw [fresh.eq_answer_of_returns returns, answer, ← start_end, done, startFailure?, aborts] }

/-- What comes of a run of a node that was built from its settings, whatever its components do and
ask for. -/
theorem run_outcome {role : Role} {config : NodeConfig} {resolver : Heartbeat.Resolver}
    {machine : Option String} {now : UInt64} {base : Node}
    (built : build role config resolver machine now = .ok base) (components : List Component)
    (around : Surroundings) (requests : List ControlRequest) :
    (base.addAll components).Outcome around requests
      ((base.addAll components).run around requests) :=
  (addAll_fresh (build_fresh built).1 components).1.outcome_of_run around requests

/-- A master whose first component asks for a stop and whose second one aborts it, before somebody
else does. -/
theorem run_outcome_index :
    let index : Component := { name := "index", initRequests := [.stop "done"] }
    let guard : Component := { name := "guard", stopRequests := [.abort "late"] }
    ∃ base, build .master .single ⟨none⟩ none 0 = .ok base ∧
      (base.addAll [index, guard]).Outcome (.isolated 0) [.abort "disk", .stop "over"]
        ((base.addAll [index, guard]).run (.isolated 0) [.abort "disk", .stop "over"]) := by
  intro index guard
  obtain ⟨base, built⟩ := exists_master
  refine ⟨base, built, ?_⟩
  exact run_outcome built [index, guard] (.isolated 0) [.abort "disk", .stop "over"]

end Node
end ClusterMember
