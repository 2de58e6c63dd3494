import ClusterMember.Lifecycle.Calls
import ClusterMember.Proofs.Lifecycle.Run

/-!
# What requests find

The requests of a run are those of the components that it tells to initialize themselves, then the
abort of a failed start or what is asked while the node idles, and then those of the components that
it tells to stop.  Of aborts, each request finds what the requests before it have left.
-/

namespace ClusterMember

/-- What a request finds that tells of aborts. -/
def ControlCall.view (call : ControlCall) : Bool × Option String × ControlRequest :=
  (call.found.aborted, call.found.reason, call.request)

/-- The reasons that calls give for an abort, in order. -/
def ControlCall.reasons (calls : List ControlCall) : List String :=
  ControlRequest.reasons (calls.map ControlCall.request)

namespace Control

/-- Two nodes tell the same of aborts. -/
structure Agrees (control other : Control) : Prop where
  aborted_eq : control.flags.aborted = other.flags.aborted
  reason_eq : control.flags.reason = other.flags.reason

theorem Agrees.serve {control other : Control} (agrees : control.Agrees other)
    (request : ControlRequest) : (control.serve request).Agrees (other.serve request) := by
  obtain ⟨aborted_eq, reason_eq⟩ := agrees
  cases request with
  | stop why => exact ⟨aborted_eq, reason_eq⟩
  | abort why => exact ⟨rfl, by simp [Control.serve, abort, wake, Flags.abort, aborted_eq, reason_eq]⟩

theorem map_request_calls (control : Control) (requests : List ControlRequest) :
    (control.calls requests).map ControlCall.request = requests := by
  induction requests generalizing control with
  | nil => rfl
  | cons request rest induction => rw [calls, List.map_cons, induction]

theorem calls_append (control : Control) (first second : List ControlRequest) :
    control.calls (first ++ second) =
      control.calls first ++ (control.serveAll first).calls second := by
  induction first generalizing control with
  | nil => rfl
  | cons request rest induction =>
      rw [List.cons_append, calls, calls, induction, List.cons_append, serveAll_cons]

/-- Requests find the same in nodes that tell the same of aborts. -/
theorem Agrees.map_view_calls {control other : Control} (agrees : control.Agrees other)
    (requests : List ControlRequest) :
    (control.calls requests).map ControlCall.view = (other.calls requests).map ControlCall.view := by
  induction requests generalizing control other with
  | nil => rfl
  | cons request rest induction =>
      rw [calls, calls, List.map_cons, List.map_cons, induction (agrees.serve request),
        ControlCall.view, ControlCall.view, agrees.aborted_eq, agrees.reason_eq]

end Control

/-- Calls make certain requests, and each finds what the ones before it have left. -/
def ControlCall.Follow (calls : List ControlCall) (control : Control)
    (requests : List ControlRequest) : Prop :=
  calls.map ControlCall.view = (control.calls requests).map ControlCall.view

theorem ControlCall.Follow.map_request {calls : List ControlCall} {control : Control}
    {requests : List ControlRequest} (follow : ControlCall.Follow calls control requests) :
    calls.map ControlCall.request = requests := by
  have views := congrArg (List.map fun view => view.2.2) follow
  rw [List.map_map, List.map_map] at views
  exact views.trans (control.map_request_calls requests)

/-- A call finds what the requests before it have left. -/
theorem ControlCall.Follow.found {calls earlier later : List ControlCall} {call : ControlCall}
    {control : Control} {requests : List ControlRequest}
    (follow : ControlCall.Follow calls control requests)
    (split_eq : calls = earlier ++ call :: later) :
    let left := control.serveAll (earlier.map ControlCall.request)
    call.found.aborted = left.flags.aborted ∧ call.found.reason = left.flags.reason := by
  have requests_eq := follow.map_request
  rw [split_eq, List.map_append, List.map_cons] at requests_eq
  rw [Follow, ← requests_eq, split_eq, Control.calls_append, Control.calls, List.map_append,
    List.map_append, List.map_cons, List.map_cons] at follow
  have length_eq : (earlier.map ControlCall.view).length =
      ((control.calls (earlier.map ControlCall.request)).map ControlCall.view).length := by
    have known := congrArg List.length
      (control.map_request_calls (earlier.map ControlCall.request))
    simpa using known.symm
  have view_eq := List.head_eq_of_cons_eq (List.append_inj_right follow length_eq)
  exact ⟨congrArg Prod.fst view_eq, congrArg (fun view => view.2.1) view_eq⟩

theorem ControlCall.Follow.append {calls more : List ControlCall} {control after : Control}
    {requests others : List ControlRequest} (first : ControlCall.Follow calls control requests)
    (second : ControlCall.Follow more after others)
    (agrees : after.Agrees (control.serveAll requests)) :
    ControlCall.Follow (calls ++ more) control (requests ++ others) := by
  rw [Follow, List.map_append, first, second, agrees.map_view_calls, Control.calls_append,
    List.map_append]

namespace Node

theorem Acts.agrees {events : List NodeEvent} {before after : Node}
    (acts : Acts events before after) : after.control.Agrees before.control :=
  ⟨acts.aborted_eq, acts.reason_eq⟩

/-! ## During a start -/

theorem initPartCalls_follow (node : Node) (part : Part) :
    ControlCall.Follow (node.initPartCalls part) node.control part.initRequests := by
  cases part <;> rfl

theorem initPartsCalls_added (id place : Nat) (components : List Component) (node : Node) :
    ControlCall.Follow (initPartsCalls id place (components.map .added) node) node.control
      ((components.take
        (reached (components.map Component.initializing))).flatMap Component.initRequests) := by
  induction components generalizing place node with
  | nil => rfl
  | cons component rest induction =>
      obtain ⟨moves, end_eq⟩ := initPart_eq node id place (.added component)
      have asked := initPartCalls_follow node (.added component)
      simp only [List.map_cons, initPartsCalls]
      rcases initiated : node.initPart id place (.added component) with ⟨next, ending⟩
      rw [initiated] at moves end_eq
      have ending_eq : component.initializing = ending := end_eq.symm
      rw [ending_eq]
      cases ending with
      | done => exact asked.append (induction (place + 1) next) moves.toActs.agrees
      | failed error => simpa [reached, Part.initRequests] using asked
      | panicked message => simpa [reached, Part.initRequests] using asked

theorem initPartsCalls_follow (node : Node) (id : Nat) :
    ControlCall.Follow (initPartsCalls id 0 node.parts node) node.control node.initRequests := by
  obtain ⟨moves, end_eq⟩ := initPart_eq node id 0 node.builtIn
  have asked := initPartCalls_follow node node.builtIn
  have added_eq : (node.components.map Part.added).map node.initEnd =
      node.components.map Component.initializing := by
    rw [List.map_map]
    rfl
  rw [initRequests, initEnds, parts, List.map_cons, added_eq, initPartsCalls]
  rcases initiated : node.initPart id 0 node.builtIn with ⟨next, ending⟩
  rw [initiated] at moves end_eq
  rw [← end_eq]
  cases ending with
  | done =>
      simp only [reached, List.take_succ_cons, List.flatMap_cons, ← List.map_take,
        List.flatMap_map]
      exact asked.append (initPartsCalls_added id 1 node.components next) moves.toActs.agrees
  | failed error => simpa [reached] using asked
  | panicked message => simpa [reached] using asked

theorem openUpCalls_follow (node : Node) (around : Surroundings) (id : Nat)
    (taken_eq : node.registry.taken = node.parts.flatMap Part.services) :
    ControlCall.Follow (node.openUpCalls around id) node.control (node.listenRequests around) := by
  let told := node.report fun monitor => (monitor.setStatus id "starting rpc endpoint" 0).1
  have told_end : told.listenEnd around = node.listenEnd around := rfl
  have told_eq : (node.report fun monitor => (monitor.setStatus id "starting rpc endpoint" 0).1) =
      told := rfl
  simp only [openUpCalls, listenRequests, told_eq]
  rcases listen_eq told around taken_eq with ⟨server, listened, done⟩ | ⟨refused, failed⟩
  · rw [told_end] at done
    rw [listened, if_pos done]
    let up := ({ told.note .opening with server }.note .listening).raise .receptorStarted
    have initEnds_eq : up.initEnds = node.initEnds := initEnds_congr rfl rfl rfl rfl rfl
    have requests_eq : up.initRequests = node.initRequests := by
      rw [initRequests, initEnds_eq]
      rfl
    have agrees : up.control.Agrees node.control := ⟨rfl, rfl⟩
    rw [ControlCall.Follow, ← agrees.map_view_calls, ← requests_eq]
    exact initPartsCalls_follow up id
  · rw [told_end] at refused failed
    rw [refused, if_neg failed]
    split
    next done => exact absurd (Prod.mk.inj done).2 failed
    next => rfl

theorem startPartsCalls_follow (node : Node) (around : Surroundings) (id : Nat)
    (taken : node.registry.taken = []) :
    ControlCall.Follow (node.startPartsCalls around id) node.control
      (node.startRequests around) := by
  obtain ⟨registry, registered, taken_eq⟩ := registerParts_eq 0 node.parts node
  rw [taken, ← registerEnds] at registered taken_eq
  rw [startPartsCalls, startRequests, registered]
  cases ends : firstFailure node.registerEnds with
  | done =>
      rw [if_pos rfl]
      let told : Node :=
        { node with
          registry
          trace := node.trace ++
            (List.range' 0 (reached node.registerEnds)).map .registered }
      have initEnds_eq : told.initEnds = node.initEnds := initEnds_congr rfl rfl rfl rfl rfl
      have requests_eq : told.listenRequests around = node.listenRequests around := by
        rw [listenRequests, initRequests, initEnds_eq]
        rfl
      rw [← requests_eq]
      exact openUpCalls_follow told around id (taken_eq ends)
  | failed error => rfl
  | panicked message => rfl

/-- During a start, components ask what they ask while they initialize themselves. -/
theorem startCalls_follow {node : Node} (fresh : node.Fresh) (around : Surroundings) :
    ControlCall.Follow (node.startCalls around) node.control (node.startRequests around) := by
  unfold startCalls
  rcases node.monitor.create ("Starting " ++ node.title) 0 with ⟨monitor, id, lines⟩
  obtain ⟨control, trace, active_eq, active⟩ := { node with monitor }.exists_active
  simp only at active_eq
  let told := { node with monitor, control, trace }.report fun monitor =>
    (monitor.setStatus id "registering rpc services" 0).1
  have initEnds_eq : told.initEnds = node.initEnds := initEnds_congr rfl rfl rfl rfl rfl
  have requests_eq : told.startRequests around = node.startRequests around := by
    rw [startRequests, listenRequests, initRequests, initEnds_eq]
    rfl
  have agrees : control.Agrees node.control := active.toActs.agrees
  simp only [active_eq]
  rw [ControlCall.Follow, ← agrees.map_view_calls, ← requests_eq]
  exact startPartsCalls_follow told around id (congrArg Registry.taken fresh.registry_eq)

/-! ## During a teardown -/

theorem stopPartCalls_follow (node : Node) (part : Part) :
    ControlCall.Follow (node.stopPartCalls part) node.control part.stopRequests := by
  cases part <;> rfl

theorem stopPartsCalls_follow (id : Nat) (entries : List (Part × Nat)) (node : Node) :
    ControlCall.Follow (stopPartsCalls id entries node) node.control
      ((entries.take (reached (entries.map fun entry => entry.1.stopEnd))).flatMap
        fun entry => entry.1.stopRequests) := by
  induction entries generalizing node with
  | nil => rfl
  | cons entry rest induction =>
      obtain ⟨part, place⟩ := entry
      obtain ⟨moves, end_eq⟩ := stopPart_eq node id place part
      have asked := stopPartCalls_follow node part
      simp only [List.map_cons, stopPartsCalls, ← end_eq]
      split
      next next_node message stopped =>
        rw [stopped]
        simpa [StepEnd.panicOnly, reached] using asked
      next next_node ending no_panic stopped =>
        have done : ending.panicOnly = .done := by
          cases ending with
          | panicked message => exact absurd rfl (no_panic message)
          | _ => rfl
        rw [stopped] at moves ⊢
        simp only [done, reached, List.take_succ_cons, List.flatMap_cons]
        exact asked.append (induction next_node) moves.toActs.agrees

/-- During a teardown, components ask what they ask while they stop. -/
theorem shutdownCalls_follow {node : Node} (intact : node.isTornDown = false) :
    ControlCall.Follow node.shutdownCalls node.control node.stopRequests := by
  rw [shutdownCalls, intact, if_neg nofun]
  rcases created : node.beginShutdown.monitor.create ("Closing " ++ node.beginShutdown.title) 0 with
    ⟨monitor, id, lines⟩
  let begun : Node := { node.beginShutdown with monitor }
  have told := stopPartsCalls_follow id begun.parts.zipIdx.reverse begun
  rw [map_stopEnd_zipIdx, flatMap_stopRequests_zipIdx] at told
  have agrees : begun.control.Agrees node.control := (beginShutdown_moves node).toActs.agrees
  simp only [created]
  rw [ControlCall.Follow, ← agrees.map_view_calls]
  exact told

/-! ## During a run -/

variable {node : Node} {around : Surroundings} {requests : List ControlRequest}

/-- What is asked during a run: nothing at all, when the run goes on. -/
def allRequests (node : Node) (around : Surroundings) (requests : List ControlRequest) :
    List ControlRequest :=
  node.upRequests around requests ++
    if node.upRequests around requests = [] then [] else node.stopRequests

/-- What is asked during a run whose start leaves a certain node. -/
theorem runCalls_eq {started : Node}
    (start_eq : node.start around = (started, node.startEnd around)) :
    node.runCalls around requests =
      node.startCalls around ++ (started.control.calls (node.idleRequests around requests) ++
        let mid := started.serve (node.idleRequests around requests)
        if mid.control.flags.stopped then mid.shutdownCalls else []) := by
  unfold runCalls idleRequests
  rw [start_eq]
  dsimp only
  cases startFailure? (node.startEnd around) with
  | none => rfl
  | some failure => rfl

theorem runCalls_follow (fresh : node.Fresh) (around : Surroundings)
    (requests : List ControlRequest) :
    ControlCall.Follow (node.runCalls around requests) node.control
      (node.allRequests around requests) := by
  obtain ⟨started, start_eq, acts, -⟩ := start_eq fresh around
  have acts_mid : Acts (node.startTrace around) (node.serve (node.upRequests around requests))
      (started.serve (node.idleRequests around requests)) := acts.serve_idle
  have up : ControlCall.Follow (node.startCalls around ++
      started.control.calls (node.idleRequests around requests)) node.control
        (node.upRequests around requests) :=
    (startCalls_follow fresh around).append rfl acts.agrees
  rw [runCalls_eq start_eq, ← List.append_assoc, allRequests]
  refine up.append ?_ acts_mid.agrees
  by_cases silent : node.upRequests around requests = []
  · have not_stopped : ¬ (started.serve (node.idleRequests around requests)).control.flags.stopped :=
      fun stopped => (fresh.stopped_iff acts_mid).1 stopped silent
    rw [if_pos silent]
    simp only [if_neg not_stopped]
    rfl
  · rw [if_neg silent]
    simp only [if_pos ((fresh.stopped_iff acts_mid).2 silent)]
    have requests_eq : (started.serve (node.idleRequests around requests)).stopRequests =
        node.stopRequests := acts_mid.tear_eq.2.1
    rw [← requests_eq]
    exact shutdownCalls_follow (acts_mid.isTornDown_eq.trans fresh.isTornDown_eq)

end Node
end ClusterMember
