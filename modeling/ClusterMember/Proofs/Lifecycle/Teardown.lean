import ClusterMember.Proofs.Lifecycle.Startup

/-!
# What a teardown does

A teardown stops the components in reverse, and then what they share.  A component that panics when
it is told to stop cuts this short.
-/

namespace ClusterMember

theorem Clients.shutKept_isClosed (clients : Clients) :
    clients.shutKept.isClosed = clients.isClosed := by
  have all (places : List Nat) (clients : Clients) :
      (places.foldl shutdownClient clients).isClosed = clients.isClosed := by
    induction places generalizing clients with
    | nil => rfl
    | cons place rest induction => exact induction (clients.shutdownClient place)
  exact all clients.kept clients

@[simp]
theorem Clients.close_isClosed (clients : Clients) : clients.close.isClosed = true :=
  clients.markClosed.shutKept_isClosed

/-- How a step ends of which only a panic is noticed. -/
def StepEnd.panicOnly : StepEnd → StepEnd
  | .panicked message => .panicked message
  | _ => .done

namespace Part

/-- What a component asks for while it stops. -/
def stopRequests : Part → List ControlRequest
  | .manager => []
  | .heartbeat => []
  | .added component => component.stopRequests

/-- How it ends for a component that it is told to stop. -/
def stopEnd : Part → StepEnd
  | .manager => .done
  | .heartbeat => .done
  | .added component => component.stopping.panicOnly

theorem stopEnd_cases (part : Part) :
    part.stopEnd = .done ∨ ∃ message, part.stopEnd = .panicked message := by
  cases part with
  | manager => exact .inl rfl
  | heartbeat => exact .inl rfl
  | added component =>
      rw [stopEnd]
      cases component.stopping with
      | panicked message => exact .inr ⟨message, rfl⟩
      | _ => exact .inl rfl

end Part

namespace Component

/-- A component comes back when it is told to stop, and does not ask for an abort. -/
structure Returns (component : Component) : Prop where
  stopping : ∀ message, component.stopping ≠ .panicked message
  clean : ControlRequest.Clean component.stopRequests

end Component

namespace Node

/-- What a teardown does. -/
def stopTrace (node : Node) : List NodeEvent :=
  .raised .stopped :: (List.range node.parts.length).reverse.map .stopped ++
    ([.endpointClosed, .clientsClosed, .executorsStopped] ++
      if node.role = .slave then [.raised .exitSafe] else [])

/-- How it ends for the components of a node, in reverse, that they are told to stop. -/
def stopEnds (node : Node) : List StepEnd := node.parts.reverse.map Part.stopEnd

/-- How a teardown ends. -/
def stopEnd (node : Node) : StepEnd := firstFailure node.stopEnds

/-- The places of the components that are told to stop: all in reverse, up to the first that
panics. -/
def stopPlaces (node : Node) : List Nat :=
  (List.range node.parts.length).reverse.take (reached node.stopEnds)

/-- What components ask for during a teardown. -/
def stopRequests (node : Node) : List ControlRequest :=
  (node.parts.reverse.take (reached node.stopEnds)).flatMap Part.stopRequests

/-- What a teardown does once all components have stopped. -/
def closeTrace (node : Node) : List NodeEvent :=
  [.endpointClosed, .clientsClosed, .executorsStopped] ++
    if node.role = .slave then [.raised .exitSafe] else []

/-- What a teardown does that may be cut short. -/
def tearTrace (node : Node) : List NodeEvent :=
  .raised .stopped :: node.stopPlaces.map .stopped ++
    if node.stopEnd = .done then node.closeTrace else []

/-- A node whose endpoint, clients and pools are stopped and forgotten. -/
structure Closed (node : Node) : Prop where
  server : node.server.isAlive = false
  clients : node.clients.isClosed = true ∧ node.clients.table = []
  /-- No channel that the clients have ever built takes calls. -/
  silent : node.clients.Silent
  pools : node.scheduler.governor.table = [] ∧ node.scheduler.governor.scheduled = none
  /-- No pool that was ever built takes tasks. -/
  stopped : node.scheduler.governor.IsStopped

/-- A teardown is cut short exactly when some component panics. -/
theorem stopEnd_eq_done_iff (node : Node) : node.stopEnd = .done ↔
    ∀ component ∈ node.components, ∀ message, component.stopping ≠ .panicked message := by
  rw [stopEnd, firstFailure_eq_done_iff]
  constructor
  · intro all component mem message panics
    have part_mem : .added component ∈ node.parts.reverse :=
      List.mem_reverse.2 (List.mem_cons_of_mem _ (List.mem_map_of_mem mem))
    have done := all _ (List.mem_map_of_mem part_mem)
    rw [Part.stopEnd, panics] at done
    cases done
  · intro back ending mem
    obtain ⟨part, part_mem, rfl⟩ := List.mem_map.1 mem
    cases part with
    | manager => rfl
    | heartbeat => rfl
    | added component =>
        have known := mem_components_of_added (List.mem_reverse.1 part_mem)
        rw [Part.stopEnd]
        cases stopping : component.stopping with
        | panicked message => exact absurd stopping (back component known message)
        | _ => rfl

theorem stopHeartbeat_moves (node : Node) : Moves [] node node.stopHeartbeat := by
  unfold stopHeartbeat
  cases known : node.slave? with
  | none => exact .refl node
  | some slave =>
      have stopped : Moves [] node (node.setSlave slave.stop) := .setSlave known rfl id
      refine stopped.trans (.withScheduler _ fun orderly => ?_)
      cases slave.service.schedule with
      | none => exact orderly
      | some task => exact orderly.cancel task .zero

/-- A component stops, and asks for what it asks for. -/
theorem stopPart_eq (node : Node) (id place : Nat) (part : Part) :
    Moves [.stopped place] (node.serve part.stopRequests) (node.stopPart id place part).1 ∧
      (node.stopPart id place part).2.panicOnly = part.stopEnd := by
  have told : Moves [.stopped place] node ((node.report fun monitor =>
      (monitor.setStatus id ("stopping " ++ part.name) 0).1).note (.stopped place)) :=
    (Moves.setStatus node id _).trans (.note (.stopped place) (fun _ => nofun) _)
  cases part with
  | manager => exact ⟨told, rfl⟩
  | heartbeat => exact ⟨told.trans (stopHeartbeat_moves _), rfl⟩
  | added component => exact ⟨told.deferred component.stopRequests, rfl⟩

theorem stopEnd_cases (node : Node) :
    node.stopEnd = .done ∨ ∃ message, node.stopEnd = .panicked message := by
  rcases firstFailure_mem node.stopEnds with done | mem
  · exact .inl done
  · obtain ⟨part, -, end_eq⟩ := List.mem_map.1 mem
    rw [stopEnd, ← end_eq]
    exact part.stopEnd_cases

/-- Components are told to stop up to the first that panics. -/
theorem stopParts_eq (id : Nat) (entries : List (Part × Nat)) (node : Node) :
    let told := entries.take (reached (entries.map fun entry => entry.1.stopEnd))
    Moves (told.map fun entry => .stopped entry.2)
        (node.serve (told.flatMap fun entry => entry.1.stopRequests)) (stopParts id entries node).1 ∧
      (stopParts id entries node).2 = firstFailure (entries.map fun entry => entry.1.stopEnd) := by
  induction entries generalizing node with
  | nil => exact ⟨.refl node, rfl⟩
  | cons entry rest induction =>
      obtain ⟨part, place⟩ := entry
      obtain ⟨moves, end_eq⟩ := stopPart_eq node id place part
      simp only [List.map_cons, stopParts, ← end_eq]
      split
      next next_node message stopped =>
        rw [stopped] at moves ⊢
        exact ⟨by simpa [StepEnd.panicOnly, reached] using moves, rfl⟩
      next next_node ending no_panic stopped =>
        have done : ending.panicOnly = .done := by
          cases ending with
          | panicked message => exact absurd rfl (no_panic message)
          | _ => rfl
        rw [stopped] at moves ⊢
        obtain ⟨rest_moves, rest_end⟩ := induction next_node
        simp only [done, reached, firstFailure, List.take_succ_cons, List.map_cons,
          List.flatMap_cons]
        exact ⟨moves.followed rest_moves, rest_end⟩

theorem map_fst_zipIdx_reverse (node : Node) :
    node.parts.zipIdx.reverse.map Prod.fst = node.parts.reverse := by
  rw [List.map_reverse, List.zipIdx_map_fst]

theorem map_stopEnd_zipIdx (node : Node) :
    (node.parts.zipIdx.reverse.map fun entry => entry.1.stopEnd) = node.stopEnds := by
  rw [stopEnds, ← map_fst_zipIdx_reverse, List.map_map]
  rfl

theorem flatMap_stopRequests_zipIdx (node : Node) :
    ((node.parts.zipIdx.reverse.take (reached node.stopEnds)).flatMap
      fun entry => entry.1.stopRequests) = node.stopRequests := by
  rw [stopRequests, ← map_fst_zipIdx_reverse, ← List.map_take, List.flatMap_map]

/-- All components of a node are told to stop, in reverse, up to the first that panics. -/
theorem stopParts_parts (node : Node) (id : Nat) :
    Moves (node.stopPlaces.map .stopped) (node.serve node.stopRequests)
        (stopParts id node.parts.zipIdx.reverse node).1 ∧
      (stopParts id node.parts.zipIdx.reverse node).2 = node.stopEnd := by
  have told_eq : node.stopPlaces =
      (node.parts.zipIdx.reverse.take (reached node.stopEnds)).map Prod.snd := by
    rw [List.map_take, List.map_reverse, List.zipIdx_map_snd, ← List.range_eq_range', stopPlaces]
  obtain ⟨moves, end_eq⟩ := stopParts_eq id node.parts.zipIdx.reverse node
  rw [map_stopEnd_zipIdx] at moves end_eq
  rw [flatMap_stopRequests_zipIdx] at moves
  rw [told_eq, List.map_map]
  exact ⟨moves, end_eq⟩

theorem closeDown_moves (node : Node) (id : Nat) :
    Moves [.endpointClosed, .clientsClosed, .executorsStopped] node (node.closeDown id) := by
  let told := node.report fun monitor => (monitor.setStatus id "stopping rpc endpoint" 0).1
  let deaf := { told with server := told.server.shutdown }.note .endpointClosed
  let alone := { deaf with clients := deaf.clients.close }.note .clientsClosed
  let last := alone.report fun monitor => (monitor.setStatus id "stopping executors" 0).1
  have endpoint : Moves [.endpointClosed] node deaf :=
    (Moves.setStatus node id _).trans
      ((Moves.withServer told _).trans (.note .endpointClosed (fun _ => nofun) _))
  have clients : Moves [.clientsClosed] deaf alone :=
    (Moves.withClients deaf Clients.Held.close).trans (.note .clientsClosed (fun _ => nofun) _)
  have pools : Moves [.executorsStopped] alone (node.closeDown id) :=
    (Moves.setStatus alone id _).trans
      ((Moves.withScheduler last fun orderly => orderly.stop .zero).trans
        (.note .executorsStopped (fun _ => nofun) _))
  exact endpoint.trans (clients.trans pools)

theorem closeDown_closed {node : Node} (orderly : node.Orderly) (id : Nat) :
    (node.closeDown id).Closed where
  server := rfl
  clients := ⟨node.clients.close_isClosed, rfl⟩
  silent := orderly.1.silent_close
  pools := ⟨rfl, rfl⟩
  stopped := orderly.2.isStopped_stop .zero

theorem Closed.report {node : Node} (closed : node.Closed) (change : Monitor → Monitor) :
    (node.report change).Closed := { closed with }

/-- A slave that may exit safely. -/
def raiseSafe (node : Node) : Node :=
  if node.role = .slave then node.raise .exitSafe else node

theorem Moves.raiseSafe (node : Node) :
    Moves (if node.role = .slave then [.raised .exitSafe] else []) node node.raiseSafe := by
  unfold Node.raiseSafe
  split
  next => exact .raise node .exitSafe
  next => exact .refl node

theorem Closed.raiseSafe {node : Node} (closed : node.Closed) : node.raiseSafe.Closed := by
  unfold Node.raiseSafe
  split <;> exact { closed with }

/-- How the activity of a teardown ends. -/
def closedState (node : Node) : ActivityState :=
  if node.control.flags.aborted then .aborted else .complete

theorem closedState_isFinished (node : Node) : node.closedState.isFinished = true := by
  unfold closedState
  split <;> rfl

theorem comeDown_eq (node : Node) (id : Nat) :
    ∃ status, node.comeDown id = node.raiseSafe.report fun monitor =>
      monitor.transition id node.raiseSafe.closedState status 0 := by
  change ∃ status, (node.raiseSafe.report fun monitor =>
    if node.raiseSafe.control.flags.aborted then (monitor.abort id "node aborted" 0).1
    else (monitor.complete id "node closed" 0).1) = _
  rw [closedState]
  cases node.raiseSafe.control.flags.aborted with
  | true => exact ⟨"node aborted", rfl⟩
  | false => exact ⟨"node closed", rfl⟩

/-- A node that is to stop: the waking of its idle loop tells no flag. -/
theorem beginShutdown_moves (node : Node) :
    Moves [.raised .stopped] { node with isTornDown := true } node.beginShutdown := by
  have raised := Moves.raise { node with isTornDown := true } .stopped
  exact raised.trans ⟨.of_eq rfl rfl rfl rfl rfl rfl rfl rfl id, .refl _⟩

/-- Components that are told to stop leave a node that is closed unless one panics, with the
activity over. -/
theorem shutdownParts_eq {node : Node} (orderly : node.Orderly) {id : Nat}
    {older : List (Nat × String × ActivityState)} {description : String}
    (holds : node.monitor.Holds older id description .running) :
    ∃ after, node.shutdownParts id = (after, node.stopEnd) ∧
      Acts (node.stopPlaces.map .stopped ++ if node.stopEnd = .done then node.closeTrace else [])
        (node.serve node.stopRequests) after ∧
      (node.stopEnd = .done → after.Closed) ∧
      after.monitor.outline = older ++
        [(id, description, if node.stopEnd = .done then after.closedState else .aborted)] ∧
      after.monitor.guards = [] := by
  obtain ⟨stopped, end_eq⟩ := node.stopParts_parts id
  unfold shutdownParts
  rcases told : stopParts id node.parts.zipIdx.reverse node with ⟨next, ending⟩
  rw [told] at stopped end_eq
  have stopped_holds := holds.of_alike stopped.monitor_alike
  rcases node.stopEnd_cases with done | ⟨message, panicked⟩
  · have down := (stopped.trans (closeDown_moves next id)).trans (.raiseSafe _)
    have role_eq : (next.closeDown id).role = node.role :=
      (stopped.trans (closeDown_moves next id)).role_eq
    obtain ⟨status, comeDown_eq⟩ := comeDown_eq (next.closeDown id) id
    let safe := (next.closeDown id).raiseSafe
    let last := safe.report fun monitor => monitor.transition id safe.closedState status 0
    have acts := down.toActs.trans ((Acts.report _ _).trans (.report last fun monitor =>
      (monitor.drop id 0).1))
    rw [role_eq, List.append_nil, List.append_nil, List.append_assoc, ← closeTrace] at acts
    obtain ⟨outline_eq, released, -, -⟩ :=
      ((holds.of_alike down.monitor_alike).transition safe.closedState status 0).drop 0
    rw [if_pos safe.closedState_isFinished] at outline_eq
    have closed := (closeDown_closed (stopped.orderly orderly) id).raiseSafe
    rw [done] at end_eq ⊢
    cases end_eq
    simp only [comeDown_eq, if_true]
    exact ⟨_, rfl, acts, fun _ => (closed.report _).report _, outline_eq, released⟩
  · have acts := stopped.toActs.trans (.report next fun monitor => (monitor.drop id 0).1)
    obtain ⟨outline_eq, released, -, -⟩ := stopped_holds.drop 0
    rw [panicked] at end_eq ⊢
    cases end_eq
    exact ⟨_, rfl, acts, nofun, outline_eq, released⟩

/-- What a teardown does, how it ends, what it leaves and what it reports. -/
theorem shutdown_eq {node : Node} (intact : node.isTornDown = false)
    (room : node.monitor.entries.length < node.monitor.capacity)
    (older_ne : ∀ entry ∈ node.monitor.outline, entry.1 ≠ node.monitor.next)
    (free : node.monitor.guards = []) (orderly : node.Orderly) :
    ∃ after, node.shutdown = (after, node.stopEnd) ∧
      Acts node.tearTrace ({ node with isTornDown := true }.serve node.stopRequests) after ∧
      (node.stopEnd = .done → after.Closed) ∧
      after.monitor.outline = node.monitor.outline ++
        [(node.monitor.next, "Closing " ++ node.title,
          if node.stopEnd = .done then after.closedState else .aborted)] ∧
      after.monitor.guards = [] := by
  obtain ⟨monitor, created, outline_eq, guards_eq, -, -⟩ :=
    Monitor.create_eq room ("Closing " ++ node.title) 0
  have begun := beginShutdown_moves node
  have creating : node.beginShutdown.monitor.create ("Closing " ++ node.beginShutdown.title) 0 =
      (monitor, node.monitor.next, []) := created
  have holds : monitor.Holds node.monitor.outline node.monitor.next ("Closing " ++ node.title)
      .running :=
    ⟨outline_eq, older_ne, by rw [guards_eq, free, List.nil_append]⟩
  obtain ⟨after, shutdown_eq, acts, closed, ended, released⟩ :=
    shutdownParts_eq (begun.orderly orderly : { node.beginShutdown with monitor }.Orderly) holds
  rw [shutdown, intact, if_neg nofun]
  simp only [creating]
  have reported := Acts.report node.beginShutdown fun _ => monitor
  have torn := ((begun.toActs.trans reported).deferred node.stopRequests).trans acts
  exact ⟨after, shutdown_eq, torn, closed, ended, released⟩

end Node
end ClusterMember
