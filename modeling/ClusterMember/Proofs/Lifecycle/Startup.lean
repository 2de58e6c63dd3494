import ClusterMember.Proofs.Heartbeat.Quiet
import ClusterMember.Proofs.Lifecycle.Progress
import ClusterMember.Proofs.Transport.Registry

/-!
# What a start does

How each step of a start ends depends on the components and on what is around the node, and not on
the course of the start.  The start takes these steps up to the first that fails.
-/

namespace ClusterMember

/-- How many steps of a row are taken: all up to the first that fails, and that one. -/
def reached : List StepEnd → Nat
  | [] => 0
  | .done :: rest => reached rest + 1
  | _ :: _ => 1

/-- How a row of steps ends: as the first that fails. -/
def firstFailure : List StepEnd → StepEnd
  | [] => .done
  | .done :: rest => firstFailure rest
  | failure :: _ => failure

@[simp]
theorem firstFailure_singleton (ending : StepEnd) : firstFailure [ending] = ending := by
  cases ending <;> rfl

theorem firstFailure_eq_done_iff (ends : List StepEnd) :
    firstFailure ends = .done ↔ ∀ ending ∈ ends, ending = .done := by
  induction ends with
  | nil => simp [firstFailure]
  | cons ending rest induction => cases ending <;> simp [firstFailure, induction]

theorem firstFailure_mem (ends : List StepEnd) :
    firstFailure ends = .done ∨ firstFailure ends ∈ ends := by
  induction ends with
  | nil => exact .inl rfl
  | cons ending rest induction =>
      cases ending with
      | done => exact induction.imp_right (List.mem_cons_of_mem _)
      | failed error => exact .inr List.mem_cons_self
      | panicked message => exact .inr List.mem_cons_self

/-- When no step fails, all are taken. -/
theorem reached_eq_length {ends : List StepEnd} (done : firstFailure ends = .done) :
    reached ends = ends.length := by
  induction ends with
  | nil => rfl
  | cons ending rest induction =>
      cases ending with
      | done => rw [reached, induction done, List.length_cons]
      | failed error => cases done
      | panicked message => cases done

theorem firstFailure_append (first second : List StepEnd) :
    firstFailure (first ++ second) =
      if firstFailure first = .done then firstFailure second else firstFailure first := by
  induction first with
  | nil => rfl
  | cons ending rest induction =>
      cases ending with
      | done => exact induction
      | failed error => rfl
      | panicked message => rfl

namespace Registry

variable {σ : Type}

/-- Whether mounting services under some names panics. -/
def starIn (names : List String) : Bool := names.any fun name => name.any (· = '*')

theorem hasStar_eq (registry : Registry σ) : registry.hasStar = starIn registry.taken := by
  rw [hasStar, starIn, taken, List.any_map]
  rfl

/-- The first name of a row that is taken when its turn comes. -/
def duplicate? (taken : List String) : List String → Option String
  | [] => none
  | name :: rest => if name ∈ taken then some name else duplicate? (taken ++ [name]) rest

/-- How registering services under some names ends. -/
def offerEnd (taken names : List String) : StepEnd :=
  match duplicate? taken names with
  | some name => .failed (duplicateFault name)
  | none => .done

end Registry

namespace Part

/-- The services that a component registers. -/
def services : Part → List String
  | .manager => [Heartbeat.serviceName]
  | .heartbeat => []
  | .added component => component.services

/-- What a component asks for while it initializes itself. -/
def initRequests : Part → List ControlRequest
  | .manager => []
  | .heartbeat => []
  | .added component => component.initRequests

/-- How registering ends for a component whose services could all be registered. -/
def registering : Part → StepEnd
  | .manager => .done
  | .heartbeat => .done
  | .added component => component.registering

/-- How registering ends for a component when some names are taken. -/
def registerEnd (taken : List String) (part : Part) : StepEnd :=
  firstFailure [Registry.offerEnd taken part.services, part.registering]

/-- How registering ends for components, one after the other. -/
def registerEnds (taken : List String) : List Part → List StepEnd
  | [] => []
  | part :: rest => part.registerEnd taken :: registerEnds (taken ++ part.services) rest

end Part

namespace Node

/-- How registering ends for the components of a new node. -/
def registerEnds (node : Node) : List StepEnd := Part.registerEnds [] node.parts

/-- How it ends that the endpoint of a node is told to listen. -/
def listenEnd (node : Node) (around : Surroundings) : StepEnd :=
  match node.server.start around.bindTo with
  | .error fault => .failed (.transport fault)
  | .ok _ =>
    if Registry.starIn (node.parts.flatMap Part.services) then
      .panicked (some Registry.starMessage)
    else .done

/-- How starting the heartbeat ends. -/
def heartbeatEnd (node : Node) : StepEnd :=
  match node.slave? with
  | none => .done
  | some slave =>
    match (slave.start node.scheduler beatTask node.resolver.master).2.2 with
    | .ok () => .done
    | .error error => .failed error

/-- How initializing ends for a component. -/
def initEnd (node : Node) : Part → StepEnd
  | .manager => .done
  | .heartbeat => node.heartbeatEnd
  | .added component => component.initializing

/-- How initializing ends for the components of a node. -/
def initEnds (node : Node) : List StepEnd := node.parts.map node.initEnd

/-- How a start ends. -/
def startEnd (node : Node) (around : Surroundings) : StepEnd :=
  firstFailure (node.registerEnds ++ node.listenEnd around :: node.initEnds)

/-- What components ask for while they initialize themselves, up to the first that fails. -/
def initRequests (node : Node) : List ControlRequest :=
  (node.parts.take (reached node.initEnds)).flatMap Part.initRequests

/-- What components ask for once all have registered their services. -/
def listenRequests (node : Node) (around : Surroundings) : List ControlRequest :=
  if node.listenEnd around = .done then node.initRequests else []

/-- What components ask for during a start. -/
def startRequests (node : Node) (around : Surroundings) : List ControlRequest :=
  if firstFailure node.registerEnds = .done then node.listenRequests around else []

/-- What a start does once all components are initialized. -/
def upTrace (node : Node) : List NodeEvent :=
  .raised .initialized :: if node.role = .master then [.raised .premiered] else []

/-- What a start does once the endpoint listens. -/
def initTrace (node : Node) : List NodeEvent :=
  (List.range (reached node.initEnds)).map .initialized ++
    if firstFailure node.initEnds = .done then node.upTrace else []

/-- What a start does once all components have registered their services. -/
def listenTrace (node : Node) (around : Surroundings) : List NodeEvent :=
  .opening ::
    if node.listenEnd around = .done then
      .listening :: .raised .receptorStarted :: node.initTrace
    else []

/-- What a start does once it has begun. -/
def registerTrace (node : Node) (around : Surroundings) : List NodeEvent :=
  (List.range (reached node.registerEnds)).map .registered ++
    if firstFailure node.registerEnds = .done then node.listenTrace around else []

/-- What a start does. -/
def startTrace (node : Node) (around : Surroundings) : List NodeEvent :=
  (if node.role = .master then [.raised .active] else []) ++ node.registerTrace around

/-- A start does not stop the node. -/
theorem stopped_notMem_startTrace (node : Node) (around : Surroundings) :
    .raised .stopped ∉ node.startTrace around := by
  unfold startTrace registerTrace listenTrace initTrace upTrace
  grind

theorem offer_eq (place : Nat) (names : List String) (node : Node) :
    ∃ registry, node.offer place names =
        ({ node with registry }, Registry.offerEnd node.registry.taken names) ∧
      (Registry.offerEnd node.registry.taken names = .done →
        registry.taken = node.registry.taken ++ names) := by
  induction names generalizing node with
  | nil => exact ⟨node.registry, rfl, fun _ => (List.append_nil _).symm⟩
  | cons name rest induction =>
      by_cases known : name ∈ node.registry.taken
      · have refused : node.registry.register name place =
            .error (Registry.duplicateFault name) :=
          if_pos ((node.registry.has_iff name).2 known)
        refine ⟨node.registry, ?_, ?_⟩
        · simp [offer, refused, Registry.offerEnd, Registry.duplicate?, known]
        · simp [Registry.offerEnd, Registry.duplicate?, known]
      · have accepted : node.registry.register name place =
            .ok ⟨node.registry.entries ++ [(name, place)]⟩ :=
          if_neg fun has => known ((node.registry.has_iff name).1 has)
        obtain ⟨registry, offered, names_eq⟩ :=
          induction { node with registry := ⟨node.registry.entries ++ [(name, place)]⟩ }
        have taken_eq : Registry.taken ⟨node.registry.entries ++ [(name, place)]⟩ =
            node.registry.taken ++ [name] := by
          simp [Registry.taken]
        have end_eq : Registry.offerEnd node.registry.taken (name :: rest) =
            Registry.offerEnd (node.registry.taken ++ [name]) rest := by
          simp [Registry.offerEnd, Registry.duplicate?, known]
        simp only [taken_eq, ← end_eq] at offered names_eq
        refine ⟨registry, ?_, fun done => ?_⟩
        · simp only [offer, accepted]
          exact offered
        · rw [names_eq done, List.append_assoc]
          rfl

theorem registerPart_eq (place : Nat) (part : Part) (node : Node) :
    ∃ registry, node.registerPart place part =
        ({ node.note (.registered place) with registry }, part.registerEnd node.registry.taken) ∧
      (part.registerEnd node.registry.taken = .done →
        registry.taken = node.registry.taken ++ part.services) := by
  cases part with
  | manager =>
      obtain ⟨registry, offered, taken_eq⟩ :=
        offer_eq place [Heartbeat.serviceName] (node.note (.registered place))
      have end_eq : Part.registerEnd node.registry.taken .manager =
          Registry.offerEnd node.registry.taken [Heartbeat.serviceName] := by
        rw [Part.registerEnd, Part.services, Part.registering]
        cases Registry.offerEnd node.registry.taken [Heartbeat.serviceName] <;> rfl
      refine ⟨registry, ?_, fun done => taken_eq (end_eq ▸ done)⟩
      rw [end_eq]
      exact offered
  | heartbeat => exact ⟨node.registry, rfl, fun _ => (List.append_nil _).symm⟩
  | added component =>
      obtain ⟨registry, offered, taken_eq⟩ :=
        offer_eq place component.services (node.note (.registered place))
      simp only [registerPart, Part.registerEnd, Part.services, Part.registering]
      rw [offered]
      have noted : (node.note (.registered place)).registry = node.registry := rfl
      rw [noted] at taken_eq ⊢
      cases ends : Registry.offerEnd node.registry.taken component.services with
      | done =>
          rw [firstFailure, firstFailure_singleton]
          exact ⟨registry, rfl, fun _ => taken_eq ends⟩
      | failed error => exact ⟨registry, rfl, fun done => by cases done⟩
      | panicked message => exact ⟨registry, rfl, fun done => by cases done⟩

/-- Components register their services up to the first that fails. -/
theorem registerParts_eq (place : Nat) (parts : List Part) (node : Node) :
    ∃ registry, node.registerParts place parts =
        ({ node with
            registry
            trace := node.trace ++
              (List.range' place (reached (Part.registerEnds node.registry.taken parts))).map
                .registered },
          firstFailure (Part.registerEnds node.registry.taken parts)) ∧
      (firstFailure (Part.registerEnds node.registry.taken parts) = .done →
        registry.taken = node.registry.taken ++ parts.flatMap Part.services) := by
  induction parts generalizing place node with
  | nil => exact ⟨node.registry, by simp [registerParts, Part.registerEnds, reached, firstFailure],
      by simp⟩
  | cons part rest induction =>
      obtain ⟨registry, registered, taken_eq⟩ := registerPart_eq place part node
      simp only [registerParts, registered, Part.registerEnds]
      cases ends : part.registerEnd node.registry.taken with
      | done =>
          obtain ⟨last, rest_eq, last_eq⟩ :=
            induction (place + 1) { node.note (.registered place) with registry }
          simp only [taken_eq ends] at rest_eq last_eq
          refine ⟨last, ?_, fun done => ?_⟩
          · simp only [rest_eq, firstFailure, reached, List.range'_succ, List.map_cons]
            simp only [note, List.append_assoc, List.singleton_append]
          · rw [last_eq done, List.flatMap_cons, List.append_assoc]
      | failed error =>
          exact ⟨registry, by simp [reached, firstFailure, note], fun done => by cases done⟩
      | panicked message =>
          exact ⟨registry, by simp [reached, firstFailure, note], fun done => by cases done⟩

/-! ## Listening -/

/-- The endpoint of a node with all its services comes up or fails. -/
theorem listen_eq (node : Node) (around : Surroundings)
    (taken_eq : node.registry.taken = node.parts.flatMap Part.services) :
    (∃ server, node.listen around =
        (({ node.note .opening with server }.note .listening).raise .receptorStarted, .done) ∧
      node.listenEnd around = .done) ∨
    (node.listen around = (node.note .opening, node.listenEnd around) ∧
      node.listenEnd around ≠ .done) := by
  have star_eq : (node.note .opening).registry.hasStar =
      Registry.starIn (node.parts.flatMap Part.services) := by
    rw [Registry.hasStar_eq, ← taken_eq]
    rfl
  have server_eq : (node.note .opening).server = node.server := rfl
  unfold listen listenEnd
  simp only [star_eq, server_eq]
  cases node.server.start around.bindTo with
  | error fault => exact .inr ⟨rfl, fun done => by cases done⟩
  | ok server =>
      cases Registry.starIn (node.parts.flatMap Part.services) with
      | true => exact .inr ⟨rfl, fun done => by cases done⟩
      | false => exact .inl ⟨server, rfl, rfl⟩

/-! ## Initializing -/

theorem startHeartbeat_eq (node : Node) :
    Moves [] node node.startHeartbeat.1 ∧ node.startHeartbeat.2 = node.heartbeatEnd := by
  unfold startHeartbeat heartbeatEnd
  cases known : node.slave? with
  | none => exact ⟨.refl node, rfl⟩
  | some slave =>
      have kept := slave.start_control node.scheduler beatTask node.resolver.master
      have grows := slave.grows_start node.scheduler beatTask node.resolver.master
      have moves := Moves.setSlave known kept grows.held
      refine ⟨moves.trans (.withScheduler _ fun orderly => ?_), rfl⟩
      exact slave.orderly_start orderly beatTask node.resolver.master

/-- How starting the heartbeat ends does not depend on the flags. -/
theorem heartbeatEnd_congr {node other : Node} (heartbeat_eq : other.heartbeat = node.heartbeat)
    (clients_eq : other.clients = node.clients) (scheduler_eq : other.scheduler = node.scheduler)
    (resolver_eq : other.resolver = node.resolver) : other.heartbeatEnd = node.heartbeatEnd := by
  unfold heartbeatEnd slave?
  rw [heartbeat_eq, clients_eq, scheduler_eq, resolver_eq]
  cases node.heartbeat with
  | none => rfl
  | some service =>
      have kept := Heartbeat.Slave.start_withControl ⟨service, node.clients, node.control⟩
        other.control node.scheduler beatTask node.resolver.master
      simp only [Option.map_some]
      change (match (((⟨service, node.clients, node.control⟩ : Heartbeat.Slave).withControl
        other.control).start node.scheduler beatTask node.resolver.master).2.2 with
        | .ok () => _
        | .error error => _) = _
      rw [kept]

theorem initEnds_congr {node other : Node} (parts_eq : other.parts = node.parts)
    (heartbeat_eq : other.heartbeat = node.heartbeat) (clients_eq : other.clients = node.clients)
    (scheduler_eq : other.scheduler = node.scheduler)
    (resolver_eq : other.resolver = node.resolver) : other.initEnds = node.initEnds := by
  rw [initEnds, initEnds, parts_eq]
  refine List.map_congr_left fun part _ => ?_
  cases part with
  | manager => rfl
  | heartbeat => exact heartbeatEnd_congr heartbeat_eq clients_eq scheduler_eq resolver_eq
  | added component => rfl

/-- A heartbeat that starts has found a master. -/
theorem exists_master_of_heartbeatEnd {node : Node} (has : node.heartbeat.isSome = true)
    (done : node.heartbeatEnd = .done) : ∃ master, node.resolver.master = some master := by
  obtain ⟨service, service_eq⟩ := Option.isSome_iff_exists.1 has
  cases master_eq : node.resolver.master with
  | some master => exact ⟨master, rfl⟩
  | none =>
      simp [heartbeatEnd, slave?, service_eq, master_eq, Heartbeat.Slave.start,
        Heartbeat.Slave.linkFirst] at done

theorem Moves.beginInit (node : Node) (id place : Nat) (part : Part) :
    Moves [.initialized place] node ((node.report fun monitor =>
      (monitor.setStatus id ("initializing " ++ part.name) 0).1).note (.initialized place)) :=
  (Moves.setStatus node id _).trans (.note (.initialized place) (fun _ => nofun) _)

/-- A component initializes itself, and asks for what it asks for. -/
theorem initPart_eq (node : Node) (id place : Nat) (part : Part) :
    Moves [.initialized place] (node.serve part.initRequests) (node.initPart id place part).1 ∧
      (node.initPart id place part).2 = node.initEnd part := by
  have begun := Moves.beginInit node id place part
  cases part with
  | manager => exact ⟨begun, rfl⟩
  | heartbeat =>
      obtain ⟨started, end_eq⟩ := startHeartbeat_eq ((node.report fun monitor =>
        (monitor.setStatus id ("initializing " ++ Part.heartbeat.name) 0).1).note
          (.initialized place))
      exact ⟨begun.trans started, end_eq⟩
  | added component => exact ⟨begun.deferred component.initRequests, rfl⟩

/-- Added components initialize themselves up to the first that fails. -/
theorem initParts_added (id place : Nat) (components : List Component) (node : Node) :
    Moves ((List.range' place (reached (components.map Component.initializing))).map .initialized)
        (node.serve ((components.take
          (reached (components.map Component.initializing))).flatMap Component.initRequests))
        (node.initParts id place (components.map .added)).1 ∧
      (node.initParts id place (components.map .added)).2 =
        firstFailure (components.map Component.initializing) := by
  induction components generalizing place node with
  | nil => exact ⟨.refl node, rfl⟩
  | cons component rest induction =>
      obtain ⟨moves, end_eq⟩ := initPart_eq node id place (.added component)
      simp only [List.map_cons, initParts]
      rcases initiated : node.initPart id place (.added component) with ⟨next, ending⟩
      rw [initiated] at moves end_eq
      have ending_eq : component.initializing = ending := end_eq.symm
      rw [ending_eq]
      cases ending with
      | done =>
          obtain ⟨rest_moves, rest_end⟩ := induction (place + 1) next
          refine ⟨?_, rest_end⟩
          simp only [reached, List.range'_succ, List.map_cons, List.take_succ_cons,
            List.flatMap_cons]
          exact moves.followed rest_moves
      | failed error => exact ⟨by simpa [reached, Part.initRequests] using moves, rfl⟩
      | panicked message => exact ⟨by simpa [reached, Part.initRequests] using moves, rfl⟩

/-- All components of a node initialize themselves up to the first that fails. -/
theorem initParts_eq (node : Node) (id : Nat) :
    Moves ((List.range (reached node.initEnds)).map .initialized) (node.serve node.initRequests)
        (node.initParts id 0 node.parts).1 ∧
      (node.initParts id 0 node.parts).2 = firstFailure node.initEnds := by
  obtain ⟨moves, end_eq⟩ := initPart_eq node id 0 node.builtIn
  have added_eq : (node.components.map Part.added).map node.initEnd =
      node.components.map Component.initializing := by
    rw [List.map_map]
    rfl
  rw [initRequests, initEnds, parts, List.map_cons, added_eq, List.range_eq_range']
  rw [initParts]
  rcases initiated : node.initPart id 0 node.builtIn with ⟨next, ending⟩
  rw [initiated] at moves end_eq
  rw [← end_eq]
  cases ending with
  | done =>
      obtain ⟨rest_moves, rest_end⟩ := initParts_added id 1 node.components next
      refine ⟨?_, rest_end⟩
      simp only [reached, List.range'_succ, List.map_cons, List.take_succ_cons, List.flatMap_cons,
        ← List.map_take, List.flatMap_map]
      exact moves.followed rest_moves
  | failed error => exact ⟨by simpa [reached] using moves, rfl⟩
  | panicked message => exact ⟨by simpa [reached] using moves, rfl⟩

/-! ## Coming up -/

/-- A beat with a known master changes the heartbeat and the clients. -/
theorem beat_eq (node : Node) (around : Surroundings)
    (master : node.heartbeat.isSome = true → ∃ master, node.resolver.master = some master) :
    ∃ heartbeat clients, node.beat around = { node with heartbeat, clients } ∧
      heartbeat.isSome = node.heartbeat.isSome ∧ node.clients.Grows clients := by
  unfold beat
  cases known : node.slave? with
  | none => exact ⟨node.heartbeat, node.clients, rfl, rfl, .refl _⟩
  | some slave =>
      obtain ⟨service, service_eq, rfl⟩ := Option.map_eq_some_iff.1 known
      obtain ⟨master, master_eq⟩ := master (by rw [service_eq]; rfl)
      have steady :
          Heartbeat.Course.Steady
            ⟨⟨service, node.clients, node.control⟩, [{ answer := node.resolver.master }], 0⟩
            master := by
        rw [Heartbeat.Course.Steady, master_eq]
      have control_eq := steady.beat around.network around.now
      let course : Heartbeat.Course :=
        ⟨⟨service, node.clients, node.control⟩, [{ answer := node.resolver.master }], 0⟩
      let after := course.beat around.network around.now
      have grows := course.grows_beat around.network around.now
      refine ⟨some after.slave.service, after.slave.clients, ?_, by rw [service_eq]; rfl, grows⟩
      simp only [setSlave, control_eq, after, course]

/-- A slave waits for its master, and goes on with its start. -/
theorem Moves.awaitCluster {node : Node} (around : Surroundings) {id : Nat}
    (master : node.heartbeat.isSome = true → ∃ master, node.resolver.master = some master)
    (running : ∀ entry ∈ node.monitor.outline, entry.1 = id → entry.2.2 = .running) :
    Moves [] node (node.awaitCluster around id) := by
  unfold Node.awaitCluster
  split
  next => exact .refl node
  next =>
    obtain ⟨heartbeat, clients, beat, isSome_eq, grows⟩ :=
      beat_eq (node.report fun monitor =>
        monitor.pause id "waiting for the master to acknowledge" 0) around master
    simp only [beat]
    refine ⟨.of_eq rfl rfl rfl rfl isSome_eq rfl rfl rfl (And.imp_left grows.held), ?_, rfl, rfl,
      rfl⟩
    rw [Node.report, Monitor.resume, Monitor.outline_transition]
    change Monitor.settle id .running (node.monitor.transition id .waiting _ 0).outline = _
    rw [Monitor.outline_transition, Monitor.settle_settle, Monitor.settle_of_settled running]

/-- The flags of a node that has come up. -/
def raiseUp (node : Node) : Node :=
  if node.role = .master then (node.raise .initialized).raise .premiered
  else node.raise .initialized

theorem comeUp_eq (node : Node) (id : Nat) :
    node.comeUp id = node.raiseUp.report fun monitor =>
      (monitor.complete id (node.title ++ " is up") 0).1 := by
  unfold comeUp raiseUp
  cases role_eq : node.role <;> simp [role_eq, raise, note, title]

theorem Moves.raiseUp (node : Node) : Moves node.upTrace node node.raiseUp := by
  unfold Node.raiseUp upTrace
  split
  next => exact (Moves.raise node .initialized).trans (.raise _ .premiered)
  next => exact Moves.raise node .initialized

/-! ## The whole start -/

/-- A start ends well exactly when all its steps do. -/
theorem startEnd_eq (node : Node) (around : Surroundings) :
    node.startEnd around =
      if firstFailure node.registerEnds = .done then
        if node.listenEnd around = .done then firstFailure node.initEnds
        else node.listenEnd around
      else firstFailure node.registerEnds := by
  have listened := firstFailure_append [node.listenEnd around] node.initEnds
  rw [firstFailure_singleton] at listened
  rw [startEnd, firstFailure_append, ← List.singleton_append, listened]

/-- A node that was started up to some step: how it ended, and the node with its activity complete
when that is the end of the start. -/
def Reaches (after : Node) (id : Nat) (ending : StepEnd) (result : Node × StepEnd) : Prop :=
  result =
    (if ending = .done then
        after.report fun monitor => (monitor.complete id (after.title ++ " is up") 0).1
      else after, ending)

/-- A node that can go on with its start, under an activity of the monitor. -/
structure Ready (node : Node) (id : Nat) : Prop where
  /-- Only a slave has a heartbeat. -/
  heartbeat : node.heartbeat.isSome = true → node.role = .slave
  /-- The activity goes on. -/
  running : ∀ entry ∈ node.monitor.outline, entry.1 = id → entry.2.2 = .running

theorem Ready.of_moves {events : List NodeEvent} {node after : Node} {id : Nat}
    (ready : node.Ready id) (moves : Moves events node after) : after.Ready id where
  heartbeat has := by
    rw [moves.heartbeat_eq] at has
    rw [moves.role_eq]
    exact ready.heartbeat has
  running := by
    rw [moves.monitor_alike.outline_eq]
    exact ready.running

theorem Ready.serve {node : Node} {id : Nat} (ready : node.Ready id)
    (requests : List ControlRequest) : (node.serve requests).Ready id :=
  ⟨ready.heartbeat, ready.running⟩

/-- The last steps of a start. -/
theorem initAll_eq {node : Node} {id : Nat} (ready : node.Ready id) (around : Surroundings) :
    ∃ after, Moves node.initTrace (node.serve node.initRequests) after ∧
      after.Reaches id (firstFailure node.initEnds) (node.initAll around id) := by
  obtain ⟨moves, end_eq⟩ := node.initParts_eq id
  unfold initAll initTrace Reaches
  rcases initiated : node.initParts id 0 node.parts with ⟨next, ending⟩
  rw [initiated] at moves end_eq
  rw [← end_eq]
  cases ending with
  | done =>
      have master : next.heartbeat.isSome = true →
          ∃ master, next.resolver.master = some master := by
        intro has
        have heartbeat_eq : next.heartbeat.isSome = node.heartbeat.isSome := moves.heartbeat_eq
        have resolver_eq : next.resolver = node.resolver := moves.resolver_eq
        rw [heartbeat_eq] at has
        rw [resolver_eq]
        refine exists_master_of_heartbeatEnd has ?_
        have first := (firstFailure_eq_done_iff node.initEnds).1 end_eq.symm
          (node.initEnd node.builtIn) (List.mem_map_of_mem List.mem_cons_self)
        rwa [builtIn, ready.heartbeat has] at first
      have awaited := Moves.awaitCluster around master
        ((ready.serve node.initRequests).of_moves moves).running
      have raised := Moves.raiseUp (next.awaitCluster around id)
      have upTrace_eq : (next.awaitCluster around id).upTrace = node.upTrace := by
        rw [upTrace, (moves.trans awaited).role_eq]
        rfl
      refine ⟨_, by simpa [upTrace_eq] using moves.trans (awaited.trans raised), ?_⟩
      rw [if_pos rfl, raised.toActs.title_eq, ← comeUp_eq]
  | failed error => exact ⟨next, by simpa using moves, rfl⟩
  | panicked message => exact ⟨next, by simpa using moves, rfl⟩

/-- What a start does once all components have registered their services. -/
theorem openUp_eq {node : Node} {id : Nat} (ready : node.Ready id) (around : Surroundings)
    (taken_eq : node.registry.taken = node.parts.flatMap Part.services) :
    ∃ after, Moves (node.listenTrace around) (node.serve (node.listenRequests around)) after ∧
      after.Reaches id
        (if node.listenEnd around = .done then firstFailure node.initEnds
          else node.listenEnd around)
        (node.openUp around id) := by
  let told := node.report fun monitor => (monitor.setStatus id "starting rpc endpoint" 0).1
  have opened : Moves [.opening] node (told.note .opening) :=
    (Moves.setStatus node id _).trans (.note .opening (fun _ => nofun) told)
  have told_end : told.listenEnd around = node.listenEnd around := rfl
  have told_eq : (node.report fun monitor => (monitor.setStatus id "starting rpc endpoint" 0).1) =
      told := rfl
  simp only [openUp, listenTrace, listenRequests, told_eq]
  rcases listen_eq told around taken_eq with
    ⟨server, listened, done⟩ | ⟨refused, failed⟩
  · rw [told_end] at done
    rw [listened, if_pos done, if_pos done, if_pos done]
    let bound : Node := { told.note .opening with server }
    have listening : Moves [.opening, .listening, .raised .receptorStarted] node
        ((bound.note .listening).raise .receptorStarted) :=
      (opened.trans (.withServer _ server)).trans
        ((Moves.note .listening (fun _ => nofun) bound).trans (.raise _ .receptorStarted))
    obtain ⟨after, moves, reaches⟩ := initAll_eq (ready.of_moves listening) around
    have initEnds_eq : ((bound.note .listening).raise .receptorStarted).initEnds = node.initEnds :=
      initEnds_congr listening.parts_eq rfl rfl rfl rfl
    rw [initEnds_eq] at reaches
    rw [initTrace, initRequests, initEnds_eq] at moves
    exact ⟨after, (listening.deferred node.initRequests).trans moves, reaches⟩
  · rw [told_end] at refused failed
    rw [refused, if_neg failed, if_neg failed, if_neg failed]
    refine ⟨told.note .opening, opened, ?_⟩
    rw [Reaches, if_neg failed]
    split
    next done => exact absurd (Prod.mk.inj done).2 failed
    next => rfl

/-- What the components of a new node do in a start. -/
theorem startParts_eq {node : Node} {id : Nat} (ready : node.Ready id) (around : Surroundings)
    (taken : node.registry.taken = []) :
    ∃ after, Moves (node.registerTrace around) (node.serve (node.startRequests around)) after ∧
      after.Reaches id (node.startEnd around) (node.startParts around id) := by
  obtain ⟨registry, registered, taken_eq⟩ := registerParts_eq 0 node.parts node
  rw [taken, ← registerEnds] at registered taken_eq
  rw [← List.range_eq_range'] at registered
  have told := (Moves.withRegistry node registry).trans
    (.noteAll ((List.range (reached node.registerEnds)).map .registered) (by simp) _)
  rw [startEnd_eq, registerTrace, startRequests, startParts, registered]
  cases ends : firstFailure node.registerEnds with
  | done =>
      rw [if_pos rfl, if_pos rfl, if_pos rfl]
      obtain ⟨after, moves, reaches⟩ := openUp_eq (ready.of_moves told) around (taken_eq ends)
      have initEnds_eq : Node.initEnds _ = node.initEnds :=
        initEnds_congr told.parts_eq rfl rfl rfl rfl
      rw [initEnds_eq] at reaches
      rw [listenTrace, initTrace, listenRequests, initRequests, initEnds_eq] at moves
      exact ⟨after, (told.deferred (node.listenRequests around)).trans moves, reaches⟩
  | failed error => exact ⟨_, by simpa using told, rfl⟩
  | panicked message => exact ⟨_, by simpa using told, rfl⟩

/-- A node that has just been built, with components that were added to it. -/
structure Fresh (node : Node) : Prop where
  registry_eq : node.registry = .empty
  monitor_eq : node.monitor = .empty
  control_eq : node.control = {}
  heartbeat_of : node.heartbeat.isSome = true → node.role = .slave
  isTornDown_eq : node.isTornDown = false
  trace_eq : node.trace = []
  orderly : node.Orderly

/-- The activity of a start is the only one, and over. -/
structure StartReported (node : Node) (around : Surroundings) (monitor : Monitor) : Prop where
  outline_eq : monitor.outline = [(1, "Starting " ++ node.title,
    if node.startEnd around = .done then .complete else .aborted)]
  guards_eq : monitor.guards = []
  next_eq : monitor.next = 2
  capacity_eq : monitor.capacity = 1000

/-- The guard of the activity of a start goes when the start has ended. -/
theorem StartReported.of_holds {node : Node} {around : Surroundings} {monitor : Monitor}
    {state : ActivityState} (holds : monitor.Holds [] 1 ("Starting " ++ node.title) state)
    (state_eq : (if state.isFinished then state else .aborted) =
      if node.startEnd around = .done then .complete else .aborted)
    (next_eq : monitor.next = 2) (capacity_eq : monitor.capacity = 1000) :
    node.StartReported around (monitor.drop 1 0).1 := by
  obtain ⟨outline_eq, released, kept_next, kept_capacity⟩ := holds.drop 0
  rw [state_eq] at outline_eq
  exact ⟨outline_eq, released, kept_next.trans next_eq, kept_capacity.trans capacity_eq⟩

/-- A start begins with the flag of a master, and changes nothing for a slave. -/
theorem exists_active (node : Node) :
    ∃ control trace,
      (if node.role = .master then node.raise .active else node) = { node with control, trace } ∧
      Moves (if node.role = .master then [.raised .active] else []) node
        { node with control, trace } := by
  by_cases master : node.role = .master
  · simp only [if_pos master]
    exact ⟨_, _, rfl, .raise node .active⟩
  · simp only [if_neg master]
    exact ⟨node.control, node.trace, rfl, .refl node⟩

/-- What a start does, how it ends and what it reports. -/
theorem start_eq {node : Node} (fresh : node.Fresh) (around : Surroundings) :
    ∃ after, node.start around = (after, node.startEnd around) ∧
      Acts (node.startTrace around) (node.serve (node.startRequests around)) after ∧
      node.StartReported around after.monitor := by
  have room : node.monitor.entries.length < node.monitor.capacity := by
    rw [fresh.monitor_eq]
    decide
  obtain ⟨monitor, created, outline_eq, guards_eq, next_eq, capacity_eq⟩ :=
    Monitor.create_eq room ("Starting " ++ node.title) 0
  rw [fresh.monitor_eq] at outline_eq guards_eq next_eq capacity_eq
  have number_eq : node.monitor.next = 1 := by rw [fresh.monitor_eq]; rfl
  rw [number_eq] at created
  have holds : monitor.Holds [] 1 ("Starting " ++ node.title) .running :=
    ⟨outline_eq, by simp, guards_eq⟩
  let begun : Node := { node with monitor }
  have ready : begun.Ready 1 :=
    { heartbeat := fresh.heartbeat_of
      running := by
        intro entry mem _
        rw [holds.outline_eq, List.nil_append, List.mem_singleton] at mem
        rw [mem] }
  obtain ⟨control, trace, active_eq, active⟩ := begun.exists_active
  simp only [begun] at active_eq
  simp only [start, created, active_eq]
  have registering := active.trans (.setStatus _ 1 "registering rpc services")
  rw [List.append_nil] at registering
  let told := { begun with control, trace }.report fun monitor =>
    (monitor.setStatus 1 "registering rpc services" 0).1
  -- How the steps of the start end does not depend on what the node has noted so far.
  have initEnds_eq : told.initEnds = node.initEnds := initEnds_congr rfl rfl rfl rfl rfl
  have end_eq : told.startEnd around = node.startEnd around := by
    rw [startEnd, initEnds_eq]
    rfl
  have trace_eq : told.registerTrace around = node.registerTrace around := by
    rw [registerTrace, listenTrace, initTrace, initEnds_eq]
    rfl
  have requests_eq : told.startRequests around = node.startRequests around := by
    rw [startRequests, listenRequests, initRequests, initEnds_eq]
    rfl
  obtain ⟨after, moves, ended⟩ := startParts_eq
    (ready.of_moves registering : told.Ready 1) around (congrArg Registry.taken fresh.registry_eq)
  rw [end_eq] at ended
  rw [trace_eq, requests_eq] at moves
  have all := (registering.deferred (node.startRequests around)).trans moves
  have after_holds := holds.of_alike all.monitor_alike
  have after_next := all.monitor_alike.next_eq.trans next_eq
  have after_capacity := all.monitor_alike.capacity_eq.trans capacity_eq
  have acts : Acts (node.startTrace around) (node.serve (node.startRequests around)) after :=
    ((Acts.report node fun _ => monitor).deferred _).trans all.toActs
  simp only [told, begun, Reaches] at ended
  rw [ended]
  by_cases done : node.startEnd around = .done
  · rw [if_pos done]
    let up := after.report fun monitor => (monitor.complete 1 (after.title ++ " is up") 0).1
    have acted : Acts (node.startTrace around) (node.serve (node.startRequests around))
        (up.report fun monitor => (monitor.drop 1 0).1) := by
      rw [← List.append_nil (node.startTrace around)]
      exact acts.trans ((Acts.report after _).trans (.report up _))
    have complete := after_holds.transition .complete (after.title ++ " is up") 0
    exact ⟨_, rfl, acted, .of_holds complete (if_pos done).symm after_next after_capacity⟩
  · rw [if_neg done]
    have acted : Acts (node.startTrace around) (node.serve (node.startRequests around))
        (after.report fun monitor => (monitor.drop 1 0).1) := by
      rw [← List.append_nil (node.startTrace around)]
      exact acts.trans (.report after _)
    exact ⟨_, rfl, acted, .of_holds after_holds (if_neg done).symm after_next after_capacity⟩

end Node
end ClusterMember
