import ClusterMember.Proofs.Lifecycle.Orderly
import ClusterMember.Proofs.Lifecycle.Requests

/-!
# What a step of a life changes

Most of what happens in the life of a node only adds to its history, sets the flags that the history
names, and goes on with the activity in hand.  No step loses anything that is open.  Such steps can
be put one behind the other, and what is asked in between may as well be asked before.
-/

namespace ClusterMember

/-- Whether a flag is set. -/
def Flags.get (flags : Flags) : Flag → Bool
  | .stopped => flags.stopped
  | .active => flags.active
  | .initialized => flags.initialized
  | .receptorStarted => flags.receptorStarted
  | .premiered => flags.premiered
  | .exitSafe => flags.exitSafe

@[simp]
theorem Flags.get_set (flags : Flags) (flag other : Flag) (value : Bool) :
    (flags.set flag value).get other = if other = flag then value else flags.get other := by
  cases flag <;> cases other <;> rfl

namespace Monitor

/-- The entries without their texts and times. -/
def outline (monitor : Monitor) : List (Nat × String × ActivityState) :=
  monitor.entries.map fun entry => (entry.id, entry.description, entry.state)

/-- Nothing but a status or a time has changed. -/
structure Alike (before after : Monitor) : Prop where
  outline_eq : after.outline = before.outline
  guards_eq : after.guards = before.guards
  next_eq : after.next = before.next
  capacity_eq : after.capacity = before.capacity

theorem Alike.refl (monitor : Monitor) : monitor.Alike monitor := ⟨rfl, rfl, rfl, rfl⟩

theorem Alike.trans {first second third : Monitor} (left : first.Alike second)
    (right : second.Alike third) : first.Alike third where
  outline_eq := right.outline_eq.trans left.outline_eq
  guards_eq := right.guards_eq.trans left.guards_eq
  next_eq := right.next_eq.trans left.next_eq
  capacity_eq := right.capacity_eq.trans left.capacity_eq

theorem setStatus_alike (monitor : Monitor) (id : Nat) (status : String) (now : Nat) :
    monitor.Alike (monitor.setStatus id status now).1 where
  outline_eq := by
    simp only [outline, setStatus, modify, List.map_map]
    refine List.map_congr_left fun entry _ => ?_
    simp only [Function.comp_apply]
    split <;> rfl
  guards_eq := rfl
  next_eq := rfl
  capacity_eq := rfl

/-- The entries of an outline under a number come to another state. -/
def settle (id : Nat) (state : ActivityState) (outline : List (Nat × String × ActivityState)) :
    List (Nat × String × ActivityState) :=
  outline.map fun entry => if entry.1 = id then (entry.1, entry.2.1, state) else entry

theorem settle_settle (id : Nat) (first second : ActivityState)
    (outline : List (Nat × String × ActivityState)) :
    settle id second (settle id first outline) = settle id second outline := by
  simp only [settle, List.map_map]
  refine List.map_congr_left fun entry _ => ?_
  simp only [Function.comp_apply]
  by_cases eq : entry.1 = id
  · rw [if_pos eq, if_pos eq, if_pos eq]
  · rw [if_neg eq, if_neg eq]

/-- Entries that are in a state already stay as they are. -/
theorem settle_of_settled {id : Nat} {state : ActivityState}
    {outline : List (Nat × String × ActivityState)}
    (settled : ∀ entry ∈ outline, entry.1 = id → entry.2.2 = state) :
    settle id state outline = outline := by
  refine (List.map_congr_left fun entry mem => ?_).trans (List.map_id outline)
  split
  next eq => rw [← settled entry mem eq, id_eq]
  next => rfl

/-- Only the last entry of an outline is in hand. -/
theorem settle_append_singleton {id : Nat} {older : List (Nat × String × ActivityState)}
    (older_ne : ∀ entry ∈ older, entry.1 ≠ id) (description : String)
    (before after : ActivityState) :
    settle id after (older ++ [(id, description, before)]) =
      older ++ [(id, description, after)] := by
  have kept : settle id after older = older :=
    settle_of_settled fun entry mem eq => absurd eq (older_ne entry mem)
  rw [settle, List.map_append, ← settle, kept]
  simp

@[simp]
theorem outline_transition (monitor : Monitor) (id : Nat) (state : ActivityState)
    (status : String) (now : Nat) :
    (monitor.transition id state status now).outline = settle id state monitor.outline := by
  simp only [outline, transition, modify, settle, List.map_map]
  refine List.map_congr_left fun entry _ => ?_
  simp only [Function.comp_apply]
  split <;> rfl

theorem outline_setState (monitor : Monitor) (id : Nat) (state : ActivityState) (now : Nat) :
    (monitor.modify id (setState state now)).outline = settle id state monitor.outline := by
  simp only [outline, modify, settle, List.map_map]
  refine List.map_congr_left fun entry _ => ?_
  simp only [Function.comp_apply]
  split <;> rfl

/-- An activity that begins is the last one of the outline. -/
theorem create_eq {monitor : Monitor} (room : monitor.entries.length < monitor.capacity)
    (description : String) (now : Nat) :
    ∃ after, monitor.create description now = (after, monitor.next, []) ∧
      after.outline = monitor.outline ++ [(monitor.next, description, .running)] ∧
      after.guards = monitor.guards ++ [⟨monitor.next, description⟩] ∧
      after.next = monitor.next + 1 ∧ after.capacity = monitor.capacity := by
  have unchanged : monitor.makeRoom now = (monitor, []) := by
    simp only [makeRoom, if_neg (Nat.not_le.2 room)]
  simp only [create, unchanged]
  exact ⟨_, rfl, by simp [outline], rfl, rfl, rfl⟩

/-- The monitor holds one activity, which is the last one of its outline. -/
structure Holds (monitor : Monitor) (older : List (Nat × String × ActivityState)) (id : Nat)
    (description : String) (state : ActivityState) : Prop where
  outline_eq : monitor.outline = older ++ [(id, description, state)]
  older_ne : ∀ entry ∈ older, entry.1 ≠ id
  guards_eq : monitor.guards = [⟨id, description⟩]

variable {monitor : Monitor} {older : List (Nat × String × ActivityState)} {id : Nat}
  {description : String} {state : ActivityState}

theorem Holds.of_alike {before after : Monitor}
    (holds : before.Holds older id description state) (alike : before.Alike after) :
    after.Holds older id description state where
  outline_eq := alike.outline_eq.trans holds.outline_eq
  older_ne := holds.older_ne
  guards_eq := alike.guards_eq.trans holds.guards_eq

theorem Holds.transition (holds : monitor.Holds older id description state)
    (after : ActivityState) (status : String) (now : Nat) :
    (monitor.transition id after status now).Holds older id description after where
  outline_eq := by
    rw [outline_transition, holds.outline_eq,
      settle_append_singleton holds.older_ne description state after]
  older_ne := holds.older_ne
  guards_eq := holds.guards_eq

/-- The guard of the activity goes: an activity that has not come to its end is given up. -/
theorem Holds.drop (holds : monitor.Holds older id description state) (now : Nat) :
    (monitor.drop id now).1.outline =
        older ++ [(id, description, if state.isFinished then state else .aborted)] ∧
      (monitor.drop id now).1.guards = [] ∧ (monitor.drop id now).1.next = monitor.next ∧
      (monitor.drop id now).1.capacity = monitor.capacity := by
  have found : (monitor.entry? id).map (·.state) = some state := by
    have searched : (monitor.entry? id).map
        (fun entry => (entry.id, entry.description, entry.state)) =
          monitor.outline.find? (·.1 = id) := by
      rw [outline, List.find?_map]
      rfl
    rw [holds.outline_eq, List.find?_append,
      List.find?_eq_none.2 fun entry mem => by simpa using holds.older_ne entry mem] at searched
    simp only [decide_true, List.find?_cons_of_pos, Option.none_or,
      Option.map_eq_some_iff] at searched
    obtain ⟨entry, entry_eq, parts_eq⟩ := searched
    cases parts_eq
    rw [entry_eq, Option.map_some]
  obtain ⟨entry, entry_eq, rfl⟩ := Option.map_eq_some_iff.1 found
  have released : monitor.guards.filter (·.id ≠ id) = [] := by simp [holds.guards_eq]
  simp only [Monitor.drop, entry_eq]
  split
  next => exact ⟨holds.outline_eq, released, rfl, rfl⟩
  next =>
    refine ⟨?_, released, rfl, rfl⟩
    rw [outline_setState]
    exact (congrArg _ holds.outline_eq).trans
      (settle_append_singleton holds.older_ne description entry.state .aborted)

end Monitor

/-- Whoever asks for something asks for a clean stop. -/
def ControlRequest.Clean (requests : List ControlRequest) : Prop :=
  ∀ request ∈ requests, ∃ why, request = .stop why

theorem ControlRequest.Clean.reasons_eq {requests : List ControlRequest}
    (clean : ControlRequest.Clean requests) : ControlRequest.reasons requests = [] := by
  refine List.filterMap_eq_nil_iff.2 fun request mem => ?_
  obtain ⟨why, rfl⟩ := clean request mem
  rfl

namespace Node

theorem serve_append (node : Node) (first second : List ControlRequest) :
    node.serve (first ++ second) = (node.serve first).serve second :=
  congrArg (fun control => { node with control }) (node.control.serveAll_append first second)

@[simp]
theorem serve_nil (node : Node) : node.serve [] = node := rfl

/-- Whatever is asked, no flag is set but that of a stop. -/
theorem serve_flag (node : Node) (requests : List ControlRequest) (flag : Flag) :
    (node.serve requests).control.flags.get flag =
      (node.control.flags.get flag || decide (flag = .stopped ∧ requests ≠ [])) := by
  rw [serve, Control.serveAll_flags]
  cases requests <;> cases flag <;> simp [Flags.get]

/-- A node has done something: it has lengthened its history, and set the flags that the history
names. -/
structure Acts (events : List NodeEvent) (before after : Node) : Prop where
  role_eq : after.role = before.role
  identity_eq : after.identity = before.identity
  components_eq : after.components = before.components
  resolver_eq : after.resolver = before.resolver
  heartbeat_eq : after.heartbeat.isSome = before.heartbeat.isSome
  isTornDown_eq : after.isTornDown = before.isTornDown
  trace_eq : after.trace = before.trace ++ events
  flag_eq : ∀ flag, after.control.flags.get flag =
    (before.control.flags.get flag || decide (.raised flag ∈ events))
  aborted_eq : after.control.flags.aborted = before.control.flags.aborted
  reason_eq : after.control.flags.reason = before.control.flags.reason
  orderly : before.Orderly → after.Orderly

/-- A node has done something within the activity in hand. -/
structure Moves (events : List NodeEvent) (before after : Node) : Prop
    extends Acts events before after where
  monitor_alike : before.monitor.Alike after.monitor

namespace Acts

variable {events : List NodeEvent} {before mid after : Node}

theorem title_eq (acts : Acts events before after) : after.title = before.title := by
  rw [title, title, acts.role_eq, acts.identity_eq]

theorem parts_eq (acts : Acts events before after) : after.parts = before.parts := by
  rw [parts, parts, builtIn, builtIn, acts.role_eq, acts.components_eq]

/-- A node that has changed nothing but what a history does not tell. -/
theorem of_eq (role_eq : after.role = before.role) (identity_eq : after.identity = before.identity)
    (components_eq : after.components = before.components)
    (resolver_eq : after.resolver = before.resolver)
    (heartbeat_eq : after.heartbeat.isSome = before.heartbeat.isSome)
    (isTornDown_eq : after.isTornDown = before.isTornDown)
    (trace_eq : after.trace = before.trace)
    (flags_eq : after.control.flags = before.control.flags)
    (orderly : before.Orderly → after.Orderly) : Acts [] before after where
  role_eq := role_eq
  identity_eq := identity_eq
  components_eq := components_eq
  resolver_eq := resolver_eq
  heartbeat_eq := heartbeat_eq
  isTornDown_eq := isTornDown_eq
  trace_eq := by rw [trace_eq, List.append_nil]
  flag_eq flag := by rw [flags_eq]; simp
  aborted_eq := by rw [flags_eq]
  reason_eq := by rw [flags_eq]
  orderly := orderly

theorem trans {more : List NodeEvent} (first : Acts events before mid)
    (second : Acts more mid after) : Acts (events ++ more) before after where
  role_eq := second.role_eq.trans first.role_eq
  identity_eq := second.identity_eq.trans first.identity_eq
  components_eq := second.components_eq.trans first.components_eq
  resolver_eq := second.resolver_eq.trans first.resolver_eq
  heartbeat_eq := second.heartbeat_eq.trans first.heartbeat_eq
  isTornDown_eq := second.isTornDown_eq.trans first.isTornDown_eq
  trace_eq := by rw [second.trace_eq, first.trace_eq, List.append_assoc]
  flag_eq flag := by
    rw [second.flag_eq, first.flag_eq, Bool.or_assoc]
    simp
  aborted_eq := second.aborted_eq.trans first.aborted_eq
  reason_eq := second.reason_eq.trans first.reason_eq
  orderly orderly := second.orderly (first.orderly orderly)

/-- What is asked in the end may as well be asked in the beginning. -/
theorem deferred (acts : Acts events before after) (requests : List ControlRequest) :
    Acts events (before.serve requests) (after.serve requests) where
  role_eq := acts.role_eq
  identity_eq := acts.identity_eq
  components_eq := acts.components_eq
  resolver_eq := acts.resolver_eq
  heartbeat_eq := acts.heartbeat_eq
  isTornDown_eq := acts.isTornDown_eq
  trace_eq := acts.trace_eq
  flag_eq flag := by
    rw [serve_flag, serve_flag, acts.flag_eq, Bool.or_right_comm]
  aborted_eq := by
    simp only [Node.serve, Control.serveAll_flags, acts.aborted_eq]
  reason_eq := by
    simp only [Node.serve, Control.serveAll_flags, acts.aborted_eq, acts.reason_eq]
  orderly := acts.orderly

/-- Two steps, in each of which something is asked. -/
theorem followed {more : List NodeEvent} {requests others : List ControlRequest}
    (first : Acts events (before.serve requests) mid)
    (second : Acts more (mid.serve others) after) :
    Acts (events ++ more) (before.serve (requests ++ others)) after := by
  rw [serve_append]
  exact (first.deferred others).trans second

theorem report (node : Node) (change : Monitor → Monitor) : Acts [] node (node.report change) :=
  of_eq rfl rfl rfl rfl rfl rfl rfl rfl id

end Acts

namespace Moves

variable {events : List NodeEvent} {before mid after : Node}

theorem refl (node : Node) : Moves [] node node :=
  ⟨.of_eq rfl rfl rfl rfl rfl rfl rfl rfl id, .refl node.monitor⟩

theorem trans {more : List NodeEvent} (first : Moves events before mid)
    (second : Moves more mid after) : Moves (events ++ more) before after :=
  ⟨first.toActs.trans second.toActs, first.monitor_alike.trans second.monitor_alike⟩

theorem deferred (moves : Moves events before after) (requests : List ControlRequest) :
    Moves events (before.serve requests) (after.serve requests) :=
  ⟨moves.toActs.deferred requests, moves.monitor_alike⟩

theorem followed {more : List NodeEvent} {requests others : List ControlRequest}
    (first : Moves events (before.serve requests) mid)
    (second : Moves more (mid.serve others) after) :
    Moves (events ++ more) (before.serve (requests ++ others)) after :=
  ⟨first.toActs.followed second.toActs, first.monitor_alike.trans second.monitor_alike⟩

/-- What is noted besides flags sets none. -/
theorem noteAll (events : List NodeEvent) (no_flag : ∀ flag, .raised flag ∉ events) (node : Node) :
    Moves events node { node with trace := node.trace ++ events } where
  role_eq := rfl
  identity_eq := rfl
  components_eq := rfl
  resolver_eq := rfl
  heartbeat_eq := rfl
  isTornDown_eq := rfl
  trace_eq := rfl
  flag_eq flag := by simp [no_flag flag]
  aborted_eq := rfl
  reason_eq := rfl
  orderly := id
  monitor_alike := .refl node.monitor

theorem note (event : NodeEvent) (no_flag : ∀ flag, event ≠ .raised flag) (node : Node) :
    Moves [event] node (node.note event) :=
  noteAll [event] (fun flag named => no_flag flag (List.mem_singleton.1 named).symm) node

theorem raise (node : Node) (flag : Flag) : Moves [.raised flag] node (node.raise flag) where
  role_eq := rfl
  identity_eq := rfl
  components_eq := rfl
  resolver_eq := rfl
  heartbeat_eq := rfl
  isTornDown_eq := rfl
  trace_eq := rfl
  flag_eq other := by
    simp only [Node.raise, Node.note, Control.set, Flags.get_set, List.mem_singleton,
      NodeEvent.raised.injEq]
    by_cases eq : other = flag <;> simp [eq]
  aborted_eq := by cases flag <;> rfl
  reason_eq := by cases flag <;> rfl
  orderly := id
  monitor_alike := .refl node.monitor

theorem setStatus (node : Node) (id : Nat) (status : String) :
    Moves [] node (node.report fun monitor => (monitor.setStatus id status 0).1) :=
  ⟨.report node _, Monitor.setStatus_alike node.monitor id status 0⟩

theorem withRegistry (node : Node) (registry : Registry Nat) :
    Moves [] node { node with registry } :=
  ⟨.of_eq rfl rfl rfl rfl rfl rfl rfl rfl id, .refl node.monitor⟩

theorem withServer (node : Node) (server : Server) : Moves [] node { node with server } :=
  ⟨.of_eq rfl rfl rfl rfl rfl rfl rfl rfl id, .refl node.monitor⟩

theorem withScheduler (node : Node) {scheduler : Scheduler}
    (orderly : node.scheduler.governor.Orderly → scheduler.governor.Orderly) :
    Moves [] node { node with scheduler } :=
  ⟨.of_eq rfl rfl rfl rfl rfl rfl rfl rfl (And.imp_right orderly), .refl node.monitor⟩

theorem withClients (node : Node) {clients : Clients} (held : node.clients.Held → clients.Held) :
    Moves [] node { node with clients } :=
  ⟨.of_eq rfl rfl rfl rfl rfl rfl rfl rfl (And.imp_left held), .refl node.monitor⟩

/-- A node is given back its heartbeat with the flags as they were. -/
theorem setSlave {node : Node} {slave : Heartbeat.Slave} (known : node.slave? = some slave)
    {after : Heartbeat.Slave} (control_eq : after.control = slave.control)
    (held : slave.clients.Held → after.clients.Held) : Moves [] node (node.setSlave after) := by
  obtain ⟨service, service_eq, rfl⟩ := Option.map_eq_some_iff.1 known
  have heartbeat_eq : (node.setSlave after).heartbeat.isSome = node.heartbeat.isSome := by
    rw [service_eq]
    rfl
  exact ⟨.of_eq rfl rfl rfl rfl heartbeat_eq rfl rfl (congrArg Control.flags control_eq)
    (And.imp_left held), .refl node.monitor⟩

end Moves

/-- The components of a node besides the one that is built in were added to it. -/
theorem mem_components_of_added {node : Node} {component : Component}
    (mem : .added component ∈ node.parts) : component ∈ node.components := by
  rw [parts, List.mem_cons, builtIn] at mem
  rcases mem with built | added
  · split at built <;> cases built
  · obtain ⟨other, other_mem, other_eq⟩ := List.mem_map.1 added
    cases other_eq
    exact other_mem

end Node
end ClusterMember
