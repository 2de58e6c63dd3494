import ClusterMember.Proofs.Lifecycle.Run
import Mathlib.Data.List.Basic

/-!
# The life of a node

A run takes the steps of its start up to the first that fails, and then the whole teardown.  What a
node is and says at the end depends on how the start ended, and on its role.
-/

namespace ClusterMember

/-- The default settings on a machine with a single processor. -/
def NodeConfig.single : NodeConfig := @NodeConfig.default .single

namespace Node

variable (node : Node) (around : Surroundings)

variable {node around}

/-! ## Flags in a history -/

theorem startEnd_eq_done_iff (node : Node) (around : Surroundings) : node.startEnd around = .done ↔
    firstFailure node.registerEnds = .done ∧ node.listenEnd around = .done ∧
      firstFailure node.initEnds = .done := by
  rw [startEnd_eq]
  by_cases registered : firstFailure node.registerEnds = .done
  · by_cases listens : node.listenEnd around = .done
    · simp [registered, listens]
    · simp [registered, listens]
  · simp [registered]

theorem assemble_fresh (role : Role) (config : NodeConfig) (resolver : Heartbeat.Resolver)
    (identity : Identity) {governor : Governor} (orderly : governor.Orderly)
    (address : SocketAddress) :
    (assemble role config resolver identity governor address).Fresh where
  registry_eq := rfl
  monitor_eq := rfl
  control_eq := rfl
  heartbeat_of has := by
    cases role with
    | master => cases has
    | slave => rfl
  isTornDown_eq := rfl
  trace_eq := rfl
  orderly := ⟨Clients.held_ofConfig config.rpc, orderly⟩

/-- A node that has been built has done nothing. -/
theorem build_fresh {role : Role} {config : NodeConfig} {resolver : Heartbeat.Resolver}
    {machine : Option String} {now : UInt64} {base : Node}
    (built : build role config resolver machine now = .ok base) :
    base.Fresh ∧ base.role = role ∧ base.components = [] := by
  unfold build at built
  split at built
  next => cases built
  next =>
    split at built
    next => cases built
    next =>
      split at built
      next => cases built
      next governor made =>
        split at built
        next => cases built
        next =>
          cases built
          exact ⟨assemble_fresh _ _ _ _ (Governor.orderly_ofConfig made) _, rfl, rfl⟩

/-- A master can be built from the default settings. -/
theorem exists_master : ∃ base, build .master .single ⟨none⟩ none 0 = .ok base := by
  have ok : (build .master .single ⟨none⟩ none 0).isOk = true := by decide +kernel
  cases built : build .master .single ⟨none⟩ none 0 with
  | error fault =>
      rw [built] at ok
      cases ok
  | ok base => exact ⟨base, rfl⟩

theorem addAll_fresh {base : Node} (fresh : base.Fresh) (components : List Component) :
    (base.addAll components).Fresh ∧
      (base.addAll components).components = base.components ++ components := by
  induction components generalizing base with
  | nil => exact ⟨fresh, (List.append_nil _).symm⟩
  | cons component rest induction =>
      have added : (base.add component).Fresh :=
        ⟨fresh.registry_eq, fresh.monitor_eq, fresh.control_eq, fresh.heartbeat_of,
          fresh.isTornDown_eq, fresh.trace_eq, fresh.orderly⟩
      obtain ⟨rest_fresh, rest_eq⟩ := induction added
      exact ⟨rest_fresh, by rw [addAll, List.foldl_cons, ← addAll, rest_eq]; simp [add]⟩

/-! ## Running -/

/-- A teardown that is not cut short does all that a teardown does. -/
theorem tearTrace_eq_stopTrace (done : node.stopEnd = .done) : node.tearTrace = node.stopTrace := by
  have all : node.stopPlaces = (List.range node.parts.length).reverse := by
    rw [stopPlaces, reached_eq_length done]
    exact List.take_of_length_le (by simp [stopEnds])
  rw [tearTrace, all, if_pos done]
  rfl

/-- A start that ends well has told all components to initialize themselves. -/
theorem startRequests_ne_nil (done : node.startEnd around = .done)
    (asked : ∃ component ∈ node.components, component.initRequests ≠ []) :
    node.startRequests around ≠ [] := by
  obtain ⟨registered, listens, initialized⟩ := (startEnd_eq_done_iff node around).1 done
  obtain ⟨component, mem, asks⟩ := asked
  have all : node.initRequests = node.parts.flatMap Part.initRequests := by
    rw [initRequests, reached_eq_length initialized]
    exact congrArg _ (List.take_of_length_le (by simp [initEnds]))
  rw [startRequests, if_pos registered, listenRequests, if_pos listens, all]
  simp only [ne_eq, List.flatMap_eq_nil_iff, not_forall]
  exact ⟨.added component, List.mem_cons_of_mem _ (List.mem_map_of_mem mem), asks⟩

/-- A run ends as long as someone asks the node to stop in case it comes up. -/
theorem upRequests_ne_nil {requests : List ControlRequest}
    (asked : node.startEnd around = .done →
      requests ≠ [] ∨ ∃ component ∈ node.components, component.initRequests ≠ []) :
    node.upRequests around requests ≠ [] := fun silent => by
  obtain ⟨done, start_silent, idle_silent⟩ := upRequests_eq_nil_iff.1 silent
  rcases asked done with idle_asked | start_asked
  · exact idle_asked idle_silent
  · exact startRequests_ne_nil done start_asked start_silent

end Node
end ClusterMember
