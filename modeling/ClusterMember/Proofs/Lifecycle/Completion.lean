import ClusterMember.Proofs.Lifecycle.Life
import Mathlib.Data.List.Count

/-!
# When a teardown comes to its end

A run is torn down to the end exactly when no component panics as it is told to stop.  A panic
leaves alone the components before it, the endpoint, the clients and the pools, and a later teardown
does not take it up.
-/

namespace ClusterMember

/-- A row of steps is taken up to the first that fails. -/
theorem reached_append_cons {first : List StepEnd} {failure : StepEnd} (rest : List StepEnd)
    (done : ∀ ending ∈ first, ending = .done) (failed : failure ≠ .done) :
    reached (first ++ failure :: rest) = first.length + 1 ∧
      firstFailure (first ++ failure :: rest) = failure := by
  induction first with
  | nil =>
      cases failure with
      | done => exact absurd rfl failed
      | failed error => exact ⟨rfl, rfl⟩
      | panicked message => exact ⟨rfl, rfl⟩
  | cons ending others induction =>
      obtain ⟨count_eq, end_eq⟩ := induction fun other mem => done other (List.mem_cons_of_mem _ mem)
      rw [done ending List.mem_cons_self]
      exact ⟨congrArg (· + 1) count_eq, end_eq⟩

theorem take_reverse_range {place length : Nat} (le : place ≤ length) :
    (List.range length).reverse.take (length - place) =
      (List.range' place (length - place)).reverse := by
  rw [List.take_reverse, List.length_range, Nat.sub_sub_self le, List.range_eq_range',
    List.drop_range']
  simp

namespace Node

/-- A run is torn down to the end. -/
structure Completes (node : Node) (result : Node × RunEnd) : Prop where
  /-- No panic escapes it. -/
  caught : ∀ message, result.2 ≠ .panicked message
  /-- Each component is told to stop once. -/
  once : ∀ place < node.parts.length, result.1.trace.count (.stopped place) = 1
  /-- The endpoint, all channels and all pools are stopped, and nothing is kept. -/
  closed : result.1.Closed
  /-- A slave may exit safely. -/
  safe : node.role = .slave → result.1.control.flags.exitSafe = true
  /-- A teardown that was cut short is taken up by a later one. -/
  resumed : .executorsStopped ∉ result.1.trace → result.1.shutdown ≠ (result.1, .done)

/-- A run panics with the component in some place, as it is told to stop. -/
structure CutShort (node : Node) (around : Surroundings) (place : Nat) (message : Option String)
    (result : Node × RunEnd) : Prop where
  panicked : result.2 = .panicked message
  /-- Only the components from that place on have been told to stop, and nothing is closed. -/
  trace_eq : result.1.trace = node.startTrace around ++
    .raised .stopped :: (List.range' place (node.parts.length - place)).reverse.map .stopped
  /-- A later teardown does nothing. -/
  skipped : result.1.shutdown = (result.1, .done)

variable {node : Node} {around : Surroundings} {requests : List ControlRequest}

theorem stopped_notMem_start (node : Node) (around : Surroundings) (place : Nat) :
    .stopped place ∉ node.startTrace around := by
  unfold startTrace registerTrace listenTrace initTrace upTrace
  grind

/-- A teardown that is not cut short tells each component once to stop. -/
theorem count_stopped_stopTrace {place : Nat} (small : place < node.parts.length) :
    node.stopTrace.count (.stopped place) = 1 := by
  have told := List.count_map_of_injective (List.range node.parts.length).reverse
    NodeEvent.stopped (fun _ _ => NodeEvent.stopped.inj) place
  rw [List.count_reverse, List.nodup_range.count, if_pos (List.mem_range.2 small)] at told
  rw [stopTrace, List.count_append, List.count_cons, told]
  cases node.role <;> rfl

/-- Only a component that stops can make a run panic. -/
theorem runEnd_eq_panicked_iff {after : Node} {message : Option String} :
    node.runEnd around after = .panicked message ↔ node.stopEnd = .panicked message := by
  have caught : node.downEnd around after ≠ .panicked message := by
    unfold downEnd outcome
    repeat' split
    all_goals nofun
  rw [runEnd]
  cases node.stopEnd with
  | panicked other => simp
  | _ => simpa using caught

theorem shutdown_of_isTornDown (torn : node.isTornDown = true) : node.shutdown = (node, .done) := by
  rw [shutdown, if_pos torn]

namespace Fresh

theorem completes_of_done (fresh : node.Fresh) (asked : node.upRequests around requests ≠ [])
    (done : node.stopEnd = .done) : node.Completes (node.run around requests) := by
  obtain ⟨after, run_eq, acts, closed, -⟩ := fresh.run_ends asked
  rw [tearTrace_eq_stopTrace done] at acts
  have trace_eq : after.trace = node.startTrace around ++ node.stopTrace :=
    acts.trace_eq.trans (congrArg (· ++ _) fresh.trace_eq)
  have flag_eq := acts.flag_eq .exitSafe
  rw [run_eq]
  exact
    { caught := fun message panicked => by
        cases done.symm.trans (runEnd_eq_panicked_iff.1 panicked)
      once := fun place small => by
        rw [trace_eq, List.count_append, count_stopped_stopTrace small,
          List.count_eq_zero.2 (node.stopped_notMem_start around place)]
      closed := closed done
      safe := fun slave => flag_eq.trans (by simp [stopTrace, slave])
      resumed := fun skipped => absurd (by simp [trace_eq, stopTrace]) skipped }

/-- A component that panics as it is told to stop cuts the teardown short, when none behind it does. -/
theorem cutShort (fresh : node.Fresh) (asked : node.upRequests around requests ≠ [])
    {before behind : List Component} {component : Component} {message : Option String}
    (components_eq : node.components = before ++ component :: behind)
    (panics : component.stopping = .panicked message)
    (calm : ∀ other ∈ behind, ∀ message, other.stopping ≠ .panicked message) :
    node.CutShort around (before.length + 1) message (node.run around requests) := by
  have ends_eq : node.stopEnds =
      behind.reverse.map (fun other => other.stopping.panicOnly) ++ .panicked message ::
        (node.builtIn :: before.map Part.added).reverse.map Part.stopEnd := by
    have end_eq : component.stopping.panicOnly = .panicked message := by rw [panics]; rfl
    simp [stopEnds, parts, components_eq, Part.stopEnd, end_eq, Function.comp_def]
  have behind_done : ∀ ending ∈ behind.reverse.map (fun other => other.stopping.panicOnly),
      ending = .done := by
    intro ending mem
    obtain ⟨other, other_mem, rfl⟩ := List.mem_map.1 mem
    cases stopping : other.stopping with
    | panicked known => exact absurd stopping (calm other (List.mem_reverse.1 other_mem) known)
    | _ => rfl
  have failed : StepEnd.panicked message ≠ .done := by simp
  obtain ⟨reached_eq, end_eq⟩ :=
    reached_append_cons ((node.builtIn :: before.map Part.added).reverse.map Part.stopEnd)
      behind_done failed
  rw [← ends_eq] at reached_eq end_eq
  have length_eq : node.parts.length = before.length + 1 + (behind.length + 1) := by
    simp [parts, components_eq]
    omega
  have places_eq : node.stopPlaces = (List.range' (before.length + 1)
      (node.parts.length - (before.length + 1))).reverse := by
    have le : before.length + 1 ≤ node.parts.length := by omega
    rw [stopPlaces, reached_eq, ← take_reverse_range le, length_eq]
    simp
  obtain ⟨after, run_eq, acts, -⟩ := fresh.run_ends asked
  have torn : after.isTornDown = true := acts.isTornDown_eq
  rw [run_eq]
  exact
    { panicked := runEnd_eq_panicked_iff.2 end_eq
      trace_eq := by
        rw [acts.trace_eq, tearTrace, places_eq, stopEnd, end_eq, if_neg failed, List.append_nil]
        exact congrArg (· ++ _) fresh.trace_eq
      skipped := after.shutdown_of_isTornDown torn }

/-- A run that ends is torn down to the end exactly when no component panics as it stops. -/
theorem completes_iff (fresh : node.Fresh) (asked : node.upRequests around requests ≠ []) :
    node.Completes (node.run around requests) ↔
      ∀ component ∈ node.components, ∀ message, component.stopping ≠ .panicked message := by
  rw [← stopEnd_eq_done_iff]
  refine ⟨fun completes => ?_, fresh.completes_of_done asked⟩
  rcases node.stopEnd_cases with done | ⟨message, panicked⟩
  · exact done
  · obtain ⟨after, run_eq, -⟩ := fresh.run_ends asked
    refine absurd ?_ (completes.caught message)
    rw [run_eq]
    exact runEnd_eq_panicked_iff.2 panicked

end Fresh

/-- A run of a node that was built from its settings, as long as someone asks it to stop in case it
comes up, is torn down to the end exactly when no component panics as it is told to stop.  The last
one that does cuts the teardown short. -/
theorem run_completes_iff {role : Role} {config : NodeConfig} {resolver : Heartbeat.Resolver}
    {machine : Option String} {now : UInt64} {base : Node}
    (built : build role config resolver machine now = .ok base) {components : List Component}
    {requests : List ControlRequest} (around : Surroundings)
    (asked : (base.addAll components).startEnd around = .done →
      requests ≠ [] ∨ ∃ component ∈ components, component.initRequests ≠ []) :
    let result := (base.addAll components).run around requests
    ((base.addAll components).Completes result ↔
        ∀ component ∈ components, ∀ message, component.stopping ≠ .panicked message) ∧
      ∀ before component behind message, components = before ++ component :: behind →
        component.stopping = .panicked message →
        (∀ other ∈ behind, ∀ message, other.stopping ≠ .panicked message) →
          (base.addAll components).CutShort around (before.length + 1) message result := by
  obtain ⟨base_fresh, -, base_eq⟩ := build_fresh built
  obtain ⟨fresh, components_eq⟩ := addAll_fresh base_fresh components
  rw [base_eq, List.nil_append] at components_eq
  have ends : (base.addAll components).upRequests around requests ≠ [] :=
    upRequests_ne_nil (by rwa [components_eq])
  refine ⟨?_, fun before component behind message split_eq panics calm => ?_⟩
  · rw [fresh.completes_iff ends, components_eq]
  · exact fresh.cutShort ends (components_eq.trans split_eq) panics calm

/-- A master whose last component panics when it is told to stop, and whose first one does not. -/
theorem run_completes_iff_writer :
    let index : Component := { name := "index" }
    let writer : Component := { name := "writer", stopping := .panicked (some "boom") }
    ∃ base, build .master .single ⟨none⟩ none 0 = .ok base ∧
      let result := (base.addAll [index, writer]).run (.isolated 0) [.stop "over"]
      ((base.addAll [index, writer]).Completes result ↔
          ∀ component ∈ [index, writer], ∀ message, component.stopping ≠ .panicked message) ∧
        ∀ before component behind message, [index, writer] = before ++ component :: behind →
          component.stopping = .panicked message →
          (∀ other ∈ behind, ∀ message, other.stopping ≠ .panicked message) →
            (base.addAll [index, writer]).CutShort (.isolated 0) (before.length + 1) message
              result := by
  intro index writer
  obtain ⟨base, built⟩ := exists_master
  refine ⟨base, built, ?_⟩
  exact run_completes_iff built (.isolated 0) fun _ => .inl nofun

/-- The panic of that component escapes the run: neither the other one nor what is built in has been
told to stop, nothing is closed, and a later teardown does nothing. -/
theorem run_cut_short_by_writer :
    let index : Component := { name := "index" }
    let writer : Component := { name := "writer", stopping := .panicked (some "boom") }
    ∃ base, build .master .single ⟨none⟩ none 0 = .ok base ∧
      let result := (base.addAll [index, writer]).run (.isolated 0) [.stop "over"]
      ¬ (base.addAll [index, writer]).Completes result ∧
        (base.addAll [index, writer]).CutShort (.isolated 0) 2 (some "boom") result := by
  intro index writer
  obtain ⟨base, built⟩ := exists_master
  obtain ⟨base_fresh, -, base_eq⟩ := build_fresh built
  obtain ⟨fresh, components_eq⟩ := addAll_fresh base_fresh [index, writer]
  rw [base_eq, List.nil_append] at components_eq
  have ends : (base.addAll [index, writer]).upRequests (.isolated 0) [.stop "over"] ≠ [] :=
    upRequests_ne_nil fun _ => .inl nofun
  have split_eq : (base.addAll [index, writer]).components = [index] ++ writer :: [] :=
    components_eq
  have cut := fresh.cutShort ends split_eq (rfl : writer.stopping = .panicked (some "boom"))
    (fun _ mem => absurd mem List.not_mem_nil)
  refine ⟨base, built, fun completes => ?_, cut⟩
  exact completes.caught (some "boom") cut.panicked

end Node
end ClusterMember
