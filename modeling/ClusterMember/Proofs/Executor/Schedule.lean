import ClusterMember.Executor.Scheduler

/-!
# Schedules go on

A schedule that a scheduler takes is cyclic and sleeps at first.  Each of its runs leaves it asleep
again, however the run ends.
-/

namespace ClusterMember

namespace PeriodicPool

variable {pool after : PeriodicPool} {task : Nat}

theorem find?_modify {change : PeriodicTask → PeriodicTask}
    (id_eq : ∀ entry, (change entry).id = entry.id) (task : Nat) (tasks : List PeriodicTask) :
    (modify task change tasks).find? (·.id = task) = (tasks.find? (·.id = task)).map change := by
  induction tasks with
  | nil => rfl
  | cons entry rest induction =>
      simp only [modify, List.map_cons, List.find?_cons] at induction ⊢
      by_cases same : entry.id = task
      · simp [same, id_eq]
      · simp [same, induction]

theorem id_afterRun (failed : Bool) (entry : PeriodicTask) :
    (afterRun failed entry).id = entry.id := by
  unfold afterRun
  split <;> rfl

/-- A schedule whose run ends sleeps again, however the run ends. -/
theorem asleep_of_finish {failed : Bool} {elapsed : Duration}
    (finished : pool.finish task failed elapsed = some after) {entry : PeriodicTask}
    (there : pool.find? task = some entry) (isCyclic : entry.isCyclic = true) :
    ∃ asleep, after.find? task = some asleep ∧ asleep.isCyclic = true ∧
      asleep.phase = .sleeping := by
  simp only [finish] at finished
  split at finished <;> cases finished
  refine ⟨afterRun failed entry, ?_, by simp [afterRun, isCyclic]⟩
  rw [find?, find?_modify (id_afterRun failed), show pool.tasks.find? _ = some entry from there]
  rfl

theorem eq_add_of_spawnCyclic {envelope : CyclicEnvelope}
    (spawned : pool.spawnCyclic task envelope = .ok after) : after = pool.add task true := by
  unfold spawnCyclic at spawned
  split at spawned
  next => cases spawned
  next =>
    split at spawned <;> cases spawned
    rfl

end PeriodicPool

/-- A schedule that is taken is asleep in one of the pools. -/
theorem Scheduler.asleep_of_cycleAt {scheduler after : Scheduler} {place task : Nat}
    {envelope : CyclicEnvelope} (taken : scheduler.cycleAt place task envelope = .ok after) :
    ∃ pool ∈ after.governor.builtScheduled, ⟨task, true, .sleeping, 0, 0⟩ ∈ pool.tasks := by
  unfold cycleAt at taken
  split at taken
  next => cases taken
  next pool there =>
    split at taken
    next => cases taken
    next spawned spawn_eq =>
      cases taken
      refine ⟨spawned, List.mem_set (List.getElem?_eq_some_iff.1 there).1 _, ?_⟩
      rw [PeriodicPool.eq_add_of_spawnCyclic spawn_eq, PeriodicPool.add]
      exact List.mem_append_right _ (List.mem_singleton_self _)

end ClusterMember
