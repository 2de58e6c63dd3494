import ClusterMember.Lifecycle.Run
import ClusterMember.Proofs.Executor.Schedule
import ClusterMember.Proofs.Executor.Table
import ClusterMember.Proofs.Heartbeat.Start
import ClusterMember.Proofs.Keyed

/-!
# What a teardown can reach

The clients of a node keep every pool of channels that is not shut down, and its governor knows
every pool that takes tasks.  A heartbeat that starts, beats or stops keeps this up, so that a
teardown, which shuts down what is kept and what is known, leaves nothing open.
-/

namespace ClusterMember

namespace Governor

variable {governor : Governor}

theorem Orderly.cancel (orderly : governor.Orderly) (task : Nat) (elapsed : Duration) :
    ({ governor with
      builtScheduled := governor.builtScheduled.map fun pool =>
        (pool.cancel task elapsed).getD pool } : Governor).Orderly := by
  refine orderly.withScheduledPools ?_
  rw [List.map_map]
  refine List.map_congr_left fun pool _ => ?_
  rw [Function.comp_apply]
  cases cancelled : pool.cancel task elapsed with
  | none => rfl
  | some after => exact PeriodicPool.isShut_of_cancel cancelled

theorem Orderly.setScheduled (orderly : governor.Orderly) {place : Nat}
    {pool after : PeriodicPool} (there : governor.builtScheduled[place]? = some pool)
    (isShut_eq : after.isShut = pool.isShut) : (governor.setScheduled place after).Orderly :=
  orderly.withScheduledPools (Keyed.map_set_of_eq there isShut_eq)

end Governor

/-- A schedule that is taken shuts no pool down. -/
theorem Scheduler.orderly_cycleAt {scheduler after : Scheduler} {place task : Nat}
    {envelope : CyclicEnvelope} (orderly : scheduler.governor.Orderly)
    (taken : scheduler.cycleAt place task envelope = .ok after) : after.governor.Orderly := by
  unfold cycleAt at taken
  split at taken
  next => cases taken
  next pool there =>
    split at taken
    next => cases taken
    next spawned spawn_eq =>
      cases taken
      rw [PeriodicPool.eq_add_of_spawnCyclic spawn_eq]
      exact orderly.setScheduled there rfl

theorem Heartbeat.Slave.orderly_start (slave : Slave) {scheduler : Scheduler}
    (orderly : scheduler.governor.Orderly) (task : Nat) (answer : Option Identity) :
    (slave.start scheduler task answer).2.1.governor.Orderly := by
  have begins := slave.begins_start scheduler task answer
  generalize slave.start scheduler task answer = result at begins
  obtain ⟨after, later, outcome⟩ := result
  cases begins with
  | halted | refused => exact orderly
  | begun _ _ submitted =>
      obtain ⟨place, taken⟩ := submitBeats_cases submitted
      exact Scheduler.orderly_cycleAt orderly taken

/-- The clients of a node keep their open pools, and its governor knows its own. -/
def Node.Orderly (node : Node) : Prop :=
  node.clients.Held ∧ node.scheduler.governor.Orderly

end ClusterMember
