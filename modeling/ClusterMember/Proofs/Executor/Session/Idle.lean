import ClusterMember.Proofs.Executor.Session.Settling

/-!
# Idle sessions

A session is idle when all its tasks have ended and no periodic task is due.  What normal pools and
chains do after that leaves the table, the scheduled pools, the gates and the time as they are, so
that scheduled work does not begin to go on.
-/

namespace ClusterMember
namespace Session

variable {α : Type} {start session after : Session α}

/-! ## What stays as it is -/

/-- What the course of tasks in normal pools leaves as it is. -/
structure Keeps (session after : Session α) : Prop where
  table_eq : after.scheduler.governor.table = session.scheduler.governor.table
  descriptors_eq : after.pools.map Pool.descriptor = session.pools.map Pool.descriptor
  scheduledPools_eq : after.scheduledPools = session.scheduledPools
  schedules_eq : after.schedules = session.schedules
  gates_eq : after.gates = session.gates
  clock_eq : after.clock = session.clock

theorem Keeps.trans {middle : Session α} (first : session.Keeps middle)
    (second : middle.Keeps after) : session.Keeps after where
  table_eq := second.table_eq.trans first.table_eq
  descriptors_eq := second.descriptors_eq.trans first.descriptors_eq
  scheduledPools_eq := second.scheduledPools_eq.trans first.scheduledPools_eq
  schedules_eq := second.schedules_eq.trans first.schedules_eq
  gates_eq := second.gates_eq.trans first.gates_eq
  clock_eq := second.clock_eq.trans first.clock_eq

theorem keeps_began (session : Session α) (id : Nat) : session.Keeps (session.began id) :=
  ⟨rfl, rfl, rfl, rfl, rfl, rfl⟩

theorem keeps_begin (session : Session α) (id : Nat) : session.Keeps (session.begin id) := by
  unfold begin
  split
  · exact ⟨rfl, rfl, rfl, rfl, rfl, rfl⟩
  · exact keeps_began session id

/-- Pools may change, as long as they stay what they are. -/
theorem keeps_setPool {place : Nat} {pool changed : Pool}
    (found : session.pools[place]? = some pool)
    (descriptor_eq : changed.descriptor = pool.descriptor) :
    session.Keeps (session.setPool place changed) where
  table_eq := rfl
  descriptors_eq := Keyed.map_set_of_eq found descriptor_eq
  scheduledPools_eq := rfl
  schedules_eq := rfl
  gates_eq := rfl
  clock_eq := rfl

namespace Keeps

variable (keeps : session.Keeps after)
include keeps

theorem place?_eq (type : ExecutorType) :
    after.scheduler.governor.place? type = session.scheduler.governor.place? type := by
  rw [Governor.place?, keeps.table_eq, Governor.place?]

theorem isOpen_eq (gate : Option String) : after.isOpen gate = session.isOpen gate := by
  cases gate with
  | none => rfl
  | some gate => simp only [isOpen, keeps.gates_eq]

theorem descriptor?_eq (place : Nat) :
    (after.pools[place]?).map Pool.descriptor = (session.pools[place]?).map Pool.descriptor := by
  rw [← List.getElem?_map, ← List.getElem?_map, keeps.descriptors_eq]

theorem threadOf_eq (place : Nat) : after.threadOf place = session.threadOf place := by
  have thread (own : Session α) : own.threadOf place =
      "thread-" ++ ((own.pools[place]?).map Pool.descriptor).elim "" (·.threadName) := by
    rw [Option.elim_map]
    rfl
  rw [thread, thread, keeps.descriptor?_eq]

theorem typeOf_eq (place : Nat) : after.typeOf place = session.typeOf place := by
  have type (own : Session α) : own.typeOf place =
      ((own.pools[place]?).map Pool.descriptor).elim .default (·.type) := by
    rw [Option.elim_map]
    rfl
  rw [type, type, keeps.descriptor?_eq]

theorem startScheduledIn_isSome (place : Nat) :
    (after.startScheduledIn place).isSome = (session.startScheduledIn place).isSome := by
  have pools_eq : after.scheduler.governor.builtScheduled =
      session.scheduler.governor.builtScheduled := keeps.scheduledPools_eq
  simp only [startScheduledIn, pools_eq]
  cases session.scheduler.governor.builtScheduled[place]? with
  | none => rfl
  | some pool => cases h : pool.start <;> simp [h]

theorem advanceSchedule_isSome (schedule : Schedule) :
    (after.advanceSchedule schedule).isSome = (session.advanceSchedule schedule).isSome := by
  have pools_eq : after.scheduler.governor.builtScheduled =
      session.scheduler.governor.builtScheduled := keeps.scheduledPools_eq
  simp only [advanceSchedule, pools_eq, keeps.clock_eq]
  cases session.scheduler.governor.builtScheduled[schedule.place]? with
  | none => rfl
  | some pool =>
      simp only [Option.bind_eq_bind, Option.bind_some]
      cases pool.find? schedule.id with
      | none => rfl
      | some state =>
          obtain ⟨id, isCyclic, phase, executions, failures⟩ := state
          cases phase with
          | sleeping =>
              simp only [Option.bind_some]
              split
              · cases pool.wake schedule.id <;> rfl
              · rfl
          | running =>
              simp only [Option.bind_some]
              cases schedule.script[schedule.begun - 1]? with
              | none => rfl
              | some failed =>
                  simp only [Option.bind_some]
                  cases pool.finish schedule.id failed .zero <;> rfl
          | waiting | ended => rfl

end Keeps

/-- Nothing goes on in a session: all tasks have ended, and no periodic task is due. -/
structure Idle (session : Session α) : Prop where
  ended : ∀ task ∈ session.tasks, task.result.isSome
  works_eq : session.works = []
  still : session.advance = none

namespace Idle

variable (idle : start.Idle)
include idle

/-- As long as time does not pass, scheduled work does not begin to go on. -/
theorem not_startScheduled (keeps : start.Keeps session) {place : Nat} :
    session.startScheduledIn place ≠ some after := by
  intro started
  have isSome := keeps.startScheduledIn_isSome place
  rw [started] at isSome
  obtain ⟨next, started⟩ := Option.isSome_iff_exists.1 isSome.symm
  obtain ⟨_, advanced⟩ := (Happens.startScheduled place started).exists_advance
  cases idle.still.symm.trans advanced

theorem not_advanceSchedule (keeps : start.Keeps session) {schedule : Schedule}
    (mem : schedule ∈ session.schedules) : session.advanceSchedule schedule ≠ some after := by
  intro advanced
  have isSome := keeps.advanceSchedule_isSome schedule
  rw [advanced] at isSome
  obtain ⟨next, advanced⟩ := Option.isSome_iff_exists.1 isSome.symm
  obtain ⟨_, advanced⟩ :=
    (Happens.advanceSchedule (keeps.schedules_eq ▸ mem) advanced).exists_advance
  cases idle.still.symm.trans advanced

theorem result_ne_none {id : Nat} {standing : Standing α}
    (known : start.standing? id = some standing) : standing.result ≠ none := by
  obtain ⟨task, found, -, rfl⟩ := exists_task known
  exact Option.isSome_iff_ne_none.1 (idle.ended task (List.mem_of_find?_eq_some found))

end Idle

end Session
end ClusterMember
