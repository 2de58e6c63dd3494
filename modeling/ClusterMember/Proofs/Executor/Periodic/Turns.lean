import ClusterMember.Executor.Periodic.Course
import ClusterMember.Proofs.Executor.Schedule
import Mathlib.Data.List.Nodup
import Mathlib.Tactic.Common

/-!
# Turns of periodic work

Whatever happens to one piece of work in a pool is one of seven turns.  A turn takes a slot when a
body begins and gives it back when the body is over, in whatever way, and the books of the pool
follow the runs of the work.
-/

namespace ClusterMember

/-- Work goes over to a phase. -/
def PeriodicTask.enter (phase : PeriodicPhase) (task : PeriodicTask) : PeriodicTask :=
  { task with phase }

namespace PeriodicPool

variable {pool after : PeriodicPool} {task : Nat} {entry : PeriodicTask}

/-- What can become of known work in one step: whether it is cancelled, what it is then, what its
story tells, and the pool. -/
inductive Turn (pool : PeriodicPool) (task : Nat) (entry : PeriodicTask) :
    Bool → (PeriodicTask → PeriodicTask) → (PeriodicStory → PeriodicStory) → PeriodicPool → Prop
  | woken (asleep : entry.phase = .sleeping) (isOpen : pool.isShut = false) :
      Turn pool task entry false (.enter .waiting) id
        { pool with
          tasks := modify task (.enter .waiting) pool.tasks
          queue := pool.queue ++ [task] }
  | started (waits : entry.phase = .waiting) (isOpen : pool.isShut = false)
      (room : 0 < pool.slots) :
      Turn pool task entry false (.enter .running) .began
        { pool with
          slots := pool.slots - 1
          queue := pool.queue.filter (· ≠ task)
          tasks := modify task (.enter .running) pool.tasks }
  | finished (runs : entry.phase = .running) (call : BodyCall) (elapsed : Duration) :
      Turn pool task entry false (afterRun call.failed) (.ended (.ran call))
        { pool with
          slots := pool.slots + 1
          latency := pool.latency.record elapsed
          tasks := modify task (afterRun call.failed) pool.tasks }
  | cancelledAsleep (asleep : entry.phase = .sleeping) :
      Turn pool task entry true (.enter .ended) .cancelled
        { pool with tasks := modify task (.enter .ended) pool.tasks }
  | cancelledWaiting (waits : entry.phase = .waiting) :
      Turn pool task entry true (.enter .ended) .cancelled
        { pool with
          tasks := modify task (.enter .ended) pool.tasks
          queue := pool.queue.filter (· ≠ task) }
  | cancelledRunning (runs : entry.phase = .running) (elapsed : Duration) :
      Turn pool task entry true (.enter .ended) .cancelled
        { pool with
          tasks := modify task (.enter .ended) pool.tasks
          slots := pool.slots + 1
          latency := pool.latency.record elapsed }
  | turnedAway (isShut : pool.isShut = true)
      (idle : entry.phase = .sleeping ∨ entry.phase = .waiting) :
      Turn pool task entry false refused id
        { pool with
          queue := pool.queue.filter (· ≠ task)
          tasks := modify task refused pool.tasks }

theorem exists_of_phase? {phase : PeriodicPhase} (known : pool.phase? task = some phase) :
    ∃ entry, pool.find? task = some entry ∧ entry.phase = phase :=
  Option.map_eq_some_iff.1 known

theorem phase?_of_find? (there : pool.find? task = some entry) :
    pool.phase? task = some entry.phase := by
  rw [phase?, there, Option.map_some]

/-- Whatever an operation on work comes to is a turn of the work. -/
def Turns (pool : PeriodicPool) (task : Nat) (isCut : Bool)
    (tell : PeriodicStory → PeriodicStory) (outcome : Option PeriodicPool) : Prop :=
  ∀ after, outcome = some after → ∃ entry change, pool.find? task = some entry ∧
    pool.Turn task entry isCut change tell after

theorem turns_wake (pool : PeriodicPool) (task : Nat) :
    pool.Turns task false id (pool.wake task) := by
  intro after woken
  unfold wake at woken
  split at woken
  next there =>
    split at woken
    next => cases woken
    next isOpen =>
      cases woken
      exact ⟨_, _, there, .woken rfl (by simpa using isOpen)⟩
  next => cases woken

theorem turns_giveSlot (pool : PeriodicPool) (task : Nat) :
    pool.Turns task false .began (pool.giveSlot task) := by
  intro after given
  unfold giveSlot at given
  split at given
  next ready =>
    obtain ⟨waits, isOpen, room⟩ := ready
    obtain ⟨entry, there, phase_eq⟩ := exists_of_phase? waits
    cases given
    exact ⟨entry, _, there, .started phase_eq isOpen room⟩
  next => cases given

theorem turns_finish (pool : PeriodicPool) (task : Nat) (call : BodyCall) (elapsed : Duration) :
    pool.Turns task false (.ended (.ran call)) (pool.finish task call.failed elapsed) := by
  intro after finished
  unfold finish at finished
  split at finished
  next there =>
    cases finished
    exact ⟨_, _, there, .finished rfl call elapsed⟩
  next => cases finished

theorem turns_cancel (pool : PeriodicPool) (task : Nat) (elapsed : Duration) :
    pool.Turns task true .cancelled (pool.cancel task elapsed) := by
  intro after cancelled
  unfold cancel at cancelled
  split at cancelled
  next there =>
    cases cancelled
    exact ⟨_, _, there, .cancelledAsleep rfl⟩
  next there =>
    cases cancelled
    exact ⟨_, _, there, .cancelledWaiting rfl⟩
  next there =>
    cases cancelled
    exact ⟨_, _, there, .cancelledRunning rfl elapsed⟩
  next => cases cancelled

theorem turns_turnAway (pool : PeriodicPool) (task : Nat) :
    pool.Turns task false id (pool.turnAway task) := by
  intro after turned
  unfold turnAway at turned
  split at turned
  next shut =>
    obtain ⟨isShut, asleep | waits⟩ := shut <;> cases turned
    · obtain ⟨entry, there, phase_eq⟩ := exists_of_phase? asleep
      exact ⟨entry, _, there, .turnedAway isShut (.inl phase_eq)⟩
    · obtain ⟨entry, there, phase_eq⟩ := exists_of_phase? waits
      exact ⟨entry, _, there, .turnedAway isShut (.inr phase_eq)⟩
  next => cases turned

theorem find?_modify_ne {change : PeriodicTask → PeriodicTask}
    (id_eq : ∀ entry, (change entry).id = entry.id) {other : Nat} (ne : other ≠ task)
    (tasks : List PeriodicTask) :
    (modify task change tasks).find? (·.id = other) = tasks.find? (·.id = other) := by
  induction tasks with
  | nil => rfl
  | cons first rest induction =>
      simp only [modify, List.map_cons, List.find?_cons] at induction ⊢
      by_cases same : first.id = task
      · have differs : first.id ≠ other := fun eq => ne (eq.symm.trans same)
        simp [same, id_eq, induction, ne.symm]
      · simp [same, induction]

/-- Work neither runs nor waits after a run. -/
theorem idle_afterRun (failed : Bool) (entry : PeriodicTask) :
    (afterRun failed entry).phase ≠ .running ∧ (afterRun failed entry).phase ≠ .waiting := by
  unfold afterRun
  split <;> simp

theorem idle_refused (entry : PeriodicTask) :
    (refused entry).phase ≠ .running ∧ (refused entry).phase ≠ .waiting := by
  unfold refused
  cases entry.isCyclic <;> simp

namespace Turn

variable {isCut : Bool} {change : PeriodicTask → PeriodicTask}
  {tell : PeriodicStory → PeriodicStory}

theorem isShut_eq (turn : pool.Turn task entry isCut change tell after) :
    after.isShut = pool.isShut := by
  cases turn <;> rfl

theorem tasks_eq (turn : pool.Turn task entry isCut change tell after) :
    after.tasks = modify task change pool.tasks := by
  cases turn <;> rfl

/-- A turn changes neither the number of work nor its kind. -/
theorem keeps (turn : pool.Turn task entry isCut change tell after) (other : PeriodicTask) :
    (change other).id = other.id ∧ (change other).isCyclic = other.isCyclic := by
  cases turn with
  | finished =>
      refine ⟨id_afterRun _ other, ?_⟩
      unfold afterRun
      split <;> rfl
  | _ => exact ⟨rfl, rfl⟩

theorem find?_eq (turn : pool.Turn task entry isCut change tell after)
    (there : pool.find? task = some entry) : after.find? task = some (change entry) := by
  rw [find?, turn.tasks_eq, find?_modify fun other => (turn.keeps other).1]
  rw [show pool.tasks.find? _ = some entry from there, Option.map_some]

/-- A turn leaves other work alone. -/
theorem find?_of_ne (turn : pool.Turn task entry isCut change tell after) {other : Nat}
    (ne : other ≠ task) : after.find? other = pool.find? other := by
  rw [find?, turn.tasks_eq, find?_modify_ne (fun other => (turn.keeps other).1) ne, find?]

/-- Work that has ended has no more turns. -/
theorem phase_ne (turn : pool.Turn task entry isCut change tell after) : entry.phase ≠ .ended := by
  cases turn with
  | turnedAway _ idle => rcases idle with asleep | waits <;> simp [*]
  | _ => simp [*]

/-- Only being cancelled ends a schedule. -/
theorem phase_change_ne (turn : pool.Turn task entry false change tell after)
    (isCyclic : entry.isCyclic = true) : (change entry).phase ≠ .ended := by
  cases turn with
  | finished => simp [afterRun, isCyclic]
  | turnedAway => simp [refused, isCyclic]
  | _ => simp [PeriodicTask.enter]

/-- Work that is cancelled has ended. -/
theorem phase_change_eq (turn : pool.Turn task entry true change tell after) :
    (change entry).phase = .ended := by
  cases turn <;> rfl

/-- A turn takes a slot when a body begins, and gives it back when the body is over. -/
theorem slots_add (turn : pool.Turn task entry isCut change tell after) :
    after.slots + (if (change entry).phase = .running then 1 else 0) =
      pool.slots + if entry.phase = .running then 1 else 0 := by
  cases turn with
  | woken asleep => simp [PeriodicTask.enter, asleep]
  | started waits _ room =>
      simp only [PeriodicTask.enter, waits]
      exact Nat.sub_add_cancel room
  | finished runs call =>
      rw [if_neg (idle_afterRun call.failed entry).1, if_pos runs]
  | cancelledAsleep asleep => simp [PeriodicTask.enter, asleep]
  | cancelledWaiting waits => simp [PeriodicTask.enter, waits]
  | cancelledRunning runs => simp [PeriodicTask.enter, runs]
  | turnedAway _ idle =>
      rw [if_neg (idle_refused entry).1]
      rcases idle with asleep | waits <;> simp [*]

/-- A turn puts work into the queue when it asks for a slot, and takes it out when it does not wait
any more. -/
theorem mem_queue (turn : pool.Turn task entry isCut change tell after)
    (queued : task ∈ pool.queue ↔ entry.phase = .waiting) (other : Nat) :
    other ∈ after.queue ↔
      if other = task then (change entry).phase = .waiting else other ∈ pool.queue := by
  by_cases eq : other = task
  · subst eq
    cases turn with
    | finished runs call => simp [queued, runs, (idle_afterRun call.failed entry).2]
    | turnedAway => simp [(idle_refused entry).2]
    | _ => simp_all [PeriodicTask.enter]
  · cases turn <;> simp [eq]

theorem nodup_queue (turn : pool.Turn task entry isCut change tell after)
    (queued : task ∈ pool.queue ↔ entry.phase = .waiting) (nodup : pool.queue.Nodup) :
    after.queue.Nodup := by
  cases turn with
  | woken asleep =>
      have unqueued : task ∉ pool.queue := by simp [queued, asleep]
      exact List.nodup_append.2 ⟨nodup, List.nodup_singleton _, by
        rintro first first_mem second second_mem rfl
        rw [List.mem_singleton] at second_mem
        exact unqueued (second_mem ▸ first_mem)⟩
  | started => exact nodup.filter _
  | cancelledWaiting => exact nodup.filter _
  | turnedAway => exact nodup.filter _
  | _ => exact nodup

end Turn
end PeriodicPool

/-- The pool's entry for work agrees with the runs of the work. -/
structure PeriodicStory.Agrees (story : PeriodicStory) (entry : PeriodicTask) : Prop where
  isCyclic_eq : entry.isCyclic = story.isCyclic
  /-- All runs but the one that goes on are over. -/
  starts_eq : story.starts = story.ends.length + if entry.phase = .running then 1 else 0
  executions_eq : story.isCyclic = true → entry.executions = story.executions
  failures_eq : story.isCyclic = true → entry.failures = story.failures

@[simp]
theorem PeriodicStory.starts_cancelled (story : PeriodicStory) :
    story.cancelled.starts = story.starts := by
  unfold PeriodicStory.cancelled
  split <;> rfl

@[simp]
theorem PeriodicStory.asked_cancelled (story : PeriodicStory) :
    story.cancelled.asked = story.asked := by
  unfold PeriodicStory.cancelled
  split <;> rfl

namespace PeriodicStory.Agrees

variable {story : PeriodicStory} {entry : PeriodicTask}

theorem running_eq (agrees : story.Agrees entry) :
    story.running = if entry.phase = .running then 1 else 0 := by
  rw [PeriodicStory.running, agrees.starts_eq, Nat.add_sub_cancel_left]

theorem running_eq_one_iff (agrees : story.Agrees entry) :
    story.running = 1 ↔ entry.phase = .running := by
  rw [agrees.running_eq]
  split <;> simp [*]

theorem cancelled_eq (agrees : story.Agrees entry) :
    story.cancelled = if entry.phase = .running then story.ended .cut else story := by
  rw [PeriodicStory.cancelled, agrees.running_eq]
  split <;> simp

theorem fresh (task : Nat) (isCyclic : Bool) :
    (PeriodicStory.fresh isCyclic).Agrees ⟨task, isCyclic, .sleeping, 0, 0⟩ where
  isCyclic_eq := rfl
  starts_eq := rfl
  executions_eq _ := rfl
  failures_eq _ := rfl

/-- The pool knows nothing of work that is asked to stop. -/
theorem ask (agrees : story.Agrees entry) : story.ask.Agrees entry :=
  ⟨agrees.isCyclic_eq, agrees.starts_eq, agrees.executions_eq, agrees.failures_eq⟩

/-- Work that is not running goes over to another phase without a run. -/
theorem enter (agrees : story.Agrees entry) (idle : entry.phase ≠ .running) {phase : PeriodicPhase}
    (idle' : phase ≠ .running) : story.Agrees { entry with phase } where
  isCyclic_eq := agrees.isCyclic_eq
  starts_eq := by
    have starts_eq := agrees.starts_eq
    rw [if_neg idle] at starts_eq
    exact starts_eq.trans (by rw [if_neg idle'])
  executions_eq := agrees.executions_eq
  failures_eq := agrees.failures_eq

/-- A run is over that went on. -/
theorem ended (agrees : story.Agrees entry) (runs : entry.phase = .running) (bodyEnd : BodyEnd)
    {after : PeriodicTask} (idle : after.phase ≠ .running)
    (isCyclic_eq : after.isCyclic = entry.isCyclic)
    (executions_eq : entry.isCyclic = true →
      after.executions = entry.executions + if bodyEnd.isComplete then 1 else 0)
    (failures_eq : entry.isCyclic = true →
      after.failures = entry.failures + if bodyEnd.hasFailed then 1 else 0) :
    (story.ended bodyEnd).Agrees after where
  isCyclic_eq := isCyclic_eq.trans agrees.isCyclic_eq
  starts_eq := by
    have starts_eq := agrees.starts_eq
    rw [if_pos runs] at starts_eq
    rw [if_neg idle]
    simpa [PeriodicStory.ended] using starts_eq
  executions_eq isCyclic := by
    rw [executions_eq (agrees.isCyclic_eq.trans isCyclic), agrees.executions_eq isCyclic]
    simp [PeriodicStory.ended, PeriodicStory.executions]
  failures_eq isCyclic := by
    rw [failures_eq (agrees.isCyclic_eq.trans isCyclic), agrees.failures_eq isCyclic]
    simp [PeriodicStory.ended, PeriodicStory.failures]

end PeriodicStory.Agrees

namespace PeriodicPool.Turn

variable {pool after : PeriodicPool} {task : Nat} {entry : PeriodicTask} {isCut : Bool}
  {change : PeriodicTask → PeriodicTask} {tell : PeriodicStory → PeriodicStory}
  {story : PeriodicStory}

/-- The entry for work still agrees with its runs after a turn. -/
theorem agrees (turn : pool.Turn task entry isCut change tell after) (agrees : story.Agrees entry) :
    (tell story).Agrees (change entry) := by
  cases turn with
  | woken asleep => exact agrees.enter (by simp [asleep]) (by decide)
  | started waits =>
      refine ⟨agrees.isCyclic_eq, ?_, agrees.executions_eq, agrees.failures_eq⟩
      have starts_eq := agrees.starts_eq
      rw [waits] at starts_eq
      exact congrArg (· + 1) starts_eq
  | finished runs call =>
      refine agrees.ended runs (.ran call) (idle_afterRun call.failed entry).1 ?_ ?_ ?_
      · unfold afterRun
        split <;> rfl
      · intro isCyclic
        simp [afterRun, isCyclic, BodyEnd.isComplete]
      · intro isCyclic
        cases failed : call.failed <;> simp [afterRun, isCyclic, BodyEnd.hasFailed, failed]
  | cancelledAsleep asleep =>
      have idle : entry.phase ≠ .running := by simp [asleep]
      rw [agrees.cancelled_eq, if_neg idle]
      exact agrees.enter idle (by decide)
  | cancelledWaiting waits =>
      have idle : entry.phase ≠ .running := by simp [waits]
      rw [agrees.cancelled_eq, if_neg idle]
      exact agrees.enter idle (by decide)
  | cancelledRunning runs =>
      rw [agrees.cancelled_eq, if_pos runs]
      exact agrees.ended runs .cut (by simp [PeriodicTask.enter]) rfl (fun _ => rfl) fun _ => rfl
  | turnedAway _ idle =>
      refine agrees.enter ?_ (idle_refused entry).1
      rcases idle with asleep | waits <;> simp [*]

/-- The pool times a run when it is over, and only then. -/
theorem latency_add (turn : pool.Turn task entry isCut change tell after)
    (agrees : story.Agrees entry) :
    after.latency.count + story.ends.length = pool.latency.count + (tell story).ends.length := by
  cases turn with
  | finished =>
      simp only [PeriodicStory.ended, List.length_append, List.length_singleton]
      exact Nat.add_right_comm _ _ _
  | cancelledAsleep asleep => rw [agrees.cancelled_eq, if_neg (by simp [asleep])]
  | cancelledWaiting waits => rw [agrees.cancelled_eq, if_neg (by simp [waits])]
  | cancelledRunning runs =>
      rw [agrees.cancelled_eq, if_pos runs]
      simp only [PeriodicStory.ended, List.length_append, List.length_singleton]
      exact Nat.add_right_comm _ _ _
  | _ => rfl

/-- A turn takes back no beginning of a body, and nothing of when work was asked to stop. -/
theorem starts_le (turn : pool.Turn task entry isCut change tell after) (story : PeriodicStory) :
    story.starts ≤ (tell story).starts ∧ (tell story).asked = story.asked := by
  cases turn with
  | started => exact ⟨Nat.le_succ _, rfl⟩
  | cancelledAsleep | cancelledWaiting | cancelledRunning =>
      exact ⟨Nat.le_of_eq story.starts_cancelled.symm, story.asked_cancelled⟩
  | woken | finished | turnedAway => exact ⟨Nat.le_refl _, rfl⟩

/-- No body begins in a pool that is shut down. -/
theorem starts_of_isShut (turn : pool.Turn task entry isCut change tell after)
    (isShut : pool.isShut = true) (story : PeriodicStory) : (tell story).starts = story.starts := by
  cases turn with
  | started _ isOpen => rw [isShut] at isOpen; cases isOpen
  | cancelledAsleep | cancelledWaiting | cancelledRunning => exact story.starts_cancelled
  | _ => rfl

end PeriodicPool.Turn
end ClusterMember
