import ClusterMember.Proofs.Executor.Session.Steps
import Mathlib.Logic.Function.Basic

/-!
# The core of a session

The course of normal tasks and of chains depends on the normal pools, on the table, on the next free
number and on what is known of each task.  What else a session has (schedules, scheduled pools,
gates, the time, threads for blocking work, the count of reroutings) can change without any of these.
-/

namespace ClusterMember

/-- What is known of a task, apart from how often its body has begun. -/
structure Standing (α : Type) where
  type : ExecutorType
  site : Site α
  result : Option (Except Error α)

/-- Where a task stands. -/
def Task.standing {α : Type} (task : Task α) : Standing α := ⟨task.type, task.site, task.result⟩

/-- What the course of normal tasks and of chains depends on. -/
structure Core (α : Type) where
  pools : List Pool
  table : List (ExecutorType × Nat)
  next : Nat
  /-- The numbers of the tasks. -/
  ids : List Nat
  standing? : Nat → Option (Standing α)

namespace Core

variable {α : Type}

/-- The result of a task, once it is known. -/
def result? (core : Core α) (id : Nat) : Option (Except Error α) :=
  (core.standing? id).bind (·.result)

/-- Put a changed pool into its place. -/
def set (core : Core α) (place : Nat) (pool : Pool) : Core α :=
  { core with pools := core.pools.set place pool }

/-- A task stands at something new. -/
def put (core : Core α) (id : Nat) (standing : Standing α) : Core α :=
  { core with standing? := Function.update core.standing? id (some standing) }

/-- A new task gets the next number. -/
def enter (core : Core α) (standing : Standing α) : Core α :=
  { core.put core.next standing with next := core.next + 1, ids := core.ids ++ [core.next] }

/-- The name of the threads of the pool at a place. -/
def threadOf (core : Core α) (place : Nat) : String :=
  "thread-" ++ ((core.pools[place]?).elim "" (·.descriptor.threadName))

@[simp]
theorem pools_put (core : Core α) (id : Nat) (standing : Standing α) :
    (core.put id standing).pools = core.pools := rfl

@[simp]
theorem pools_set (core : Core α) (place : Nat) (pool : Pool) :
    (core.set place pool).pools = core.pools.set place pool := rfl

@[simp]
theorem pools_enter (core : Core α) (standing : Standing α) :
    (core.enter standing).pools = core.pools := rfl

@[simp]
theorem standing?_set (core : Core α) (place : Nat) (pool : Pool) :
    (core.set place pool).standing? = core.standing? := rfl

@[simp]
theorem next_set (core : Core α) (place : Nat) (pool : Pool) :
    (core.set place pool).next = core.next := rfl

/-- Only the last of two standings of a task counts. -/
theorem put_put (core : Core α) (id : Nat) (first last : Standing α) :
    (core.put id first).put id last = core.put id last := by
  simp only [put, Function.update_idem]

theorem standing?_put (core : Core α) (id : Nat) (standing : Standing α) (other : Nat) :
    (core.put id standing).standing? other =
      if other = id then some standing else core.standing? other :=
  Function.update_apply ..

theorem standing?_enter (core : Core α) (standing : Standing α) (other : Nat) :
    (core.enter standing).standing? other =
      if other = core.next then some standing else core.standing? other :=
  Function.update_apply ..

end Core

namespace Session

variable {α : Type} {session after : Session α}

/-- What is known of the task with a number. -/
def standing? (session : Session α) (id : Nat) : Option (Standing α) :=
  (session.task? id).map Task.standing

/-- The core of a session. -/
def core (session : Session α) : Core α where
  pools := session.pools
  table := session.scheduler.governor.table
  next := session.next
  ids := session.tasks.map Task.id
  standing? := session.standing?

@[simp]
theorem core_pools (session : Session α) : session.core.pools = session.pools := rfl

@[simp]
theorem core_standing? (session : Session α) (id : Nat) :
    session.core.standing? id = session.standing? id := rfl

theorem core_result? (session : Session α) (id : Nat) :
    session.core.result? id = session.result? id := by
  rw [Core.result?, core_standing?, standing?, result?, Option.bind_map]
  rfl

theorem id_of_task? {id : Nat} {task : Task α} (known : session.task? id = some task) :
    task.id = id := by
  simpa using List.find?_some known

theorem standing?_of_task? {id : Nat} {task : Task α} (known : session.task? id = some task) :
    session.standing? id = some task.standing := by
  rw [standing?, known, Option.map_some]

theorem exists_task {id : Nat} {standing : Standing α}
    (known : session.standing? id = some standing) :
    ∃ task, session.task? id = some task ∧ task.id = id ∧ task.standing = standing := by
  obtain ⟨task, found, eq⟩ := Option.map_eq_some_iff.1 known
  exact ⟨task, found, id_of_task? found, eq⟩

theorem result?_of_standing? {id : Nat} {standing : Standing α}
    (known : session.standing? id = some standing) : session.result? id = standing.result := by
  rw [← core_result?, Core.result?, core_standing?, known, Option.bind_some]

/-! ## What the parts of a step do to the core -/

/-- A task is found in a changed row when it is found before the change. -/
theorem find?_map_of_id (tasks : List (Task α)) (change : Task α → Task α)
    (keeps : ∀ task, (change task).id = task.id) (id : Nat) :
    (tasks.map change).find? (·.id = id) = (tasks.find? (·.id = id)).map change := by
  rw [List.find?_map]
  congr 2
  funext task
  simp only [Function.comp_apply, keeps]

theorem task?_setTask (session : Session α) (id : Nat) {change : Task α → Task α}
    (keeps : ∀ task, (change task).id = task.id) (other : Nat) :
    (session.setTask id change).task? other =
      if other = id then (session.task? other).map change else session.task? other := by
  have changed : (session.setTask id change).task? other =
      (session.task? other).map fun task => if task.id = id then change task else task := by
    refine find?_map_of_id session.tasks _ (fun task => ?_) other
    split
    · exact keeps task
    · rfl
  rw [changed]
  split
  next eq =>
    refine Option.map_congr fun task found => ?_
    rw [if_pos ((id_of_task? found).trans eq)]
  next ne =>
    refine (Option.map_congr fun task found => ?_).trans Option.map_id'
    rw [if_neg ((id_of_task? found).trans_ne ne)]

/-- A change of a task that the standing of the task follows. -/
theorem core_setTask (session : Session α) (id : Nat) {change : Task α → Task α}
    (follow : Standing α → Standing α) (keeps : ∀ task, (change task).id = task.id)
    (follows : ∀ task, (change task).standing = follow task.standing) :
    (session.setTask id change).core =
      { session.core with
        standing? := Function.update session.standing? id
          ((session.standing? id).map follow) } := by
  have standing_eq : (session.setTask id change).standing? =
      Function.update session.standing? id ((session.standing? id).map follow) := by
    funext other
    rw [standing?, task?_setTask session id keeps, Function.update_apply]
    split
    next eq =>
      subst eq
      rw [standing?, Option.map_map, Option.map_map]
      congr 1
      funext task
      exact follows task
    next => rfl
  have ids_eq : (session.setTask id change).tasks.map Task.id = session.tasks.map Task.id := by
    rw [setTask, List.map_map]
    refine List.map_congr_left fun task _ => ?_
    simp only [Function.comp_apply]
    split
    · exact keeps task
    · rfl
  simp only [core, standing_eq, ids_eq]
  rfl

@[simp]
theorem core_began (session : Session α) (id : Nat) : (session.began id).core = session.core := by
  rw [began, session.core_setTask id fun standing => standing]
  · rw [Option.map_id_fun', id_eq, Function.update_eq_self]
    rfl
  · exact fun _ => rfl
  · exact fun _ => rfl

@[simp]
theorem core_begin (session : Session α) (id : Nat) : (session.begin id).core = session.core := by
  unfold begin
  split
  · rfl
  · exact core_began session id

@[simp]
theorem core_setPool (session : Session α) (place : Nat) (pool : Pool) :
    (session.setPool place pool).core = session.core.set place pool := rfl

@[simp]
theorem core_setSchedule (session : Session α) (id : Nat) (change : Schedule → Schedule) :
    (session.setSchedule id change).core = session.core := rfl

@[simp]
theorem core_leaveThread (session : Session α) (id : Nat) :
    (session.leaveThread id).core = session.core := rfl

/-- The result of a task is settled. -/
theorem core_resolve (session : Session α) {id : Nat} {standing : Standing α}
    (known : session.standing? id = some standing) (pending : standing.result = none)
    (result : Except Error α) :
    (session.resolve id result).core =
      session.core.put id { standing with result := some result } := by
  rw [resolve, session.core_setTask id fun standing =>
    { standing with result := standing.result.or (some result) }]
  · rw [known, Option.map_some, pending, Option.none_or]
    rfl
  · exact fun _ => rfl
  · exact fun _ => rfl

/-- A task stands at another site. -/
theorem core_setSite (session : Session α) {id : Nat} {standing : Standing α}
    (known : session.standing? id = some standing) (site : Site α) :
    (session.setTask id fun task => { task with site }).core =
      session.core.put id { standing with site } := by
  rw [session.core_setTask id fun standing => { standing with site }]
  · rw [known, Option.map_some]
    rfl
  · exact fun _ => rfl
  · exact fun _ => rfl

/-- A task is added behind the others. -/
theorem core_append (session : Session α) (task : Task α)
    (fresh : session.standing? task.id = none) (next : Nat) :
    ({ session with tasks := session.tasks ++ [task], next } : Session α).core =
      { session.core.put task.id task.standing with
        next
        ids := session.core.ids ++ [task.id] } := by
  have standing_eq : ({ session with tasks := session.tasks ++ [task], next } :
      Session α).standing? =
      Function.update session.standing? task.id (some task.standing) := by
    funext other
    rw [Function.update_apply]
    simp only [standing?, task?, List.find?_append]
    split
    next eq =>
      subst eq
      rw [standing?, task?, Option.map_eq_none_iff] at fresh
      rw [fresh]
      simp
    next ne => simp [Ne.symm ne]
  simp only [core, standing_eq, List.map_append, List.map_singleton]
  rfl

/-- A task that runs with its submitter gets going, unless it cannot. -/
theorem core_startGuest (session : Session α) (place id : Nat) :
    (session.startGuest place id).core = session.core ∨
    ∃ pool begun, session.pools[place]? = some pool ∧ pool.start id = some begun ∧
      (session.startGuest place id).core = session.core.set place begun := by
  unfold startGuest
  split
  next begun started =>
    obtain ⟨pool, found, begins⟩ := Option.bind_eq_some_iff.1 started
    exact .inr ⟨pool, begun, found, begins, core_begin _ _⟩
  next => exact .inl rfl

end Session

/-- Where a task stands that a pool has dealt with. -/
def Admission.standing {α : Type} (type : ExecutorType) (place : Nat) (host : Option Nat)
    (body : Body α) : Admission → Standing α
  | .admitted => ⟨type, .pool place body, none⟩
  | .byCaller => ⟨type, .caller place host body, none⟩
  | .discarded => ⟨type, .nowhere, some (.error (.rejected type discardedReason))⟩

namespace Session

variable {α : Type} {session : Session α}

/-- A task is added that a pool has dealt with, and gets going if it runs with its submitter. -/
theorem core_addTask (fresh : session.standing? session.next = none) (place : Nat)
    (host : Option Nat) (admission : Admission) (body : Body α) :
    let entered := session.core.enter
      (admission.standing (session.typeOf place) place host body)
    (session.addTask place host admission body).core = entered ∨
    ∃ pool begun, session.pools[place]? = some pool ∧ pool.start session.next = some begun ∧
      (session.addTask place host admission body).core = entered.set place begun := by
  cases admission with
  | admitted => exact .inl (core_append _ _ fresh _)
  | discarded => exact .inl (core_append _ _ fresh _)
  | byCaller =>
      have entered := core_append session
        ⟨session.next, session.typeOf place, .caller place host body, 0, none⟩ fresh
        (session.next + 1)
      rcases core_startGuest _ place session.next with same | ⟨pool, begun, found, begins, started⟩
      · exact .inl (same.trans entered)
      · have entered := congrArg (·.set place begun) entered
        exact .inr ⟨pool, begun, found, begins, started.trans entered⟩

end Session
end ClusterMember
