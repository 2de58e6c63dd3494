import ClusterMember.Executor.Pool
import ClusterMember.Proofs.Keyed
import Mathlib.Data.List.Nodup
import Mathlib.Tactic.Common

/-!
# The balance of a pool

The permits of a pool that are not free are held by its tasks, one by each, and its slots by those
of its tasks that run.  What a pool does to one task leaves all others alone.
-/

namespace ClusterMember
namespace Pool

variable {pool after : Pool} {task : Nat} {tasks : List (Nat × TaskPhase)}

/-- The pool has taken the task, and it has not ended. -/
def Holds (pool : Pool) (task : Nat) : Prop := (pool.phase? task).isSome

/-- The task runs with its submitter, and it has not ended. -/
def Hosts (pool : Pool) (task : Nat) : Prop := (pool.guestPhase? task).isSome

/-- The permits and the slots of a pool are free or with its tasks. -/
structure Balanced (pool : Pool) : Prop where
  nodup : (pool.tasks.map Prod.fst).Nodup
  /-- Each task holds a permit. -/
  permits_add : pool.permits + pool.tasks.length = pool.descriptor.capacity
  /-- Each running task holds a slot. -/
  slots_add : pool.slots + pool.tasks.countP (·.2 = .running) = pool.descriptor.max

theorem not_holds_iff : ¬pool.Holds task ↔ pool.phase? task = none :=
  Option.not_isSome_iff_eq_none

theorem not_hosts_iff : ¬pool.Hosts task ↔ pool.guestPhase? task = none :=
  Option.not_isSome_iff_eq_none

/-! ## Changes of one entry -/

@[simp]
theorem keys_setPhase (task : Nat) (phase : TaskPhase) (tasks : List (Nat × TaskPhase)) :
    (setPhase task phase tasks).map Prod.fst = tasks.map Prod.fst := by
  rw [setPhase, List.map_map]
  refine List.map_congr_left fun entry _ => ?_
  simp only [Function.comp_apply]
  split
  next eq => exact eq.symm
  next => rfl

theorem keys_forget_sublist (task : Nat) (tasks : List (Nat × TaskPhase)) :
    ((forget task tasks).map Prod.fst).Sublist (tasks.map Prod.fst) :=
  List.filter_sublist.map _

theorem forget_of_notMem (absent : task ∉ tasks.map Prod.fst) : forget task tasks = tasks := by
  refine List.filter_eq_self.2 fun entry mem => ?_
  simp only [ne_eq, decide_eq_true_eq]
  rintro rfl
  exact absent (List.mem_map_of_mem mem)

theorem setPhase_of_notMem (phase : TaskPhase) (absent : task ∉ tasks.map Prod.fst) :
    setPhase task phase tasks = tasks := by
  refine (List.map_congr_left fun entry mem => ?_).trans tasks.map_id
  have ne : entry.1 ≠ task := by
    rintro rfl
    exact absent (List.mem_map_of_mem mem)
  rw [if_neg ne, id]

/-- A count over the tasks loses what the forgotten one counted. -/
theorem countP_forget (counts : Nat × TaskPhase → Bool) (nodup : (tasks.map Prod.fst).Nodup)
    {phase : TaskPhase} (known : tasks.lookup task = some phase) :
    (forget task tasks).countP counts + (counts (task, phase)).toNat = tasks.countP counts := by
  induction tasks with
  | nil => cases known
  | cons entry rest induction =>
      obtain ⟨key, state⟩ := entry
      rw [List.map_cons, List.nodup_cons] at nodup
      rw [lookup_cons_eq_ite] at known
      by_cases eq : task = key
      · subst eq
        rw [if_pos rfl, Option.some.injEq] at known
        subst known
        have rest_eq := forget_of_notMem nodup.1
        simp only [forget] at rest_eq ⊢
        rw [List.filter_cons_of_neg (by simp), rest_eq, List.countP_cons]
        cases counts (task, state) <;> rfl
      · rw [if_neg eq] at known
        have rest_count := induction nodup.2 known
        simp only [forget] at rest_count ⊢
        rw [List.filter_cons_of_pos (by simpa using Ne.symm eq), List.countP_cons, List.countP_cons]
        omega

/-- A count over the tasks changes by what the changed one counts. -/
theorem countP_setPhase (counts : Nat × TaskPhase → Bool) (nodup : (tasks.map Prod.fst).Nodup)
    {before : TaskPhase} (phase : TaskPhase) (known : tasks.lookup task = some before) :
    (setPhase task phase tasks).countP counts + (counts (task, before)).toNat =
      tasks.countP counts + (counts (task, phase)).toNat := by
  induction tasks with
  | nil => cases known
  | cons entry rest induction =>
      obtain ⟨key, state⟩ := entry
      rw [List.map_cons, List.nodup_cons] at nodup
      rw [lookup_cons_eq_ite] at known
      by_cases eq : task = key
      · subst eq
        rw [if_pos rfl, Option.some.injEq] at known
        subst known
        have rest_eq := setPhase_of_notMem phase nodup.1
        simp only [setPhase] at rest_eq ⊢
        rw [List.map_cons, rest_eq, if_pos rfl, List.countP_cons, List.countP_cons]
        cases counts (task, state) <;> cases counts (task, phase) <;> simp
      · rw [if_neg eq] at known
        have rest_count := induction nodup.2 known
        simp only [setPhase] at rest_count ⊢
        rw [List.map_cons, if_neg (Ne.symm eq), List.countP_cons, List.countP_cons]
        omega

/-! ## What a pool does to its tasks -/

/-- A pool has nothing to do with a task once it has forgotten it, and knows all others as before. -/
structure Forgets (pool : Pool) (task : Nat) (after : Pool) : Prop where
  descriptor_eq : after.descriptor = pool.descriptor
  isShut_eq : after.isShut = pool.isShut
  phase?_eq : ∀ other, after.phase? other = if other = task then none else pool.phase? other
  guestPhase?_eq : ∀ other,
    after.guestPhase? other = if other = task then none else pool.guestPhase? other
  /-- It is balanced if it was. -/
  balanced : pool.Balanced → after.Balanced

theorem balanced_build (descriptor : PoolDescriptor) : (build descriptor).Balanced where
  nodup := List.nodup_nil
  permits_add := rfl
  slots_add := rfl

theorem Balanced.close (balanced : pool.Balanced) : pool.close.Balanced :=
  ⟨balanced.nodup, balanced.permits_add, balanced.slots_add⟩

/-- A pool takes a task that it does not hold. -/
theorem Balanced.take (balanced : pool.Balanced) (fresh : ¬pool.Holds task)
    (room : 0 < pool.permits) :
    ({ pool with permits := pool.permits - 1, tasks := pool.tasks ++ [(task, .waiting)] } :
      Pool).Balanced where
  nodup := by
    rw [List.map_append, List.nodup_append]
    refine ⟨balanced.nodup, List.nodup_singleton _, ?_⟩
    intro known mem other isNew eq
    rw [List.map_singleton, List.mem_singleton] at isNew
    rw [eq, isNew] at mem
    exact fresh ((Keyed.isSome_lookup_iff _ _).2 mem)
  permits_add := by
    have permits_add := balanced.permits_add
    simp only [List.length_append, List.length_singleton]
    omega
  slots_add := by
    have slots_add := balanced.slots_add
    simpa using slots_add

/-- A task that begins leaves the pool in balance, and the pool knows the same tasks as before. -/
theorem start_spec (started : pool.start task = some after) :
    after.descriptor = pool.descriptor ∧ after.isShut = pool.isShut ∧
      (∀ other, after.Holds other ↔ pool.Holds other) ∧
      (∀ other, after.Hosts other ↔ pool.Hosts other) ∧ (pool.Balanced → after.Balanced) := by
  have known (tasks : List (Nat × TaskPhase)) (other : Nat) :
      ((setPhase task .running tasks).lookup other).isSome ↔ (tasks.lookup other).isSome := by
    rw [Keyed.isSome_lookup_iff, Keyed.isSome_lookup_iff, keys_setPhase]
  rcases start_cases started with ⟨-, free, waiting, rfl⟩ | ⟨-, rfl⟩
  · refine ⟨rfl, rfl, known pool.tasks, fun _ => Iff.rfl, fun balanced => ⟨?_, ?_, ?_⟩⟩
    · simpa using balanced.nodup
    · simpa [setPhase] using balanced.permits_add
    · have slots_add := balanced.slots_add
      have count := countP_setPhase (fun entry => entry.2 = .running) balanced.nodup .running waiting
      simp only [reduceCtorEq, decide_false, Bool.toNat_false, decide_true, Bool.toNat_true] at count
      simp only
      omega
  · exact ⟨rfl, rfl, fun _ => Iff.rfl, known pool.guests,
      fun balanced => ⟨balanced.nodup, balanced.permits_add, balanced.slots_add⟩⟩

/-- Forgetting a task that waits or runs gives back its permit, and its slot if it has one. -/
theorem forgets_of_held {phase : TaskPhase} (held : pool.phase? task = some phase)
    (notHosted : ¬pool.Hosts task) (latency : Latency) :
    pool.Forgets task
      { pool with permits := pool.permits + 1
                  slots := pool.slots + (decide (phase = .running)).toNat
                  tasks := forget task pool.tasks
                  latency } where
  descriptor_eq := rfl
  isShut_eq := rfl
  phase?_eq other := lookup_forget task pool.tasks other
  guestPhase?_eq other := by
    split
    next eq => rw [eq]; exact not_hosts_iff.1 notHosted
    next => rfl
  balanced balanced := by
    have length_eq := countP_forget (fun _ => true) balanced.nodup held
    have running_eq := countP_forget (fun entry => entry.2 = .running) balanced.nodup held
    simp only [List.countP_true, Bool.toNat_true] at length_eq running_eq
    have permits_add := balanced.permits_add
    have slots_add := balanced.slots_add
    refine ⟨balanced.nodup.sublist (keys_forget_sublist task pool.tasks), ?_, ?_⟩
    · simp only
      omega
    · simp only
      omega

/-- A task that runs with its submitter holds neither a permit nor a slot. -/
theorem forgets_of_not_holds (notHeld : ¬pool.Holds task)
    (latency : Latency) :
    pool.Forgets task { pool with guests := forget task pool.guests, latency } where
  descriptor_eq := rfl
  isShut_eq := rfl
  phase?_eq other := by
    split
    next eq => rw [eq]; exact not_holds_iff.1 notHeld
    next => rfl
  guestPhase?_eq other := lookup_forget task pool.guests other
  balanced balanced := ⟨balanced.nodup, balanced.permits_add, balanced.slots_add⟩

/-- The body of a task ends that the pool holds or that runs with its submitter. -/
theorem forgets_of_finish {elapsed : Duration} (apart : pool.Holds task → ¬pool.Hosts task)
    (finished : pool.finish task elapsed = some after) : pool.Forgets task after := by
  rcases finish_cases finished with ⟨running, rfl⟩ | ⟨running, rfl⟩
  · have held : pool.Holds task := by simp [Holds, running]
    exact forgets_of_held running (apart held) _
  · have hosted : pool.Hosts task := by simp [Hosts, running]
    exact forgets_of_not_holds (fun held => apart held hosted) _

/-- A task is cancelled that the pool holds or that runs with its submitter. -/
theorem forgets_of_abort {elapsed : Duration} (apart : pool.Holds task → ¬pool.Hosts task)
    (aborted : pool.abort task elapsed = some after) : pool.Forgets task after := by
  rcases abort_cases aborted with ⟨waiting, rfl⟩ | ⟨waiting, rfl⟩ | finished
  · have held : pool.Holds task := by simp [Holds, waiting]
    exact forgets_of_held waiting (apart held) pool.latency
  · have hosted : pool.Hosts task := by simp [Hosts, waiting]
    exact forgets_of_not_holds (fun held => apart held hosted) pool.latency
  · exact forgets_of_finish apart finished

/-- A pool can cancel each task that it holds. -/
theorem exists_abort_of_holds (held : pool.Holds task) (elapsed : Duration) :
    ∃ after, pool.abort task elapsed = some after := by
  refine Option.ne_none_iff_exists'.1 fun none => ?_
  rw [abort_eq_none_iff] at none
  simp [Holds, none.1] at held

/-- A pool can cancel each task that runs with its submitter. -/
theorem exists_abort_of_hosts (hosted : pool.Hosts task) (elapsed : Duration) :
    ∃ after, pool.abort task elapsed = some after := by
  refine Option.ne_none_iff_exists'.1 fun none => ?_
  rw [abort_eq_none_iff] at none
  simp [Hosts, none.2] at hosted

/-- Cancelling some tasks that are no guests makes the pool forget them. -/
theorem abortAll_spec (elapsed : Duration) (cut : List Nat) (pool : Pool)
    (notHosted : ∀ task ∈ cut, ¬pool.Hosts task) :
    (∀ other, (abortAll elapsed cut pool).phase? other =
        if other ∈ cut then none else pool.phase? other) ∧
      (∀ other, (abortAll elapsed cut pool).guestPhase? other = pool.guestPhase? other) ∧
      (pool.Balanced → (abortAll elapsed cut pool).Balanced) := by
  induction cut generalizing pool with
  | nil => exact ⟨fun _ => by simp [abortAll], fun _ => rfl, id⟩
  | cons task cut induction =>
      rw [List.forall_mem_cons] at notHosted
      obtain ⟨notHosted_task, notHosted_rest⟩ := notHosted
      rw [abortAll]
      cases aborted : pool.abort task elapsed with
      | none =>
          obtain ⟨phase_eq, guest_eq, balanced⟩ := induction pool notHosted_rest
          refine ⟨fun other => ?_, guest_eq, balanced⟩
          rw [Option.getD_none, phase_eq]
          by_cases eq : other = task
          · simp [eq, (abort_eq_none_iff.1 aborted).1]
          · simp [eq]
      | some after =>
          have forgets := forgets_of_abort (fun _ => notHosted_task) aborted
          have guests_eq (other : Nat) : after.guestPhase? other = pool.guestPhase? other := by
            rw [forgets.guestPhase?_eq]
            split
            next eq => rw [eq, not_hosts_iff.1 notHosted_task]
            next => rfl
          obtain ⟨phase_eq, guest_eq, balanced⟩ := induction after fun other mem => by
            simpa [Hosts, guests_eq] using notHosted_rest other mem
          refine ⟨fun other => ?_, fun other => (guest_eq other).trans (guests_eq other),
            fun before => balanced (forgets.balanced before)⟩
          rw [Option.getD_some, phase_eq, forgets.phase?_eq]
          by_cases eq : other = task <;> simp [eq]

/-- A pool and a state of it after it has been shut down: it holds no task any more, and its guests
go on. -/
structure Shuts (pool after : Pool) : Prop where
  descriptor_eq : after.descriptor = pool.descriptor
  isShut : after.isShut = true
  phase?_eq : ∀ other, after.phase? other = none
  guestPhase?_eq : ∀ other, after.guestPhase? other = pool.guestPhase? other
  balanced : pool.Balanced → after.Balanced

theorem Shuts.trans {middle : Pool} (first : pool.Shuts middle) (second : middle.Shuts after) :
    pool.Shuts after where
  descriptor_eq := second.descriptor_eq.trans first.descriptor_eq
  isShut := second.isShut
  phase?_eq := second.phase?_eq
  guestPhase?_eq other := (second.guestPhase?_eq other).trans (first.guestPhase?_eq other)
  balanced := second.balanced ∘ first.balanced

theorem shuts_shutdown (pool : Pool) (elapsed : Duration)
    (apart : ∀ task, pool.Holds task → ¬pool.Hosts task) : pool.Shuts (pool.shutdown elapsed) := by
  obtain ⟨phase_eq, guest_eq, balanced⟩ :=
    abortAll_spec elapsed (pool.tasks.map (·.1)) pool.close fun task mem =>
      apart task ((Keyed.isSome_lookup_iff _ _).2 mem)
  refine ⟨shutdown_descriptor pool elapsed, shutdown_isShut pool elapsed, fun other => ?_, guest_eq,
    fun before => balanced before.close⟩
  refine (phase_eq other).trans ?_
  split
  next => rfl
  next absent =>
    rw [← Option.not_isSome_iff_eq_none]
    exact fun held => absent ((Keyed.isSome_lookup_iff _ _).1 held)

/-- In a pool that is shut down, no guest holds a permit. -/
theorem Shuts.apart (shuts : pool.Shuts after) (task : Nat) (held : after.Holds task) :
    ¬after.Hosts task := by
  rw [Holds, shuts.phase?_eq] at held
  cases held

/-! ## What a pool does with a new task -/

/-- All that a pool does with a task that it does not refuse. -/
theorem spawn_cases {callerCanRun : Bool} {admission : Admission}
    (spawned : pool.spawn task callerCanRun = .ok (after, admission)) :
    pool.isShut = false ∧
      ((0 < pool.permits ∧ admission = .admitted ∧
        after = { pool with permits := pool.permits - 1
                            tasks := pool.tasks ++ [(task, .waiting)] }) ∨
      (pool.permits = 0 ∧ pool.descriptor.rejection = .discard ∧ admission = .discarded ∧
        after = pool) ∨
      (pool.permits = 0 ∧ pool.descriptor.rejection = .callerRuns ∧ admission = .byCaller ∧
        after = { pool with guests := pool.guests ++ [(task, .waiting)] })) := by
  unfold spawn at spawned
  split at spawned
  next => cases spawned
  next isOpen =>
    refine ⟨Bool.not_eq_true _ ▸ isOpen, ?_⟩
    split at spawned
    next full =>
      unfold reject at spawned
      split at spawned
      next => cases spawned
      next policy =>
        cases spawned
        exact .inr (.inl ⟨full, policy, rfl, rfl⟩)
      next policy =>
        split at spawned
        next =>
          cases spawned
          exact .inr (.inr ⟨full, policy, rfl, rfl⟩)
        next => cases spawned
    next room =>
      cases spawned
      exact .inl ⟨Nat.pos_of_ne_zero room, rfl, rfl⟩

/-- Why a pool refuses a task whose submitter could run it. -/
theorem spawn_error_cases {error : Error} (refused : pool.spawn task true = .error error) :
    (pool.isShut = true ∧ error = pool.refusal shutReason) ∨
    (pool.descriptor.rejection = .abort ∧ error = pool.refusal saturatedReason) := by
  unfold spawn at refused
  split at refused
  next isShut =>
    cases refused
    exact .inl ⟨isShut, rfl⟩
  next =>
    split at refused
    next =>
      unfold reject at refused
      split at refused
      next policy =>
        cases refused
        exact .inr ⟨policy, rfl⟩
      next => cases refused
      next => cases refused
    next => cases refused

/-! ## Pools with little to do -/

variable {begun : Pool} {phase : TaskPhase}

theorem phase?_of_mem (nodup : (pool.tasks.map Prod.fst).Nodup)
    (mem : (task, phase) ∈ pool.tasks) : pool.phase? task = some phase := by
  obtain ⟨before, behind, split⟩ := List.append_of_mem mem
  rw [split, List.map_append, List.nodup_append] at nodup
  refine List.lookup_eq_some_iff.2 ⟨before, behind, split, fun entry mem => ?_⟩
  simpa using (nodup.2.2 entry.1 (List.mem_map_of_mem mem) task (by simp)).symm

theorem mem_of_phase? (known : pool.phase? task = some phase) : (task, phase) ∈ pool.tasks := by
  obtain ⟨before, behind, split, -⟩ := List.lookup_eq_some_iff.1 known
  rw [split]
  simp

/-- A pool that holds no task takes the next one. -/
theorem admits_of_idle (balanced : pool.Balanced) (max_pos : 0 < pool.descriptor.max)
    (isOpen : pool.isShut = false) (idle : ∀ task, ¬pool.Holds task) (task : Nat)
    (callerCanRun : Bool) :
    ∃ taken, pool.spawn task callerCanRun = .ok (taken, .admitted) ∧
      taken.descriptor = pool.descriptor ∧ taken.phase? task = some .waiting := by
  have noTasks : pool.tasks = [] := by
    refine List.eq_nil_iff_forall_not_mem.2 fun entry mem => idle entry.1 ?_
    simp [Holds, phase?_of_mem balanced.nodup mem]
  have permits_add := balanced.permits_add
  rw [noTasks, List.length_nil, Nat.add_zero, PoolDescriptor.capacity] at permits_add
  refine ⟨{ pool with permits := pool.permits - 1, tasks := pool.tasks ++ [(task, .waiting)] },
    ?_, rfl, ?_⟩
  · rw [spawn, if_neg (by simp [isOpen]), if_neg (by omega)]
  · simp [phase?, noTasks]

/-- A task that is alone in an open pool can begin. -/
theorem exists_start_of_alone (balanced : pool.Balanced) (max_pos : 0 < pool.descriptor.max)
    (isOpen : pool.isShut = false) (alone : ∀ other, pool.Holds other → other = task)
    (waiting : pool.phase? task = some .waiting) :
    pool.nextWaiting? = some task ∧ ∃ begun, pool.start task = some begun := by
  have known {other : Nat} {phase : TaskPhase} (mem : (other, phase) ∈ pool.tasks) :
      other = task ∧ phase = .waiting := by
    have other_eq := alone other (by simp [Holds, phase?_of_mem balanced.nodup mem])
    subst other_eq
    exact ⟨rfl, Option.some.inj ((phase?_of_mem balanced.nodup mem).symm.trans waiting)⟩
  have running_eq : pool.tasks.countP (·.2 = .running) = 0 := by
    refine List.countP_eq_zero.2 fun entry mem => ?_
    simp [(known mem).2]
  have slots_add := balanced.slots_add
  constructor
  · obtain ⟨entry, found⟩ := Option.isSome_iff_exists.1
      (List.find?_isSome.2 ⟨(task, .waiting), mem_of_phase? waiting, by simp⟩ :
        (pool.tasks.find? (·.2 = .waiting)).isSome)
    rw [nextWaiting?, found, Option.map_some, (known (List.mem_of_find?_eq_some found)).1]
  · exact ⟨_, if_pos ⟨isOpen, by omega, waiting⟩⟩

theorem phase?_of_nextWaiting? (balanced : pool.Balanced)
    (waits : pool.nextWaiting? = some task) : pool.phase? task = some .waiting := by
  obtain ⟨entry, found, rfl⟩ := Option.map_eq_some_iff.1 waits
  have waiting : entry.2 = .waiting := by simpa using List.find?_some found
  exact phase?_of_mem balanced.nodup (waiting ▸ List.mem_of_find?_eq_some found)

theorem phase?_of_start (notHosted : ¬pool.Hosts task) (begins : pool.start task = some begun) :
    begun.phase? task = some .running := by
  rcases start_cases begins with ⟨-, -, waiting, rfl⟩ | ⟨waiting, -⟩
  · simp only [phase?] at waiting
    simp [phase?, waiting]
  · simp [Hosts, waiting] at notHosted

end Pool
end ClusterMember
