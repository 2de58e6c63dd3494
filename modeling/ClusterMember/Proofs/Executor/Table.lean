import ClusterMember.Proofs.Executor.Registration
import Mathlib.Data.List.Nodup

/-!
# The table of a governor

The table names exactly the normal pools that are not shut down, one of each kind at most and none
for periodic work, and the governor knows exactly the scheduled pool that is not shut down.  All
calls keep this up, so that stopping leaves no pool that takes tasks.
-/

namespace ClusterMember
namespace Governor

/-- The normal pool that was built at a place is of a kind and takes tasks. -/
def IsOpen (governor : Governor) (type : ExecutorType) (place : Nat) : Prop :=
  ∃ pool, governor.built[place]? = some pool ∧ pool.type = type ∧ pool.isShut = false

/-- The scheduled pool that was built at a place takes tasks. -/
def IsScheduledOpen (governor : Governor) (place : Nat) : Prop :=
  ∃ pool, governor.builtScheduled[place]? = some pool ∧ pool.isShut = false

/-- The governor knows its open pools, and has one of each kind at most. -/
structure Orderly (governor : Governor) : Prop where
  /-- The table names the open normal pools. -/
  mem_table : ∀ type place, (type, place) ∈ governor.table ↔ governor.IsOpen type place
  /-- No kind has two pools. -/
  kinds_nodup : (governor.table.map Prod.fst).Nodup
  /-- No normal pool is for periodic work. -/
  scheduled_notMem : .scheduled ∉ governor.table.map Prod.fst
  /-- The scheduled pool is the open one. -/
  scheduled_iff : ∀ place, governor.scheduled = some place ↔ governor.IsScheduledOpen place

theorem place?_eq_none_iff (governor : Governor) (type : ExecutorType) :
    governor.place? type = none ↔ type ∉ governor.table.map Prod.fst := by
  simp only [place?, List.lookup_eq_none_iff, bne_iff_ne, List.mem_map, not_exists, not_and]
  exact ⟨fun absent entry mem eq => absent entry mem eq.symm,
    fun absent entry mem eq => absent entry mem eq.symm⟩

/-- Which scheduled pools are shut down tells which are open. -/
theorem isScheduledOpen_iff (governor : Governor) (place : Nat) :
    governor.IsScheduledOpen place ↔
      (governor.builtScheduled.map (·.isShut))[place]? = some false := by
  rw [IsScheduledOpen, List.getElem?_map, Option.map_eq_some_iff]

/-- What scheduled pools do changes nothing as long as none of them is shut down by it. -/
theorem Orderly.withScheduledPools {governor : Governor} (orderly : governor.Orderly)
    {pools : List PeriodicPool}
    (isShut_eq : pools.map (·.isShut) = governor.builtScheduled.map (·.isShut)) :
    { governor with builtScheduled := pools }.Orderly where
  mem_table := orderly.mem_table
  kinds_nodup := orderly.kinds_nodup
  scheduled_notMem := orderly.scheduled_notMem
  scheduled_iff place := by
    rw [isScheduledOpen_iff, isShut_eq, ← isScheduledOpen_iff]
    exact orderly.scheduled_iff place

theorem orderly_empty (caps : ResourceCaps) : (empty caps).Orderly where
  mem_table type place := by simp [empty, IsOpen]
  kinds_nodup := List.nodup_nil
  scheduled_notMem := List.not_mem_nil
  scheduled_iff place := by simp [empty, IsScheduledOpen]

/-- An entry with a property in a row to which one more is added was there before or is the new
one. -/
theorem exists_getElem?_concat_iff {α : Type} (row : List α) (last : α) (holds : α → Prop)
    (place : Nat) :
    (∃ entry, (row ++ [last])[place]? = some entry ∧ holds entry) ↔
      (∃ entry, row[place]? = some entry ∧ holds entry) ∨ (holds last ∧ place = row.length) := by
  rcases Nat.lt_trichotomy place row.length with before | rfl | behind
  · rw [List.getElem?_append_left before]
    simp [Nat.ne_of_lt before]
  · simp
  · rw [List.getElem?_append_right (Nat.le_of_lt behind)]
    have gap : place - row.length ≠ 0 := by omega
    simp [Nat.ne_of_gt behind, Nat.le_of_lt behind, gap]

/-- What `IsOpen` says once a pool has been built behind the others. -/
theorem isOpen_enterPool_iff (governor : Governor) (descriptor : PoolDescriptor)
    (type : ExecutorType) (place : Nat) :
    (enterPool descriptor governor).IsOpen type place ↔
      governor.IsOpen type place ∨ (descriptor.type = type ∧ place = governor.built.length) := by
  refine (exists_getElem?_concat_iff governor.built _ _ place).trans (or_congr_right ?_)
  exact and_congr_left fun _ => and_iff_left rfl

theorem isScheduledOpen_enterScheduled_iff (governor : Governor) (core : Nat) (daemon : Bool)
    (place : Nat) :
    (enterScheduled core daemon governor).IsScheduledOpen place ↔
      governor.IsScheduledOpen place ∨ place = governor.builtScheduled.length := by
  refine (exists_getElem?_concat_iff governor.builtScheduled _ _ place).trans (or_congr_right ?_)
  exact and_iff_right rfl

theorem Orderly.register {governor : Governor} {descriptor : PoolDescriptor}
    (orderly : governor.Orderly) (admits : governor.Admits descriptor) :
    (countPool descriptor (enterPool descriptor governor)).Orderly where
  mem_table type place := by
    change (type, place) ∈ governor.table ++ [(descriptor.type, governor.built.length)] ↔
      (enterPool descriptor governor).IsOpen type place
    rw [isOpen_enterPool_iff, ← orderly.mem_table, List.mem_append, List.mem_singleton,
      Prod.mk.injEq, eq_comm (a := type)]
  kinds_nodup := by
    change ((governor.table ++ [(descriptor.type, governor.built.length)]).map Prod.fst).Nodup
    rw [List.map_append, List.map_singleton, List.nodup_append]
    refine ⟨orderly.kinds_nodup, List.nodup_singleton _, ?_⟩
    intro type mem other isNew eq
    have absent := (place?_eq_none_iff governor descriptor.type).1 admits.vacant
    rw [List.mem_singleton] at isNew
    rw [eq, isNew] at mem
    exact absent mem
  scheduled_notMem := by
    change .scheduled ∉ (governor.table ++ [(descriptor.type, governor.built.length)]).map Prod.fst
    rw [List.map_append, List.mem_append, List.map_singleton, List.mem_singleton]
    rintro (mem | eq)
    · exact orderly.scheduled_notMem mem
    · exact admits.type_ne eq.symm
  scheduled_iff := orderly.scheduled_iff

theorem Orderly.registerScheduled {governor : Governor} {core : Nat} (daemon : Bool)
    (orderly : governor.Orderly) (admits : governor.AdmitsScheduled core) :
    (countScheduled core (enterScheduled core daemon governor)).Orderly where
  mem_table := orderly.mem_table
  kinds_nodup := orderly.kinds_nodup
  scheduled_notMem := orderly.scheduled_notMem
  scheduled_iff place := by
    change some governor.builtScheduled.length = some place ↔
      (enterScheduled core daemon governor).IsScheduledOpen place
    have noneOpen : ¬governor.IsScheduledOpen place := by
      rw [← orderly.scheduled_iff, admits.vacant]
      simp
    rw [isScheduledOpen_enterScheduled_iff, Option.some.injEq, eq_comm]
    simp [noneOpen]

/-- Pools stay what they are while some of them are shut down. -/
theorem exists_of_getElem?_shutPools {elapsed : Duration} {places : List Nat} {pools : List Pool}
    {place : Nat} {pool : Pool} (found : (shutPools elapsed places pools)[place]? = some pool) :
    ∃ before, pools[place]? = some before ∧ pool.type = before.type ∧
      (pool.isShut = false → before.isShut = false ∧ place ∉ places) := by
  induction places generalizing pools with
  | nil => exact ⟨pool, found, rfl, fun isOpen => ⟨isOpen, List.not_mem_nil⟩⟩
  | cons first places induction =>
      obtain ⟨middle, middle_eq, type_eq, open_imp⟩ := induction found
      rw [List.getElem?_modify, Option.map_eq_map, Option.map_eq_some_iff] at middle_eq
      obtain ⟨before, before_eq, rfl⟩ := middle_eq
      refine ⟨before, before_eq, ?_, fun isOpen => ?_⟩
      · rw [type_eq]
        split
        · simp [Pool.type]
        · rfl
      · obtain ⟨middle_open, notMem⟩ := open_imp isOpen
        split at middle_open
        · simp at middle_open
        next ne => exact ⟨middle_open, List.not_mem_cons_of_ne_of_not_mem (Ne.symm ne) notMem⟩

theorem Orderly.not_isOpen_stop {governor : Governor} (orderly : governor.Orderly)
    (elapsed : Duration) (type : ExecutorType) (place : Nat) :
    ¬(governor.stop elapsed).IsOpen type place := by
  rintro ⟨pool, found, -, isOpen⟩
  obtain ⟨before, before_eq, -, open_imp⟩ := exists_of_getElem?_shutPools found
  obtain ⟨before_open, notMem⟩ := open_imp isOpen
  have entry := (orderly.mem_table before.type place).2 ⟨before, before_eq, rfl, before_open⟩
  exact notMem (List.mem_map.2 ⟨(before.type, place), entry, rfl⟩)

theorem Orderly.not_isScheduledOpen_stop {governor : Governor} (orderly : governor.Orderly)
    (elapsed : Duration) (place : Nat) : ¬(governor.stop elapsed).IsScheduledOpen place := by
  rintro ⟨pool, found, isOpen⟩
  cases registered : governor.scheduled with
  | none =>
      simp only [stop, registered] at found
      have known := (orderly.scheduled_iff place).2 ⟨pool, found, isOpen⟩
      rw [registered] at known
      cases known
  | some own =>
      simp only [stop, registered] at found
      rw [List.getElem?_modify, Option.map_eq_map, Option.map_eq_some_iff] at found
      obtain ⟨before, before_eq, rfl⟩ := found
      split at isOpen
      · simp at isOpen
      next ne =>
        have known := (orderly.scheduled_iff place).2 ⟨before, before_eq, isOpen⟩
        rw [registered] at known
        exact ne (Option.some.inj known)

theorem Orderly.stop {governor : Governor} (orderly : governor.Orderly) (elapsed : Duration) :
    (governor.stop elapsed).Orderly where
  mem_table type place :=
    iff_of_false List.not_mem_nil (orderly.not_isOpen_stop elapsed type place)
  kinds_nodup := List.nodup_nil
  scheduled_notMem := List.not_mem_nil
  scheduled_iff place :=
    iff_of_false nofun (orderly.not_isScheduledOpen_stop elapsed place)

/-- No pool that was built takes tasks. -/
structure IsStopped (governor : Governor) : Prop where
  pools : ∀ pool ∈ governor.built, pool.isShut = true
  scheduled : ∀ pool ∈ governor.builtScheduled, pool.isShut = true

/-- A stop shuts down every pool that was ever built, registered or not. -/
theorem Orderly.isStopped_stop {governor : Governor} (orderly : governor.Orderly)
    (elapsed : Duration) : (governor.stop elapsed).IsStopped where
  pools pool mem := by
    obtain ⟨place, there⟩ := List.mem_iff_getElem?.1 mem
    rw [← Bool.not_eq_false]
    intro isOpen
    exact orderly.not_isOpen_stop elapsed pool.type place ⟨pool, there, rfl, isOpen⟩
  scheduled pool mem := by
    obtain ⟨place, there⟩ := List.mem_iff_getElem?.1 mem
    rw [← Bool.not_eq_false]
    intro isOpen
    exact orderly.not_isScheduledOpen_stop elapsed place ⟨pool, there, isOpen⟩

theorem Orderly.perform {governor : Governor} (orderly : governor.Orderly)
    (call : GovernorCall) : (governor.perform call).2.Orderly := by
  rcases perform_cases governor call with ⟨_, performed⟩ | ⟨_, _, admits, performed⟩ |
    ⟨_, daemon, _, admits, performed⟩ | ⟨elapsed, _, performed⟩ <;> rw [performed]
  · exact orderly
  · exact orderly.register admits
  · exact orderly.registerScheduled daemon admits
  · exact orderly.stop elapsed

/-! ## Configured pools -/

theorem Orderly.registerAll {governor after : Governor} (orderly : governor.Orderly)
    {descriptors : List PoolDescriptor}
    (registered : governor.registerAll descriptors = .ok after) : after.Orderly := by
  induction descriptors generalizing governor with
  | nil =>
      cases registered
      exact orderly
  | cons descriptor rest induction =>
      rw [Governor.registerAll, register_eq] at registered
      cases checked : (poolChecks descriptor).findSome? fun fault? => fault? governor with
      | some fault =>
          rw [checked] at registered
          cases registered
      | none =>
          rw [checked] at registered
          have admits := (poolChecks_eq_none_iff governor descriptor).1 checked
          exact induction (orderly.register admits) registered

/-- The governor of a configuration knows its pools. -/
theorem orderly_ofConfig {config : ExecutorConfig} {governor : Governor}
    (made : ofConfig config = .ok governor) : governor.Orderly := by
  unfold ofConfig at made
  split at made
  next => cases made
  next =>
    split at made
    next => cases made
    next held registered =>
      have held_orderly := (orderly_empty config.caps).registerAll registered
      rw [registerScheduled_eq] at made
      split at made
      next => cases made
      next checked =>
        cases made
        have admits := (scheduledChecks_eq_none_iff held _).1 checked
        exact held_orderly.registerScheduled _ admits

end Governor
end ClusterMember
