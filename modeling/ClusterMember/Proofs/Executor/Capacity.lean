import ClusterMember.Proofs.Config.Validation
import ClusterMember.Proofs.Executor.Registration
import Mathlib.Algebra.Group.Int.Defs
import Mathlib.Algebra.Group.Nat.Defs

/-!
# Capacities that can be built

The capacity of a configured pool is the sum of two settings, and validation looks at one of them.
A pool can be built as long as its capacity is within the permits that can be made.  Beyond that its
registration breaks off under every budget that admits its threads, also when the sum is no word.
-/

namespace ClusterMember

/-- The settings of a pool are words of 64 bits, and that of its queue has a sign. -/
structure PoolConfig.IsWords (pool : PoolConfig) : Prop where
  coreThreads_lt : pool.coreThreads < 2 ^ 64
  maxThreads_lt : pool.maxThreads < 2 ^ 64
  le_queueSize : -2 ^ 63 ≤ pool.queueSize
  queueSize_lt : pool.queueSize < 2 ^ 63

/-- The budgets of a governor, which are words, admit the threads of a pool of a new kind. -/
structure Governor.AdmitsThreads (governor : Governor) (descriptor : PoolDescriptor) : Prop where
  vacant : governor.place? descriptor.type = none
  core_le : descriptor.core ≤ governor.caps.perPoolCore
  /-- The tasks that run at once are within the budget of one pool. -/
  max_le : descriptor.max ≤ governor.caps.perPoolMax
  core_total : (governor.withPool descriptor).normalCore ≤ governor.caps.normalCoreTotal
  /-- The new total of tasks that run at once is within its budget. -/
  max_total : (governor.withPool descriptor).normalMax ≤ governor.caps.normalMaxTotal
  core_word : governor.caps.normalCoreTotal < 2 ^ 64
  /-- The budget of tasks that all pools run at once is a word. -/
  max_word : governor.caps.normalMaxTotal < 2 ^ 64

/-- The capacity of a pool is a word, permits for it can be made, and the pool is registered wherever
its threads are admitted. -/
structure PoolDescriptor.IsRepresentable (descriptor : PoolDescriptor) : Prop where
  countable : descriptor.capacity < 2 ^ 64
  permits_le : descriptor.capacity ≤ maxPermits
  registered : ∀ governor : Governor, governor.AdmitsThreads descriptor →
    (governor.perform (.register descriptor)).1 = .ok ()

/-- A pool of a valid configuration has a good shape, and threads with a name. -/
structure PoolDescriptor.IsShaped (descriptor : PoolDescriptor) : Prop where
  type_ne : descriptor.type ≠ .scheduled
  max_pos : 0 < descriptor.max
  core_le_max : descriptor.core ≤ descriptor.max
  nameable : '\x00' ∉ descriptor.threadName.toList

namespace Governor

variable {governor : Governor} {descriptor : PoolDescriptor}

theorem AdmitsThreads.words (admitted : governor.AdmitsThreads descriptor) :
    (governor.withPool descriptor).normalCore ≤ word64Max ∧
      (governor.withPool descriptor).normalMax ≤ word64Max :=
  ⟨Nat.le_trans admitted.core_total (Nat.le_sub_one_of_lt admitted.core_word),
    Nat.le_trans admitted.max_total (Nat.le_sub_one_of_lt admitted.max_word)⟩

theorem AdmitsThreads.admits (admitted : governor.AdmitsThreads descriptor)
    (shaped : descriptor.IsShaped) (buildable : descriptor.capacity ≤ maxPermits) :
    governor.Admits descriptor where
  type_ne := shaped.type_ne
  max_pos := shaped.max_pos
  core_le_max := shaped.core_le_max
  core_le := admitted.core_le
  max_le := admitted.max_le
  vacant := admitted.vacant
  core_word := admitted.words.1
  max_word := admitted.words.2
  core_total := admitted.core_total
  max_total := admitted.max_total
  nameable := shaped.nameable
  buildable := buildable

/-- The permits are made last, so that nothing but them can break off a registration whose threads
are admitted. -/
theorem AdmitsThreads.poolChecks_of_lt (admitted : governor.AdmitsThreads descriptor)
    (shaped : descriptor.IsShaped) (large : maxPermits < descriptor.capacity) :
    ((poolChecks descriptor).findSome? fun fault? => fault? governor) =
      some (.tooLarge descriptor.capacity) := by
  have shape := (shapeFault?_eq_none_iff descriptor).2
    ⟨shaped.type_ne, shaped.max_pos, shaped.core_le_max⟩
  have core := (overLimit?_eq_none_iff "per-pool core threads" _ _).2 admitted.core_le
  have max := (overLimit?_eq_none_iff "per-pool max threads" _ _).2 admitted.max_le
  have vacant := (duplicatePool?_eq_none_iff descriptor.type governor).2 admitted.vacant
  have core_word := (tooLarge?_eq_none_iff _ word64Max).2 admitted.words.1
  have max_word := (tooLarge?_eq_none_iff _ word64Max).2 admitted.words.2
  have core_total := (overLimit?_eq_none_iff "normal core threads" _ _).2 admitted.core_total
  have max_total := (overLimit?_eq_none_iff "normal max threads" _ _).2 admitted.max_total
  have name := (threadName?_eq_none_iff descriptor.threadName).2 shaped.nameable
  have permits := (tooLarge?_eq_some_iff descriptor.capacity maxPermits _).2 ⟨large, rfl⟩
  simp only [poolChecks, List.findSome?_cons, shape, core, max, vacant, core_word, max_word,
    core_total, max_total, name, permits]

/-- A registration whose threads are admitted goes through or breaks off, by the permits alone. -/
theorem AdmitsThreads.perform_eq (admitted : governor.AdmitsThreads descriptor)
    (shaped : descriptor.IsShaped) :
    governor.perform (.register descriptor) =
      if descriptor.capacity ≤ maxPermits then
        (.ok (), countPool descriptor (enterPool descriptor governor))
      else (.error (.tooLarge descriptor.capacity), governor) := by
  rw [Governor.perform_eq]
  simp only [GovernorCall.checks, GovernorCall.changes]
  split_ifs with buildable
  · rw [(poolChecks_eq_none_iff governor descriptor).2 (admitted.admits shaped buildable)]
    rfl
  · rw [admitted.poolChecks_of_lt shaped (Nat.lt_of_not_le buildable)]

end Governor

namespace PoolDescriptor

variable {descriptor : PoolDescriptor}

theorem IsShaped.isRepresentable_iff (shaped : descriptor.IsShaped) :
    descriptor.IsRepresentable ↔ descriptor.capacity ≤ maxPermits := by
  refine ⟨IsRepresentable.permits_le, fun buildable => ⟨?_, buildable, fun governor admitted => ?_⟩⟩
  · exact Nat.lt_of_le_of_lt buildable (by decide)
  · rw [admitted.perform_eq shaped, if_pos buildable]

namespace Describes

variable {entry : String × PoolConfig} (describes : descriptor.Describes entry)
include describes

theorem threadName_eq : descriptor.threadName = descriptor.type.threadName := by
  rw [describes.eq_descriptor]
  rfl

theorem isShaped (max_pos : 0 < descriptor.max) (core_le_max : descriptor.core ≤ descriptor.max) :
    descriptor.IsShaped where
  type_ne := describes.type_ne
  max_pos := max_pos
  core_le_max := core_le_max
  nameable := by
    rw [describes.threadName_eq]
    cases descriptor.type <;> decide

/-- A capacity that is no word is that of a pool whose running tasks alone need more permits than
can be made. -/
theorem max_of_capacity (words : entry.2.IsWords) (large : 2 ^ 64 ≤ descriptor.capacity) :
    maxPermits < descriptor.max := by
  have queue_lt := words.queueSize_lt
  rw [describes.capacity_eq, ← describes.max_eq] at large
  have room : maxPermits = 2 ^ 61 - 1 := by decide
  omega

end Describes
end PoolDescriptor

/-- The pools of a valid configuration can be told.  They are representable exactly when no sum of
the tasks that a pool runs at once and of its queue is beyond the permits that can be made.  The
registration of any other of them breaks off wherever its threads are admitted, and changes
nothing; what is no word is always among these. -/
theorem NodeConfig.representable_iff (config : NodeConfig) (valid : config.fault? = none)
    (words : ∀ entry ∈ config.executor.pools, entry.2.IsWords) :
    ∃ descriptors, config.executor.descriptors = .ok descriptors ∧
      descriptors.length = config.executor.pools.length ∧
      ((∀ descriptor ∈ descriptors, descriptor.IsRepresentable) ↔
        ∀ entry ∈ config.executor.pools,
          entry.2.maxThreads + entry.2.queueSize.toNat ≤ maxPermits) ∧
      ∀ descriptor ∈ descriptors, ¬descriptor.IsRepresentable →
        maxPermits < descriptor.capacity ∧
        (∀ governor : Governor, governor.AdmitsThreads descriptor →
          governor.perform (.register descriptor) =
            (.error (.tooLarge descriptor.capacity), governor)) ∧
        (2 ^ 64 ≤ descriptor.capacity → maxPermits < descriptor.max) := by
  obtain ⟨descriptors, listed, threads⟩ := (config.fault?_eq_none_iff.1 valid).pools
  have described := (PoolTable.describe_eq_ok_iff _ _).1 listed
  have shaped : ∀ descriptor ∈ descriptors, descriptor.IsShaped := fun descriptor mem =>
    have ⟨_, _, describes⟩ := described.exists_of_mem mem
    describes.isShaped (threads descriptor mem).1 (threads descriptor mem).2
  refine ⟨descriptors, listed, described.length_eq.symm, ?_, fun descriptor mem not => ?_⟩
  · calc
      (∀ descriptor ∈ descriptors, descriptor.IsRepresentable) ↔
          ∀ descriptor ∈ descriptors, descriptor.capacity ≤ maxPermits :=
        forall₂_congr fun descriptor mem => (shaped descriptor mem).isRepresentable_iff
      _ ↔ _ :=
        described.forall_mem_iff (fun _ _ describes => describes.capacity_eq) (· ≤ maxPermits)
  · rw [(shaped descriptor mem).isRepresentable_iff, Nat.not_le] at not
    obtain ⟨entry, entry_mem, describes⟩ := described.exists_of_mem mem
    refine ⟨not, fun governor admitted => ?_, describes.max_of_capacity (words entry entry_mem)⟩
    rw [admitted.perform_eq (shaped descriptor mem), if_neg (Nat.not_le.2 not)]

/-- Pools of two tasks at once with queues of the largest size are not representable. -/
theorem NodeConfig.representable_iff_largest_queues :
    let pool : PoolConfig := { coreThreads := 1, maxThreads := 2, queueSize := 2 ^ 63 - 1 }
    let config : NodeConfig :=
      { rpc := { serverThreads := 2 }
        executor :=
          { scheduled := { coreThreads := 1 }
            pools := [("archive", pool), ("default", pool)] } }
    config.fault? = none ∧ (∀ entry ∈ config.executor.pools, entry.2.IsWords) ∧
      ∃ descriptors, config.executor.descriptors = .ok descriptors ∧ descriptors.length = 2 ∧
        ¬∀ descriptor ∈ descriptors, descriptor.IsRepresentable := by
  intro pool config
  have valid : config.fault? = none := by decide
  have words : ∀ entry ∈ config.executor.pools, entry.2.IsWords := by
    have pool_words : pool.IsWords := ⟨by decide, by decide, by decide, by decide⟩
    simpa [config] using pool_words
  obtain ⟨descriptors, listed, length_eq, iff, -⟩ := representable_iff config valid words
  exact ⟨valid, words, descriptors, listed, length_eq, fun all => absurd (iff.1 all) (by decide)⟩

/-- A valid configuration with the budgets that every node has, and a pool of two tasks at once with
a queue of the largest size: its threads are admitted, and its registration breaks off. -/
theorem NodeConfig.not_representable_largest_queue :
    let config : NodeConfig :=
      { rpc := { serverThreads := 2 }
        executor :=
          { scheduled := { coreThreads := 1 }
            pools := [("default",
              { coreThreads := 1, maxThreads := 2, queueSize := 2 ^ 63 - 1 })] } }
    let governor := Governor.empty config.executor.caps
    config.fault? = none ∧ (∀ entry ∈ config.executor.pools, entry.2.IsWords) ∧
      ∃ descriptor, config.executor.descriptors = .ok [descriptor] ∧
        descriptor.capacity = 2 ^ 63 + 1 ∧ governor.AdmitsThreads descriptor ∧
        governor.perform (.register descriptor) = (.error (.tooLarge (2 ^ 63 + 1)), governor) ∧
        Governor.ofConfig config.executor = .error (.tooLarge (2 ^ 63 + 1)) := by
  intro config governor
  let descriptor : PoolDescriptor :=
    { type := .default, core := 1, max := 2, queue := .bounded (2 ^ 63 - 1) }
  have capacity_eq : descriptor.capacity = 2 ^ 63 + 1 := by decide
  have admitted : governor.AdmitsThreads descriptor :=
    ⟨rfl, by decide, by decide, by decide, by decide, by decide, by decide⟩
  have shaped : descriptor.IsShaped := ⟨nofun, by decide, by decide, by decide⟩
  have broken := admitted.perform_eq shaped
  rw [if_neg (by decide), capacity_eq] at broken
  refine ⟨by decide, ?_, descriptor, rfl, capacity_eq, admitted, broken, ?_⟩
  · simpa [config] using (⟨by decide, by decide, by decide, by decide⟩ : PoolConfig.IsWords _)
  · rfl

end ClusterMember
