import ClusterMember.Executor.Latency
import Mathlib.Algebra.GroupWithZero.Nat
import Mathlib.Algebra.Order.BigOperators.Group.List
import Mathlib.Algebra.Order.Group.Nat
import Mathlib.Order.Bounds.Basic

/-!
# What latency statistics say

Statistics of run times say how many there are, which is the smallest and which the largest, and
what is left of their mean when the sum stops at the largest word.  They do not depend on the order
in which the times were recorded.
-/

namespace ClusterMember

/-- Whole milliseconds of a span, as far as a word of 64 bits counts them. -/
def Duration.wordMillis (elapsed : Duration) : Nat := elapsed.millis % UInt64.size

namespace Latency

/-- Statistics after several more run times. -/
def recordAll (latency : Latency) (times : List Duration) : Latency := times.foldl record latency

/-- The statistics of numbers of milliseconds, which were recorded in some order. -/
def tally (ms : List Nat) : Latency where
  count := ms.length
  sum := min ms.sum word64Max
  min? := ms.min?
  max := ms.max?.getD 0

/-- What a summary says about run times. -/
structure Describes (times : List Duration) (summary : LatencySummary) : Prop where
  count_eq : summary.count = times.length
  least : times ≠ [] → IsLeast {ms | ms ∈ times.map Duration.wordMillis} summary.min
  greatest : times ≠ [] → IsGreatest {ms | ms ∈ times.map Duration.wordMillis} summary.max
  /-- The mean of the sum, which stops at the largest word. -/
  mean_eq : times ≠ [] →
    summary.mean = min (times.map Duration.wordMillis).sum word64Max / times.length
  zero : times = [] → summary = ⟨0, 0, 0, 0⟩
  /-- Any other order of the same run times gives the same summary. -/
  unordered : ∀ others, others.Perm times → (empty.recordAll others).summary = summary
  mean_le_max : summary.mean ≤ summary.max
  min_le_mean : (times.map Duration.wordMillis).sum < UInt64.size → summary.min ≤ summary.mean
  /-- Every number fits into a word, the count included. -/
  fits : ∀ number ∈ [summary.count, summary.min, summary.max, summary.mean],
    number < UInt64.size

variable {ms others : List Nat}

/-! ## Recording -/

theorem recordMillis_tally (next : Nat) (ms : List Nat) :
    (tally ms).recordMillis next = tally (next :: ms) := by
  have sum_eq : min (min ms.sum word64Max + next) word64Max =
      min (next :: ms).sum word64Max := by
    rw [List.sum_cons]
    omega
  have min_eq : ((tally ms).recordMillis next).min? = (next :: ms).min? := by
    rw [List.min?_cons, recordMillis, tally]
    cases ms.min? with
    | none => rfl
    | some least => exact congrArg some (Nat.min_comm least next)
  have max_eq : Nat.max (ms.max?.getD 0) next = (next :: ms).max?.getD 0 := by
    rw [List.max?_cons]
    cases ms.max? with
    | none => exact Nat.zero_max next
    | some greatest => exact Nat.max_comm greatest next
  rw [recordMillis, tally, tally, Latency.mk.injEq]
  exact ⟨rfl, sum_eq, min_eq, max_eq⟩

theorem tally_perm (perm : ms.Perm others) : tally ms = tally others := by
  have min_eq : ms.min? = others.min? := by
    ext least
    simp only [List.min?_eq_some_iff, perm.mem_iff]
  have max_eq : ms.max? = others.max? := by
    ext greatest
    simp only [List.max?_eq_some_iff, perm.mem_iff]
  rw [tally, tally, perm.length_eq, perm.sum_nat, min_eq, max_eq]

theorem recordAll_tally (ms : List Nat) (times : List Duration) :
    (tally ms).recordAll times = tally (times.map Duration.wordMillis ++ ms) := by
  induction times generalizing ms with
  | nil => rfl
  | cons elapsed rest induction =>
      have recorded : (tally ms).record elapsed = tally (elapsed.wordMillis :: ms) :=
        recordMillis_tally _ _
      rw [recordAll, List.foldl_cons, recorded]
      exact (induction _).trans (tally_perm List.perm_middle)

theorem recordAll_empty (times : List Duration) :
    empty.recordAll times = tally (times.map Duration.wordMillis) := by
  have recorded := recordAll_tally [] times
  rwa [List.append_nil] at recorded

/-! ## Summaries -/

theorem isLeast_summary (nonempty : ms ≠ []) : IsLeast {n | n ∈ ms} (tally ms).summary.min := by
  obtain ⟨least, min_eq⟩ := Option.isSome_iff_exists.1 (List.isSome_min?_of_ne_nil nonempty)
  obtain ⟨mem, le⟩ := List.min?_eq_some_iff.1 min_eq
  have summary_min : (tally ms).summary.min = least := by
    rw [summary, tally, min_eq]
    rfl
  rw [summary_min]
  exact ⟨mem, fun n n_mem => le n n_mem⟩

theorem isGreatest_summary (nonempty : ms ≠ []) :
    IsGreatest {n | n ∈ ms} (tally ms).summary.max := by
  obtain ⟨greatest, max_eq⟩ := Option.isSome_iff_exists.1 (List.isSome_max?_of_ne_nil nonempty)
  obtain ⟨mem, le⟩ := List.max?_eq_some_iff.1 max_eq
  have summary_max : (tally ms).summary.max = greatest := by
    rw [summary, tally, max_eq]
    rfl
  rw [summary_max]
  exact ⟨mem, fun n n_mem => le n n_mem⟩

/-- The sum may stop early, which makes the mean only smaller. -/
theorem mean_le_max (ms : List Nat) : (tally ms).summary.mean ≤ (tally ms).summary.max := by
  by_cases nonempty : ms = []
  · subst nonempty
    exact Nat.zero_le _
  · have length_pos := List.length_pos_of_ne_nil nonempty
    have sum_le : ms.sum ≤ ms.length * (tally ms).summary.max :=
      List.sum_le_card_nsmul ms _ fun n mem => (isGreatest_summary nonempty).2 mem
    calc
      (tally ms).summary.mean ≤ ms.sum / ms.length :=
        Nat.div_le_div_right (Nat.min_le_left _ _)
      _ ≤ (tally ms).summary.max := Nat.div_le_of_le_mul sum_le

theorem min_le_mean (exact_sum : ms.sum < UInt64.size) :
    (tally ms).summary.min ≤ (tally ms).summary.mean := by
  by_cases nonempty : ms = []
  · subst nonempty
    exact Nat.le_refl 0
  · have length_pos := List.length_pos_of_ne_nil nonempty
    have le_sum : ms.length * (tally ms).summary.min ≤ ms.sum :=
      List.card_nsmul_le_sum ms _ fun n mem => (isLeast_summary nonempty).2 mem
    have sum_eq : (tally ms).sum = ms.sum := Nat.min_eq_left (Nat.le_sub_one_of_lt exact_sum)
    have mean_eq : (tally ms).summary.mean = ms.sum / ms.length := by
      rw [summary, sum_eq]
      rfl
    rw [mean_eq, Nat.le_div_iff_mul_le length_pos, Nat.mul_comm]
    exact le_sum

theorem summary_lt (short : ms.length < UInt64.size) (words : ∀ n ∈ ms, n < UInt64.size) :
    ∀ number ∈ [(tally ms).summary.count, (tally ms).summary.min, (tally ms).summary.max,
      (tally ms).summary.mean], number < UInt64.size := by
  have bounds : (tally ms).summary.min < UInt64.size ∧ (tally ms).summary.max < UInt64.size := by
    by_cases nonempty : ms = []
    · subst nonempty
      exact ⟨by decide, by decide⟩
    · exact ⟨words _ (isLeast_summary nonempty).1, words _ (isGreatest_summary nonempty).1⟩
  have mean_lt : (tally ms).summary.mean < UInt64.size :=
    Nat.lt_of_le_of_lt (mean_le_max ms) bounds.2
  simp only [List.mem_cons, List.not_mem_nil, or_false]
  rintro number (rfl | rfl | rfl | rfl)
  · exact short
  · exact bounds.1
  · exact bounds.2
  · exact mean_lt

/-- The summary of run times describes them, and nothing else of them counts. -/
theorem summary_describes (times : List Duration) (short : times.length < UInt64.size) :
    Describes times (empty.recordAll times).summary := by
  rw [recordAll_empty]
  have map_ne {times : List Duration} (nonempty : times ≠ []) :
      times.map Duration.wordMillis ≠ [] := fun nothing => nonempty (List.map_eq_nil_iff.1 nothing)
  have words : ∀ ms ∈ times.map Duration.wordMillis, ms < UInt64.size := by
    intro ms mem
    obtain ⟨elapsed, -, rfl⟩ := List.mem_map.1 mem
    exact Nat.mod_lt _ (by decide)
  exact
    { count_eq := List.length_map _
      least := fun nonempty => isLeast_summary (map_ne nonempty)
      greatest := fun nonempty => isGreatest_summary (map_ne nonempty)
      mean_eq := fun _ => by rw [summary, tally, List.length_map]
      zero := by rintro rfl; rfl
      unordered := fun others perm => by
        rw [recordAll_empty, tally_perm (perm.map Duration.wordMillis)]
      mean_le_max := mean_le_max _
      min_le_mean := min_le_mean
      fits := summary_lt (by rwa [List.length_map]) words }

/-- Two run times whose sum stops: their mean is half of the smaller one. -/
theorem summary_describes_longest :
    ([Duration.ofMillis word64Max, .ofMillis word64Max] : List Duration).length < UInt64.size ∧
      Describes [.ofMillis word64Max, .ofMillis word64Max]
        ⟨2, 18446744073709551615, 18446744073709551615, 9223372036854775807⟩ :=
  ⟨by decide, summary_describes [.ofMillis word64Max, .ofMillis word64Max] (by decide)⟩

end Latency
end ClusterMember
