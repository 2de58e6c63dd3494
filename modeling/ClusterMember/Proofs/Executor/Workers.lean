import ClusterMember.Proofs.Executor.Ratchet
import Mathlib.Data.List.DropRight
import Mathlib.Data.List.Perm.Subperm

/-!
# Worker threads and the core budget

A pool has a worker thread for each of its core threads, and one when it has none.  So the worker
threads of the registered pools are those that were counted at their registration, and one more for
each pool without core threads.  What a stop has left counted makes up for these or does not.
-/

namespace ClusterMember

namespace GovernorCall

/-- Whether a call stops all pools. -/
def isStop : GovernorCall → Bool
  | .stop _ => true
  | _ => false

/-- The normal pool that a call asks for. -/
def normal? : GovernorCall → Option PoolDescriptor
  | .register descriptor => some descriptor
  | _ => none

/-- The core threads of the scheduled pool that a call asks for. -/
def scheduled? : GovernorCall → Option Nat
  | .registerScheduled core _ => some core
  | _ => none

/-- Whether a call asks for a normal pool without core threads. -/
def isCoreless : GovernorCall → Bool
  | .register descriptor => descriptor.core = 0
  | _ => false

end GovernorCall

namespace Governor

/-- The registered normal pools. -/
def normalPools (governor : Governor) : List Pool :=
  governor.table.filterMap fun entry => governor.built[entry.2]?

/-- How many worker threads the registered normal pools have. -/
def normalWorkers (governor : Governor) : Nat := (governor.normalPools.map Pool.workers).sum

/-- How many worker threads the registered scheduled pool has. -/
def scheduledWorkers (governor : Governor) : Nat :=
  governor.scheduledPool?.elim 0 PeriodicPool.workers

/-- A pool that is built behind the others is registered behind them. -/
theorem Orderly.normalPools_enterPool {governor : Governor} (orderly : governor.Orderly)
    (descriptor : PoolDescriptor) :
    (enterPool descriptor governor).normalPools =
      governor.normalPools ++ [Pool.build descriptor] := by
  have earlier : ∀ entry ∈ governor.table,
      (governor.built ++ [Pool.build descriptor])[entry.2]? = governor.built[entry.2]? := by
    intro entry mem
    obtain ⟨pool, found, -⟩ := (orderly.mem_table entry.1 entry.2).1 mem
    exact List.getElem?_append_left (List.getElem?_eq_some_iff.1 found).1
  simp only [normalPools, enterPool, List.filterMap_append, List.filterMap_congr earlier]
  simp

/-- There are three kinds of normal pools. -/
theorem Orderly.length_table_le {governor : Governor} (orderly : governor.Orderly) :
    governor.table.length ≤ 3 := by
  have kinds : governor.table.map Prod.fst ⊆ [.default, .archive, .compact] := by
    intro type mem
    cases type with
    | scheduled => exact absurd mem orderly.scheduled_notMem
    | default | archive | compact => simp
  simpa using (List.subperm_of_subset orderly.kinds_nodup kinds).length_le

end Governor

namespace GovernorHistory

/-- The calls that were accepted since all pools were last stopped. -/
def current (history : GovernorHistory) : List GovernorCall :=
  history.accepted.rtakeWhile (!·.isStop)

/-- The calls that were accepted up to then. -/
def former (history : GovernorHistory) : List GovernorCall :=
  history.accepted.rdropWhile (!·.isStop)

theorem former_append_current (history : GovernorHistory) :
    history.former ++ history.current = history.accepted :=
  List.rdropWhile_append_rtakeWhile

theorem sum_accepted (history : GovernorHistory) (view : GovernorCall → Nat) :
    (history.accepted.map view).sum =
      (history.former.map view).sum + (history.current.map view).sum := by
  rw [← history.former_append_current, List.map_append, List.sum_append]

/-- The registered pools are those that were accepted since the last stop. -/
structure Staffed (history : GovernorHistory) : Prop where
  normal_eq : history.governor.normalPools.map Pool.descriptor =
    history.current.filterMap GovernorCall.normal?
  scheduled_eq : (history.governor.scheduledPool?.map PeriodicPool.core).toList =
    history.current.filterMap GovernorCall.scheduled?
  /-- No scheduled pool was accepted without threads. -/
  scheduled_pos : ∀ core ∈ history.accepted.filterMap GovernorCall.scheduled?, 0 < core

theorem staffed_start (caps : ResourceCaps) : (start caps).Staffed where
  normal_eq := rfl
  scheduled_eq := rfl
  scheduled_pos := nofun

theorem current_append_of_not_isStop (governor after : Governor) (accepted : List GovernorCall)
    (call : GovernorCall) (goes : call.isStop = false) :
    current ⟨after, accepted ++ [call]⟩ = current ⟨governor, accepted⟩ ++ [call] :=
  List.rtakeWhile_concat_pos _ _ _ (by simp [goes])

/-- One more call keeps to the pools that were accepted since the last stop. -/
theorem Staffed.call {history : GovernorHistory} (staffed : history.Staffed)
    (orderly : history.governor.Orderly) (call : GovernorCall) : (history.call call).Staffed := by
  obtain ⟨governor, accepted⟩ := history
  unfold GovernorHistory.call
  rcases Governor.perform_cases governor call with ⟨fault, performed⟩ |
    ⟨descriptor, rfl, -, performed⟩ | ⟨core, daemon, rfl, admits, performed⟩ |
    ⟨elapsed, rfl, performed⟩ <;> rw [performed]
  · exact staffed
  · have current_eq := current_append_of_not_isStop governor
      (Governor.countPool descriptor (Governor.enterPool descriptor governor)) accepted
      (.register descriptor) rfl
    constructor
    · change (Governor.enterPool descriptor governor).normalPools.map Pool.descriptor = _
      rw [orderly.normalPools_enterPool, List.map_append, staffed.normal_eq, current_eq,
        List.filterMap_append]
      rfl
    · rw [current_eq, List.filterMap_append, ← staffed.scheduled_eq]
      exact (List.append_nil _).symm
    · simpa [GovernorCall.scheduled?] using staffed.scheduled_pos
  · have current_eq := current_append_of_not_isStop governor
      (Governor.countScheduled core (Governor.enterScheduled core daemon governor)) accepted
      (.registerScheduled core daemon) rfl
    have vacant : governor.scheduledPool? = none := by
      rw [Governor.scheduledPool?, admits.vacant]
      rfl
    constructor
    · rw [current_eq, List.filterMap_append, ← staffed.normal_eq]
      exact (List.append_nil _).symm
    · rw [current_eq, List.filterMap_append, ← staffed.scheduled_eq, vacant]
      simp [Governor.scheduledPool?, Governor.countScheduled, Governor.enterScheduled,
        PeriodicPool.build, GovernorCall.scheduled?]
    · intro other mem
      rw [List.filterMap_append, List.mem_append] at mem
      rcases mem with mem | mem
      · exact staffed.scheduled_pos other mem
      · cases List.mem_singleton.1 mem
        exact admits.core_pos
  · have current_eq : current ⟨governor.stop elapsed, accepted ++ [.stop elapsed]⟩ = [] :=
      List.rtakeWhile_concat_neg _ _ _ (by simp [GovernorCall.isStop])
    constructor
    · rw [current_eq]
      rfl
    · rw [current_eq]
      rfl
    · simpa [GovernorCall.scheduled?] using staffed.scheduled_pos

theorem staffed_run (caps : ResourceCaps) (calls : List GovernorCall) :
    (run caps calls).Staffed := by
  induction calls using List.reverseRecOn with
  | nil => exact staffed_start caps
  | append_singleton calls call induction =>
      rw [run, List.foldl_append]
      exact induction.call (tallies_run caps calls).orderly call

/-! ## Counting worker threads -/

theorem workerThreads_eq (core : Nat) :
    workerThreads core = core + if core = 0 then 1 else 0 := by
  unfold workerThreads
  split <;> omega

/-- A sum over what some calls ask for is one over all calls. -/
theorem sum_filterMap {α : Type} (asked : GovernorCall → Option α) (view : α → Nat)
    (calls : List GovernorCall) :
    ((calls.filterMap asked).map view).sum =
      (calls.map fun call => (asked call).elim 0 view).sum := by
  induction calls with
  | nil => rfl
  | cons call calls induction =>
      cases found : asked call with
      | none => simp [found, induction]
      | some value => simp [found, induction]

theorem sum_scheduled (calls : List GovernorCall) :
    (calls.filterMap GovernorCall.scheduled?).sum = (calls.map GovernorCall.scheduledCore).sum := by
  have asked := sum_filterMap GovernorCall.scheduled? id calls
  rw [List.map_id] at asked
  rw [asked]
  refine congrArg List.sum (List.map_congr_left fun call _ => ?_)
  cases call <;> rfl

/-- Pools have a worker thread for each core thread, and one more where there is none. -/
theorem sum_workerThreads (calls : List GovernorCall) :
    ((calls.filterMap GovernorCall.normal?).map fun descriptor =>
        workerThreads descriptor.core).sum =
      (calls.map GovernorCall.normalCore).sum + calls.countP GovernorCall.isCoreless := by
  rw [sum_filterMap]
  induction calls with
  | nil => rfl
  | cons call calls induction =>
      have first : ((GovernorCall.normal? call).elim 0 fun descriptor =>
          workerThreads descriptor.core) =
          call.normalCore + if call.isCoreless = true then 1 else 0 := by
        cases call with
        | register descriptor =>
            simp [GovernorCall.normal?, GovernorCall.normalCore, GovernorCall.isCoreless,
              workerThreads_eq]
        | registerScheduled core daemon => rfl
        | stop elapsed => rfl
      rw [List.map_cons, List.map_cons, List.sum_cons, List.sum_cons, List.countP_cons, first,
        induction]
      omega

namespace Staffed

variable {history : GovernorHistory} (staffed : history.Staffed)
include staffed

theorem normalWorkers_eq : history.governor.normalWorkers =
    (history.current.map GovernorCall.normalCore).sum +
      history.current.countP GovernorCall.isCoreless := by
  rw [← sum_workerThreads, ← staffed.normal_eq, List.map_map]
  rfl

/-- The scheduled pool has a worker thread for each of its core threads. -/
theorem scheduledWorkers_eq :
    history.governor.scheduledWorkers = (history.current.filterMap GovernorCall.scheduled?).sum := by
  have pos := staffed.scheduled_pos
  rw [← history.former_append_current, List.filterMap_append] at pos
  rw [← staffed.scheduled_eq] at pos ⊢
  rw [Governor.scheduledWorkers]
  cases registered : history.governor.scheduledPool? with
  | none => rfl
  | some pool =>
      have core_pos := pos pool.core (by simp [registered])
      simp only [Option.elim_some, PeriodicPool.workers, workerThreads, Option.map_some,
        Option.toList_some, List.sum_singleton]
      omega

theorem coreless_le (orderly : history.governor.Orderly) :
    history.current.countP GovernorCall.isCoreless ≤ 3 := by
  have asked : ∀ calls : List GovernorCall, calls.countP GovernorCall.isCoreless ≤
      (calls.filterMap GovernorCall.normal?).length := by
    intro calls
    rw [List.length_filterMap_eq_countP]
    refine List.countP_mono_left fun call _ coreless => ?_
    cases call with
    | register descriptor => rfl
    | registerScheduled core daemon => cases coreless
    | stop elapsed => cases coreless
  calc
    history.current.countP GovernorCall.isCoreless ≤
        (history.current.filterMap GovernorCall.normal?).length := asked _
    _ = history.governor.normalPools.length := by rw [← staffed.normal_eq, List.length_map]
    _ ≤ history.governor.table.length := List.length_filterMap_le _ _
    _ ≤ 3 := orderly.length_table_le

end Staffed

/-- The worker threads of the registered pools, and what was counted for them. -/
structure Manned (caps : ResourceCaps) (history : GovernorHistory) : Prop where
  /-- There is a worker thread for each core thread, and one more for each pool without any. -/
  workers_eq : history.governor.normalWorkers =
    (history.current.map GovernorCall.normalCore).sum +
      history.current.countP GovernorCall.isCoreless
  /-- The core threads of the pools that were stopped are still counted. -/
  counted_eq : history.governor.accounting.normalCore =
    (history.former.map GovernorCall.normalCore).sum +
      (history.current.map GovernorCall.normalCore).sum
  /-- The count covers the worker threads as long as stopped pools make up for those without core
  threads. -/
  covered_iff : history.governor.normalWorkers ≤ history.governor.accounting.normalCore ↔
    history.current.countP GovernorCall.isCoreless ≤
      (history.former.map GovernorCall.normalCore).sum
  /-- Where every pool has core threads, their budget covers the worker threads. -/
  budgeted : (∀ call ∈ history.current, call.isCoreless = false) →
    history.governor.normalWorkers ≤ history.governor.accounting.normalCore ∧
      history.governor.normalWorkers ≤ caps.normalCoreTotal
  /-- There are never more than three worker threads beyond the budget. -/
  workers_le : history.governor.normalWorkers ≤ caps.normalCoreTotal + 3
  /-- The scheduled pool has no worker thread that was not counted. -/
  scheduled_le : history.governor.scheduledWorkers ≤ history.governor.accounting.scheduledCore
  scheduled_budgeted : history.governor.scheduledWorkers ≤ caps.scheduledCoreTotal

/-- The core budget covers the worker threads of the scheduled pool, and those of the normal pools
exactly as far as pools without core threads do not go beyond what stopped pools have left
counted. -/
theorem run_manned (caps : ResourceCaps) (calls : List GovernorCall) :
    (run caps calls).Manned caps := by
  have tallies := tallies_run caps calls
  have staffed := staffed_run caps calls
  have workers_eq := staffed.normalWorkers_eq
  have counted_eq := tallies.normalCore_eq
  rw [sum_accepted] at counted_eq
  have counted_le : (run caps calls).governor.accounting.normalCore ≤ caps.normalCoreTotal :=
    tallies.within.1
  have coreless_le := staffed.coreless_le tallies.orderly
  have scheduled_le : (run caps calls).governor.scheduledWorkers ≤
      (run caps calls).governor.accounting.scheduledCore := by
    rw [staffed.scheduledWorkers_eq, tallies.scheduledCore_eq, sum_accepted, sum_scheduled]
    exact Nat.le_add_left _ _
  refine ⟨workers_eq, counted_eq, by omega, fun cored => ?_, by omega, scheduled_le,
    scheduled_le.trans tallies.within.2.2⟩
  have none_coreless : (run caps calls).current.countP GovernorCall.isCoreless = 0 := by
    rw [List.countP_eq_zero]
    intro call mem
    rw [cored call mem]
    exact Bool.false_ne_true
  omega

/-- Under a budget of no core threads at all, a pool without any is registered and has a worker
thread. -/
theorem not_covered_coreless :
    let history := run ⟨1, 1, 0, 1, 0⟩ [.register { type := .default, core := 0, max := 1 }]
    history.governor.registered = [.default] ∧ history.governor.normalWorkers = 1 ∧
      history.governor.accounting.normalCore = 0 ∧
      ¬history.governor.normalWorkers ≤ history.governor.accounting.normalCore ∧
      ¬history.governor.normalWorkers ≤ history.governor.caps.normalCoreTotal := by
  decide +kernel

end GovernorHistory
end ClusterMember
