import ClusterMember.Proofs.Transport.ChannelPool
import ClusterMember.Transport.ChannelPool.Callers
import Mathlib.Data.List.Basic
import Mathlib.Data.List.Nodup
import Mathlib.Data.List.Perm.Subperm

/-!
# Steps at a channel pool

What a caller and a shutdown do by one step, and what each can rely on where it is.  A step of a
caller stores a channel or leaves all channels as they are, and a step of a shutdown stores none.
-/

namespace ClusterMember

namespace ChannelPool

variable {pool after : ChannelPool} {slot place : Nat}

/-! ## What a pool has replaced -/

/-- The built channels that have left the ready state. -/
def retired (pool : ChannelPool) : List Nat :=
  (List.range pool.built.length).filter fun place => !pool.isUsable place

/-- Every built channel is in a slot or was replaced, and those that were replaced are retired. -/
structure Tracks (pool : ChannelPool) : Prop where
  slots_pos : 0 < pool.slots.length
  slots_built : ∀ place ∈ pool.slots, place < pool.built.length
  slots_nodup : pool.slots.Nodup
  length_built : pool.built.length = pool.slots.length + pool.rebuilt
  usable_mem : ∀ place, pool.isUsable place = true → place ∈ pool.slots

/-- A slot whose channel takes no calls. -/
def IsStale (pool : ChannelPool) (slot : Nat) : Prop :=
  ∃ place, pool.slots[slot]? = some place ∧ pool.isUsable place = false

theorem tracks_build (host : String) (port : UInt16) (size maxMessageSize : Nat) :
    (build host port size maxMessageSize).Tracks where
  slots_pos := (sound_build host port size maxMessageSize).slots_pos
  slots_built := (sound_build host port size maxMessageSize).slots_built
  slots_nodup := List.nodup_range
  length_built := by simp [build]
  usable_mem := (sound_build host port size maxMessageSize).usable_mem

theorem readyAt?_eq_some_iff :
    pool.readyAt? slot = some place ↔
      pool.slots[slot]? = some place ∧ pool.isUsable place = true := by
  rw [readyAt?, Option.filter_eq_some_iff]

theorem isStale_of_readyAt? (inside : slot < pool.slots.length)
    (unready : pool.readyAt? slot = none) : pool.IsStale slot := by
  refine ⟨pool.slots[slot], List.getElem?_eq_getElem inside, ?_⟩
  rw [← Bool.not_eq_true]
  intro usable
  have ready := readyAt?_eq_some_iff.2 ⟨List.getElem?_eq_getElem inside, usable⟩
  rw [unready] at ready
  cases ready

/-- One pool is another one after a change that stores nothing and opens nothing. -/
structure Ages (before after : ChannelPool) : Prop where
  slots_eq : after.slots = before.slots
  length_built : after.built.length = before.built.length
  rebuilt_eq : after.rebuilt = before.rebuilt
  usable : ∀ place, after.isUsable place = true → before.isUsable place = true
  closed : before.isClosed = true → after.isClosed = true

theorem Ages.refl (pool : ChannelPool) : pool.Ages pool := ⟨rfl, rfl, rfl, fun _ => id, id⟩

theorem Ages.trans {last : ChannelPool} (first : pool.Ages after) (second : after.Ages last) :
    pool.Ages last where
  slots_eq := second.slots_eq.trans first.slots_eq
  length_built := second.length_built.trans first.length_built
  rebuilt_eq := second.rebuilt_eq.trans first.rebuilt_eq
  usable place usable := first.usable place (second.usable place usable)
  closed closed := second.closed (first.closed closed)

theorem Wears.ages (wears : pool.Wears after)
    (closed : pool.isClosed = true → after.isClosed = true) : pool.Ages after :=
  ⟨wears.slots_eq, wears.length_built, wears.rebuilt_eq, wears.usable, closed⟩

theorem ages_visit (pool : ChannelPool) : pool.Ages pool.visit.1 :=
  ⟨rfl, rfl, rfl, fun _ => id, id⟩

theorem ages_markClosed (pool : ChannelPool) : pool.Ages pool.markClosed :=
  ⟨rfl, rfl, rfl, fun _ => id, fun _ => rfl⟩

theorem ages_shutSlot (pool : ChannelPool) (slot : Nat) : pool.Ages (pool.shutSlot slot) :=
  (wears_shutSlot pool slot).ages (isClosed_shutSlot pool slot).trans

theorem ages_shutdownChannel (pool : ChannelPool) (place : Nat) :
    pool.Ages (pool.shutdownChannel place).1 := (wears_shutdownChannel pool place).ages id

theorem IsStale.ages (stale : pool.IsStale slot) (ages : pool.Ages after) : after.IsStale slot := by
  obtain ⟨place, there, closed⟩ := stale
  refine ⟨place, by rw [ages.slots_eq, there], ?_⟩
  rw [← Bool.not_eq_true] at closed ⊢
  exact fun usable => closed (ages.usable place usable)

namespace Tracks

variable (tracks : pool.Tracks)
include tracks

theorem ages (ages : pool.Ages after) : after.Tracks where
  slots_pos := by rw [ages.slots_eq]; exact tracks.slots_pos
  slots_built := by
    rw [ages.slots_eq, ages.length_built]
    exact tracks.slots_built
  slots_nodup := by rw [ages.slots_eq]; exact tracks.slots_nodup
  length_built := by
    rw [ages.slots_eq, ages.length_built, ages.rebuilt_eq]
    exact tracks.length_built
  usable_mem place usable := by
    rw [ages.slots_eq]
    exact tracks.usable_mem place (ages.usable place usable)

/-- A channel that takes no calls may be replaced. -/
theorem rebuild (stale : pool.IsStale slot) : (pool.rebuild slot).Tracks := by
  obtain ⟨old, there, closed⟩ := stale
  have inside := (List.getElem?_eq_some_iff.1 there).1
  have fresh : pool.built.length ∉ pool.slots := fun mem =>
    Nat.lt_irrefl _ (tracks.slots_built _ mem)
  have length_slots : (pool.rebuild slot).slots.length = pool.slots.length := List.length_set
  have length_new : (pool.rebuild slot).built.length = pool.built.length + 1 := by
    simp [ChannelPool.rebuild]
  constructor
  · rw [length_slots]
    exact tracks.slots_pos
  · intro place mem
    rw [length_new]
    rcases List.mem_or_eq_of_mem_set mem with mem | rfl
    · exact Nat.lt_succ_of_lt (tracks.slots_built place mem)
    · exact Nat.lt_succ_self _
  · exact List.Nodup.set tracks.slots_nodup fresh
  · rw [length_new, length_slots, tracks.length_built]
    rfl
  · intro place usable
    rw [isUsable_rebuild, Bool.or_eq_true, beq_iff_eq] at usable
    rcases usable with usable | rfl
    · -- The channel takes calls, so it is not that of the slot, and its own slot stays.
      obtain ⟨other, elsewhere⟩ := List.mem_iff_getElem?.1 (tracks.usable_mem place usable)
      have other_ne : slot ≠ other := by
        rintro rfl
        rw [Option.some.inj (there.symm.trans elsewhere), usable] at closed
        cases closed
      exact List.mem_of_getElem? ((List.getElem?_set_ne other_ne).trans elsewhere)
    · exact List.mem_set inside _

/-- There are no more replacements than retired channels. -/
theorem rebuilt_le : pool.rebuilt ≤ pool.retired.length := by
  have inside : ((List.range pool.built.length).filter pool.isUsable).length ≤
      pool.slots.length := by
    refine List.Subperm.length_le (List.subperm_of_subset (List.nodup_range.filter _) ?_)
    intro place mem
    exact tracks.usable_mem place (List.mem_filter.1 mem).2
  have total := List.length_eq_length_filter_add (l := List.range pool.built.length) pool.isUsable
  have length_built := tracks.length_built
  rw [List.length_range] at total
  rw [retired]
  omega

end Tracks
end ChannelPool

/-! ## What one step does -/

/-- Whether a caller that is somewhere has the lock. -/
def CallerPhase.IsLocked : CallerPhase → Prop
  | .looking _ => True
  | .deciding _ => True
  | .building _ => True
  | .leaving _ => True
  | _ => False

/-- Whether a shutdown that is somewhere has the lock. -/
def CloserPhase.IsLocked : CloserPhase → Prop
  | .locked => True
  | .closing _ => True
  | _ => False

/-- Whether a caller that is somewhere has got the built channel at a place. -/
def CallerPhase.HasGot (place : Nat) (phase : CallerPhase) : Prop :=
  phase = .leaving (some place) ∨ phase = .returned (some place)

/-- What a caller with a number does at a pool: where it was, the pool and the lock after its step,
and where it is then. -/
inductive CallerPhase.Goes (pool : ChannelPool) (holder : Option LockHolder) (number : Nat) :
    CallerPhase → ChannelPool → Option LockHolder → CallerPhase → Prop
  | refused (closed : pool.isClosed = true) :
    Goes pool holder number .begun pool holder (.returned none)
  | admitted (isOpen : pool.isClosed = false) :
    Goes pool holder number .begun pool holder .admitted
  | visited : Goes pool holder number .admitted pool.visit.1 holder (.visiting pool.visit.2)
  | served {slot place : Nat} (ready : pool.readyAt? slot = some place) :
    Goes pool holder number (.visiting slot) pool holder (.returned (some place))
  | missed {slot : Nat} (unready : pool.readyAt? slot = none) :
    Goes pool holder number (.visiting slot) pool holder (.blocked slot)
  | locked {slot : Nat} (free : holder = none) :
    Goes pool holder number (.blocked slot) pool (some (.caller number)) (.looking slot)
  | found {slot place : Nat} (ready : pool.readyAt? slot = some place) :
    Goes pool holder number (.looking slot) pool holder (.leaving (some place))
  | missedAgain {slot : Nat} (unready : pool.readyAt? slot = none) :
    Goes pool holder number (.looking slot) pool holder (.deciding slot)
  | turnedAway {slot : Nat} (closed : pool.isClosed = true) :
    Goes pool holder number (.deciding slot) pool holder (.leaving none)
  | decided {slot : Nat} (isOpen : pool.isClosed = false) :
    Goes pool holder number (.deciding slot) pool holder (.building slot)
  | built {slot : Nat} :
    Goes pool holder number (.building slot) (pool.rebuild slot) holder
      (.leaving (some pool.built.length))
  | left {place : Option Nat} : Goes pool holder number (.leaving place) pool none (.returned place)

/-- What a shutdown with a number does at a pool. -/
inductive CloserPhase.Goes (pool : ChannelPool) (holder : Option LockHolder) (number : Nat) :
    CloserPhase → ChannelPool → Option LockHolder → CloserPhase → Prop
  | locked (free : holder = none) :
    Goes pool holder number .begun pool (some (.closer number)) .locked
  | closed :
    Goes pool holder number .locked pool.markClosed holder
      (.closing (List.range pool.slots.length))
  | shut {slot : Nat} {rest : List Nat} :
    Goes pool holder number (.closing (slot :: rest)) (pool.shutSlot slot) holder (.closing rest)
  | left : Goes pool holder number (.closing []) pool none .returned

namespace PoolCrowd

open ChannelPool

variable {crowd next : PoolCrowd}

theorem stepCaller_cases {number : Nat} {phase : CallerPhase}
    (stepped : crowd.stepCaller number phase = some next) :
    ∃ pool holder later, phase.Goes crowd.pool crowd.holder number pool holder later ∧
      next = { crowd with pool, holder, callers := crowd.callers.set number later } := by
  cases phase with
  | begun =>
      cases stepped
      cases closed : crowd.pool.isClosed with
      | false => exact ⟨_, _, _, .admitted closed, by rw [setCaller]; rfl⟩
      | true => exact ⟨_, _, _, .refused closed, by rw [setCaller]; rfl⟩
  | admitted =>
      cases stepped
      exact ⟨_, _, _, .visited, rfl⟩
  | visiting slot =>
      simp only [stepCaller] at stepped
      split at stepped
      next place ready =>
        cases stepped
        exact ⟨_, _, _, .served ready, rfl⟩
      next unready =>
        cases stepped
        exact ⟨_, _, _, .missed unready, rfl⟩
  | blocked slot =>
      simp only [stepCaller] at stepped
      split at stepped
      next free =>
        cases stepped
        exact ⟨_, _, _, .locked (Option.isNone_iff_eq_none.1 free), rfl⟩
      next => cases stepped
  | looking slot =>
      simp only [stepCaller] at stepped
      split at stepped
      next place ready =>
        cases stepped
        exact ⟨_, _, _, .found ready, rfl⟩
      next unready =>
        cases stepped
        exact ⟨_, _, _, .missedAgain unready, rfl⟩
  | deciding slot =>
      cases stepped
      cases closed : crowd.pool.isClosed with
      | false => exact ⟨_, _, _, .decided closed, by rw [setCaller]; rfl⟩
      | true => exact ⟨_, _, _, .turnedAway closed, by rw [setCaller]; rfl⟩
  | building slot =>
      cases stepped
      exact ⟨_, _, _, .built, rfl⟩
  | leaving place =>
      cases stepped
      exact ⟨_, _, _, .left, rfl⟩
  | returned place => cases stepped

theorem stepCloser_cases {number : Nat} {phase : CloserPhase}
    (stepped : crowd.stepCloser number phase = some next) :
    ∃ pool holder later, phase.Goes crowd.pool crowd.holder number pool holder later ∧
      next = { crowd with pool, holder, closers := crowd.closers.set number later } := by
  cases phase with
  | begun =>
      simp only [stepCloser] at stepped
      split at stepped
      next free =>
        cases stepped
        exact ⟨_, _, _, .locked (Option.isNone_iff_eq_none.1 free), rfl⟩
      next => cases stepped
  | locked =>
      cases stepped
      exact ⟨_, _, _, .closed, rfl⟩
  | closing slots =>
      cases slots with
      | nil =>
          cases stepped
          exact ⟨_, _, _, .left, rfl⟩
      | cons slot rest =>
          cases stepped
          exact ⟨_, _, _, .shut, rfl⟩
  | returned => cases stepped

/-- What a step is: one of a caller, one of a shutdown, or the end of a channel. -/
theorem step_cases {step : PoolStep} (stepped : crowd.step step = some next) :
    (∃ number phase pool holder later, step = .caller number ∧
        crowd.callers[number]? = some phase ∧
        phase.Goes crowd.pool crowd.holder number pool holder later ∧
        next = { crowd with pool, holder, callers := crowd.callers.set number later }) ∨
      (∃ number phase pool holder later, step = .closer number ∧
        crowd.closers[number]? = some phase ∧
        phase.Goes crowd.pool crowd.holder number pool holder later ∧
        next = { crowd with pool, holder, closers := crowd.closers.set number later }) ∨
      ∃ place, step = .channelShutdown place ∧
        next = { crowd with pool := (crowd.pool.shutdownChannel place).1 } := by
  cases step with
  | caller number =>
      obtain ⟨phase, there, stepped⟩ := Option.bind_eq_some_iff.1 stepped
      obtain ⟨pool, holder, later, goes, rfl⟩ := stepCaller_cases stepped
      exact .inl ⟨number, phase, pool, holder, later, rfl, there, goes, rfl⟩
  | closer number =>
      obtain ⟨phase, there, stepped⟩ := Option.bind_eq_some_iff.1 stepped
      obtain ⟨pool, holder, later, goes, rfl⟩ := stepCloser_cases stepped
      exact .inr (.inl ⟨number, phase, pool, holder, later, rfl, there, goes, rfl⟩)
  | channelShutdown place =>
      cases stepped
      exact .inr (.inr ⟨place, rfl, rfl⟩)

end PoolCrowd

/-! ## What is the case at any time -/

/-- The channels that take calls are in some of the slots. -/
def ChannelPool.OpenIn (pool : ChannelPool) (slots : List Nat) : Prop :=
  ∀ slot place, pool.slots[slot]? = some place → pool.isUsable place = true → slot ∈ slots

/-- What a caller that is somewhere can rely on: once it has the lock and has looked, the channel of
its slot takes no calls, and once it has seen that the pool is open, it is. -/
def CallerPhase.Fits (pool : ChannelPool) : CallerPhase → Prop
  | .visiting slot => slot < pool.slots.length
  | .blocked slot => slot < pool.slots.length
  | .looking slot => slot < pool.slots.length
  | .deciding slot => pool.IsStale slot
  | .building slot => pool.IsStale slot ∧ pool.isClosed = false
  | _ => True

/-- What a shutdown that is somewhere can rely on: it has closed the pool, and the channels of the
slots behind it take no calls. -/
def CloserPhase.Fits (pool : ChannelPool) : CloserPhase → Prop
  | .closing rest => pool.isClosed = true ∧ pool.OpenIn rest
  | .returned => pool.isClosed = true ∧ pool.OpenIn []
  | _ => True

theorem ChannelPool.OpenIn.ages {pool after : ChannelPool} {slots : List Nat}
    (openIn : pool.OpenIn slots) (ages : pool.Ages after) : after.OpenIn slots := by
  intro slot place there usable
  rw [ages.slots_eq] at there
  exact openIn slot place there (ages.usable place usable)

theorem CallerPhase.Fits.ages {pool after : ChannelPool} {phase : CallerPhase}
    (fits : phase.Fits pool) (ages : pool.Ages after)
    (same : phase.IsLocked → after.isClosed = pool.isClosed) : phase.Fits after := by
  cases phase with
  | visiting slot => simpa [Fits, ages.slots_eq] using fits
  | blocked slot => simpa [Fits, ages.slots_eq] using fits
  | looking slot => simpa [Fits, ages.slots_eq] using fits
  | deciding slot => exact ChannelPool.IsStale.ages fits ages
  | building slot => exact ⟨fits.1.ages ages, (same trivial).trans fits.2⟩
  | begun | admitted | leaving place | returned place => trivial

theorem CloserPhase.Fits.ages {pool after : ChannelPool} {phase : CloserPhase}
    (fits : phase.Fits pool) (ages : pool.Ages after) : phase.Fits after := by
  cases phase with
  | closing rest => exact ⟨ages.closed fits.1, fits.2.ages ages⟩
  | returned => exact ⟨ages.closed fits.1, fits.2.ages ages⟩
  | begun | locked => trivial

theorem CallerPhase.Fits.rebuild {pool : ChannelPool} {phase : CallerPhase} {slot : Nat}
    (fits : phase.Fits pool) (unlocked : ¬phase.IsLocked) : phase.Fits (pool.rebuild slot) := by
  cases phase with
  | visiting other => simpa [Fits, ChannelPool.rebuild] using fits
  | blocked other => simpa [Fits, ChannelPool.rebuild] using fits
  | looking other | deciding other | building other => exact absurd trivial unlocked
  | begun | admitted | leaving place | returned place => trivial

/-- No shutdown is behind any slot of an open pool. -/
theorem CloserPhase.Fits.rebuild {pool : ChannelPool} {phase : CloserPhase} {slot : Nat}
    (fits : phase.Fits pool) (isOpen : pool.isClosed = false) :
    phase.Fits (pool.rebuild slot) := by
  cases phase with
  | closing rest | returned =>
      have closed := fits.1
      rw [isOpen] at closed
      cases closed
  | begun | locked => trivial

namespace CallerPhase.Goes

variable {pool pool' : ChannelPool} {holder holder' : Option LockHolder} {number : Nat}
  {phase later : CallerPhase} (goes : phase.Goes pool holder number pool' holder' later)
include goes

/-- A caller takes the lock when nobody has it, and gives back none but its own. -/
theorem lock (locked : phase.IsLocked ↔ holder = some (.caller number)) :
    (later.IsLocked ↔ holder' = some (.caller number)) ∧
      ∀ who, who ≠ .caller number → (holder' = some who ↔ holder = some who) := by
  cases goes with
  | locked free =>
      subst free
      exact ⟨iff_of_true trivial rfl, fun who other => by simpa [eq_comm] using other⟩
  | left =>
      obtain rfl := locked.1 trivial
      exact ⟨iff_of_false id nofun, fun who other => by simpa [eq_comm] using other⟩
  | refused | admitted | visited | served | missed | found | missedAgain | turnedAway | decided
  | built => exact ⟨locked, fun _ _ => Iff.rfl⟩

/-- A caller stores a channel or leaves all channels as they are. -/
theorem ages_or : pool.Ages pool' ∧ pool'.isClosed = pool.isClosed ∨
    ∃ slot, phase = .building slot ∧ pool' = pool.rebuild slot := by
  cases goes with
  | visited => exact .inl ⟨pool.ages_visit, rfl⟩
  | @built slot => exact .inr ⟨slot, rfl, rfl⟩
  | refused | admitted | served | missed | locked | found | missedAgain | turnedAway | decided
  | left => exact .inl ⟨.refl pool, rfl⟩

theorem fits (tracks : pool.Tracks) (fits : phase.Fits pool) : later.Fits pool' := by
  cases goes with
  | visited => exact Nat.mod_lt _ tracks.slots_pos
  | missed unready => exact fits
  | locked free => exact fits
  | missedAgain unready => exact ChannelPool.isStale_of_readyAt? fits unready
  | decided isOpen => exact ⟨fits, isOpen⟩
  | refused | admitted | served | found | turnedAway | built | left => trivial

end CallerPhase.Goes

namespace CloserPhase.Goes

variable {pool pool' : ChannelPool} {holder holder' : Option LockHolder} {number : Nat}
  {phase later : CloserPhase} (goes : phase.Goes pool holder number pool' holder' later)
include goes

/-- A shutdown takes the lock when nobody has it, and gives back none but its own. -/
theorem lock (locked : phase.IsLocked ↔ holder = some (.closer number)) :
    (later.IsLocked ↔ holder' = some (.closer number)) ∧
      ∀ who, who ≠ .closer number → (holder' = some who ↔ holder = some who) := by
  cases goes with
  | locked free =>
      subst free
      exact ⟨iff_of_true trivial rfl, fun who other => by simpa [eq_comm] using other⟩
  | left =>
      obtain rfl := locked.1 trivial
      exact ⟨iff_of_false id nofun, fun who other => by simpa [eq_comm] using other⟩
  | closed | shut => exact ⟨locked, fun _ _ => Iff.rfl⟩

theorem ages : pool.Ages pool' := by
  cases goes with
  | closed => exact pool.ages_markClosed
  | @shut slot rest => exact pool.ages_shutSlot slot
  | locked | left => exact .refl pool

/-- Only a shutdown that has the lock closes the pool. -/
theorem isClosed_eq (unlocked : ¬phase.IsLocked) : pool'.isClosed = pool.isClosed := by
  cases goes with
  | closed => exact absurd trivial unlocked
  | @shut slot rest => exact pool.isClosed_shutSlot slot
  | locked | left => rfl

theorem fits (fits : phase.Fits pool) : later.Fits pool' := by
  cases goes with
  | closed =>
      refine ⟨rfl, fun slot place there usable => List.mem_range.2 ?_⟩
      exact (List.getElem?_eq_some_iff.1 there).1
  | @shut slot rest =>
      refine ⟨(pool.isClosed_shutSlot slot).trans fits.1, fun other place there usable => ?_⟩
      rw [(pool.ages_shutSlot slot).slots_eq] at there
      have known := fits.2 other place there ((pool.ages_shutSlot slot).usable place usable)
      rcases List.mem_cons.1 known with rfl | later
      · rw [ChannelPool.isUsable_shutSlot there] at usable
        cases usable
      · exact later
  | left => exact fits
  | locked => trivial

end CloserPhase.Goes

end ClusterMember
