import ClusterMember.Proofs.Transport.ChannelPool.Steps
import Mathlib.Data.List.Induction

/-!
# Callers who race for a channel

Whoever stores a channel has the lock, has looked at the slot since it took the lock, and has seen
that the pool is open.  So a slot loses its channel only after that one has left the ready state,
and once a shutdown of the pool has given the lock back nothing is stored any more.
-/

namespace ClusterMember

namespace PoolCrowd

open ChannelPool

variable {crowd next : PoolCrowd}

/-- What is the case in a crowd at any time. -/
structure Sound (crowd : PoolCrowd) : Prop where
  tracks : crowd.pool.Tracks
  /-- The lock is with the caller who has it. -/
  caller_lock : ∀ number phase, crowd.callers[number]? = some phase →
    (phase.IsLocked ↔ crowd.holder = some (.caller number))
  /-- The lock is with the shutdown that has it. -/
  closer_lock : ∀ number phase, crowd.closers[number]? = some phase →
    (phase.IsLocked ↔ crowd.holder = some (.closer number))
  caller_fits : ∀ (number : Nat) (phase : CallerPhase), crowd.callers[number]? = some phase →
    phase.Fits crowd.pool
  closer_fits : ∀ (number : Nat) (phase : CloserPhase), crowd.closers[number]? = some phase →
    phase.Fits crowd.pool

/-- After one of a row is somewhere else, it is there, and the others are where they were. -/
theorem of_getElem?_set {α : Type} {row : List α} {number other : Nat} {phase later : α}
    (there : (row.set number later)[other]? = some phase) :
    (other = number ∧ phase = later) ∨ (other ≠ number ∧ row[other]? = some phase) := by
  rw [List.getElem?_set] at there
  split at there
  next same =>
    split at there
    next => exact .inl ⟨same.symm, (Option.some.inj there).symm⟩
    next => cases there
  next other_ne => exact .inr ⟨fun same => other_ne same.symm, there⟩

namespace Sound

variable (sound : crowd.Sound)
include sound

theorem caller {number : Nat} {phase later : CallerPhase} {pool : ChannelPool}
    {holder : Option LockHolder} (there : crowd.callers[number]? = some phase)
    (goes : phase.Goes crowd.pool crowd.holder number pool holder later) :
    ({ crowd with pool, holder, callers := crowd.callers.set number later } : PoolCrowd).Sound := by
  have fits := sound.caller_fits number phase there
  obtain ⟨later_lock, others_lock⟩ := goes.lock (sound.caller_lock number phase there)
  have later_fits := goes.fits sound.tracks fits
  constructor
  · rcases goes.ages_or with ⟨ages, -⟩ | ⟨slot, rfl, rfl⟩
    · exact sound.tracks.ages ages
    · exact sound.tracks.rebuild fits.1
  · intro other phase' there'
    rcases of_getElem?_set there' with ⟨rfl, rfl⟩ | ⟨other_ne, there'⟩
    · exact later_lock
    · have same := others_lock (.caller other) fun eq => other_ne (LockHolder.caller.inj eq)
      exact (sound.caller_lock other phase' there').trans same.symm
  · intro other phase' there'
    exact (sound.closer_lock other phase' there').trans (others_lock (.closer other) nofun).symm
  · intro other phase' there'
    rcases of_getElem?_set there' with ⟨rfl, rfl⟩ | ⟨other_ne, elsewhere⟩
    · exact later_fits
    · have fits' := sound.caller_fits other phase' elsewhere
      rcases goes.ages_or with ⟨ages, same⟩ | ⟨slot, rfl, rfl⟩
      · exact fits'.ages ages fun _ => same
      · -- The lock is with the caller that stores the channel, so no other one relies on a slot.
        refine fits'.rebuild fun locked => other_ne ?_
        have own := (sound.caller_lock number _ there).1 trivial
        rw [(sound.caller_lock other phase' elsewhere).1 locked] at own
        exact LockHolder.caller.inj (Option.some.inj own)
  · intro other phase' there'
    have fits' := sound.closer_fits other phase' there'
    rcases goes.ages_or with ⟨ages, -⟩ | ⟨slot, rfl, rfl⟩
    · exact fits'.ages ages
    · exact fits'.rebuild fits.2

theorem closer {number : Nat} {phase later : CloserPhase} {pool : ChannelPool}
    {holder : Option LockHolder} (there : crowd.closers[number]? = some phase)
    (goes : phase.Goes crowd.pool crowd.holder number pool holder later) :
    ({ crowd with pool, holder, closers := crowd.closers.set number later } : PoolCrowd).Sound := by
  have own_lock := sound.closer_lock number phase there
  obtain ⟨later_lock, others_lock⟩ := goes.lock own_lock
  constructor
  · exact sound.tracks.ages goes.ages
  · intro other phase' there'
    exact (sound.caller_lock other phase' there').trans (others_lock (.caller other) nofun).symm
  · intro other phase' there'
    rcases of_getElem?_set there' with ⟨rfl, rfl⟩ | ⟨other_ne, there'⟩
    · exact later_lock
    · have same := others_lock (.closer other) fun eq => other_ne (LockHolder.closer.inj eq)
      exact (sound.closer_lock other phase' there').trans same.symm
  · intro other phase' there'
    -- A caller that has the lock keeps the pool as it found it: the shutdown has not got it.
    refine (sound.caller_fits other phase' there').ages goes.ages fun locked => ?_
    refine goes.isClosed_eq fun own => ?_
    have holder_eq := (sound.caller_lock other phase' there').1 locked
    rw [own_lock.1 own] at holder_eq
    cases holder_eq
  · intro other phase' there'
    rcases of_getElem?_set there' with ⟨rfl, rfl⟩ | ⟨-, there'⟩
    · exact goes.fits (sound.closer_fits other phase there)
    · exact (sound.closer_fits other phase' there').ages goes.ages

theorem channelShutdown (place : Nat) :
    ({ crowd with pool := (crowd.pool.shutdownChannel place).1 } : PoolCrowd).Sound := by
  have ages := crowd.pool.ages_shutdownChannel place
  constructor
  · exact sound.tracks.ages ages
  · exact sound.caller_lock
  · exact sound.closer_lock
  · exact fun number phase there => (sound.caller_fits number phase there).ages ages fun _ => rfl
  · exact fun number phase there => (sound.closer_fits number phase there).ages ages

theorem step {step : PoolStep} (stepped : crowd.step step = some next) : next.Sound := by
  rcases step_cases stepped with
    ⟨number, phase, pool, holder, later, -, there, goes, rfl⟩ |
      ⟨number, phase, pool, holder, later, -, there, goes, rfl⟩ | ⟨place, -, rfl⟩
  · exact sound.caller there goes
  · exact sound.closer there goes
  · exact sound.channelShutdown place

/-- A step stores a channel, in an open pool and in the stead of one that takes no calls, or leaves
all channels as they are. -/
theorem ages_or_rebuild {step : PoolStep} (stepped : crowd.step step = some next) :
    crowd.pool.Ages next.pool ∨
      crowd.pool.isClosed = false ∧
        ∃ slot, crowd.pool.IsStale slot ∧ next.pool = crowd.pool.rebuild slot := by
  rcases step_cases stepped with
    ⟨number, phase, pool, holder, later, -, there, goes, rfl⟩ |
      ⟨number, phase, pool, holder, later, -, there, goes, rfl⟩ | ⟨place, -, rfl⟩
  · rcases goes.ages_or with ⟨ages, -⟩ | ⟨slot, rfl, rfl⟩
    · exact .inl ages
    · obtain ⟨stale, isOpen⟩ := sound.caller_fits number _ there
      exact .inr ⟨isOpen, slot, stale, rfl⟩
  · exact .inl goes.ages
  · exact .inl (crowd.pool.ages_shutdownChannel place)

/-- What leaves a slot takes no calls, and what comes in its stead is built then. -/
theorem replaces {step : PoolStep} (stepped : crowd.step step = some next) {slot old new : Nat}
    (before : crowd.pool.slots[slot]? = some old) (after : next.pool.slots[slot]? = some new)
    (new_ne : new ≠ old) : crowd.pool.isUsable old = false ∧ new = crowd.pool.built.length := by
  rcases sound.ages_or_rebuild stepped with ages | ⟨-, other, ⟨place, there, closed⟩, pool_eq⟩
  · rw [ages.slots_eq, before] at after
    exact absurd (Option.some.inj after).symm new_ne
  · simp only [pool_eq, rebuild] at after
    rcases of_getElem?_set after with ⟨rfl, rfl⟩ | ⟨-, kept⟩
    · rw [before] at there
      exact ⟨Option.some.inj there ▸ closed, rfl⟩
    · rw [before] at kept
      exact absurd (Option.some.inj kept).symm new_ne

end Sound

/-! ## A whole run -/

theorem run_cons (crowd : PoolCrowd) (step : PoolStep) (rest : List PoolStep) :
    crowd.run (step :: rest) = ((crowd.step step).getD crowd).run rest := rfl

theorem run_append (crowd : PoolCrowd) (first second : List PoolStep) :
    crowd.run (first ++ second) = (crowd.run first).run second := List.foldl_append

theorem Sound.run (sound : crowd.Sound) (steps : List PoolStep) : (crowd.run steps).Sound := by
  induction steps generalizing crowd with
  | nil => exact sound
  | cons step rest induction =>
      rw [run_cons]
      cases stepped : crowd.step step with
      | none => exact induction sound
      | some next => exact induction (sound.step stepped)

/-- A built channel that takes no calls never takes any again. -/
theorem Sound.not_usable_run (sound : crowd.Sound) {place : Nat}
    (known : place < crowd.pool.built.length) (closed : crowd.pool.isUsable place = false)
    (later : List PoolStep) : (crowd.run later).pool.isUsable place = false := by
  induction later generalizing crowd with
  | nil => exact closed
  | cons step rest induction =>
      rw [run_cons]
      cases stepped : crowd.step step with
      | none => exact induction sound known closed
      | some next =>
          rcases sound.ages_or_rebuild stepped with ages | ⟨-, slot, -, pool_eq⟩
          · refine induction (sound.step stepped) (ages.length_built.symm ▸ known) ?_
            rw [← Bool.not_eq_true] at closed ⊢
            exact fun usable => closed (ages.usable place usable)
          · refine induction (sound.step stepped) ?_ ?_
            · simpa [pool_eq, rebuild] using Nat.lt_succ_of_lt known
            · simp [pool_eq, isUsable_rebuild, closed, Nat.ne_of_lt known]

/-- Nothing is stored in a pool that is closed. -/
theorem Sound.ages_run (sound : crowd.Sound) (closed : crowd.pool.isClosed = true)
    (later : List PoolStep) : crowd.pool.Ages (crowd.run later).pool := by
  induction later generalizing crowd with
  | nil => exact .refl _
  | cons step rest induction =>
      rw [run_cons]
      cases stepped : crowd.step step with
      | none => exact induction sound closed
      | some next =>
          rcases sound.ages_or_rebuild stepped with ages | ⟨isOpen, -⟩
          · exact ages.trans (induction (sound.step stepped) (ages.closed closed))
          · rw [closed] at isOpen
            cases isOpen

theorem sound_gather (host : String) (port : UInt16) (size maxMessageSize callers closers : Nat) :
    (gather (.build host port size maxMessageSize) callers closers).Sound where
  tracks := tracks_build host port size maxMessageSize
  caller_lock number phase there := by
    rw [List.eq_of_mem_replicate (List.mem_of_getElem? there)]
    exact iff_of_false id nofun
  closer_lock number phase there := by
    rw [List.eq_of_mem_replicate (List.mem_of_getElem? there)]
    exact iff_of_false id nofun
  caller_fits number phase there := by
    rw [List.eq_of_mem_replicate (List.mem_of_getElem? there)]
    trivial
  closer_fits number phase there := by
    rw [List.eq_of_mem_replicate (List.mem_of_getElem? there)]
    trivial

/-! ## How a caller comes by its channel -/

/-- A caller is about to look at the channel at a place, and that takes calls. -/
def FindsReady (crowd : PoolCrowd) (number place : Nat) : Prop :=
  ∃ slot, (crowd.callers[number]? = some (.visiting slot) ∨
      crowd.callers[number]? = some (.looking slot)) ∧
    crowd.pool.slots[slot]? = some place ∧ crowd.pool.isUsable place = true

/-- A caller builds the channel at a place by its next step, after which a crowd is another one: the
channel takes calls, is the last one built, is in the slot of the caller, where none took calls, and
is counted. -/
structure Builds (crowd : PoolCrowd) (number slot place : Nat) (next : PoolCrowd) : Prop where
  about : crowd.callers[number]? = some (.building slot)
  stepped : crowd.step (.caller number) = some next
  isOpen : crowd.pool.isClosed = false
  stale : crowd.pool.IsStale slot
  place_eq : place = crowd.pool.built.length
  built_eq : next.pool.built =
    crowd.pool.built ++
      [Channel.connect crowd.pool.host crowd.pool.port crowd.pool.maxMessageSize]
  ready : next.pool.isUsable place = true
  slots_eq : next.pool.slots = crowd.pool.slots.set slot place
  stored : next.pool.slots[slot]? = some place
  rebuilt_eq : next.pool.rebuilt = crowd.pool.rebuilt + 1
  /-- The caller has the channel and still the lock. -/
  held : next.callers[number]? = some (.leaving (some place))

/-- A caller who has decided to build a channel does so by its next step. -/
theorem Sound.builds (sound : crowd.Sound) {number slot : Nat}
    (about : crowd.callers[number]? = some (.building slot)) :
    ∃ next, crowd.Builds number slot crowd.pool.built.length next := by
  obtain ⟨stale, isOpen⟩ := sound.caller_fits number _ about
  have ⟨old, there, _⟩ := stale
  have inside : slot < crowd.pool.slots.length := (List.getElem?_eq_some_iff.1 there).1
  have known : number < crowd.callers.length := (List.getElem?_eq_some_iff.1 about).1
  refine ⟨{ crowd with pool := crowd.pool.rebuild slot }.setCaller number
    (.leaving (some crowd.pool.built.length)), ?_⟩
  constructor
  case about => exact about
  case stepped =>
    rw [PoolCrowd.step, about]
    rfl
  case isOpen => exact isOpen
  case stale => exact stale
  case place_eq => rfl
  case built_eq => rfl
  case ready =>
    apply (isUsable_rebuild _ _ _).trans
    rw [beq_self_eq_true, Bool.or_true]
  case slots_eq => rfl
  case stored => exact List.getElem?_set_self inside
  case rebuilt_eq => rfl
  case held => exact List.getElem?_set_self known

/-- A step stores no channel, opens none and counts none, or is one by which a caller builds a
channel. -/
theorem Sound.ages_or_builds (sound : crowd.Sound) {step : PoolStep}
    (stepped : crowd.step step = some next) :
    crowd.pool.Ages next.pool ∨
      ∃ number slot, step = .caller number ∧
        crowd.Builds number slot crowd.pool.built.length next := by
  rcases step_cases stepped with
    ⟨number, phase, pool, holder, later, rfl, there, goes, rfl⟩ |
      ⟨number, phase, pool, holder, later, -, there, goes, rfl⟩ | ⟨place, -, rfl⟩
  · rcases goes.ages_or with ⟨ages, -⟩ | ⟨slot, rfl, -⟩
    · exact .inl ages
    · obtain ⟨last, builds⟩ := sound.builds there
      obtain rfl := Option.some.inj (builds.stepped.symm.trans stepped)
      exact .inr ⟨number, slot, rfl, builds⟩
  · exact .inl goes.ages
  · exact .inl (crowd.pool.ages_shutdownChannel place)

/-- A caller has got the channel at a place. -/
def Keeps (crowd : PoolCrowd) (number place : Nat) : Prop :=
  ∃ phase, crowd.callers[number]? = some phase ∧ phase.HasGot place

/-- Some step of a row is that by which a caller got the channel at a place: it took calls when the
caller looked, or the caller built it.  The caller has kept it since, so it has not looked again. -/
def Obtained (crowd : PoolCrowd) (steps : List PoolStep) (number place : Nat) : Prop :=
  ∃ earlier later, steps = earlier ++ .caller number :: later ∧
    ((crowd.run earlier).FindsReady number place ∨
      ∃ slot next, (crowd.run earlier).Builds number slot place next) ∧
    ∀ middle, middle <+: later →
      (crowd.run (earlier ++ .caller number :: middle)).Keeps number place

/-- A caller has a channel by looking at it or by building it. -/
theorem Sound.keeps_or (sound : crowd.Sound) {step : PoolStep}
    (stepped : crowd.step step = some next) {number place : Nat}
    (keeps : next.Keeps number place) :
    crowd.Keeps number place ∨
      step = .caller number ∧
        (crowd.FindsReady number place ∨ ∃ slot next, crowd.Builds number slot place next) := by
  obtain ⟨last, last_there, got⟩ := keeps
  rcases step_cases stepped with
    ⟨other, phase, pool, holder, later, rfl, there, goes, rfl⟩ |
      ⟨other, phase, pool, holder, later, -, -, -, rfl⟩ | ⟨other, -, rfl⟩
  · rcases of_getElem?_set last_there with ⟨rfl, rfl⟩ | ⟨-, kept⟩
    · cases goes with
      | @served slot found ready =>
          obtain rfl : found = place := by simpa [CallerPhase.HasGot] using got
          exact .inr ⟨rfl, .inl ⟨slot, .inl there, readyAt?_eq_some_iff.1 ready⟩⟩
      | @found slot found ready =>
          obtain rfl : found = place := by simpa [CallerPhase.HasGot] using got
          exact .inr ⟨rfl, .inl ⟨slot, .inr there, readyAt?_eq_some_iff.1 ready⟩⟩
      | @built slot =>
          obtain rfl : crowd.pool.built.length = place := by
            simpa [CallerPhase.HasGot] using got
          exact .inr ⟨rfl, .inr ⟨slot, sound.builds there⟩⟩
      | @left held =>
          have held_eq : held = some place := by simpa [CallerPhase.HasGot] using got
          exact .inl ⟨_, there, .inl (held_eq ▸ rfl)⟩
      | refused | admitted | visited | missed | locked | missedAgain | turnedAway | decided =>
          simp [CallerPhase.HasGot] at got
    · exact .inl ⟨last, kept, got⟩
  · exact .inl ⟨last, last_there, got⟩
  · exact .inl ⟨last, last_there, got⟩

/-- What was got stays got by one more step. -/
theorem Obtained.append_singleton {steps : List PoolStep} {number place : Nat}
    (obtained : crowd.Obtained steps number place) (step : PoolStep)
    (keeps : (crowd.run (steps ++ [step])).Keeps number place) :
    crowd.Obtained (steps ++ [step]) number place := by
  obtain ⟨earlier, later, rfl, how, kept⟩ := obtained
  refine ⟨earlier, later ++ [step], by simp, how, fun middle inside => ?_⟩
  rcases List.prefix_concat_iff.1 inside with rfl | inside
  · simpa using keeps
  · exact kept middle inside

theorem Sound.obtained (sound : crowd.Sound)
    (start : ∀ number place, ¬crowd.Keeps number place) (steps : List PoolStep) :
    ∀ number place, (crowd.run steps).Keeps number place →
      crowd.Obtained steps number place := by
  induction steps using List.reverseRecOn with
  | nil => exact fun number place keeps => absurd keeps (start number place)
  | append_singleton steps step induction =>
      intro number place keeps
      have run_eq : crowd.run (steps ++ [step]) =
          ((crowd.run steps).step step).getD (crowd.run steps) := run_append crowd steps [step]
      have last := keeps
      rw [run_eq] at last
      cases stepped : (crowd.run steps).step step with
      | none =>
          rw [stepped, Option.getD_none] at last
          exact (induction number place last).append_singleton step keeps
      | some next =>
          rw [stepped, Option.getD_some] at last
          rcases (sound.run steps).keeps_or stepped last with earlier | ⟨rfl, how⟩
          · exact (induction number place earlier).append_singleton step keeps
          · refine ⟨steps, [], rfl, how, fun middle inside => ?_⟩
            rw [List.prefix_nil.1 inside]
            exact keeps

theorem not_keeps_gather (pool : ChannelPool) (callers closers number place : Nat) :
    ¬(gather pool callers closers).Keeps number place := by
  rintro ⟨phase, there, got⟩
  rw [List.eq_of_mem_replicate (List.mem_of_getElem? there)] at got
  simp [CallerPhase.HasGot] at got

/-! ## What callers do to a pool -/

/-- Callers at a pool replace no channel but a retired one, get none that they did not find ready or
build, and are done with it once it is shut down. -/
structure Careful (size : Nat) (start : PoolCrowd) (steps : List PoolStep) : Prop where
  length_slots : (start.run steps).pool.slots.length = max size 1
  /-- The next step stores no channel but a new one, in the stead of one that takes no calls. -/
  replaces : ∀ step next, (start.run steps).step step = some next →
    ∀ (slot old new : Nat), (start.run steps).pool.slots[slot]? = some old →
      next.pool.slots[slot]? = some new → new ≠ old →
        (start.run steps).pool.isUsable old = false ∧
          new = (start.run steps).pool.built.length
  rebuilt_le : (start.run steps).pool.rebuilt ≤ (start.run steps).pool.retired.length
  /-- A caller who has decided to build a channel does so by its next step. -/
  builds : ∀ number slot : Nat,
    (start.run steps).callers[number]? = some (.building slot) →
      ∃ next,
        (start.run steps).Builds number slot (start.run steps).pool.built.length next
  /-- No other step stores a channel, opens one or counts one. -/
  ages_or_builds : ∀ step next, (start.run steps).step step = some next →
    (start.run steps).pool.Ages next.pool ∨
      ∃ number slot, step = .caller number ∧
        (start.run steps).Builds number slot (start.run steps).pool.built.length next
  /-- A channel that is retired stays retired. -/
  retired_stays : ∀ place ∈ (start.run steps).pool.retired, ∀ later,
    ((start.run steps).run later).pool.isUsable place = false
  obtained : ∀ number place : Nat,
    (start.run steps).callers[number]? = some (.returned (some place)) →
      start.Obtained steps number place
  /-- Once a shutdown has given the lock back, no slot has a channel that takes calls. -/
  dead : ∀ number : Nat, (start.run steps).closers[number]? = some .returned →
    ∀ place ∈ (start.run steps).pool.slots, (start.run steps).pool.isUsable place = false
  /-- From then on nothing is stored and nothing is built. -/
  final : ∀ number : Nat, (start.run steps).closers[number]? = some .returned → ∀ later,
    ((start.run steps).run later).pool.slots = (start.run steps).pool.slots ∧
      ((start.run steps).run later).pool.built.length = (start.run steps).pool.built.length

theorem length_slots_run (crowd : PoolCrowd) (sound : crowd.Sound) (steps : List PoolStep) :
    (crowd.run steps).pool.slots.length = crowd.pool.slots.length := by
  induction steps generalizing crowd with
  | nil => rfl
  | cons step rest induction =>
      rw [run_cons]
      cases stepped : crowd.step step with
      | none => exact induction crowd sound
      | some next =>
          rw [Option.getD_some, induction next (sound.step stepped)]
          rcases sound.ages_or_rebuild stepped with ages | ⟨-, slot, -, pool_eq⟩
          · rw [ages.slots_eq]
          · simp [pool_eq, rebuild]

/-- However the steps of callers, of shutdowns and of those who shut channels down mix, the callers
are careful. -/
theorem run_careful (host : String) (port : UInt16)
    (size maxMessageSize callers closers : Nat) (steps : List PoolStep) :
    Careful size (gather (.build host port size maxMessageSize) callers closers) steps := by
  have start := sound_gather host port size maxMessageSize callers closers
  have sound := start.run steps
  have slots_eq := length_slots_run _ start steps
  refine
    { length_slots := slots_eq.trans List.length_range
      replaces := fun step next stepped slot old new before after =>
        sound.replaces stepped before after
      rebuilt_le := sound.tracks.rebuilt_le
      builds := fun number slot about => sound.builds about
      ages_or_builds := fun step next stepped => sound.ages_or_builds stepped
      retired_stays := fun place retired later => ?_
      obtained := fun number place there => ?_
      dead := fun number there place mem => ?_
      final := fun number there later => ?_ }
  · obtain ⟨known, closed⟩ := List.mem_filter.1 retired
    exact sound.not_usable_run (List.mem_range.1 known) (by simpa using closed) later
  · exact start.obtained (not_keeps_gather _ callers closers) steps number place
      ⟨_, there, .inr rfl⟩
  · obtain ⟨-, openIn⟩ := sound.closer_fits number _ there
    obtain ⟨slot, slot_there⟩ := List.mem_iff_getElem?.1 mem
    rw [← Bool.not_eq_true]
    exact fun usable => List.not_mem_nil (openIn slot place slot_there usable)
  · have ages := sound.ages_run (sound.closer_fits number _ there).1 later
    exact ⟨ages.slots_eq, ages.length_built⟩

end PoolCrowd
end ClusterMember
