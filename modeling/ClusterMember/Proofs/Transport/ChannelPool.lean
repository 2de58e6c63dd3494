import ClusterMember.Transport.ChannelPool.Course

/-!
# Which channels a pool hands out

A pool that is not shut down hands out the channel of the slot that its cursor points to, and builds
one only in the stead of one that takes no calls.  A channel that takes no calls never takes any
again, and in a pool that is shut down no channel takes calls.
-/

namespace ClusterMember

namespace Channel

/-- A change that keeps the endpoint of a channel and opens no channel that takes no calls. -/
def Fades (change : Channel → Channel) : Prop :=
  ∀ channel, (change channel).target = channel.target ∧
    ((change channel).isUsable = true → channel.isUsable = true)

theorem fades_tryTerminate : Fades tryTerminate := by
  intro channel
  rw [tryTerminate]
  split
  next => exact ⟨rfl, by simp [isUsable]⟩
  next => exact ⟨rfl, id⟩

theorem isUsable_shutdown (channel : Channel) : channel.shutdown.1.isUsable = false := by
  simp only [shutdown]
  split
  next =>
    simp only [tryTerminate]
    split <;> rfl
  next closed =>
    rw [← Bool.not_eq_true]
    intro usable
    exact closed (by simpa [isUsable] using (fades_tryTerminate channel).2 usable)

theorem fades_shutdown : Fades fun channel => channel.shutdown.1 := by
  refine fun channel => ⟨?_, by simp [isUsable_shutdown]⟩
  simp only [shutdown]
  split
  next => exact (fades_tryTerminate _).1
  next => exact (fades_tryTerminate _).1

theorem fades_begin (size : Nat) : Fades (begin size) := by
  intro channel
  rw [begin, enter]
  cases channel.refusal? size with
  | none => exact ⟨rfl, id⟩
  | some fault => exact ⟨rfl, id⟩

theorem fades_finish : Fades finish := by
  intro channel
  rw [finish]
  split
  next => exact ⟨rfl, id⟩
  next => exact fades_tryTerminate { channel with inFlight := channel.inFlight - 1 }

end Channel

namespace ChannelPool

variable {pool before after last : ChannelPool}

/-! ## Changes that build nothing -/

/-- One pool is another one after a change that builds nothing and opens no channel. -/
structure Wears (before after : ChannelPool) : Prop where
  host_eq : after.host = before.host
  port_eq : after.port = before.port
  slots_eq : after.slots = before.slots
  cursor_eq : after.cursor = before.cursor
  rebuilt_eq : after.rebuilt = before.rebuilt
  targets_eq : after.built.map (·.target) = before.built.map (·.target)
  usable : ∀ place, after.isUsable place = true → before.isUsable place = true

namespace Wears

theorem refl (pool : ChannelPool) : pool.Wears pool := ⟨rfl, rfl, rfl, rfl, rfl, rfl, fun _ => id⟩

theorem trans (first : before.Wears after) (second : after.Wears last) : before.Wears last where
  host_eq := second.host_eq.trans first.host_eq
  port_eq := second.port_eq.trans first.port_eq
  slots_eq := second.slots_eq.trans first.slots_eq
  cursor_eq := second.cursor_eq.trans first.cursor_eq
  rebuilt_eq := second.rebuilt_eq.trans first.rebuilt_eq
  targets_eq := second.targets_eq.trans first.targets_eq
  usable place usable := first.usable place (second.usable place usable)

theorem length_built (wears : before.Wears after) : after.built.length = before.built.length := by
  simpa using congrArg List.length wears.targets_eq

theorem not_usable (wears : before.Wears after) {place : Nat}
    (closed : before.isUsable place = false) : after.isUsable place = false := by
  rw [← Bool.not_eq_true] at closed ⊢
  exact fun usable => closed (wears.usable place usable)

end Wears

theorem channel?_modify (pool : ChannelPool) (place other : Nat) (change : Channel → Channel) :
    (pool.modify place change).channel? other =
      if place = other then (pool.channel? other).map change else pool.channel? other := by
  simp only [channel?, modify, List.getElem?_modify]
  split <;> simp

theorem isUsable_iff (pool : ChannelPool) (place : Nat) :
    pool.isUsable place = true ↔
      ∃ channel, pool.channel? place = some channel ∧ channel.isUsable = true := by
  rw [isUsable, Option.any_eq_true]

theorem wears_modify (pool : ChannelPool) (place : Nat) {change : Channel → Channel}
    (fades : Channel.Fades change) : pool.Wears (pool.modify place change) where
  host_eq := rfl
  port_eq := rfl
  slots_eq := rfl
  cursor_eq := rfl
  rebuilt_eq := rfl
  targets_eq := by
    refine List.ext_getElem? fun other => ?_
    simp only [List.getElem?_map, modify, List.getElem?_modify]
    split <;> cases pool.built[other]? <;> simp [(fades _).1]
  usable other usable := by
    rw [isUsable_iff] at usable ⊢
    obtain ⟨channel, there, usable⟩ := usable
    rw [channel?_modify] at there
    split at there
    next =>
      obtain ⟨old, there_before, rfl⟩ := Option.map_eq_some_iff.1 there
      exact ⟨old, there_before, (fades old).2 usable⟩
    next => exact ⟨channel, there, usable⟩

theorem wears_shutdownChannel (pool : ChannelPool) (place : Nat) :
    pool.Wears (pool.shutdownChannel place).1 := wears_modify pool place Channel.fades_shutdown

theorem isUsable_shutdownChannel (pool : ChannelPool) (place : Nat) :
    (pool.shutdownChannel place).1.isUsable place = false := by
  rw [isUsable, shutdownChannel, channel?_modify, if_pos rfl]
  cases pool.channel? place with
  | none => rfl
  | some channel => exact channel.isUsable_shutdown

theorem wears_shutSlot (pool : ChannelPool) (slot : Nat) : pool.Wears (pool.shutSlot slot) := by
  rw [shutSlot]
  split
  next => exact .refl pool
  next place there => exact wears_shutdownChannel pool place

theorem isClosed_shutSlot (pool : ChannelPool) (slot : Nat) :
    (pool.shutSlot slot).isClosed = pool.isClosed := by
  rw [shutSlot]
  split <;> rfl

theorem isUsable_shutSlot {slot place : Nat} (there : pool.slots[slot]? = some place) :
    (pool.shutSlot slot).isUsable place = false := by
  rw [shutSlot, there]
  exact isUsable_shutdownChannel pool place

theorem wears_foldl_shutSlot (pool : ChannelPool) (slots : List Nat) :
    pool.Wears (slots.foldl shutSlot pool) := by
  induction slots generalizing pool with
  | nil => exact .refl pool
  | cons slot rest induction => exact (wears_shutSlot pool slot).trans (induction _)

theorem isClosed_foldl_shutSlot (pool : ChannelPool) (slots : List Nat) :
    (slots.foldl shutSlot pool).isClosed = pool.isClosed := by
  induction slots generalizing pool with
  | nil => rfl
  | cons slot rest induction => rw [List.foldl_cons, induction, isClosed_shutSlot]

theorem isUsable_foldl_shutSlot {slots : List Nat} {slot place : Nat} (mem : slot ∈ slots)
    (there : pool.slots[slot]? = some place) :
    (slots.foldl shutSlot pool).isUsable place = false := by
  induction slots generalizing pool with
  | nil => cases mem
  | cons first rest induction =>
      rcases List.mem_cons.1 mem with rfl | later
      · exact (wears_foldl_shutSlot _ rest).not_usable (isUsable_shutSlot there)
      · exact induction later (by rwa [(wears_shutSlot pool first).slots_eq])

theorem wears_shutdown (pool : ChannelPool) : pool.Wears pool.shutdown :=
  have marked : pool.Wears pool.markClosed := ⟨rfl, rfl, rfl, rfl, rfl, rfl, fun _ => id⟩
  marked.trans (wears_foldl_shutSlot _ _)

theorem isClosed_shutdown (pool : ChannelPool) : pool.shutdown.isClosed = true :=
  isClosed_foldl_shutSlot _ _

theorem isUsable_shutdown_of_mem {place : Nat} (mem : place ∈ pool.slots) :
    pool.shutdown.isUsable place = false := by
  obtain ⟨slot, there⟩ := List.mem_iff_getElem?.1 mem
  have inside : slot < pool.slots.length := (List.getElem?_eq_some_iff.1 there).1
  exact isUsable_foldl_shutSlot (List.mem_range.2 inside) there

/-! ## What a pool hands out -/

/-- A pool becomes another one as it hands out the channel of a slot. -/
structure HandsOut (pool : ChannelPool) (slot : Nat) (served : ChannelPool) (place : Nat) :
    Prop where
  getChannel_eq : pool.getChannel = .ok (served, place)
  ready : served.isUsable place = true
  /-- The channel is that of the slot. -/
  stored : served.slots[slot]? = some place
  /-- All other slots are as they were. -/
  slots_eq : served.slots = pool.slots.set slot place
  /-- A channel that takes calls stays, and nothing is built. -/
  kept : ∀ old, pool.slots[slot]? = some old → pool.isUsable old = true →
    place = old ∧ served.built = pool.built ∧ served.rebuilt = pool.rebuilt
  /-- A channel that takes no calls is replaced by the one that is built. -/
  replaced : ∀ old, pool.slots[slot]? = some old → pool.isUsable old = false →
    place = pool.built.length ∧ served.rebuilt = pool.rebuilt + 1 ∧
      served.built =
        pool.built ++ [Channel.connect pool.host pool.port pool.maxMessageSize]

/-- A pool whose slots hold built channels, among them all that take calls. -/
structure Sound (pool : ChannelPool) : Prop where
  slots_pos : 0 < pool.slots.length
  slots_built : ∀ place ∈ pool.slots, place < pool.built.length
  usable_mem : ∀ place, pool.isUsable place = true → place ∈ pool.slots
  closed : pool.isClosed = true → ∀ place, pool.isUsable place = false

theorem getChannel_of_closed (closed : pool.isClosed = true) :
    pool.getChannel = .error (closedFault pool.host pool.port) := by
  rw [getChannel, if_pos closed]

/-- An open pool hands out the channel of the slot that its cursor points to, or a new one. -/
theorem getChannel_of_open (isOpen : pool.isClosed = false) {old : Nat}
    (there : pool.slots[pool.cursor % pool.slots.length]? = some old) :
    pool.getChannel =
      if pool.isUsable old then .ok (pool.visit.1, old)
      else .ok (pool.visit.1.rebuild (pool.cursor % pool.slots.length), pool.built.length) := by
  have readyAt?_eq : pool.visit.1.readyAt? (pool.cursor % pool.slots.length) =
      if pool.isUsable old then some old else none := by
    simp only [readyAt?, visit, there, Option.filter_some]
    rfl
  have not_closed : ¬pool.isClosed = true := by simp [isOpen]
  simp only [visit] at readyAt?_eq
  simp only [getChannel, if_neg not_closed, visit, readyAt?_eq]
  cases pool.isUsable old <;> rfl

theorem isUsable_rebuild (pool : ChannelPool) (slot place : Nat) :
    (pool.rebuild slot).isUsable place = (pool.isUsable place || place == pool.built.length) := by
  simp only [isUsable, channel?, rebuild, List.getElem?_append]
  split
  next below => simp [Nat.ne_of_lt below]
  next above =>
    rw [Nat.not_lt] at above
    rw [List.getElem?_eq_none above]
    by_cases new : place = pool.built.length
    · simp [new, Channel.isUsable, Channel.connect]
    · have outside : 1 ≤ place - pool.built.length := by omega
      rw [List.getElem?_eq_none (by simpa using outside)]
      simp [new]

namespace Sound

variable (sound : pool.Sound)
include sound

theorem wears (wears : pool.Wears after)
    (closed : after.isClosed = true → ∀ place, after.isUsable place = false) : after.Sound where
  slots_pos := by rw [wears.slots_eq]; exact sound.slots_pos
  slots_built place mem := by
    rw [wears.slots_eq] at mem
    rw [wears.length_built]
    exact sound.slots_built place mem
  usable_mem place usable := by
    rw [wears.slots_eq]
    exact sound.usable_mem place (wears.usable place usable)
  closed := closed

theorem wears_open (wears : pool.Wears after) (same : after.isClosed = pool.isClosed) :
    after.Sound :=
  sound.wears wears fun closed place =>
    wears.not_usable (sound.closed (same.symm.trans closed) place)

theorem shutdown : pool.shutdown.Sound := by
  refine sound.wears (wears_shutdown pool) fun _ place => ?_
  rw [← Bool.not_eq_true]
  intro usable
  have mem := sound.usable_mem place ((wears_shutdown pool).usable place usable)
  rw [isUsable_shutdown_of_mem mem] at usable
  cases usable

theorem visit : pool.visit.1.Sound :=
  ⟨sound.slots_pos, sound.slots_built, sound.usable_mem, sound.closed⟩

/-- A pool may build a channel in the stead of one that takes no calls. -/
theorem rebuild (isOpen : pool.isClosed = false) {slot old : Nat}
    (there : pool.slots[slot]? = some old) (closed : pool.isUsable old = false) :
    (pool.rebuild slot).Sound where
  slots_pos := by simpa [ChannelPool.rebuild] using sound.slots_pos
  slots_built place mem := by
    simp only [ChannelPool.rebuild, List.length_append, List.length_singleton] at mem ⊢
    rcases List.mem_or_eq_of_mem_set mem with mem | rfl
    · exact Nat.lt_succ_of_lt (sound.slots_built place mem)
    · exact Nat.lt_succ_self _
  usable_mem place usable := by
    simp only [isUsable_rebuild, Bool.or_eq_true, beq_iff_eq] at usable
    simp only [ChannelPool.rebuild]
    rcases usable with usable | rfl
    · -- The channel takes calls, so it is not that of the slot, and its own slot stays.
      obtain ⟨other, elsewhere⟩ := List.mem_iff_getElem?.1 (sound.usable_mem place usable)
      have other_ne : slot ≠ other := by
        rintro rfl
        rw [Option.some.inj (there.symm.trans elsewhere), usable] at closed
        cases closed
      exact List.mem_of_getElem? ((List.getElem?_set_ne other_ne).trans elsewhere)
    · exact List.mem_set (List.getElem?_eq_some_iff.1 there).1 _
  closed closed := by
    rw [show (pool.rebuild slot).isClosed = pool.isClosed from rfl, isOpen] at closed
    cases closed

/-- A pool that is not shut down hands out the channel of the slot that its cursor points to. -/
theorem handsOut (isOpen : pool.isClosed = false) :
    ∃ served place,
      pool.HandsOut (pool.cursor % pool.slots.length) served place ∧ served.Sound ∧
        served.isClosed = false ∧ served.cursor = ChannelPool.after pool.cursor ∧
        served.host = pool.host ∧ served.port = pool.port := by
  have inside : pool.cursor % pool.slots.length < pool.slots.length :=
    Nat.mod_lt _ sound.slots_pos
  obtain ⟨old, there⟩ : ∃ old, pool.slots[pool.cursor % pool.slots.length]? = some old :=
    ⟨_, List.getElem?_eq_getElem inside⟩
  have only_old {other : Nat}
      (same : pool.slots[pool.cursor % pool.slots.length]? = some other) : other = old :=
    Option.some.inj (same.symm.trans there)
  have getChannel_eq := getChannel_of_open isOpen there
  cases usable : pool.isUsable old with
  | true =>
      refine ⟨pool.visit.1, old, ⟨?_, usable, there, ?_, ?_, ?_⟩, sound.visit, isOpen, rfl, rfl,
        rfl⟩
      · rw [getChannel_eq, usable]
        rfl
      · rw [← (List.getElem?_eq_some_iff.1 there).2, List.set_getElem_self]
        rfl
      · intro other same _
        exact ⟨(only_old same).symm, rfl, rfl⟩
      · intro other same closed
        rw [only_old same, usable] at closed
        cases closed
  | false =>
      refine ⟨pool.visit.1.rebuild (pool.cursor % pool.slots.length), pool.built.length,
        ⟨?_, ?_, ?_, rfl, ?_, ?_⟩, sound.visit.rebuild isOpen there usable, isOpen, rfl, rfl, rfl⟩
      · rw [getChannel_eq, usable]
        rfl
      · rw [isUsable_rebuild]
        exact Bool.or_eq_true_iff.2 (.inr (beq_self_eq_true _))
      · exact List.getElem?_set_self inside
      · intro other same open_other
        rw [only_old same, usable] at open_other
        cases open_other
      · exact fun _ _ _ => ⟨rfl, rfl, rfl⟩

end Sound

theorem sound_build (host : String) (port : UInt16) (size maxMessageSize : Nat) :
    (build host port size maxMessageSize).Sound where
  slots_pos := by
    rw [build, List.length_range]
    exact Nat.lt_of_lt_of_le Nat.zero_lt_one (Nat.le_max_right size 1)
  slots_built place mem := by simpa [build] using mem
  usable_mem place usable := by
    obtain ⟨channel, there, _⟩ := (isUsable_iff _ _).1 usable
    have below := (List.getElem?_eq_some_iff.1 there).1
    simpa [build] using below
  closed closed := by cases closed

end ChannelPool
end ClusterMember
