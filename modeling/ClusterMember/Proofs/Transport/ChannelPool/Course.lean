import ClusterMember.Proofs.Transport.ChannelPool

/-!
# Courses of a channel pool

Whatever happens to a pool and its channels, it hands out its slots in turn, each time with a channel
that takes calls, until it is shut down.  Every event but the asking for a channel leaves the slots
alone, and from a shutdown on nothing is handed out or built and no channel takes calls.
-/

namespace ClusterMember

namespace ChannelPoolCourse

open ChannelPool

theorem changes_self (slots : List Nat) :
    (slots.zip slots).filter (fun slot => slot.1 ≠ slot.2) = [] := by
  induction slots with
  | nil => rfl
  | cons first rest induction => simpa using induction

/-- The slots of a row that differ after one of them is set. -/
theorem changes_set {slots : List Nat} {slot old : Nat} (there : slots[slot]? = some old)
    (new : Nat) :
    (slots.zip (slots.set slot new)).filter (fun slot => slot.1 ≠ slot.2) =
      if old = new then [] else [(old, new)] := by
  induction slots generalizing slot with
  | nil => cases there
  | cons first rest induction =>
      cases slot with
      | zero =>
          cases Option.some.inj there
          rw [List.set_cons_zero, List.zip_cons_cons, List.filter_cons, changes_self]
          by_cases same : old = new <;> simp [same]
      | succ slot =>
          rw [List.set_cons_succ, List.zip_cons_cons, List.filter_cons, ← induction there]
          simp

/-- Either the channel of the slot stays, or one more is built in its stead. -/
theorem rebuilt_of_handsOut {pool served : ChannelPool} {slot place old : Nat}
    (handsOut : pool.HandsOut slot served place) (there : pool.slots[slot]? = some old)
    (old_built : old < pool.built.length) :
    pool.built.length ≤ served.built.length ∧
      served.rebuilt = pool.rebuilt + (if old = place then [] else [(old, place)]).length := by
  cases usable : pool.isUsable old with
  | true =>
      obtain ⟨rfl, built_eq, rebuilt_eq⟩ := handsOut.kept old there usable
      simp [built_eq, rebuilt_eq]
  | false =>
      obtain ⟨rfl, rebuilt_eq, built_eq⟩ := handsOut.replaced old there usable
      simp [built_eq, rebuilt_eq, Nat.ne_of_lt old_built]

/-- A course whose pool is sound and counts what happened. -/
structure Sound (host : String) (port : UInt16) (size : Nat) (course : ChannelPoolCourse) :
    Prop where
  pool : course.pool.Sound
  host_eq : course.pool.host = host
  port_eq : course.pool.port = port
  length_slots : course.pool.slots.length = max size 1
  cursor_eq : course.pool.cursor = course.handed.length % UInt64.size
  rebuilt_eq : course.pool.rebuilt = course.replaced.length
  handed_built : ∀ place ∈ course.handed, place < course.pool.built.length

variable {host : String} {port : UInt16} {size : Nat} {course : ChannelPoolCourse}

theorem sound_build (host : String) (port : UInt16) (size maxMessageSize : Nat) :
    (build host port size maxMessageSize).Sound host port size where
  pool := ChannelPool.sound_build host port size maxMessageSize
  host_eq := rfl
  port_eq := rfl
  length_slots := List.length_range
  cursor_eq := rfl
  rebuilt_eq := rfl
  handed_built place mem := by cases mem

/-- An event but the asking for a channel is about the pool alone, and builds nothing. -/
theorem wears_step (course : ChannelPoolCourse) {event : ChannelPool.Event} (other : event ≠ .get) :
    course.pool.Wears (course.step event).pool ∧
      (course.step event).handed = course.handed ∧
      (course.step event).replaced = course.replaced := by
  cases event with
  | get => exact absurd rfl other
  | channelShutdown place => exact ⟨wears_shutdownChannel _ place, rfl, rfl⟩
  | callBegins place size => exact ⟨wears_modify _ place (Channel.fades_begin size), rfl, rfl⟩
  | callEnds place => exact ⟨wears_modify _ place Channel.fades_finish, rfl, rfl⟩
  | shutdown => exact ⟨wears_shutdown _, rfl, rfl⟩

theorem get_of_closed (closed : course.pool.isClosed = true) : course.get = course := by
  rw [get, getChannel_of_closed closed]

namespace Sound

variable (sound : course.Sound host port size)
include sound

theorem pool_step {event : ChannelPool.Event} (other : event ≠ .get) :
    (course.step event).pool.Sound := by
  have wears := (course.wears_step other).1
  cases event with
  | get => exact absurd rfl other
  | channelShutdown place => exact sound.pool.wears_open wears rfl
  | callBegins place size => exact sound.pool.wears_open wears rfl
  | callEnds place => exact sound.pool.wears_open wears rfl
  | shutdown => exact sound.pool.shutdown

theorem get : course.get.Sound host port size := by
  cases closed : course.pool.isClosed with
  | true => rwa [get_of_closed closed]
  | false =>
      obtain ⟨served, place, handsOut, served_sound, -, cursor_eq, host_eq, port_eq⟩ :=
        sound.pool.handsOut closed
      obtain ⟨old, there⟩ :
          ∃ old, course.pool.slots[course.pool.cursor % course.pool.slots.length]? = some old :=
        ⟨_, List.getElem?_eq_getElem (Nat.mod_lt _ sound.pool.slots_pos)⟩
      have old_built := sound.pool.slots_built old (List.mem_of_getElem? there)
      have replaced_eq := changes_set there place
      rw [← handsOut.slots_eq] at replaced_eq
      obtain ⟨built_le, rebuilt_eq⟩ := rebuilt_of_handsOut handsOut there old_built
      rw [ChannelPoolCourse.get, handsOut.getChannel_eq]
      simp only [replaced_eq]
      constructor
      · exact served_sound
      · exact host_eq.trans sound.host_eq
      · exact port_eq.trans sound.port_eq
      · simpa [handsOut.slots_eq] using sound.length_slots
      · simp [cursor_eq, sound.cursor_eq, ChannelPool.after]
      · rw [rebuilt_eq, sound.rebuilt_eq, List.length_append]
      · intro handed mem
        rcases List.mem_append.1 mem with earlier | now
        · exact Nat.lt_of_lt_of_le (sound.handed_built handed earlier) built_le
        · rw [List.mem_singleton] at now
          subst now
          exact served_sound.slots_built handed (List.mem_of_getElem? handsOut.stored)

theorem step (event : ChannelPool.Event) : (course.step event).Sound host port size := by
  by_cases asking : event = .get
  · subst asking
    exact sound.get
  · obtain ⟨wears, handed_eq, replaced_eq⟩ := course.wears_step asking
    constructor
    · exact sound.pool_step asking
    · rw [wears.host_eq, sound.host_eq]
    · rw [wears.port_eq, sound.port_eq]
    · rw [wears.slots_eq, sound.length_slots]
    · rw [wears.cursor_eq, handed_eq, sound.cursor_eq]
    · rw [wears.rebuilt_eq, replaced_eq, sound.rebuilt_eq]
    · rw [handed_eq, wears.length_built]
      exact sound.handed_built

theorem run (events : List ChannelPool.Event) : (course.run events).Sound host port size := by
  induction events generalizing course with
  | nil => exact sound
  | cons event rest induction => exact induction (sound.step event)

/-- Only a shutdown of the pool closes it, and nothing opens it again. -/
theorem isClosed_step_iff (event : ChannelPool.Event) :
    (course.step event).pool.isClosed = true ↔
      course.pool.isClosed = true ∨ event = .shutdown := by
  cases event with
  | get =>
      cases closed : course.pool.isClosed with
      | true => simp [ChannelPoolCourse.step, get_of_closed closed, closed]
      | false =>
          obtain ⟨served, place, handsOut, -, served_open, -⟩ := sound.pool.handsOut closed
          simp [ChannelPoolCourse.step, ChannelPoolCourse.get, handsOut.getChannel_eq, served_open]
  | channelShutdown place =>
      simp [ChannelPoolCourse.step, shutdownChannel, ChannelPool.modify]
  | callBegins place size => simp [ChannelPoolCourse.step, ChannelPool.modify]
  | callEnds place => simp [ChannelPoolCourse.step, ChannelPool.modify]
  | shutdown => simp [ChannelPoolCourse.step, isClosed_shutdown]

theorem isClosed_run_iff (events : List ChannelPool.Event) :
    (course.run events).pool.isClosed = true ↔
      course.pool.isClosed = true ∨ .shutdown ∈ events := by
  induction events generalizing course with
  | nil => simp [ChannelPoolCourse.run]
  | cons event rest induction =>
      rw [List.mem_cons, ← or_assoc, @eq_comm _ _ event, ← sound.isClosed_step_iff event]
      exact induction (sound.step event)

/-- Whatever comes after a shutdown builds nothing and hands out nothing. -/
theorem wears_run_of_closed (closed : course.pool.isClosed = true)
    (later : List ChannelPool.Event) :
    course.pool.Wears (course.run later).pool ∧ (course.run later).handed = course.handed := by
  induction later generalizing course with
  | nil => exact ⟨.refl _, rfl⟩
  | cons event rest induction =>
      by_cases asking : event = .get
      · subst asking
        have idle : course.step .get = course := get_of_closed closed
        rw [ChannelPoolCourse.run, List.foldl_cons, idle]
        exact induction sound closed
      · obtain ⟨wears, handed_eq, -⟩ := course.wears_step asking
        obtain ⟨later_wears, later_handed_eq⟩ := induction (sound.step event)
          ((sound.isClosed_step_iff event).2 (.inl closed))
        exact ⟨wears.trans later_wears, later_handed_eq.trans handed_eq⟩

end Sound

/-- A pool of channels to an endpoint hands out live channels in turn until it is shut down, and is
dead from then on. -/
structure Reliable (host : String) (port : UInt16) (size : Nat)
    (events : List ChannelPool.Event) (course : ChannelPoolCourse) : Prop where
  length_slots : course.pool.slots.length = max size 1
  handed_built : ∀ place ∈ course.handed, (course.pool.channel? place).isSome = true
  slots_built : ∀ place ∈ course.pool.slots, (course.pool.channel? place).isSome = true
  refuses : .shutdown ∈ events → course.pool.getChannel = .error (ChannelPool.closedFault host port)
  /-- The slot of the next channel is told by how many were handed out before. -/
  handsOut : .shutdown ∉ events → ∃ slot served place,
    course.pool.HandsOut slot served place ∧
      (course.handed.length < UInt64.size → slot = course.handed.length % max size 1)
  /-- Only the asking for a channel builds one. -/
  idle : ∀ event, event ≠ .get →
    (course.step event).pool.slots = course.pool.slots ∧
      (course.step event).pool.built.length = course.pool.built.length ∧
      (course.step event).pool.rebuilt = course.pool.rebuilt
  rebuilt_eq : course.pool.rebuilt = course.replaced.length
  /-- After a shutdown of the pool no channel takes calls. -/
  dead : .shutdown ∈ events → ∀ place, course.pool.isUsable place = false
  /-- After a shutdown of the pool none is built, whatever comes later. -/
  final : .shutdown ∈ events → ∀ later,
    (course.run later).pool.built.length = course.pool.built.length ∧
      (course.run later).handed = course.handed

/-- A pool of channels is reliable, whatever happens to it and to its channels. -/
theorem run_reliable (host : String) (port : UInt16) (size maxMessageSize : Nat)
    (events : List ChannelPool.Event) :
    Reliable host port size events ((build host port size maxMessageSize).run events) := by
  have built := sound_build host port size maxMessageSize
  have sound := built.run events
  have closed_iff : ((build host port size maxMessageSize).run events).pool.isClosed = true ↔
      .shutdown ∈ events := by
    rw [built.isClosed_run_iff]
    exact or_iff_right Bool.false_ne_true
  generalize (build host port size maxMessageSize).run events = course at sound closed_iff
  have there {place : Nat} (below : place < course.pool.built.length) :
      (course.pool.channel? place).isSome = true := by
    rw [channel?, List.getElem?_eq_getElem below, Option.isSome_some]
  refine
    { length_slots := sound.length_slots
      handed_built := fun place mem => there (sound.handed_built place mem)
      slots_built := fun place mem => there (sound.pool.slots_built place mem)
      refuses := fun shut => ?_
      handsOut := fun spared => ?_
      idle := fun event other => ?_
      rebuilt_eq := sound.rebuilt_eq
      dead := fun shut => sound.pool.closed (closed_iff.2 shut)
      final := fun shut later => ?_ }
  · rw [getChannel_of_closed (closed_iff.2 shut), sound.host_eq, sound.port_eq]
  · have isOpen : course.pool.isClosed = false := by
      rw [← Bool.not_eq_true, closed_iff]
      exact spared
    obtain ⟨served, place, handsOut, -⟩ := sound.pool.handsOut isOpen
    refine ⟨_, served, place, handsOut, fun below => ?_⟩
    rw [sound.cursor_eq, Nat.mod_eq_of_lt below, sound.length_slots]
  · have wears := (course.wears_step other).1
    exact ⟨wears.slots_eq, wears.length_built, wears.rebuilt_eq⟩
  · obtain ⟨wears, handed_eq⟩ := sound.wears_run_of_closed (closed_iff.2 shut) later
    exact ⟨wears.length_built, handed_eq⟩

end ChannelPoolCourse
end ClusterMember
