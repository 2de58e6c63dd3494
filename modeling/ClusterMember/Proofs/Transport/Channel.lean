import ClusterMember.Transport.Channel.Course

/-!
# The life of a channel

A channel keeps no record of its calls and shutdowns, only a state and a number.  Both are told by
what happened: the number is that of the calls under way, and the channel is terminated by whichever
comes last, its first shutdown or the end of its last call.
-/

namespace ClusterMember

namespace ChannelState

/-- How far a channel is on its way to its end. -/
def rank : ChannelState → Nat
  | .ready => 0
  | .shutdown => 1
  | .terminated => 2

/-- The state of a channel that was shut down so often and has so many calls under way. -/
def ofCounts (shutdowns underWay : Nat) : ChannelState :=
  if shutdowns = 0 then .ready else if underWay = 0 then .terminated else .shutdown

theorem ofCounts_eq_ready_iff (shutdowns underWay : Nat) :
    ofCounts shutdowns underWay = .ready ↔ shutdowns = 0 := by
  unfold ofCounts
  split
  next never => simp [never]
  next some => split <;> simp [some]

theorem ofCounts_eq_terminated_iff (shutdowns underWay : Nat) :
    ofCounts shutdowns underWay = .terminated ↔ shutdowns ≠ 0 ∧ underWay = 0 := by
  unfold ofCounts
  split
  next never => simp [never]
  next some => split <;> simp_all

theorem ofCounts_eq_shutdown_iff (shutdowns underWay : Nat) :
    ofCounts shutdowns underWay = .shutdown ↔ shutdowns ≠ 0 ∧ underWay ≠ 0 := by
  unfold ofCounts
  split
  next never => simp [never]
  next some => split <;> simp_all

end ChannelState

namespace Channel

variable {channel before after last : Channel}

/-- One channel is another one later on: it leads to the same place, carries the same messages and
has not moved backwards. -/
structure Moves (before after : Channel) : Prop where
  target_eq : after.target = before.target
  maxMessageSize_eq : after.maxMessageSize = before.maxMessageSize
  rank_le : before.state.rank ≤ after.state.rank

theorem Moves.refl (channel : Channel) : channel.Moves channel := ⟨rfl, rfl, Nat.le_refl _⟩

theorem Moves.trans (first : before.Moves after) (second : after.Moves last) :
    before.Moves last where
  target_eq := second.target_eq.trans first.target_eq
  maxMessageSize_eq := second.maxMessageSize_eq.trans first.maxMessageSize_eq
  rank_le := Nat.le_trans first.rank_le second.rank_le

theorem moves_tryTerminate (channel : Channel) : channel.Moves channel.tryTerminate := by
  unfold tryTerminate
  split
  next ends => exact ⟨rfl, rfl, by rw [ends.1]; exact Nat.le_succ 1⟩
  next => exact .refl channel

theorem moves_shutdown (channel : Channel) : channel.Moves channel.shutdown.1 := by
  unfold shutdown
  split
  next ready =>
    have closes : channel.Moves { channel with state := .shutdown } :=
      ⟨rfl, rfl, by rw [ready]; exact Nat.zero_le _⟩
    exact closes.trans (moves_tryTerminate _)
  next => exact moves_tryTerminate channel

theorem moves_leave (channel : Channel) : channel.Moves channel.leave := by
  have counts : channel.Moves { channel with inFlight := channel.inFlight - 1 } :=
    ⟨rfl, rfl, Nat.le_refl _⟩
  exact counts.trans (moves_tryTerminate _)

theorem inFlight_tryTerminate (channel : Channel) :
    channel.tryTerminate.inFlight = channel.inFlight := by
  unfold tryTerminate
  split <;> rfl

/-- A channel that is up to date stays as it is. -/
theorem state_tryTerminate {shutdowns : Nat} (shut : shutdowns ≠ 0)
    (state_ne : channel.state ≠ .ready)
    (settled : channel.state = .terminated → channel.inFlight = 0) :
    channel.tryTerminate.state = .ofCounts shutdowns channel.inFlight := by
  unfold tryTerminate ChannelState.ofCounts
  cases state_eq : channel.state with
  | ready => exact absurd state_eq state_ne
  | terminated => simp [shut, state_eq, settled state_eq]
  | shutdown =>
      by_cases none_left : channel.inFlight = 0
      · simp [shut, none_left]
      · simp [shut, none_left, state_eq]

end Channel

namespace ChannelCourse

open Channel

/-- How many calls were taken and have not ended. -/
def underWay (course : ChannelCourse) : Nat := course.calls.countP Attempt.isUnderWay

/-- The state of the channel and its number of calls are told by what happened to it. -/
structure Balanced (course : ChannelCourse) : Prop where
  inFlight_eq : course.channel.inFlight = course.underWay
  state_eq : course.channel.state = .ofCounts course.shutdowns.length course.underWay
  /-- The first shutdown, and no other, says that the channel took calls before. -/
  answer_iff : ∀ number answer, course.shutdowns[number]? = some answer →
    (answer = true ↔ number = 0)

variable {course : ChannelCourse}

theorem balanced_connect (host : String) (port : UInt16) (maxMessageSize : Nat) :
    (connect host port maxMessageSize).Balanced where
  inFlight_eq := rfl
  state_eq := rfl
  answer_iff number answer there := by cases there

theorem Balanced.ready_iff (balanced : course.Balanced) :
    course.channel.state = .ready ↔ course.shutdowns = [] := by
  rw [balanced.state_eq, ChannelState.ofCounts_eq_ready_iff, List.length_eq_zero_iff]

theorem Balanced.settled (balanced : course.Balanced)
    (terminated : course.channel.state = .terminated) : course.channel.inFlight = 0 := by
  rw [balanced.state_eq, ChannelState.ofCounts_eq_terminated_iff] at terminated
  exact balanced.inFlight_eq.trans terminated.2

/-! ## Shutdowns -/

theorem answer_shutdown (channel : Channel) :
    channel.shutdown.2 = decide (channel.state = .ready) := by
  unfold Channel.shutdown
  split
  next ready => simp [ready]
  next closed => simp [closed]

theorem inFlight_shutdown (channel : Channel) :
    channel.shutdown.1.inFlight = channel.inFlight := by
  unfold Channel.shutdown
  split <;> exact inFlight_tryTerminate _

theorem Balanced.state_shutdown (balanced : course.Balanced) :
    course.channel.shutdown.1.state =
      .ofCounts (course.shutdowns.length + 1) course.underWay := by
  rw [← balanced.inFlight_eq]
  unfold Channel.shutdown
  split
  next => exact state_tryTerminate (Nat.succ_ne_zero _) nofun nofun
  next closed => exact state_tryTerminate (Nat.succ_ne_zero _) closed balanced.settled

theorem Balanced.shutdown (balanced : course.Balanced) : course.shutdown.Balanced where
  inFlight_eq := (inFlight_shutdown _).trans balanced.inFlight_eq
  state_eq := by
    simp only [ChannelCourse.shutdown, List.length_append]
    exact balanced.state_shutdown
  answer_iff number answer there := by
    simp only [ChannelCourse.shutdown] at there
    rcases Nat.lt_or_ge number course.shutdowns.length with earlier | last
    · rw [List.getElem?_append_left earlier] at there
      exact balanced.answer_iff number answer there
    · rw [List.getElem?_append_right last, List.getElem?_singleton] at there
      obtain ⟨last_eq, answer_eq⟩ := Option.ite_none_right_eq_some.1 there
      rw [← Option.some.inj answer_eq, answer_shutdown, decide_eq_true_iff, balanced.ready_iff,
        ← List.length_eq_zero_iff]
      omega

/-! ## Calls -/

theorem refusal?_eq_none_iff (channel : Channel) (size : Nat) :
    channel.refusal? size = none ↔ channel.state = .ready ∧ size ≤ channel.maxMessageSize := by
  unfold refusal?
  split
  next closed => simp [closed]
  next ready => split <;> simp_all

/-- A call is refused because the channel takes none, and otherwise because of its size. -/
theorem refusal?_of_not_taken {channel : Channel} {size : Nat}
    (not_taken : ¬(channel.state = .ready ∧ size ≤ channel.maxMessageSize)) :
    channel.refusal? size =
      some (if channel.state = .ready then .messageTooLarge size channel.maxMessageSize
        else .channelShutdown channel.target) := by
  unfold refusal?
  split
  next => simp
  next ready => simp_all

theorem begin_of_taken {size : Nat}
    (taken : course.channel.state = .ready ∧ size ≤ course.channel.maxMessageSize) :
    course.begin size =
      { course with
        channel := { course.channel with inFlight := course.channel.inFlight + 1 }
        calls := course.calls ++ [.underWay] } := by
  rw [begin, enter, (refusal?_eq_none_iff _ _).2 taken]

theorem begin_of_not_taken {size : Nat}
    (not_taken : ¬(course.channel.state = .ready ∧ size ≤ course.channel.maxMessageSize)) :
    course.begin size =
      { course with
        calls := course.calls ++
          [.refused (if course.channel.state = .ready then
            .messageTooLarge size course.channel.maxMessageSize
            else .channelShutdown course.channel.target)] } := by
  rw [begin, enter, refusal?_of_not_taken not_taken]

theorem Balanced.begin (balanced : course.Balanced) (size : Nat) :
    (course.begin size).Balanced := by
  by_cases taken : course.channel.state = .ready ∧ size ≤ course.channel.maxMessageSize
  · have never := balanced.ready_iff.1 taken.1
    rw [begin_of_taken taken]
    refine ⟨?_, ?_, balanced.answer_iff⟩
    · simp only [underWay, List.countP_append, balanced.inFlight_eq]
      rfl
    · simp [never, taken.1, ChannelState.ofCounts]
  · have same : (course.begin size).underWay = course.underWay := by
      rw [begin_of_not_taken taken]
      simp only [underWay, List.countP_append]
      rfl
    have state_eq := balanced.state_eq
    rw [← same] at state_eq
    refine ⟨?_, ?_, ?_⟩
    · rw [same, begin_of_not_taken taken]
      exact balanced.inFlight_eq
    · rw [begin_of_not_taken taken] at state_eq ⊢
      exact state_eq
    · rw [begin_of_not_taken taken]
      exact balanced.answer_iff

/-- The end of a call takes one from those under way. -/
theorem underWay_set {number : Nat} (there : course.calls[number]? = some .underWay)
    (ending : Channel.Ending) :
    (course.calls.set number (.ended ending)).countP Attempt.isUnderWay = course.underWay - 1 := by
  obtain ⟨small, eq⟩ := List.getElem?_eq_some_iff.1 there
  rw [List.countP_set small, eq]
  simp [Attempt.isUnderWay, underWay]

theorem Balanced.state_leave (balanced : course.Balanced) :
    course.channel.leave.state =
      .ofCounts course.shutdowns.length (course.channel.inFlight - 1) := by
  unfold leave
  by_cases ready : course.channel.state = .ready
  · simp [tryTerminate, ready, balanced.ready_iff.1 ready, ChannelState.ofCounts]
  · have shut : course.shutdowns.length ≠ 0 := fun never =>
      ready (balanced.ready_iff.2 (List.length_eq_zero_iff.1 never))
    refine state_tryTerminate shut ready fun terminated => ?_
    rw [balanced.settled terminated]

theorem Balanced.finish (balanced : course.Balanced) (number : Nat) (ending : Channel.Ending) :
    (course.finish number ending).Balanced := by
  unfold ChannelCourse.finish
  split
  next there =>
    have underWay_eq := underWay_set there ending
    rw [← balanced.inFlight_eq] at underWay_eq
    refine ⟨?_, ?_, balanced.answer_iff⟩
    · rw [underWay, underWay_eq]
      exact inFlight_tryTerminate _
    · rw [underWay, underWay_eq]
      exact balanced.state_leave
  next => exact balanced

theorem Balanced.step (balanced : course.Balanced) (event : Channel.Event) :
    (course.step event).Balanced := by
  cases event with
  | shutdown => exact balanced.shutdown
  | callBegins size => exact balanced.begin size
  | callEnds number ending => exact balanced.finish number ending

theorem Balanced.run (balanced : course.Balanced) (events : List Channel.Event) :
    (course.run events).Balanced := by
  induction events generalizing course with
  | nil => exact balanced
  | cons event rest induction => exact induction (balanced.step event)

/-! ## Moving on -/

theorem moves_step (course : ChannelCourse) (event : Channel.Event) :
    course.channel.Moves (course.step event).channel := by
  cases event with
  | shutdown => exact moves_shutdown course.channel
  | callBegins size =>
      by_cases taken : course.channel.state = .ready ∧ size ≤ course.channel.maxMessageSize
      · simp only [step, begin_of_taken taken]
        exact ⟨rfl, rfl, Nat.le_refl _⟩
      · simp only [step, begin_of_not_taken taken]
        exact .refl _
  | callEnds number ending =>
      simp only [step, ChannelCourse.finish]
      split
      next => exact moves_leave course.channel
      next => exact .refl _

theorem moves_run (course : ChannelCourse) (events : List Channel.Event) :
    course.channel.Moves (course.run events).channel := by
  induction events generalizing course with
  | nil => exact .refl _
  | cons event rest induction => exact (course.moves_step event).trans (induction _)

/-- What holds of a channel whatever happened to it. -/
structure Orderly (host : String) (port : UInt16) (maxMessageSize : Nat) (course : ChannelCourse) :
    Prop where
  inFlight_eq : course.channel.inFlight = course.underWay
  ready_iff : course.channel.state = .ready ↔ course.shutdowns = []
  shutdown_iff : course.channel.state = .shutdown ↔ course.shutdowns ≠ [] ∧ course.underWay ≠ 0
  terminated_iff :
    course.channel.state = .terminated ↔ course.shutdowns ≠ [] ∧ course.underWay = 0
  /-- It never moves backwards. -/
  rank_le : ∀ later, course.channel.state.rank ≤ (course.run later).channel.state.rank
  /-- The first shutdown, and no other, says that the channel took calls before. -/
  answer_iff : ∀ number answer, course.shutdowns[number]? = some answer →
    (answer = true ↔ number = 0)
  taken : ∀ size, course.channel.state = .ready ∧ size ≤ maxMessageSize →
    course.step (.callBegins size) =
      { course with
        channel := { course.channel with inFlight := course.channel.inFlight + 1 }
        calls := course.calls ++ [.underWay] }
  /-- A call that is refused leaves the channel alone. -/
  refused : ∀ size, ¬(course.channel.state = .ready ∧ size ≤ maxMessageSize) →
    course.step (.callBegins size) =
      { course with
        calls := course.calls ++
          [.refused (if course.channel.state = .ready then .messageTooLarge size maxMessageSize
            else .channelShutdown (targetOf host port))] }

/-- A channel is in order whatever happens to it. -/
theorem run_orderly (host : String) (port : UInt16) (maxMessageSize : Nat)
    (events : List Channel.Event) :
    ((connect host port maxMessageSize).run events).Orderly host port maxMessageSize := by
  have balanced := (balanced_connect host port maxMessageSize).run events
  have moves := (connect host port maxMessageSize).moves_run events
  generalize (connect host port maxMessageSize).run events = course at balanced moves
  have limit_eq : course.channel.maxMessageSize = maxMessageSize := moves.maxMessageSize_eq
  have target_eq : course.channel.target = targetOf host port := moves.target_eq
  have shut_iff : course.shutdowns.length ≠ 0 ↔ course.shutdowns ≠ [] :=
    not_congr List.length_eq_zero_iff
  constructor
  · exact balanced.inFlight_eq
  · exact balanced.ready_iff
  · rw [balanced.state_eq, ChannelState.ofCounts_eq_shutdown_iff, shut_iff]
  · rw [balanced.state_eq, ChannelState.ofCounts_eq_terminated_iff, shut_iff]
  · exact fun later => (course.moves_run later).rank_le
  · exact balanced.answer_iff
  · intro size taken
    rw [← limit_eq] at taken
    exact begin_of_taken taken
  · intro size not_taken
    rw [← limit_eq] at not_taken ⊢
    rw [← target_eq]
    exact begin_of_not_taken not_taken

end ChannelCourse
end ClusterMember
