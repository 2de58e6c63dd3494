import ClusterMember.Transport.Channel

/-!
# The course of a channel

Every call that was tried over a channel and every shutdown of it, in any order, with what came of
each.  Calls overlap, and one that is under way ends in a reply, in a failure or because its caller
gives it up.
-/

namespace ClusterMember

namespace Channel

/-- How a call ends that was under way. -/
inductive Ending where
  | replied
  | failed
  | cancelled
  deriving DecidableEq, Repr

/-- What became of a call. -/
inductive Attempt where
  | refused (fault : TransportFault)
  | underWay
  | ended (ending : Ending)

/-- Whether a call was taken and has not ended. -/
def Attempt.isUnderWay : Attempt → Bool
  | .underWay => true
  | _ => false

/-- What happens to a channel. -/
inductive Event where
  | shutdown
  | callBegins (size : Nat)
  | callEnds (number : Nat) (ending : Ending)
  deriving DecidableEq, Repr

end Channel

/-- A channel with all calls that were tried and all shutdowns. -/
structure ChannelCourse where
  channel : Channel
  /-- The calls, in the order in which they began. -/
  calls : List Channel.Attempt
  /-- Whether each shutdown said that the channel took calls before, oldest first. -/
  shutdowns : List Bool

namespace ChannelCourse

/-- A new channel. -/
def connect (host : String) (port : UInt16) (maxMessageSize : Nat) : ChannelCourse :=
  ⟨.connect host port maxMessageSize, [], []⟩

/-- Someone shuts the channel down. -/
def shutdown (course : ChannelCourse) : ChannelCourse :=
  match course.channel.shutdown with
  | (channel, answer) => { course with channel, shutdowns := course.shutdowns ++ [answer] }

/-- Someone begins a call with a body of a size, or is refused. -/
def begin (course : ChannelCourse) (size : Nat) : ChannelCourse :=
  match course.channel.enter size with
  | .error fault => { course with calls := course.calls ++ [.refused fault] }
  | .ok channel => { course with channel, calls := course.calls ++ [.underWay] }

/-- A call ends, if it is under way. -/
def finish (course : ChannelCourse) (number : Nat) (ending : Channel.Ending) : ChannelCourse :=
  match course.calls[number]? with
  | some .underWay =>
    { course with
      channel := course.channel.leave, calls := course.calls.set number (.ended ending) }
  | _ => course

/-- A course after an event. -/
def step (course : ChannelCourse) : Channel.Event → ChannelCourse
  | .shutdown => course.shutdown
  | .callBegins size => course.begin size
  | .callEnds number ending => course.finish number ending

/-- A course after a row of events. -/
def run (course : ChannelCourse) (events : List Channel.Event) : ChannelCourse :=
  events.foldl step course

end ChannelCourse
end ClusterMember
