import ClusterMember.Transport.ChannelPool

/-!
# The course of a channel pool

All that a pool ever handed out and replaced, while channels that were built are shut down, carry
calls and the pool itself is shut down, in any order.  What cannot happen changes nothing.
-/

namespace ClusterMember

/-- What happens to a pool of channels. -/
inductive ChannelPool.Event where
  | get
  /-- Someone shuts down the built channel at a place. -/
  | channelShutdown (place : Nat)
  | callBegins (place size : Nat)
  | callEnds (place : Nat)
  | shutdown

namespace Channel

/-- A call with a body of a size begins, or is refused. -/
def begin (size : Nat) (channel : Channel) : Channel :=
  match channel.enter size with
  | .ok entered => entered
  | .error _ => channel

/-- A call ends, if one is under way. -/
def finish (channel : Channel) : Channel :=
  if channel.inFlight = 0 then channel else channel.leave

end Channel

/-- A pool of channels with what it handed out and replaced. -/
structure ChannelPoolCourse where
  pool : ChannelPool
  /-- The channels that were handed out, by their places among the built ones, oldest first. -/
  handed : List Nat
  /-- The channels that left a slot, each with the one that came in its stead, oldest first. -/
  replaced : List (Nat × Nat)

namespace ChannelPoolCourse

/-- A pool that was just built. -/
def build (host : String) (port : UInt16) (size maxMessageSize : Nat) : ChannelPoolCourse :=
  ⟨.build host port size maxMessageSize, [], []⟩

/-- Someone asks for a channel. -/
def get (course : ChannelPoolCourse) : ChannelPoolCourse :=
  match course.pool.getChannel with
  | .error _ => course
  | .ok (pool, place) =>
    { pool
      handed := course.handed ++ [place]
      replaced := course.replaced ++
        (course.pool.slots.zip pool.slots).filter fun slot => slot.1 ≠ slot.2 }

/-- A course after an event. -/
def step (course : ChannelPoolCourse) : ChannelPool.Event → ChannelPoolCourse
  | .get => course.get
  | .channelShutdown place => { course with pool := (course.pool.shutdownChannel place).1 }
  | .callBegins place size => { course with pool := course.pool.modify place (.begin size) }
  | .callEnds place => { course with pool := course.pool.modify place .finish }
  | .shutdown => { course with pool := course.pool.shutdown }

/-- A course after a row of events. -/
def run (course : ChannelPoolCourse) (events : List ChannelPool.Event) : ChannelPoolCourse :=
  events.foldl step course

end ChannelPoolCourse
end ClusterMember
