import ClusterMember.Transport.Channel

/-!
# Pools of channels

A pool has a row of slots, each with a channel, and hands the channels out in turn.  A visited slot
whose channel takes no more calls gets a new one.  A pool that is shut down hands out nothing.
-/

namespace ClusterMember

/-- A pool of channels to one endpoint. -/
structure ChannelPool where
  host : String
  port : UInt16
  /-- The largest message, in bytes. -/
  maxMessageSize : Nat
  /-- Every channel that was ever built, in order. -/
  built : List Channel
  /-- The slots: places among the built channels. -/
  slots : List Nat
  /-- How often a slot was visited, which wraps around at 64 bits. -/
  cursor : Nat
  rebuilt : Nat
  /-- Whether it is shut down. -/
  isClosed : Bool
  deriving DecidableEq

namespace ChannelPool

/-- The number after a count of 64 bits. -/
def after (count : Nat) : Nat := (count + 1) % UInt64.size

/-- A pool with all its channels, at least one. -/
def build (host : String) (port : UInt16) (size maxMessageSize : Nat) : ChannelPool where
  host := host
  port := port
  maxMessageSize := maxMessageSize
  built := List.replicate (max size 1) (Channel.connect host port maxMessageSize)
  slots := List.range (max size 1)
  cursor := 0
  rebuilt := 0
  isClosed := false

/-- How many slots there are. -/
def size (pool : ChannelPool) : Nat := pool.slots.length

/-- The fault of a pool that is shut down. -/
def closedFault (host : String) (port : UInt16) : TransportFault :=
  .channelShutdown (host ++ ":" ++ Decimal.write port.toNat)

/-- The built channel at a place. -/
def channel? (pool : ChannelPool) (place : Nat) : Option Channel := pool.built[place]?

/-- Whether the built channel at a place takes calls. -/
def isUsable (pool : ChannelPool) (place : Nat) : Bool :=
  (pool.channel? place).any (·.isUsable)

/-- Count a visit: the result is the slot that is visited. -/
def visit (pool : ChannelPool) : ChannelPool × Nat :=
  ({ pool with cursor := after pool.cursor }, pool.cursor % pool.slots.length)

/-- The channel of a slot, if it takes calls: its place among the built ones. -/
def readyAt? (pool : ChannelPool) (slot : Nat) : Option Nat :=
  (pool.slots[slot]?).filter pool.isUsable

/-- Put a new channel into a slot. -/
def rebuild (pool : ChannelPool) (slot : Nat) : ChannelPool :=
  { pool with
    built := pool.built ++ [Channel.connect pool.host pool.port pool.maxMessageSize]
    slots := pool.slots.set slot pool.built.length
    rebuilt := pool.rebuilt + 1 }

/-- Hand out the channel of the next slot: its place among the built ones. -/
def getChannel (pool : ChannelPool) : Except TransportFault (ChannelPool × Nat) :=
  if pool.isClosed then .error (closedFault pool.host pool.port)
  else
    match pool.visit with
    | (pool, slot) =>
      match pool.readyAt? slot with
      | some place => .ok (pool, place)
      | none => .ok (pool.rebuild slot, pool.built.length)

/-- Change the built channel at a place. -/
def modify (pool : ChannelPool) (place : Nat) (change : Channel → Channel) : ChannelPool :=
  { pool with built := pool.built.modify place change }

/-- Shut down the built channel at a place: the result says whether it took calls before. -/
def shutdownChannel (pool : ChannelPool) (place : Nat) : ChannelPool × Bool :=
  (pool.modify place fun channel => channel.shutdown.1, pool.isUsable place)

/-- Hand out nothing any more. -/
def markClosed (pool : ChannelPool) : ChannelPool := { pool with isClosed := true }

/-- Shut down the channel of a slot. -/
def shutSlot (pool : ChannelPool) (slot : Nat) : ChannelPool :=
  match pool.slots[slot]? with
  | none => pool
  | some place => (pool.shutdownChannel place).1

/-- Hand out nothing any more, and shut down the channels of all slots. -/
def shutdown (pool : ChannelPool) : ChannelPool :=
  (List.range pool.slots.length).foldl shutSlot pool.markClosed

end ChannelPool
end ClusterMember
