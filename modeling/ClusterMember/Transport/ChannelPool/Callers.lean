import ClusterMember.Transport.ChannelPool

/-!
# Callers at one channel pool

Many callers ask one pool for channels at the same time, channels that were handed out are shut
down, and the pool itself may be shut down.  Everyone goes on in small steps, and the steps mix in
any way.  Only a caller that has the lock of the pool puts a new channel into a slot, and a
shutdown has the lock from its first step to its last.
-/

namespace ClusterMember

/-- Where a caller for a channel is. -/
inductive CallerPhase where
  /-- It has to see whether the pool is shut down. -/
  | begun
  /-- The pool was not shut down, and it has to count its visit. -/
  | admitted
  /-- It visits a slot, and has to look at the channel there. -/
  | visiting (slot : Nat)
  /-- The channel took no calls, and it waits for the lock. -/
  | blocked (slot : Nat)
  /-- It has the lock, and has to look at the slot again. -/
  | looking (slot : Nat)
  /-- It has the lock and the channel took no calls; it has to see whether the pool is shut down. -/
  | deciding (slot : Nat)
  /-- It has the lock, and has to put a new channel into the slot. -/
  | building (slot : Nat)
  /-- It has the lock and a channel, if the pool was not shut down, and has to give the lock back.
  -/
  | leaving (place : Option Nat)
  /-- It is done, with a channel or, from a pool that is shut down, with a refusal. -/
  | returned (place : Option Nat)
  deriving DecidableEq

/-- Where a shutdown of a pool is. -/
inductive CloserPhase where
  /-- It waits for the lock. -/
  | begun
  /-- It has the lock, and has to close the pool. -/
  | locked
  /-- It has the lock, and has to shut down the channels of some slots. -/
  | closing (slots : List Nat)
  /-- It is done. -/
  | returned
  deriving DecidableEq

/-- Who can have the lock of a pool. -/
inductive LockHolder where
  /-- A caller. -/
  | caller (number : Nat)
  /-- A shutdown. -/
  | closer (number : Nat)
  deriving DecidableEq, Repr

/-- A pool with all who are at it. -/
structure PoolCrowd where
  /-- The pool. -/
  pool : ChannelPool
  /-- Who has its lock. -/
  holder : Option LockHolder
  /-- The callers. -/
  callers : List CallerPhase
  /-- The shutdowns. -/
  closers : List CloserPhase
  deriving DecidableEq

/-- Who goes on by a step. -/
inductive PoolStep where
  /-- A caller. -/
  | caller (number : Nat)
  /-- A shutdown of the pool. -/
  | closer (number : Nat)
  /-- Someone who shuts down the built channel at a place. -/
  | channelShutdown (place : Nat)
  deriving DecidableEq, Repr

namespace PoolCrowd

/-- Callers and shutdowns gather at a pool. -/
def gather (pool : ChannelPool) (callers closers : Nat) : PoolCrowd where
  pool := pool
  holder := none
  callers := List.replicate callers .begun
  closers := List.replicate closers .begun

/-- A caller is somewhere else. -/
def setCaller (crowd : PoolCrowd) (number : Nat) (phase : CallerPhase) : PoolCrowd :=
  { crowd with callers := crowd.callers.set number phase }

/-- A shutdown is somewhere else. -/
def setCloser (crowd : PoolCrowd) (number : Nat) (phase : CloserPhase) : PoolCrowd :=
  { crowd with closers := crowd.closers.set number phase }

/-- The next step of a caller that is somewhere; none when it waits or is done. -/
def stepCaller (crowd : PoolCrowd) (number : Nat) : CallerPhase → Option PoolCrowd
  | .begun =>
    some (crowd.setCaller number
      (if crowd.pool.isClosed then .returned none else .admitted))
  | .admitted =>
    match crowd.pool.visit with
    | (pool, slot) => some ({ crowd with pool }.setCaller number (.visiting slot))
  | .visiting slot =>
    match crowd.pool.readyAt? slot with
    | some place => some (crowd.setCaller number (.returned (some place)))
    | none => some (crowd.setCaller number (.blocked slot))
  | .blocked slot =>
    if crowd.holder.isNone then
      some ({ crowd with holder := some (.caller number) }.setCaller number (.looking slot))
    else none
  | .looking slot =>
    match crowd.pool.readyAt? slot with
    | some place => some (crowd.setCaller number (.leaving (some place)))
    | none => some (crowd.setCaller number (.deciding slot))
  | .deciding slot =>
    some (crowd.setCaller number
      (if crowd.pool.isClosed then .leaving none else .building slot))
  | .building slot =>
    some ({ crowd with pool := crowd.pool.rebuild slot }.setCaller number
      (.leaving (some crowd.pool.built.length)))
  | .leaving place => some ({ crowd with holder := none }.setCaller number (.returned place))
  | .returned _ => none

/-- The next step of a shutdown that is somewhere; none when it waits or is done. -/
def stepCloser (crowd : PoolCrowd) (number : Nat) : CloserPhase → Option PoolCrowd
  | .begun =>
    if crowd.holder.isNone then
      some ({ crowd with holder := some (.closer number) }.setCloser number .locked)
    else none
  | .locked =>
    some ({ crowd with pool := crowd.pool.markClosed }.setCloser number
      (.closing (List.range crowd.pool.slots.length)))
  | .closing [] => some ({ crowd with holder := none }.setCloser number .returned)
  | .closing (slot :: rest) =>
    some ({ crowd with pool := crowd.pool.shutSlot slot }.setCloser number (.closing rest))
  | .returned => none

/-- A crowd after a step; none when nobody can go on by it. -/
def step (crowd : PoolCrowd) : PoolStep → Option PoolCrowd
  | .caller number => crowd.callers[number]? >>= crowd.stepCaller number
  | .closer number => crowd.closers[number]? >>= crowd.stepCloser number
  | .channelShutdown place =>
    some { crowd with pool := (crowd.pool.shutdownChannel place).1 }

/-- A crowd after a row of steps, of which those that nobody can take change nothing. -/
def run (crowd : PoolCrowd) (steps : List PoolStep) : PoolCrowd :=
  steps.foldl (fun crowd next => (crowd.step next).getD crowd) crowd

end PoolCrowd
end ClusterMember
