import ClusterMember.Proofs.Executor.Balance
import ClusterMember.Proofs.Executor.Session.Core

/-!
# Moves of a core

All that can happen to normal tasks and to chains, told by what it does to the core of a session.  A
chain is under way or has ended, and both are facts about its stages.
-/

namespace ClusterMember

/-- The pool that counts the run of a body at a site. -/
def Site.place? {α : Type} : Site α → Option Nat
  | .pool place _ | .caller place _ _ => some place
  | _ => none

/-- A body is in the pool at a place, with a submitter outside all pools, or with one in the same
pool. -/
inductive Site.IsAt {α : Type} (place : Nat) : Site α → Prop
  | pool (body : Body α) : IsAt place (.pool place body)
  | outside (body : Body α) : IsAt place (.caller place none body)
  | inside (body : Body α) : IsAt place (.caller place (some place) body)

theorem Site.IsAt.place?_eq {α : Type} {place : Nat} {site : Site α} (isAt : site.IsAt place) :
    site.place? = some place := by
  cases isAt <;> rfl

namespace Pool

/-- How a body stands that a pool has dealt with. -/
inductive Deals {α : Type} (pool : Pool) (place : Nat) (host : Option Nat) (body : Body α) :
    Standing α → Prop
  | admitted (result : Option (Except Error α)) : Deals pool place host body
      ⟨pool.type, .pool place body, result⟩
  | byCaller (result : Option (Except Error α)) (policy : pool.descriptor.rejection = .callerRuns) :
      Deals pool place host body ⟨pool.type, .caller place host body, result⟩
  | discarded (policy : pool.descriptor.rejection = .discard) : Deals pool place host body
      ⟨pool.type, .nowhere, some (.error (.rejected pool.type discardedReason))⟩

/-- Why a pool refuses a task whose submitter could run it. -/
inductive Refuses (pool : Pool) : Error → Prop
  | shut (isShut : pool.isShut = true) : Refuses pool (pool.refusal shutReason)
  | saturated (policy : pool.descriptor.rejection = .abort) :
      Refuses pool (pool.refusal saturatedReason)

end Pool

/-- A task is cancelled, unless it has a result, when its runtime goes. -/
def Standing.lose {α : Type} (normal scheduled : List Nat) (standing : Standing α) : Standing α :=
  if standing.site.isLost normal scheduled then
    { standing with result := standing.result.or (some (cancelled standing.type)) }
  else standing

theorem Task.standing_lose {α : Type} (normal scheduled : List Nat) (task : Task α) :
    (task.lose normal scheduled).standing = task.standing.lose normal scheduled := by
  by_cases isLost : task.site.isLost normal scheduled = true <;>
    simp [Task.lose, Standing.lose, Task.standing, isLost]

namespace Core

variable {α : Type}

/-- The pool at a place is shut down. -/
def IsClosed (core : Core α) (place : Nat) : Prop :=
  ∃ pool, core.pools[place]? = some pool ∧ pool.isShut = true

/-- How the body at a site ends when it runs to its end. -/
def ending? (core : Core α) (id : Nat) : Site α → Option (Ending α)
  | .pool place body => some (body.run ⟨id, core.threadOf place⟩)
  | .caller _ host body => some (body.run ⟨id, (host.map core.threadOf).getD "caller"⟩)
  | _ => none

/-- The pool at a place has dealt with the body of a task. -/
def Handed (core : Core α) (place : Nat) (host : Option Nat) (body : Body α) (id : Nat) : Prop :=
  ∃ pool standing, core.pools[place]? = some pool ∧ core.standing? id = some standing ∧
    pool.Deals place host body standing

/-- A chain that has not ended: its transform was given nothing yet, or the value of the first
stage, and has made the second stage of it. -/
inductive UnderWay (core : Core α) (id place first : Nat) (next : α → Stage α) :
    List α → Option Nat → Prop
  | before : UnderWay core id place first next [] none
  | between {value : α} {body : Body α} {second : Nat} (newer : id < second)
      (produced : core.result? first = some (.ok value)) (made : next value = .body body)
      (handed : core.Handed place (some place) body second) :
      UnderWay core id place first next [value] (some second)

/-- How a chain ends by itself. -/
inductive Ended (core : Core α) (id place first : Nat) (next : α → Stage α) :
    List α → Option Nat → Except Error α → Prop
  | firstFailed {error : Error} (failed : core.result? first = some (.error error)) :
      Ended core id place first next [] none (.error error.wrap)
  | panicked {value : α} {message : Option String}
      (produced : core.result? first = some (.ok value)) (made : next value = .panic message) :
      Ended core id place first next [value] none ((Ending.panic message).result .default id)
  | refused {value : α} {body : Body α} {pool : Pool} {error : Error}
      (produced : core.result? first = some (.ok value)) (made : next value = .body body)
      (found : core.pools[place]? = some pool) (refuses : pool.Refuses error) :
      Ended core id place first next [value] none (.error error.wrap)
  | secondEnded {given : List α} {second : Nat} {result : Except Error α}
      (underWay : core.UnderWay id place first next given (some second))
      (ended : core.result? second = some result) :
      Ended core id place first next given (some second) (result.mapError Error.wrap)

/-- Why a task ends before its body does, and as what. -/
inductive CutOff (core : Core α) (aborted : Nat → Prop) (id : Nat) (standing : Standing α) :
    Except Error α → Prop
  | aborted (isAborted : aborted id) : CutOff core aborted id standing (cancelled standing.type)
  | lost {normal : List Nat} (scheduled : List Nat)
      (closed : ∀ place ∈ normal, core.IsClosed place)
      (isLost : standing.site.isLost normal scheduled = true) :
      CutOff core aborted id standing (cancelled standing.type)
  | turnedAway {place : Nat} {body : Body α} (label : String)
      (site_eq : standing.site = .pool place body) (closed : core.IsClosed place) :
      CutOff core aborted id standing (.error (closedFault label))

/-- A core with all pools at some places shut down. -/
def shutDown (core : Core α) (normal scheduled : List Nat) : Core α :=
  { core with
    pools := Governor.shutPools .zero normal core.pools
    table := []
    standing? := fun id => (core.standing? id).map (.lose normal scheduled) }

/-- What can happen to a core, when some tasks can be aborted. -/
inductive Move (aborted : Nat → Prop) (core : Core α) : Core α → Prop
  /-- Other work takes numbers. -/
  | skip (next : Nat) (le : core.next ≤ next) : Move aborted core { core with next }
  | register (descriptor : PoolDescriptor) (max_pos : 0 < descriptor.max) :
      Move aborted core
        { core with
          pools := core.pools ++ [Pool.build descriptor]
          table := core.table ++ [(descriptor.type, core.pools.length)] }
  | withdraw : Move aborted core { core with table := [] }
  | close (place : Nat) (withdrawn : place ∉ core.table.map Prod.snd) :
      Move aborted core { core with pools := core.pools.modify place Pool.close }
  | start {place id : Nat} {pool begun : Pool} (found : core.pools[place]? = some pool)
      (begins : pool.start id = some begun) : Move aborted core (core.set place begun)
  /-- A pool deals with a new task. -/
  | submit {place : Nat} {host : Option Nat} {pool taken : Pool} {admission : Admission}
      (own : ∀ other, host = some other → other = place) (callerCanRun : Bool) (body : Body α)
      (found : core.pools[place]? = some pool)
      (spawned : pool.spawn core.next callerCanRun = .ok (taken, admission)) :
      Move aborted core
        ((core.set place taken).enter (admission.standing pool.type place host body))
  | delay (place due : Nat) (body : Body α) :
      Move aborted core (core.enter ⟨.scheduled, .delayed place due body, none⟩)
  | chain {place first : Nat} {pool : Pool} (next : α → Stage α)
      (found : core.pools[place]? = some pool) (isDefault : pool.type = .default) :
      Move aborted core (core.enter ⟨.default, .chain place first next [] none, none⟩)
  /-- A body ends. -/
  | finish {id place : Nat} {type : ExecutorType} {site : Site α} {pool left : Pool}
      {ending : Ending α} (known : core.standing? id = some ⟨type, site, none⟩)
      (at_place : site.place? = some place) (found : core.pools[place]? = some pool)
      (finished : pool.finish id .zero = some left) (ends : core.ending? id site = some ending) :
      Move aborted core ((core.set place left).put id ⟨type, site, some (ending.result type id)⟩)
  | finishDelayed {id place due : Nat} {type : ExecutorType} {body : Body α}
      (known : core.standing? id = some ⟨type, .delayed place due body, none⟩)
      (result : Except Error α) :
      Move aborted core (core.put id ⟨type, .delayed place due body, some result⟩)
  /-- A task in a pool or with its submitter is cut off. -/
  | cut {id place : Nat} {type : ExecutorType} {site : Site α} {pool left : Pool}
      {result : Except Error α} (known : core.standing? id = some ⟨type, site, none⟩)
      (at_place : site.place? = some place) (found : core.pools[place]? = some pool)
      (leaves : pool.abort id .zero = some left)
      (cause : core.CutOff aborted id ⟨type, site, none⟩ result) :
      Move aborted core ((core.set place left).put id ⟨type, site, some result⟩)
  /-- Another task is cut off. -/
  | drop {id : Nat} {type : ExecutorType} {site : Site α} {result : Except Error α}
      (known : core.standing? id = some ⟨type, site, none⟩) (outside : site.place? = none)
      (cause : core.CutOff aborted id ⟨type, site, none⟩ result) :
      Move aborted core (core.put id ⟨type, site, some result⟩)
  /-- A chain submits its second stage. -/
  | pass {id place first second : Nat} {next : α → Stage α} {given : List α}
      (known : core.standing? id = some ⟨.default, .chain place first next [] none, none⟩)
      (underWay : core.UnderWay id place first next given (some second)) :
      Move aborted core
        (core.put id ⟨.default, .chain place first next given (some second), none⟩)
  /-- A chain ends. -/
  | conclude {id place first : Nat} {next : α → Stage α} {before given : List α}
      {secondBefore second : Option Nat} {result : Except Error α}
      (known : core.standing? id =
        some ⟨.default, .chain place first next before secondBefore, none⟩)
      (ended : core.Ended id place first next given second result) :
      Move aborted core
        (core.put id ⟨.default, .chain place first next given second, some result⟩)
  | shutDown (scheduled : List Nat) :
      Move aborted core (core.shutDown (core.table.map Prod.snd) scheduled)

end Core
end ClusterMember
