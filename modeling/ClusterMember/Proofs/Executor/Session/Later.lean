import ClusterMember.Proofs.Executor.Session.Moves

/-!
# What lasts in a core

A pool stays what it is, and is never opened again.  A task keeps its kind, its site and its result;
only a chain that has not ended goes on to its second stage.  So what was said of the stages of a
chain can be said of them ever after.
-/

namespace ClusterMember

variable {α : Type}

/-- A site of a task that is the same one later; a chain may have gone on. -/
inductive Site.Lasts : Site α → Site α → Prop
  | same (site : Site α) : Lasts site site
  | chain (place first : Nat) (next : α → Stage α) (given later : List α)
      (second secondLater : Option Nat) :
      Lasts (.chain place first next given second) (.chain place first next later secondLater)

theorem Site.Lasts.trans {site middle later : Site α} (first : site.Lasts middle)
    (second : middle.Lasts later) : site.Lasts later := by
  cases first with
  | same => exact second
  | chain =>
      cases second with
      | same => exact .chain ..
      | chain => exact .chain ..

theorem Site.Lasts.place?_eq {site later : Site α} (lasts : site.Lasts later) :
    later.place? = site.place? := by
  cases lasts <;> rfl

/-- A standing of a task and a later one. -/
structure Standing.Lasts (standing later : Standing α) : Prop where
  type_eq : later.type = standing.type
  site : standing.site.Lasts later.site
  result_eq : ∀ result, standing.result = some result → later.result = some result

theorem Standing.Lasts.refl (standing : Standing α) : standing.Lasts standing :=
  ⟨rfl, .same _, fun _ => id⟩

theorem Standing.Lasts.trans {standing middle later : Standing α} (first : standing.Lasts middle)
    (second : middle.Lasts later) : standing.Lasts later :=
  ⟨second.type_eq.trans first.type_eq, first.site.trans second.site,
    fun result eq => second.result_eq result (first.result_eq result eq)⟩

theorem Standing.lasts_lose (normal scheduled : List Nat) (standing : Standing α) :
    standing.Lasts (standing.lose normal scheduled) := by
  unfold Standing.lose
  split
  next => exact ⟨rfl, .same _, fun result eq => by simp [eq]⟩
  next => exact .refl standing

/-- A task that has a result does not lose it. -/
theorem Standing.lose_of_result (normal scheduled : List Nat) (type : ExecutorType)
    (site : Site α) (result : Except Error α) :
    Standing.lose normal scheduled ⟨type, site, some result⟩ = ⟨type, site, some result⟩ := by
  unfold Standing.lose
  split <;> rfl

/-- A task that is unfinished after its runtime could have gone has not lost it. -/
theorem Standing.eq_of_lose {normal scheduled : List Nat} {standing : Standing α}
    {type : ExecutorType} {site : Site α}
    (eq : standing.lose normal scheduled = ⟨type, site, none⟩) :
    standing = ⟨type, site, none⟩ ∧ site.isLost normal scheduled = false := by
  unfold Standing.lose at eq
  split at eq
  next => simp at eq
  next goesOn =>
    subst eq
    exact ⟨rfl, Bool.not_eq_true _ ▸ goesOn⟩

/-- A pool and a later state of it. -/
structure Pool.Lasts (pool later : Pool) : Prop where
  descriptor_eq : later.descriptor = pool.descriptor
  isShut : pool.isShut = true → later.isShut = true

theorem Pool.Lasts.refl (pool : Pool) : pool.Lasts pool := ⟨rfl, id⟩

theorem Pool.Lasts.trans {pool middle later : Pool} (first : pool.Lasts middle)
    (second : middle.Lasts later) : pool.Lasts later :=
  ⟨second.descriptor_eq.trans first.descriptor_eq, second.isShut ∘ first.isShut⟩

theorem Pool.Lasts.type_eq {pool later : Pool} (lasts : pool.Lasts later) :
    later.type = pool.type := by
  rw [Pool.type, lasts.descriptor_eq, Pool.type]

/-- A pool deals with the tasks that it does not refuse. -/
theorem Pool.deals_of_spawn {pool taken : Pool} {task : Nat} {callerCanRun : Bool}
    {admission : Admission} (spawned : pool.spawn task callerCanRun = .ok (taken, admission))
    (place : Nat) (host : Option Nat) (body : Body α) :
    pool.Deals place host body (admission.standing pool.type place host body) := by
  obtain ⟨-, ⟨-, rfl, -⟩ | ⟨-, policy, rfl, -⟩ | ⟨-, policy, rfl, -⟩⟩ := Pool.spawn_cases spawned
  · exact .admitted none
  · exact .discarded policy
  · exact .byCaller none policy

/-- What a pool has made of a body, it has made of it ever after. -/
theorem Pool.Deals.lasts {pool later : Pool} {place : Nat} {host : Option Nat} {body : Body α}
    {standing standingLater : Standing α} (deals : pool.Deals place host body standing)
    (lasts : pool.Lasts later) (standing_lasts : standing.Lasts standingLater) :
    later.Deals place host body standingLater := by
  obtain ⟨type, site, result⟩ := standingLater
  obtain ⟨type_eq, site_lasts, result_eq⟩ := standing_lasts
  have type_later : type = later.type := by
    rw [lasts.type_eq]
    cases deals <;> exact type_eq
  subst type_later
  cases deals with
  | admitted =>
      cases site_lasts
      exact .admitted result
  | byCaller _ policy =>
      cases site_lasts
      exact .byCaller result (lasts.descriptor_eq ▸ policy)
  | discarded policy =>
      cases site_lasts
      cases result_eq _ rfl
      rw [← lasts.type_eq]
      exact .discarded (lasts.descriptor_eq ▸ policy)

theorem Pool.Refuses.lasts {pool later : Pool} {error : Error} (refuses : pool.Refuses error)
    (lasts : pool.Lasts later) : later.Refuses error := by
  have refusal_eq (reason : String) : pool.refusal reason = later.refusal reason := by
    rw [Pool.refusal, Pool.refusal, lasts.type_eq]
  cases refuses with
  | shut isShut => exact refusal_eq _ ▸ .shut (lasts.isShut isShut)
  | saturated policy => exact refusal_eq _ ▸ .saturated (lasts.descriptor_eq ▸ policy)

namespace Core

variable {core middle after : Core α} {aborted : Nat → Prop}

/-- A core and a later one. -/
structure Lasts (core after : Core α) : Prop where
  pool : ∀ (place : Nat) (pool : Pool), core.pools[place]? = some pool →
    ∃ later, after.pools[place]? = some later ∧ pool.Lasts later
  standing : ∀ (id : Nat) (standing : Standing α), core.standing? id = some standing →
    ∃ later, after.standing? id = some later ∧ standing.Lasts later

theorem Lasts.refl (core : Core α) : core.Lasts core :=
  ⟨fun _ pool found => ⟨pool, found, .refl pool⟩,
    fun _ standing known => ⟨standing, known, .refl standing⟩⟩

theorem Lasts.trans (first : core.Lasts middle) (second : middle.Lasts after) :
    core.Lasts after where
  pool place pool found := by
    obtain ⟨between, found, lasts⟩ := first.pool place pool found
    obtain ⟨later, found, lasts_on⟩ := second.pool place between found
    exact ⟨later, found, lasts.trans lasts_on⟩
  standing id standing known := by
    obtain ⟨between, known, lasts⟩ := first.standing id standing known
    obtain ⟨later, known, lasts_on⟩ := second.standing id between known
    exact ⟨later, known, lasts.trans lasts_on⟩

/-- How a task can stand that a core knows. -/
inductive Fits (core : Core α) (aborted : Nat → Prop) (id : Nat) : Standing α → Prop
  /-- It waits or runs in a pool or with its submitter. -/
  | live {place : Nat} {pool : Pool} {site : Site α} (isAt : site.IsAt place)
      (found : core.pools[place]? = some pool) : Fits core aborted id ⟨pool.type, site, none⟩
  /-- Its body has ended. -/
  | finished {place : Nat} {pool : Pool} {site : Site α} {ending : Ending α}
      (isAt : site.IsAt place) (found : core.pools[place]? = some pool)
      (ends : core.ending? id site = some ending) :
      Fits core aborted id ⟨pool.type, site, some (ending.result pool.type id)⟩
  /-- It has ended before its body did. -/
  | cut {place : Nat} {pool : Pool} {site : Site α} {result : Except Error α}
      (isAt : site.IsAt place) (found : core.pools[place]? = some pool)
      (cause : core.CutOff aborted id ⟨pool.type, site, none⟩ result) :
      Fits core aborted id ⟨pool.type, site, some result⟩
  | delayed (place due : Nat) (body : Body α) (type : ExecutorType)
      (result : Option (Except Error α)) :
      Fits core aborted id ⟨type, .delayed place due body, result⟩
  | nowhere (type : ExecutorType) (result : Except Error α) :
      Fits core aborted id ⟨type, .nowhere, some result⟩
  | underWay {place first : Nat} {pool : Pool} {next : α → Stage α} {given : List α}
      {second : Option Nat} (found : core.pools[place]? = some pool)
      (isDefault : pool.type = .default)
      (underWay : core.UnderWay id place first next given second) :
      Fits core aborted id ⟨.default, .chain place first next given second, none⟩
  | ended {place first : Nat} {pool : Pool} {next : α → Stage α} {given : List α}
      {second : Option Nat} {result : Except Error α} (found : core.pools[place]? = some pool)
      (isDefault : pool.type = .default)
      (ended : core.Ended id place first next given second result) :
      Fits core aborted id ⟨.default, .chain place first next given second, some result⟩
  /-- It is a chain, and its waiting was cut off. -/
  | cutChain {place first : Nat} {pool : Pool} {next : α → Stage α} {given : List α}
      {second : Option Nat} {result : Except Error α} (found : core.pools[place]? = some pool)
      (isDefault : pool.type = .default)
      (underWay : core.UnderWay id place first next given second)
      (cause : core.CutOff aborted id
        ⟨.default, .chain place first next given second, none⟩ result) :
      Fits core aborted id ⟨.default, .chain place first next given second, some result⟩

namespace Lasts

variable (lasts : core.Lasts after)
include lasts

theorem result?_eq {id : Nat} {result : Except Error α} (known : core.result? id = some result) :
    after.result? id = some result := by
  obtain ⟨standing, known, result_eq⟩ := Option.bind_eq_some_iff.1 known
  obtain ⟨later, known, lasts⟩ := lasts.standing id standing known
  rw [result?, known, Option.bind_some]
  exact lasts.result_eq result result_eq

theorem threadOf_eq {place : Nat} {pool : Pool} (found : core.pools[place]? = some pool) :
    after.threadOf place = core.threadOf place := by
  obtain ⟨later, found_later, lasts⟩ := lasts.pool place pool found
  rw [threadOf, threadOf, found, found_later, Option.elim_some, Option.elim_some,
    lasts.descriptor_eq]

theorem ending?_eq {place id : Nat} {pool : Pool} {site : Site α} (isAt : site.IsAt place)
    (found : core.pools[place]? = some pool) : after.ending? id site = core.ending? id site := by
  have thread_eq := lasts.threadOf_eq found
  cases isAt with
  | pool body => simp only [ending?, thread_eq]
  | outside body => rfl
  | inside body => simp only [ending?, Option.map_some, thread_eq]

theorem isClosed {place : Nat} (closed : core.IsClosed place) : after.IsClosed place := by
  obtain ⟨pool, found, isShut⟩ := closed
  obtain ⟨later, found_later, lasts⟩ := lasts.pool place pool found
  exact ⟨later, found_later, lasts.isShut isShut⟩

theorem handed {place id : Nat} {host : Option Nat} {body : Body α}
    (handed : core.Handed place host body id) : after.Handed place host body id := by
  obtain ⟨pool, standing, found, known, deals⟩ := handed
  obtain ⟨poolLater, found_later, pool_lasts⟩ := lasts.pool place pool found
  obtain ⟨later, known_later, standing_lasts⟩ := lasts.standing id standing known
  exact ⟨poolLater, later, found_later, known_later, deals.lasts pool_lasts standing_lasts⟩

theorem underWay {id place first : Nat} {next : α → Stage α} {given : List α} {second : Option Nat}
    (underWay : core.UnderWay id place first next given second) :
    after.UnderWay id place first next given second := by
  cases underWay with
  | before => exact .before
  | between newer produced made handed =>
      exact .between newer (lasts.result?_eq produced) made (lasts.handed handed)

theorem ended {id place first : Nat} {next : α → Stage α} {given : List α} {second : Option Nat}
    {result : Except Error α} (ended : core.Ended id place first next given second result) :
    after.Ended id place first next given second result := by
  cases ended with
  | firstFailed failed => exact .firstFailed (lasts.result?_eq failed)
  | panicked produced made => exact .panicked (lasts.result?_eq produced) made
  | refused produced made found refuses =>
      obtain ⟨later, found_later, pool_lasts⟩ := lasts.pool _ _ found
      exact .refused (lasts.result?_eq produced) made found_later (refuses.lasts pool_lasts)
  | secondEnded underWay ended =>
      exact .secondEnded (lasts.underWay underWay) (lasts.result?_eq ended)

theorem cutOff {id : Nat} {standing : Standing α} {result : Except Error α}
    (cause : core.CutOff aborted id standing result) :
    after.CutOff aborted id standing result := by
  cases cause with
  | aborted isAborted => exact .aborted isAborted
  | lost scheduled closed isLost =>
      exact .lost scheduled (fun place mem => lasts.isClosed (closed place mem)) isLost
  | turnedAway label site_eq closed => exact .turnedAway label site_eq (lasts.isClosed closed)

/-- What a task stood at before, it can stand at later. -/
theorem fits {id : Nat} {standing : Standing α} (fits : core.Fits aborted id standing) :
    after.Fits aborted id standing := by
  cases fits with
  | live isAt found =>
      obtain ⟨later, found_later, pool_lasts⟩ := lasts.pool _ _ found
      exact pool_lasts.type_eq ▸ .live isAt found_later
  | finished isAt found ends =>
      obtain ⟨later, found_later, pool_lasts⟩ := lasts.pool _ _ found
      exact pool_lasts.type_eq ▸
        .finished isAt found_later ((lasts.ending?_eq isAt found).trans ends)
  | cut isAt found cause =>
      obtain ⟨later, found_later, pool_lasts⟩ := lasts.pool _ _ found
      rw [← pool_lasts.type_eq] at cause ⊢
      exact .cut isAt found_later (lasts.cutOff cause)
  | delayed place due body type result => exact .delayed place due body type result
  | nowhere type result => exact .nowhere type result
  | underWay found isDefault underWay =>
      obtain ⟨later, found_later, pool_lasts⟩ := lasts.pool _ _ found
      exact .underWay found_later (pool_lasts.type_eq.trans isDefault) (lasts.underWay underWay)
  | ended found isDefault ended =>
      obtain ⟨later, found_later, pool_lasts⟩ := lasts.pool _ _ found
      exact .ended found_later (pool_lasts.type_eq.trans isDefault) (lasts.ended ended)
  | cutChain found isDefault underWay cause =>
      obtain ⟨later, found_later, pool_lasts⟩ := lasts.pool _ _ found
      exact .cutChain found_later (pool_lasts.type_eq.trans isDefault) (lasts.underWay underWay)
        (lasts.cutOff cause)

end Lasts

end Core
end ClusterMember
