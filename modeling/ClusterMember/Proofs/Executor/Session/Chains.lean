import ClusterMember.Proofs.Executor.Session.Reach

/-!
# Chains of two stages

A chain hands its first stage to the pool of its kind and waits without a permit.  It gives the
value of the first stage to its transform once, hands what that makes of it to the default pool, and
ends as its stages have ended, unless its waiting is cut off before.
-/

namespace ClusterMember

namespace Core

variable {α : Type} {core after : Core α} {aborted : Nat → Prop}

/-- What a body that was handed to the pool at a place can come to. -/
inductive Resolves (core : Core α) (aborted : Nat → Prop) (place : Nat) (host : Option Nat)
    (body : Body α) (id : Nat) : Except Error α → Prop
  /-- It has run on a thread of the pool, or with its submitter if the policy of the pool is so. -/
  | ran {pool : Pool} {thread : String} (found : core.pools[place]? = some pool)
      (on : thread = core.threadOf place ∨ (pool.descriptor.rejection = .callerRuns ∧
        thread = (host.map core.threadOf).getD "caller")) :
      Resolves core aborted place host body id ((body.run ⟨id, thread⟩).result pool.type id)
  /-- It was dropped, as is the policy of the pool. -/
  | discarded {pool : Pool} (found : core.pools[place]? = some pool)
      (policy : pool.descriptor.rejection = .discard) :
      Resolves core aborted place host body id (.error (.rejected pool.type discardedReason))
  /-- It was aborted, or the pool was shut down. -/
  | cancelled {pool : Pool} (found : core.pools[place]? = some pool)
      (cause : aborted id ∨ core.IsClosed place) :
      Resolves core aborted place host body id (cancelled pool.type)
  | turnedAway (label : String) (closed : core.IsClosed place) :
      Resolves core aborted place host body id (.error (closedFault label))

/-- A task that was cut off in a pool, or with a submitter in the same pool, was aborted, or that
pool was shut down. -/
theorem resolves_of_cutOff {place id : Nat} {host : Option Nat} {body : Body α} {pool : Pool}
    {site : Site α} (found : core.pools[place]? = some pool) (isAt : site.IsAt place)
    {result : Except Error α} (cause : core.CutOff aborted id ⟨pool.type, site, none⟩ result) :
    core.Resolves aborted place host body id result := by
  cases cause with
  | aborted isAborted => exact .cancelled found (.inl isAborted)
  | lost scheduled closed isLost =>
      refine .cancelled found (.inr (closed place ?_))
      cases isAt with
      | pool => simpa [Site.isLost] using isLost
      | outside => simp [Site.isLost] at isLost
      | inside => simpa [Site.isLost] using isLost
  | turnedAway label site_eq closed =>
      cases site_eq
      cases isAt
      exact .turnedAway label closed

namespace Sound

variable (sound : Sound aborted core)
include sound

/-- A body that was handed to a pool comes to what it can come to. -/
theorem resolves {place id : Nat} {host : Option Nat} {body : Body α}
    (handed : core.Handed place host body id) {result : Except Error α}
    (known_result : core.result? id = some result) :
    core.Resolves aborted place host body id result := by
  obtain ⟨pool, standing, found, known, deals⟩ := handed
  rw [result?, known, Option.bind_some] at known_result
  have live {site : Site α} (known : core.standing? id = some ⟨pool.type, site, some result⟩)
      (at_place : site.place? = some place)
      (ran : ∀ ending, core.ending? id site = some ending →
        core.Resolves aborted place host body id (ending.result pool.type id)) :
      core.Resolves aborted place host body id result := by
    obtain ⟨isAt, -, ⟨ending, ends, rfl⟩ | cause⟩ := sound.finished_or_cut known at_place found
    · exact ran ending ends
    · exact resolves_of_cutOff found isAt cause
  cases deals with
  | admitted own =>
      cases known_result
      exact live known rfl fun ending ends => Option.some.inj ends ▸ .ran found (.inl rfl)
  | byCaller own policy =>
      cases known_result
      exact live known rfl fun ending ends => Option.some.inj ends ▸ .ran found (.inr ⟨policy, rfl⟩)
  | discarded policy =>
      cases known_result
      exact .discarded found policy

end Sound

theorem Resolves.mono {aborted' : Nat → Prop} {place id : Nat} {host : Option Nat} {body : Body α}
    {result : Except Error α} (mono : aborted id → aborted' id)
    (resolves : core.Resolves aborted place host body id result) :
    core.Resolves aborted' place host body id result := by
  cases resolves with
  | ran found on => exact .ran found on
  | discarded found policy => exact .discarded found policy
  | cancelled found cause => exact .cancelled found (cause.imp_left mono)
  | turnedAway label closed => exact .turnedAway label closed

/-! ## How a chain ends -/

theorem UnderWay.given_once {id place first : Nat} {next : α → Stage α} {given : List α}
    {second : Option Nat} (underWay : core.UnderWay id place first next given second) :
    (given = [] ∧ second = none) ∨
      ∃ value, given = [value] ∧ core.result? first = some (.ok value) := by
  cases underWay with
  | before => exact .inl ⟨rfl, rfl⟩
  | between _ produced => exact .inr ⟨_, rfl, produced⟩

/-- An error that a chain passes on is a fault, and not that of a cancelled chain. -/
theorem wrap_ne_cancelled (error : Error) (type : ExecutorType) :
    (.error error.wrap : Except Error α) ≠ cancelled type := by
  intro eq
  cases Except.error.inj eq

namespace Ended

variable {id place first : Nat} {next : α → Stage α} {given : List α} {second : Option Nat}
  {result : Except Error α} (ended : core.Ended id place first next given second result)
include ended

theorem given_once : (given = [] ∧ second = none) ∨
    ∃ value, given = [value] ∧ core.result? first = some (.ok value) := by
  cases ended with
  | firstFailed => exact .inl ⟨rfl, rfl⟩
  | panicked produced | refused produced => exact .inr ⟨_, rfl, produced⟩
  | secondEnded underWay => exact underWay.given_once

/-- A chain that ends by itself is not cancelled. -/
theorem ne_cancelled (type : ExecutorType) : result ≠ cancelled type := by
  cases ended with
  | firstFailed | refused => exact wrap_ne_cancelled _ _
  | panicked =>
      intro eq
      cases Except.error.inj eq
  | @secondEnded _ _ outcome =>
      cases outcome with
      | error error => exact wrap_ne_cancelled error type
      | ok value => exact nofun

/-- The transform has been given the value of the first stage exactly if there is one. -/
theorem given_eq_iff (value : α) :
    given = [value] ↔ core.result? first = some (.ok value) := by
  have given_of_produced {produced : α} (known : core.result? first = some (.ok produced)) :
      [produced] = [value] ↔ core.result? first = some (.ok value) := by
    rw [known, List.singleton_inj, Option.some.injEq, Except.ok.injEq]
  cases ended with
  | firstFailed failed =>
      exact iff_of_false nofun fun produced => by cases failed.symm.trans produced
  | panicked produced => exact given_of_produced produced
  | refused produced => exact given_of_produced produced
  | secondEnded underWay =>
      cases underWay with
      | between _ produced => exact given_of_produced produced

/-- The chain has the value of its second stage exactly if that has one. -/
theorem eq_ok_iff (value : α) :
    result = .ok value ↔ ∃ stage, second = some stage ∧ core.result? stage = some (.ok value) := by
  have noSecond : ¬∃ stage, none = some stage ∧ core.result? stage = some (.ok value) := nofun
  cases ended with
  | firstFailed | refused | panicked => exact iff_of_false nofun noSecond
  | @secondEnded _ stage outcome _ known =>
      have ok_iff : outcome.mapError Error.wrap = .ok value ↔ outcome = .ok value := by
        cases outcome with
        | error error => exact iff_of_false nofun nofun
        | ok own => exact Iff.rfl
      rw [ok_iff]
      constructor
      · rintro rfl
        exact ⟨stage, rfl, known⟩
      · rintro ⟨_, eq, produced⟩
        cases eq
        exact Option.some.inj (known.symm.trans produced)

end Ended

namespace Sound

variable {id place first : Nat} {next : α → Stage α} {given : List α} {second : Option Nat}
  {type : ExecutorType} (sound : Sound aborted core)
include sound

/-- A chain is under way, or has ended by itself. -/
theorem underWay_or_ended {result : Option (Except Error α)}
    (known : core.standing? id = some ⟨type, .chain place first next given second, result⟩) :
    core.UnderWay id place first next given second ∨
      ∃ outcome, core.Ended id place first next given second outcome := by
  cases sound.fits id _ known with
  | live isAt => cases isAt
  | finished isAt => cases isAt
  | cut isAt => cases isAt
  | underWay _ _ underWay => exact .inl underWay
  | cutChain _ _ underWay => exact .inl underWay
  | ended _ _ ended => exact .inr ⟨_, ended⟩

/-- A chain that has a result has ended by itself, or was aborted, or its pool was shut down. -/
theorem ended_or_cut {result : Except Error α}
    (known : core.standing? id =
      some ⟨type, .chain place first next given second, some result⟩) :
    core.Ended id place first next given second result ∨
      (result = cancelled .default ∧ (aborted id ∨ core.IsClosed place)) := by
  cases sound.fits id _ known with
  | finished isAt => cases isAt
  | cut isAt => cases isAt
  | ended _ _ ended => exact .inl ended
  | cutChain _ _ _ cause =>
      refine .inr ?_
      cases cause with
      | aborted isAborted => exact ⟨rfl, .inl isAborted⟩
      | lost scheduled closed isLost =>
          exact ⟨rfl, .inr (closed place (by simpa [Site.isLost] using isLost))⟩
      | turnedAway _ site_eq => cases site_eq

theorem given_once {result : Option (Except Error α)}
    (known : core.standing? id = some ⟨type, .chain place first next given second, result⟩) :
    (given = [] ∧ second = none) ∨
      ∃ value, given = [value] ∧ core.result? first = some (.ok value) := by
  rcases sound.underWay_or_ended known with underWay | ⟨outcome, ended⟩
  · exact underWay.given_once
  · exact ended.given_once

/-- The second stage of a chain is newer than the chain, and was made of the value of the first. -/
theorem second_spec {result : Option (Except Error α)} {stage : Nat}
    (known : core.standing? id =
      some ⟨type, .chain place first next given (some stage), result⟩) :
    id < stage ∧ ∃ value made, given = [value] ∧ next value = .body made ∧
      core.Handed place (some place) made stage := by
  have underWay : core.UnderWay id place first next given (some stage) := by
    rcases sound.underWay_or_ended known with underWay | ⟨outcome, ended⟩
    · exact underWay
    · cases ended with
      | secondEnded underWay => exact underWay
  cases underWay with
  | between newer _ made handed => exact ⟨newer, _, _, rfl, made, handed⟩

/-- The permits of a pool that are taken are those of its tasks. -/
theorem inFlight_eq {own : Nat} {pool : Pool} (found : core.pools[own]? = some pool) :
    pool.inFlight = pool.tasks.length := by
  have permits_add := (sound.agrees own pool found).balanced.permits_add
  rw [Pool.inFlight]
  omega

/-- A chain holds no permit. -/
theorem not_holds_chain {result : Option (Except Error α)}
    (known : core.standing? id = some ⟨type, .chain place first next given second, result⟩)
    {own : Nat} {pool : Pool} (found : core.pools[own]? = some pool) : ¬pool.Holds id := by
  intro held
  obtain ⟨_, _, held_known⟩ := ((sound.agrees own pool found).holds_iff id).1 held
  cases known.symm.trans held_known

/-- A task that has ended holds no permit. -/
theorem not_holds_of_result {task own : Nat} {pool : Pool}
    (found : core.pools[own]? = some pool) (hasEnded : (core.result? task).isSome) :
    ¬pool.Holds task := by
  intro held
  obtain ⟨_, _, known⟩ := ((sound.agrees own pool found).holds_iff task).1 held
  rw [result?, known] at hasEnded
  cases hasEnded

end Sound

end Core

namespace Session

variable {α : Type} {aborted : Nat → Prop}

/-! ## Chains of a session -/

/-- A chain in two sessions, the later one after the stage that it waited for has ended: it has
ended as well, or has submitted its second stage, which the default pool has taken if it had a
permit. -/
structure GoesOn (session later : Session α) (id place first : Nat) (next : α → Stage α)
    (second : Option Nat) (givenLater : List α) (secondLater : Option Nat) : Prop where
  stands : later.standing? id =
    some ⟨.default, .chain place first next givenLater secondLater, later.result? id⟩
  progress : later.result? id ≠ none ∨ (second = none ∧ secondLater ≠ none)
  taken : session.HasRoom place → second = none → ∀ stage, secondLater = some stage →
    ∃ type made, later.standing? stage = some ⟨type, .pool place made, none⟩

/-- A chain goes on as soon as the stage that it waits for has a result. -/
theorem chain_goes_on {session : Session α} (sound : session.core.Sound aborted)
    {id place first : Nat} {next : α → Stage α} {given : List α} {second : Option Nat}
    (known : session.standing? id = some ⟨.default, .chain place first next given second, none⟩)
    (ready : (session.result? (second.getD first)).isSome) :
    ∃ later givenLater secondLater, session.step? (.advance id) = some later ∧
      session.GoesOn later id place first next second givenLater secondLater := by
  obtain ⟨task, found, rfl, standing⟩ := exists_task known
  obtain ⟨-, site, pending⟩ := Standing.mk.inj standing
  obtain ⟨result, ready⟩ := Option.isSome_iff_exists.1 ready
  have steps {later : Session α}
      (advanced : session.advanceChain task place first next given second = some later) :
      session.step? (.advance task.id) = some later := by
    simp only [step?, found, Option.bind_some, advanceTask, pending, site, Option.isSome_none,
      Bool.false_eq_true, if_false, advanced]
  have ends (outcome : Except Error α) :
      session.GoesOn (session.resolve task.id outcome) task.id place first next second given
        second := by
    have resolved : (session.resolve task.id outcome).standing? task.id =
        some ⟨.default, .chain place first next given second, some outcome⟩ := by
      rw [← core_standing?, core_resolve session known rfl, Core.standing?_put, if_pos rfl]
    have result_eq := result?_of_standing? resolved
    exact ⟨result_eq.symm ▸ resolved, .inl (result_eq ▸ Option.some_ne_none _),
      fun _ isNone stage isStage => by cases isNone.symm.trans isStage⟩
  cases second with
  | none =>
      rw [Option.getD_none] at ready
      cases result with
      | error error => exact ⟨_, given, none, steps (by rw [advanceChain, ready]; rfl), ends _⟩
      | ok value =>
          obtain ⟨-, secondLater, resultLater, stands, goesOn, taken⟩ :=
            submitSecond_spec sound found pending site ready rfl
          have result_eq := result?_of_standing? stands
          refine ⟨_, [value], secondLater, steps (by rw [advanceChain, ready]; rfl), ?_, ?_,
            fun hasRoom _ => taken hasRoom⟩
          · exact result_eq.symm ▸ stands
          · exact result_eq ▸ goesOn.symm.imp_right fun ne => ⟨rfl, ne⟩
  | some stage =>
      rw [Option.getD_some] at ready
      cases result with
      | error error =>
          exact ⟨_, given, some stage, steps (by rw [advanceChain, ready]; rfl), ends _⟩
      | ok value =>
          exact ⟨_, given, some stage, steps (by rw [advanceChain, ready]; rfl), ends _⟩

end Session
end ClusterMember
