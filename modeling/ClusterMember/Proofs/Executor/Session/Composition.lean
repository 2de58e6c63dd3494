import ClusterMember.Proofs.Executor.Session.Completion

/-!
# Chained submission composes

What a chain comes to is told by what its stages come to, whatever else happens at the node.
-/

namespace ClusterMember
namespace Session

variable {α : Type} {start session : Session α} {aborted : Nat → Prop}

/-- What has become of a chain in a session: at the start it was submitted with the body of its
first stage, which got the next number, and with a transform of its value. -/
structure Composes (start session : Session α) (aborted : Nat → Prop) (type : ExecutorType)
    (body : Body α) (next : α → Stage α) (id place target : Nat) (given : List α)
    (second : Option Nat) : Prop where
  default_eq : start.scheduler.governor.place? .default = some place
  /-- The first stage is for the pool of its kind, or for the default pool if there is none. -/
  target_eq : start.scheduler.target? type = some target
  /-- That pool has dealt with the first stage: has taken it if it had a permit, and else has done
  as its rejection policy says. -/
  handed_first : session.core.Handed target none body start.next
  taken_first : start.HasRoom target →
    ∃ type result, session.standing? start.next = some ⟨type, .pool target body, result⟩
  resolves_first : ∀ result, session.result? start.next = some result →
    session.core.Resolves aborted target none body start.next result
  stands : session.standing? id =
    some ⟨.default, .chain place start.next next given second, session.result? id⟩
  /-- The transform has been given nothing, or the value of the first stage, once. -/
  given_once : (given = [] ∧ second = none) ∨
    ∃ value, given = [value] ∧ session.result? start.next = some (.ok value)
  /-- Once the stage that the chain waits for has a result, the chain can go on. -/
  unblocked : session.result? id = none → (session.result? (second.getD start.next)).isSome →
    ∃ later givenLater secondLater, session.step? (.advance id) = some later ∧
      session.GoesOn later id place start.next next second givenLater secondLater
  /-- The second stage is what the transform has made of the value, and the default pool has dealt
  with it. -/
  handed_second : ∀ stage, second = some stage → ∃ value made, given = [value] ∧
    next value = .body made ∧ session.core.Handed place (some place) made stage ∧
    ∀ result, session.result? stage = some result →
      session.core.Resolves aborted place (some place) made stage result
  /-- The chain ends as its stages have ended, unless it is aborted or the default pool is shut down
  before. -/
  ends : ∀ result, session.result? id = some result →
    (result ≠ cancelled .default ∧
      session.core.Ended id place start.next next given second result) ∨
    (result = cancelled .default ∧ (aborted id ∨ session.core.IsClosed place))
  /-- When it has ended by itself, the transform was given the value of the first stage exactly if
  there is one. -/
  given_iff : ∀ result, session.result? id = some result → result ≠ cancelled .default →
    ∀ value, given = [value] ↔ session.result? start.next = some (.ok value)
  /-- It has succeeded, with the value of the second stage, exactly if that has succeeded. -/
  ok_iff : ∀ result, session.result? id = some result → result ≠ cancelled .default →
    ∀ value, result = .ok value ↔
      ∃ stage, second = some stage ∧ session.result? stage = some (.ok value)
  /-- The permits of a pool that are taken are those of its tasks, and the chain is none of them,
  nor is a first stage that has ended. -/
  unpermitted : ∀ (own : Nat) (pool : Pool), session.pools[own]? = some pool →
    pool.inFlight = pool.tasks.length ∧ ¬pool.Holds id ∧
      ((session.result? start.next).isSome → ¬pool.Holds start.next)

/-- A chain that stands in a sound session composes its stages. -/
theorem composes_of_sound (sound : session.core.Sound aborted) {isAborted : Nat → Prop}
    {type : ExecutorType} {body : Body α} {next : α → Stage α} {id place target : Nat}
    {given : List α} {second : Option Nat}
    (default_eq : start.scheduler.governor.place? .default = some place)
    (target_eq : start.scheduler.target? type = some target)
    (handed : session.core.Handed target none body start.next)
    (taken : start.HasRoom target →
      ∃ type result, session.standing? start.next = some ⟨type, .pool target body, result⟩)
    (known : session.standing? id =
      some ⟨.default, .chain place start.next next given second, session.result? id⟩)
    (newer : start.next < id) (same : ∀ task, start.next ≤ task → aborted task → isAborted task) :
    Composes start session isAborted type body next id place target given second where
  default_eq := default_eq
  target_eq := target_eq
  handed_first := handed
  taken_first := taken
  resolves_first result produced :=
    (sound.resolves handed ((session.core_result? start.next).trans produced)).mono
      (same start.next (Nat.le_refl _))
  stands := known
  given_once := by
    rw [← core_result?]
    exact sound.given_once known
  unblocked pending ready := chain_goes_on sound (pending ▸ known) ready
  handed_second := by
    rintro stage rfl
    obtain ⟨newest, value, made, given_eq, next_eq, handed⟩ := sound.second_spec known
    refine ⟨value, made, given_eq, next_eq, handed, fun result produced => ?_⟩
    exact (sound.resolves handed ((session.core_result? stage).trans produced)).mono
      (same stage (Nat.le_of_lt (Nat.lt_trans newer newest)))
  ends result hasEnded := (sound.ended_or_cut (hasEnded ▸ known)).imp
    (fun ended => ⟨ended.ne_cancelled .default, ended⟩)
    fun ⟨eq, cause⟩ => ⟨eq, cause.imp_left (same id (Nat.le_of_lt newer))⟩
  given_iff result hasEnded notCut value := by
    rw [← core_result?]
    exact ((sound.ended_or_cut (hasEnded ▸ known)).resolve_right
      fun cut => notCut cut.1).given_eq_iff value
  ok_iff result hasEnded notCut value := by
    simp only [← core_result?]
    exact ((sound.ended_or_cut (hasEnded ▸ known)).resolve_right
      fun cut => notCut cut.1).eq_ok_iff value
  unpermitted own pool found := ⟨sound.inFlight_eq found, sound.not_holds_chain known found,
    fun hasEnded =>
      sound.not_holds_of_result found ((session.core_result? start.next).symm ▸ hasEnded)⟩

/-- Whatever happens to a node after a chain was submitted, the chain composes its stages. -/
theorem composes_follow {caps : ResourceCaps} {before : List (SessionEvent α)}
    {type : ExecutorType} {callerCanRun : Bool} {body : Body α} {next : α → Stage α}
    {submitted : Session α} {id : Nat}
    (submits : (run caps before).submitChain type callerCanRun body next = (submitted, .ok id))
    (after : List (SessionEvent α)) :
    ∃ place target given second,
      Composes (run caps before) (submitted.follow after) (fun task => .abort task ∈ after)
        type body next id place target given second := by
  let start : Session α := run caps before
  -- What was aborted before the chain was submitted is older than its stages.
  let aborted (task : Nat) : Prop := task < start.next ∨ .abort task ∈ after
  have sound_start : start.core.Sound aborted :=
    (sound_run caps before).mono fun task lt _ => .inl lt
  obtain ⟨moves, newer, place, target, default_eq, target_eq, handed, taken, known⟩ :=
    submitChain_spec sound_start submits
  have sound_submitted := (moves.sound_and_lasts sound_start).1
  obtain ⟨sound, lasts⟩ :=
    (moves_follow sound_submitted after fun task => .inr).sound_and_lasts sound_submitted
  have taken_later (hasRoom : start.HasRoom target) : ∃ type result,
      (submitted.follow after).standing? start.next = some ⟨type, .pool target body, result⟩ := by
    obtain ⟨own, stands⟩ := taken hasRoom
    obtain ⟨⟨_, site, result⟩, known_later, _, site_lasts, -⟩ := lasts.standing _ _ stands
    cases site_lasts
    exact ⟨_, result, known_later⟩
  obtain ⟨⟨_, site, result⟩, known_later, rfl, site_lasts, -⟩ := lasts.standing id _ known
  obtain rfl := result?_of_standing? known_later
  have same (task : Nat) (le : start.next ≤ task) (isAborted : aborted task) :
      .abort task ∈ after := isAborted.resolve_left (Nat.not_lt.2 le)
  cases site_lasts with
  | same | chain =>
      exact ⟨place, target, _, _, composes_of_sound sound default_eq target_eq
        (lasts.handed handed) taken_later known_later newer same⟩

/-- A chain composes its stages, whatever happened before it was submitted and happens after that;
and when nothing else goes on and its bodies do not wait, it runs to its end. -/
theorem run_composes (caps : ResourceCaps) (before : List (SessionEvent α)) (type : ExecutorType)
    (callerCanRun : Bool) (body : Body α) (next : α → Stage α) :
    let start : Session α := run caps before
    (∀ submitted id,
      start.submitChain type callerCanRun body next = (submitted, .ok id) →
      ∀ after, ∃ place target given second,
        Composes start (submitted.follow after) (fun task => .abort task ∈ after)
          type body next id place target given second) ∧
    ∀ place target, start.Idle → start.scheduler.governor.place? .default = some place →
      start.scheduler.target? type = some target → start.isOpen body.gate = true →
      (∀ value made, next value = .body made → start.isOpen made.gate = true) →
      ∃ submitted,
        start.submitChain type callerCanRun body next = (submitted, .ok (start.next + 1)) ∧
        submitted.settle.result? (start.next + 1) =
          some (start.outcome target place body next) := by
  refine ⟨fun submitted id submits => composes_follow submits, fun place target idle default_eq
    target_eq opened opened_next => ?_⟩
  have sound := (sound_run caps before).mono fun task lt (_ : .abort task ∈ before) => lt
  exact settle_submitChain idle sound default_eq target_eq opened opened_next callerCanRun

/-- One thread, and nobody may wait for it: a chain runs both of its stages there. -/
theorem composes_on_one_thread :
    let caps : ResourceCaps := ⟨1, 1, 1, 1, 1⟩
    let pool : PoolDescriptor := { type := .default, core := 1, max := 1, queue := .rendezvous }
    let start : Session Nat := run caps [.register pool]
    let next (value : Nat) : Stage Nat := .body (.prompt fun _ => .value (value + 1))
    ∃ submitted, start.submitChain .compact true (.prompt fun _ => .value 7) next =
        (submitted, .ok 1) ∧
      submitted.settle.result? 1 = some (.ok 8) ∧
      ∃ place target given second, Composes start (submitted.follow []) (fun _ => False) .compact
        (.prompt fun _ => .value 7) next 1 place target given second := by
  intro caps pool start next
  obtain ⟨composes, completes⟩ :=
    run_composes caps [.register pool] .compact true (.prompt fun _ => .value 7) next
  have idle : start.Idle := {
    ended := by decide +kernel
    works_eq := by decide +kernel
    still := Option.isNone_iff_eq_none.1 (by decide +kernel) }
  obtain ⟨submitted, submits, settled⟩ := completes 0 0 idle (by decide) (by decide) rfl
    fun value made eq => by cases eq; rfl
  exact ⟨submitted, submits, settled, by simpa using composes submitted 1 submits []⟩

/-- A chain whose default pool is shut down while its first stage runs ends as cancelled, and not
with the error of the first stage as the cause of a fault. -/
theorem cancelled_not_wrapped :
    let caps : ResourceCaps := ⟨1, 1, 1, 1, 1⟩
    let pool : PoolDescriptor := { type := .default, core := 1, max := 1 }
    let body : Body Nat := { gate := some "g", run := fun _ => .value 7 }
    let next (value : Nat) : Stage Nat := .body (.prompt fun _ => .value (value + 1))
    let stopped : Session Nat := run caps
      [.register pool, .submitChain .default true body next, .start 0 0, .shutDown]
    let error : Error := .rejected .default cancelledReason
    stopped.result? 0 = some (.error error) ∧ stopped.result? 1 = some (.error error) ∧
      stopped.result? 1 ≠ some (.error error.wrap) := by
  decide +kernel

end Session
end ClusterMember
