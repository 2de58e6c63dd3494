import ClusterMember.Proofs.Executor.Session.Chains
import ClusterMember.Proofs.Executor.Session.Idle

/-!
# Chains that nothing disturbs

While a chain waits it takes neither a permit nor a slot nor a thread.  So when nothing else goes on
in its pools, its stages have all that they need, one after the other, and the chain runs to its
end even if there is but one thread and nobody may wait for it.
-/

namespace ClusterMember
namespace Session

variable {α : Type} {start session after : Session α}

/-! ## A chain and the stage that it waits for -/

/-- What a body comes to that runs to its end in the pool at a place. -/
def ran (session : Session α) (task home : Nat) (body : Body α) : Except Error α :=
  (body.run ⟨task, session.threadOf home⟩).result (session.typeOf home) task

/-- What a chain comes to that runs to its end, with its stages in the pools at two places. -/
def outcome (session : Session α) (target place : Nat) (body : Body α) (next : α → Stage α) :
    Except Error α :=
  match session.ran session.next target body with
  | .error error => .error error.wrap
  | .ok value =>
    match next value with
    | .panic message => (Ending.panic message).result .default (session.next + 1)
    | .body made => (session.ran (session.next + 2) place made).mapError Error.wrap

/-- A chain that waits for a stage in a pool, and nothing else that has not ended. -/
structure Lone (start session : Session α) (id place : Nat) (next : α → Stage α) (given : List α)
    (second : Option Nat) (task home : Nat) (body : Body α) : Prop where
  sound : session.core.Sound (· < start.next)
  keeps : start.Keeps session
  registered : ∃ type, start.scheduler.governor.place? type = some home
  opened : start.isOpen body.gate = true
  chain : session.standing? id =
    some ⟨.default, .chain place start.next next given second, none⟩
  waits_for : second.getD start.next = task
  /-- Before it submits its second stage, the chain is the newest task. -/
  next_eq : second = none → session.next = start.next + 2
  stage : ∃ result, session.standing? task = some ⟨start.typeOf home, .pool home body, result⟩
  others : ∀ other standing, session.standing? other = some standing → standing.result = none →
    other = id ∨ other = task

/-- How far the stage is: how many things can still happen to it. -/
inductive Ahead (start session : Session α) (task home : Nat) (body : Body α) : Nat → Prop
  | waiting {pool : Pool} (found : session.pools[home]? = some pool)
      (phase : pool.phase? task = some .waiting) (works_eq : session.works = []) :
      Ahead start session task home body 3
  /-- It asks for a thread on which it can block. -/
  | asking {pool : Pool} (found : session.pools[home]? = some pool)
      (phase : pool.phase? task = some .running)
      (works_eq : session.works = [⟨task, home, body.gate, false⟩]) :
      Ahead start session task home body 2
  | running {pool : Pool} (found : session.pools[home]? = some pool)
      (phase : pool.phase? task = some .running)
      (works_eq : session.works = [] ∨ session.works = [⟨task, home, body.gate, true⟩]) :
      Ahead start session task home body 1
  | ended (result_eq : session.result? task = some (start.ran task home body))
      (works_eq : session.works = []) : Ahead start session task home body 0

/-- What can happen while a chain waits for a stage and nothing else goes on. -/
inductive Lone.Goes (start session : Session α) (id place : Nat) (next : α → Stage α)
    (given : List α) (second : Option Nat) (task home : Nat) (body : Body α) (after : Session α) :
    Prop
  | starts {pool begun : Pool} (found : session.pools[home]? = some pool)
      (phase : pool.phase? task = some .waiting) (begins : pool.start task = some begun)
      (eq : after = (session.setPool home begun).begin task)
  | hasThread {work : BlockingWork}
      (next : BlockingWork.next? session.threads session.works = some work)
      (eq : after = { session with works := BlockingWork.give work.task session.works }.began
        work.task)
  | leaves {work : BlockingWork} (mem : work ∈ session.works) (hasThread : work.hasThread = true)
      (ended : (session.result? work.task).isSome)
  | ends {pool left : Pool} (found : session.pools[home]? = some pool)
      (phase : pool.phase? task = some .running)
      (served : BlockingWork.isServed task session.works = true)
      (finished : pool.finish task .zero = some left)
      (eq : after = ((session.setPool home left).leaveThread task).resolve task
        (start.ran task home body))
  | goesOn {chain : Task α} (ended : (session.result? task).isSome)
      (known : session.task? id = some chain)
      (advanced : session.advanceChain chain place start.next next given second = some after)

namespace Lone

variable {id place : Nat} {next : α → Stage α} {given : List α} {second : Option Nat}
  {task home : Nat} {body : Body α}
  (lone : Lone start session id place next given second task home body)
include lone

theorem exists_pool : ∃ pool, session.pools[home]? = some pool ∧ pool.isShut = false := by
  obtain ⟨type, found⟩ := lone.registered
  obtain ⟨pool, found, -, isOpen⟩ :=
    registered_place lone.sound ((lone.keeps.place?_eq type).trans found)
  exact ⟨pool, found, isOpen⟩

/-- All that a pool holds is the stage. -/
theorem eq_of_holds {own other : Nat} {pool : Pool} (found : session.pools[own]? = some pool)
    (held : pool.Holds other) : other = task ∧ own = home := by
  obtain ⟨type, held_body, known⟩ := ((lone.sound.agrees own pool found).holds_iff other).1 held
  rcases lone.others other _ known rfl with rfl | rfl
  · cases lone.chain.symm.trans known
  · obtain ⟨_, stage⟩ := lone.stage
    cases stage.symm.trans known
    exact ⟨rfl, rfl⟩

theorem not_hosts {own : Nat} {pool : Pool} (found : session.pools[own]? = some pool) :
    ¬pool.Hosts task := by
  intro hosted
  obtain ⟨_, _, _, _, known⟩ := (lone.sound.agrees own pool found).hosted task hosted
  obtain ⟨_, stage⟩ := lone.stage
  cases stage.symm.trans known

/-- A stage that its pool holds has not ended. -/
theorem result?_of_phase {own : Nat} {pool : Pool} (found : session.pools[own]? = some pool)
    {phase : TaskPhase} (known : pool.phase? task = some phase) : session.result? task = none := by
  have held : pool.Holds task := by simp [Pool.Holds, known]
  obtain ⟨type, held_body, known⟩ := ((lone.sound.agrees own pool found).holds_iff task).1 held
  exact result?_of_standing? known

/-- Nothing else happens than that the stage, or the chain, goes on. -/
theorem goes (idle : start.Idle) (happens : Happens session after) :
    Goes start session id place next given second task home body after := by
  cases happens with
  | start own started =>
      obtain ⟨pool, other, found, waits, started⟩ := startIn_cases started
      have phase := Pool.phase?_of_nextWaiting? (lone.sound.agrees own pool found).balanced waits
      obtain ⟨rfl, rfl⟩ := lone.eq_of_holds found (by simp [Pool.Holds, phase] : pool.Holds other)
      obtain ⟨same, begun, found_same, begins, eq⟩ := startTask_cases started
      cases found.symm.trans found_same
      exact .starts found phase begins eq
  | startScheduled own started => exact (idle.not_startScheduled lone.keeps started).elim
  | giveThread given =>
      obtain ⟨work, next, eq⟩ := giveThread_cases given
      exact .hasThread next eq
  | endWork mem ended =>
      obtain ⟨owner, known, hasThread, -, ended, -⟩ := endWork_cases ended
      exact .leaves mem hasThread (by rw [result?, known, Option.bind_some]; exact ended)
  | @advance owner mem advanced =>
      have known := task?_of_mem lone.sound.nodup mem
      have standing := standing?_of_task? known
      have pending := (advanceTask_cases advanced).1
      rcases lone.others _ _ standing pending with isChain | isStage
      · rw [isChain] at known standing
        obtain ⟨-, site, -⟩ := Standing.mk.inj (Option.some.inj (standing.symm.trans lone.chain))
        simp only [advanceTask, pending, site, Option.isSome_none, Bool.false_eq_true, if_false]
          at advanced
        refine .goesOn ?_ known advanced
        rcases advanceChain_cases advanced with ⟨rfl, _, ended, -⟩ | ⟨rfl, _, ended, -⟩ |
          ⟨_, _, rfl, ended, -⟩ | ⟨_, _, rfl, ended, -⟩ <;>
          exact lone.waits_for ▸ Option.isSome_of_eq_some ended
      · rw [isStage] at standing
        obtain ⟨result, stage⟩ := lone.stage
        obtain ⟨type_eq, site, -⟩ := Standing.mk.inj (Option.some.inj (standing.symm.trans stage))
        simp only [advanceTask, pending, site, Option.isSome_none, Bool.false_eq_true, if_false]
          at advanced
        obtain ⟨pool, left, found, -, served, finished, eq⟩ := finishIn_cases advanced
        rw [isStage] at served finished eq
        have phase : pool.phase? task = some .running := by
          rcases Pool.finish_cases finished with ⟨phase, -⟩ | ⟨hosted, -⟩
          · exact phase
          · exact (lone.not_hosts found (by simp [Pool.Hosts, hosted])).elim
        refine .ends found phase served finished (eq.trans ?_)
        rw [ran, type_eq, lone.keeps.threadOf_eq]
  | advanceSchedule mem advanced => exact (idle.not_advanceSchedule lone.keeps mem advanced).elim

/-- The chain waits for the stage as before when no task stands elsewhere. -/
theorem of_standing?_eq (sound : after.core.Sound (· < start.next)) (keeps : session.Keeps after)
    (same : after.standing? = session.standing?) (same_next : after.next = session.next) :
    Lone start after id place next given second task home body where
  sound := sound
  keeps := lone.keeps.trans keeps
  registered := lone.registered
  opened := lone.opened
  chain := same ▸ lone.chain
  waits_for := lone.waits_for
  next_eq := same_next ▸ lone.next_eq
  stage := same ▸ lone.stage
  others := same ▸ lone.others

theorem stage_of_phase {own : Nat} {pool : Pool} (found : session.pools[own]? = some pool)
    {phase : TaskPhase} (known : pool.phase? task = some phase) :
    session.standing? task = some ⟨start.typeOf home, .pool home body, none⟩ := by
  obtain ⟨result, stage⟩ := lone.stage
  cases (result?_of_standing? stage).symm.trans (lone.result?_of_phase found known)
  exact stage

/-- The stage has begun. -/
theorem begins {pool begun : Pool} (sound : after.core.Sound (· < start.next))
    (found : session.pools[home]? = some pool) (begins : pool.start task = some begun)
    (works_eq : session.works = [])
    (eq : after = (session.setPool home begun).begin task) :
    Lone start after id place next given second task home body ∧
      ∃ count ≤ 2, Ahead start after task home body count := by
  have keeps := (keeps_setPool found (Pool.start_spec begins).1).trans (keeps_begin _ task)
  have core_eq : after.core = session.core.set home begun := by rw [eq, core_begin, core_setPool]
  have found_after : after.pools[home]? = some begun := by
    rw [← core_pools, core_eq, Core.pools_set, core_pools, Core.getElem?_set_eq found, if_pos rfl]
  have running := Pool.phase?_of_start (lone.not_hosts found) begins
  refine ⟨lone.of_standing?_eq sound (eq ▸ keeps) (congrArg Core.standing? core_eq)
    (congrArg Core.next core_eq), ?_⟩
  obtain ⟨result, stage⟩ := lone.stage
  obtain ⟨own, known, -, standing⟩ := exists_task stage
  obtain ⟨-, site, -⟩ := Standing.mk.inj standing
  have known_after : (session.setPool home begun).task? task = some own := known
  rw [begin, known_after, Option.bind_some, site, Site.blocking?] at eq
  split at eq
  next asks =>
    split at asks
    next =>
      cases asks
      refine ⟨2, Nat.le_refl 2, .asking found_after running ?_⟩
      rw [eq]
      exact congrArg (· ++ [⟨task, home, body.gate, false⟩]) works_eq
    next => cases asks
  next => exact ⟨1, Nat.le_succ 1, .running found_after running (.inl (eq ▸ works_eq))⟩

/-- The stage has ended. -/
theorem finishes {pool left : Pool} (sound : after.core.Sound (· < start.next))
    (found : session.pools[home]? = some pool) (phase : pool.phase? task = some .running)
    (finished : pool.finish task .zero = some left)
    (works_eq : BlockingWork.leave task session.works = [])
    (eq : after = ((session.setPool home left).leaveThread task).resolve task
      (start.ran task home body)) :
    Lone start after id place next given second task home body ∧
      Ahead start after task home body 0 := by
  have stage := lone.stage_of_phase found phase
  have core_eq : after.core = (session.core.set home left).put task
      ⟨start.typeOf home, .pool home body, some (start.ran task home body)⟩ := by
    rw [eq, core_resolve ((session.setPool home left).leaveThread task) stage rfl,
      core_leaveThread, core_setPool]
  have standing_eq (other : Nat) : after.standing? other = if other = task then
      some ⟨start.typeOf home, .pool home body, some (start.ran task home body)⟩
      else session.standing? other := by
    rw [← core_standing?, core_eq, Core.standing?_put, Core.standing?_set, core_standing?]
  have next_eq : after.next = session.next := congrArg Core.next core_eq
  have stage_after := (standing_eq task).trans (if_pos rfl)
  have ne : id ≠ task := by
    rintro rfl
    have sites := congrArg Standing.site (Option.some.inj (lone.chain.symm.trans stage))
    cases sites
  refine ⟨⟨sound, ?_, lone.registered, lone.opened, ?_, lone.waits_for,
      next_eq ▸ lone.next_eq, ⟨_, stage_after⟩, ?_⟩,
    .ended (result?_of_standing? stage_after) (eq ▸ works_eq)⟩
  · have keeps := keeps_setPool found (Pool.finish_descriptor finished)
    exact eq ▸ (lone.keeps.trans keeps).trans ⟨rfl, rfl, rfl, rfl, rfl, rfl⟩
  · rw [standing_eq, if_neg ne, lone.chain]
  · intro other standing known pending
    rw [standing_eq] at known
    split at known
    next => cases Option.some.inj known; cases pending
    next => exact lone.others other standing known pending

/-- As long as the stage has not ended, something can happen to it. -/
theorem exists_happens {count : Nat} (ahead : Ahead start session task home body (count + 1)) :
    ∃ after, Session.Happens session after := by
  obtain ⟨own, found_own, isOpen⟩ := lone.exists_pool
  have agrees := lone.sound.agrees home own found_own
  cases ahead with
  | waiting found phase =>
      cases found_own.symm.trans found
      obtain ⟨waits, begun, begins⟩ := Pool.exists_start_of_alone agrees.balanced agrees.max_pos
        isOpen (fun other held => (lone.eq_of_holds found held).1) phase
      have started : session.startIn home = some ((session.setPool home begun).begin task) := by
        have found : session.scheduler.governor.built[home]? = some own := found
        simp only [startIn, found, Option.bind_eq_bind, Option.bind_some, waits, begins,
          Option.pure_def]
      exact ⟨_, .start home started⟩
  | asking found phase works_eq =>
      have next : BlockingWork.next? session.threads session.works =
          some ⟨task, home, body.gate, false⟩ := by
        simp [works_eq, BlockingWork.next?, BlockingWork.taken, threads, found,
          Pool.blockingThreads]
      have given : session.giveThread =
          some ({ session with works := BlockingWork.give task session.works }.began task) :=
        Option.bind_eq_some_iff.2 ⟨_, next, rfl⟩
      exact ⟨_, .giveThread given⟩
  | running found phase works_eq =>
      obtain ⟨stage, known, rfl, standing⟩ := exists_task (lone.stage_of_phase found phase)
      obtain ⟨-, site, pending⟩ := Standing.mk.inj standing
      have served : BlockingWork.isServed stage.id session.works = true := by
        rcases works_eq with works_eq | works_eq <;> simp [works_eq, BlockingWork.isServed]
      have isOpen := (lone.keeps.isOpen_eq body.gate).trans lone.opened
      obtain ⟨left, finished⟩ : ∃ left, own.finish stage.id .zero = some left := by
        cases found_own.symm.trans found
        exact ⟨_, if_pos phase⟩
      have advanced : ∃ after, session.advanceTask stage = some after := by
        have found_own : session.scheduler.governor.built[home]? = some own := found_own
        simp [advanceTask, pending, site, finishIn, found_own, isOpen, served, finished]
      obtain ⟨after, advanced⟩ := advanced
      exact ⟨after, .advance (List.mem_of_find?_eq_some known) advanced⟩

/-- The stage goes on until it has ended. -/
theorem step (idle : start.Idle) {count : Nat}
    (ahead : Ahead start session task home body (count + 1)) :
    ∃ after, session.advance = some after ∧
      Lone start after id place next given second task home body ∧
      ∃ left ≤ count, Ahead start after task home body left := by
  obtain ⟨_, possible⟩ := lone.exists_happens ahead
  obtain ⟨after, advanced⟩ := possible.exists_advance
  have happens := happens_of_advance advanced
  have sound := ((happens.moves lone.sound).sound_and_lasts lone.sound).1
  refine ⟨after, advanced, ?_⟩
  have unended : session.result? task = none := by
    cases ahead with
    | waiting found phase | asking found phase | running found phase =>
        exact lone.result?_of_phase found phase
  cases lone.goes idle happens with
  | starts found phase begins eq =>
      cases ahead with
      | waiting _ _ works_eq => exact lone.begins sound found begins works_eq eq
      | asking found' phase' | running found' phase' =>
          cases found.symm.trans found'
          cases phase.symm.trans phase'
  | hasThread next eq =>
      cases ahead with
      | waiting _ _ works_eq => simp [works_eq, BlockingWork.next?] at next
      | asking found phase works_eq =>
          have mem := List.mem_of_find?_eq_some next
          rw [works_eq, List.mem_singleton] at mem
          subst mem
          refine ⟨lone.of_standing?_eq sound (eq ▸ ⟨rfl, rfl, rfl, rfl, rfl, rfl⟩) ?_ (eq ▸ rfl),
            1, Nat.le_refl 1, .running (eq ▸ found) phase (.inr ?_)⟩
          · exact eq ▸ congrArg Core.standing? (core_began _ task)
          · rw [eq]
            refine (congrArg (BlockingWork.give task) works_eq).trans ?_
            simp [BlockingWork.give]
      | running _ _ works_eq =>
          rcases works_eq with works_eq | works_eq <;>
            simp [works_eq, BlockingWork.next?] at next
  | leaves mem _ ended =>
      have own : ∀ work ∈ session.works, work.task = task := by
        cases ahead with
        | waiting _ _ works_eq | asking _ _ works_eq => simp [works_eq]
        | running _ _ works_eq => rcases works_eq with works_eq | works_eq <;> simp [works_eq]
      rw [own _ mem, unended] at ended
      cases ended
  | ends found phase served finished eq =>
      cases ahead with
      | waiting found' phase' =>
          cases found.symm.trans found'
          cases phase.symm.trans phase'
      | asking _ _ works_eq => simp [works_eq, BlockingWork.isServed] at served
      | running _ _ works_eq =>
          have works_after : BlockingWork.leave task session.works = [] := by
            rcases works_eq with works_eq | works_eq <;> simp [works_eq, BlockingWork.leave]
          obtain ⟨lone_after, ended⟩ := lone.finishes sound found phase finished works_after eq
          exact ⟨lone_after, 0, Nat.le_refl 0, ended⟩
  | goesOn ended =>
      rw [unended] at ended
      cases ended

theorem reaches_end (idle : start.Idle) {count : Nat}
    (ahead : Ahead start session task home body count) :
    ∃ steps ≤ count, ∃ later, Advances steps session later ∧
      Lone start later id place next given second task home body ∧
      Ahead start later task home body 0 := by
  induction count using Nat.strongRecOn generalizing session with
  | ind count induction =>
      cases count with
      | zero => exact ⟨0, Nat.le_refl 0, session, .refl session, lone, ahead⟩
      | succ count =>
          obtain ⟨after, advanced, lone_after, left, le, ahead_after⟩ := lone.step idle ahead
          obtain ⟨steps, le_left, later, advances, reached⟩ :=
            induction left (Nat.lt_succ_of_le le) lone_after ahead_after
          exact ⟨steps + 1, Nat.succ_le_succ (Nat.le_trans le_left le), later,
            .next advanced advances, reached⟩

/-- Once the stage has ended, the chain goes on. -/
theorem chain_advances (idle : start.Idle) (ended : Ahead start session task home body 0) :
    ∃ after chain, session.advance = some after ∧ after.core.Sound (· < start.next) ∧
      session.task? id = some chain ∧
      session.advanceChain chain place start.next next given second = some after := by
  cases ended with
  | ended result_eq works_eq =>
      obtain ⟨later, _, _, steps, -⟩ := chain_goes_on lone.sound lone.chain
        (Option.isSome_of_eq_some (lone.waits_for.symm ▸ result_eq))
      obtain ⟨chain, known, advanced⟩ := Option.bind_eq_some_iff.1 steps
      have possible : Session.Happens session later :=
        .advance (List.mem_of_find?_eq_some known) advanced
      obtain ⟨after, advanced⟩ := possible.exists_advance
      have happens := happens_of_advance advanced
      have sound := ((happens.moves lone.sound).sound_and_lasts lone.sound).1
      have unheld {pool : Pool} {phase : TaskPhase} (found : session.pools[home]? = some pool)
          (known : pool.phase? task = some phase) : False := by
        cases result_eq.symm.trans (lone.result?_of_phase found known)
      cases lone.goes idle happens with
      | starts found phase => exact (unheld found phase).elim
      | hasThread next => simp [works_eq, BlockingWork.next?] at next
      | leaves mem => simp [works_eq] at mem
      | ends found phase => exact (unheld found phase).elim
      | goesOn _ known advances => exact ⟨after, _, advanced, sound, known, advances⟩

end Lone

/-! ## Stages are taken -/

/-- A session and the one in which its next task waits in the pool at a place. -/
structure Takes (session after : Session α) (place : Nat) (body : Body α) : Prop where
  keeps : session.Keeps after
  standing?_eq : ∀ other, after.standing? other =
    if other = session.next then some ⟨session.typeOf place, .pool place body, none⟩
    else session.standing? other
  next_eq : after.next = session.next + 1
  works_eq : after.works = session.works
  waits : ∃ pool, after.pools[place]? = some pool ∧ pool.phase? session.next = some .waiting

/-- An open pool that holds no task takes the next one. -/
theorem takes_of_idle {aborted : Nat → Prop} (sound : session.core.Sound aborted)
    {place : Nat} {pool : Pool} (found : session.pools[place]? = some pool)
    (isOpen : pool.isShut = false) (idle : ∀ task, ¬pool.Holds task) {scheduler : Scheduler}
    (governor_eq : scheduler.governor = session.scheduler.governor) {callerCanRun : Bool}
    {answer : Except Error (Scheduler × Admission)}
    (spawned : scheduler.spawnAt place session.next callerCanRun = answer) :
    ∃ taker, answer = .ok (taker, .admitted) ∧ ∀ host body, session.Takes
      (({ session with scheduler := taker } : Session α).addTask place host .admitted body)
      place body := by
  have agrees := sound.agrees place pool found
  obtain ⟨taken, spawns, descriptor_eq, waiting⟩ :=
    Pool.admits_of_idle agrees.balanced agrees.max_pos isOpen idle session.next callerCanRun
  have found_built : session.scheduler.governor.built[place]? = some pool := found
  simp only [Scheduler.spawnAt, governor_eq, found_built, spawns] at spawned
  refine ⟨_, spawned.symm, fun host body => ?_⟩
  let before : Session α :=
    { session with
      scheduler :=
        { scheduler with governor := session.scheduler.governor.setPool place taken } }
  have keeps : session.Keeps before :=
    (keeps_setPool found descriptor_eq).trans ⟨rfl, rfl, rfl, rfl, rfl, rfl⟩
  have fresh : before.standing? before.next = none := sound.fresh _ (Nat.le_refl _)
  have entered := core_append before
    ⟨session.next, before.typeOf place, .pool place body, 0, none⟩ fresh (session.next + 1)
  refine ⟨keeps.trans ⟨rfl, rfl, rfl, rfl, rfl, rfl⟩, fun other => ?_, rfl, rfl, taken, ?_, waiting⟩
  · refine (congrFun (congrArg Core.standing? entered) other).trans ?_
    rw [keeps.typeOf_eq]
    exact Function.update_apply ..
  · exact (Core.getElem?_set_eq found taken place).trans (if_pos rfl)

/-- When nothing else goes on, the pool that a task is for takes it. -/
theorem Idle.takes_submitted (idle : start.Idle) {aborted : Nat → Prop}
    (sound : start.core.Sound aborted) {type : ExecutorType} {target : Nat}
    (target_eq : start.scheduler.target? type = some target) {kind : ExecutorType}
    (registered : start.scheduler.governor.place? kind = some target) (callerCanRun : Bool)
    (body : Body α) :
    ∃ taken, start.submit type callerCanRun body = (taken, .ok start.next) ∧
      start.Takes taken target body := by
  obtain ⟨pool, found, -, isOpen⟩ := registered_place sound registered
  have unheld (task : Nat) : ¬pool.Holds task := by
    intro held
    obtain ⟨_, _, known⟩ := ((sound.agrees target pool found).holds_iff task).1 held
    exact idle.result_ne_none known rfl
  rcases start.submit_cases type callerCanRun body with ⟨absent, -⟩ |
    ⟨own, own_eq, ⟨error, refused, -⟩ | ⟨scheduler, admission, spawned, submits⟩⟩
  · cases absent.symm.trans target_eq
  · cases target_eq.symm.trans own_eq
    obtain ⟨_, eq, -⟩ :=
      takes_of_idle sound found isOpen unheld (governor_looked start type) refused
    cases eq
  · cases target_eq.symm.trans own_eq
    obtain ⟨taker, eq, takes⟩ :=
      takes_of_idle sound found isOpen unheld (governor_looked start type) spawned
    cases eq
    exact ⟨_, submits, takes none body⟩

/-- The pool that a chain is for takes its first stage when nothing else goes on. -/
theorem lone_of_submitChain (idle : start.Idle) (sound : start.core.Sound (· < start.next))
    {place target : Nat} {type : ExecutorType} {body : Body α}
    (default_eq : start.scheduler.governor.place? .default = some place)
    (target_eq : start.scheduler.target? type = some target)
    (opened : start.isOpen body.gate = true) (callerCanRun : Bool) (next : α → Stage α) :
    ∃ submitted,
      start.submitChain type callerCanRun body next = (submitted, .ok (start.next + 1)) ∧
      Lone start submitted (start.next + 1) place next [] none start.next target body ∧
      Ahead start submitted start.next target body 3 := by
  obtain ⟨kind, registered⟩ : ∃ kind, start.scheduler.governor.place? kind = some target := by
    rcases Option.or_eq_some_iff.1 target_eq with own | ⟨-, fallback⟩
    · exact ⟨type, own⟩
    · exact ⟨.default, fallback⟩
  obtain ⟨taken, submits, keeps, taken_eq, next_eq, works_eq, pool, found, waiting⟩ :=
    idle.takes_submitted sound target_eq registered callerCanRun body
  rcases start.submitChain_cases type callerCanRun body next with ⟨absent, -⟩ |
    ⟨own, own_eq, ⟨_, _, refused, -⟩ | ⟨middle, first, handed, chains⟩⟩
  · cases absent.symm.trans default_eq
  · cases refused.symm.trans submits
  cases default_eq.symm.trans own_eq
  cases submits.symm.trans handed
  have sound_after := ((submitChain_spec sound chains).1.sound_and_lasts sound).1
  rw [next_eq] at chains sound_after
  have fresh : taken.standing? (start.next + 1) = none := by
    rw [taken_eq, if_neg (Nat.succ_ne_self _)]
    exact sound.fresh _ (Nat.le_succ _)
  have standing_eq (other : Nat) := (congrFun (congrArg Core.standing? (core_append taken
    ⟨start.next + 1, .default, .chain place start.next next [] none, 0, none⟩ fresh
    (start.next + 1 + 1))) other).trans (Function.update_apply ..)
  refine ⟨_, chains, ?_, .waiting found waiting (works_eq.trans idle.works_eq)⟩
  exact {
    sound := sound_after
    keeps := keeps.trans ⟨rfl, rfl, rfl, rfl, rfl, rfl⟩
    registered := ⟨kind, registered⟩
    opened := opened
    chain := (standing_eq _).trans (if_pos rfl)
    waits_for := rfl
    next_eq := fun _ => rfl
    stage := ⟨none, (standing_eq _).trans <| (if_neg (Nat.ne_of_lt (Nat.lt_succ_self _))).trans <|
      (taken_eq _).trans (if_pos rfl)⟩
    others := fun other standing known pending => by
      have known := (standing_eq other).symm.trans known
      split at known
      next isChain => exact .inl isChain
      next =>
        rw [core_standing?, taken_eq] at known
        split at known
        next isStage => exact .inr isStage
        next => exact (idle.result_ne_none known pending).elim }

/-! ## The end of a chain -/

theorem result?_resolve {id : Nat} {type : ExecutorType} {site : Site α}
    (known : session.standing? id = some ⟨type, site, none⟩) (result : Except Error α) :
    (session.resolve id result).result? id = some result := by
  have resolved : (session.resolve id result).standing? id = some ⟨type, site, some result⟩ := by
    rw [← core_standing?, core_resolve session known rfl, Core.standing?_put, if_pos rfl]
  exact result?_of_standing? resolved

namespace Lone

variable {id place : Nat} {next : α → Stage α} {given : List α} {task home : Nat} {body : Body α}

/-- Once its second stage has ended, the chain ends. -/
theorem ends_with_second
    (lone : Lone start session id place next given (some task) task home body)
    (idle : start.Idle) (ended : Ahead start session task home body 0) :
    ∃ after, session.advance = some after ∧ after.core.Sound (· < start.next) ∧
      after.result? id = some ((start.ran task home body).mapError Error.wrap) := by
  obtain ⟨after, chain, advanced, sound, known, goesOn⟩ := lone.chain_advances idle ended
  refine ⟨after, advanced, sound, ?_⟩
  obtain rfl := id_of_task? known
  cases ended with
  | ended result_eq =>
      rcases advanceChain_cases goesOn with ⟨eq, -⟩ | ⟨eq, -⟩ | ⟨stage, error, eq, failed, rfl⟩ |
        ⟨stage, value, eq, produced, rfl⟩
      · cases eq
      · cases eq
      · cases eq
        rw [Option.some.inj (result_eq.symm.trans failed)]
        exact result?_resolve lone.chain _
      · cases eq
        rw [Option.some.inj (result_eq.symm.trans produced)]
        exact result?_resolve lone.chain _

/-- A chain that has submitted its second stage waits for that. -/
theorem waits_for_second {middle : Session α} {value : α} {made : Body α}
    {result : Except Error α}
    (lone : Lone start session (start.next + 1) place next given none start.next home body)
    (default_eq : start.scheduler.governor.place? .default = some place)
    (opened : start.isOpen made.gate = true)
    (ended : session.result? start.next = some result) (works_eq : session.works = [])
    (takes : session.Takes middle place made)
    (passes : middle.setTask (start.next + 1) (fun task =>
      { task with site := .chain place start.next next [value] (some (start.next + 2)) }) = after)
    (sound : after.core.Sound (· < start.next)) :
    Lone start after (start.next + 1) place next [value] (some (start.next + 2)) (start.next + 2)
        place made ∧
      Ahead start after (start.next + 2) place made 3 := by
  have next_eq : session.next = start.next + 2 := lone.next_eq rfl
  have known : middle.standing? (start.next + 1) =
      some ⟨.default, .chain place start.next next given none, none⟩ := by
    rw [takes.standing?_eq, if_neg (by omega), lone.chain]
  have passed := core_setSite middle known
    (.chain place start.next next [value] (some (start.next + 2)))
  rw [passes] at passed
  have standing_eq (other : Nat) : after.standing? other = if other = start.next + 1 then
      some ⟨.default, .chain place start.next next [value] (some (start.next + 2)), none⟩
      else middle.standing? other :=
    (congrFun (congrArg Core.standing? passed) other).trans (Function.update_apply ..)
  refine ⟨?_, ?_⟩
  · exact {
      sound
      keeps := lone.keeps.trans (takes.keeps.trans (passes ▸ ⟨rfl, rfl, rfl, rfl, rfl, rfl⟩))
      registered := ⟨.default, default_eq⟩
      opened
      chain := (standing_eq _).trans (if_pos rfl)
      waits_for := rfl
      next_eq := nofun
      stage := ⟨none, by
        rw [standing_eq, if_neg (by omega), takes.standing?_eq, next_eq, if_pos rfl,
          lone.keeps.typeOf_eq]⟩
      others := fun other standing known pending => by
        rw [standing_eq] at known
        split at known
        next isChain => exact .inl isChain
        next isOther =>
          rw [takes.standing?_eq] at known
          split at known
          next isStage => exact .inr (isStage.trans next_eq)
          next =>
            rcases lone.others other standing known pending with isChain | rfl
            · exact (isOther isChain).elim
            · cases pending.symm.trans ((result?_of_standing? known).symm.trans ended) }
  · obtain ⟨pool, found, waiting⟩ := takes.waits
    exact .waiting (passes ▸ found) (next_eq ▸ waiting) (passes ▸ takes.works_eq.trans works_eq)

/-- Once its first stage has ended, the chain ends, or waits for its second stage in the default
pool. -/
theorem goes_on_with_first
    (lone : Lone start session (start.next + 1) place next given none start.next home body)
    (idle : start.Idle) (ended : Ahead start session start.next home body 0)
    (default_eq : start.scheduler.governor.place? .default = some place)
    (opened : ∀ value made, next value = .body made → start.isOpen made.gate = true) :
    ∃ after, session.advance = some after ∧ after.core.Sound (· < start.next) ∧
      (after.result? (start.next + 1) = some (start.outcome home place body next) ∨
      ∃ value made, start.ran start.next home body = .ok value ∧ next value = .body made ∧
        Lone start after (start.next + 1) place next [value] (some (start.next + 2))
          (start.next + 2) place made ∧
        Ahead start after (start.next + 2) place made 3) := by
  obtain ⟨after, chain, advanced, sound, known, goesOn⟩ := lone.chain_advances idle ended
  refine ⟨after, advanced, sound, ?_⟩
  have id_eq := id_of_task? known
  obtain ⟨rfl⟩ : given = [] := by
    obtain ⟨-, underWay⟩ := lone.sound.underWay lone.chain
    cases underWay
    rfl
  obtain ⟨result_eq, works_eq⟩ :
      session.result? start.next = some (start.ran start.next home body) ∧
        session.works = [] := by
    cases ended with
    | ended result_eq works_eq => exact ⟨result_eq, works_eq⟩
  rcases advanceChain_cases goesOn with ⟨-, error, failed, rfl⟩ | ⟨-, value, produced, rfl⟩ |
    ⟨_, _, eq, -⟩ | ⟨_, _, eq, -⟩
  · left
    rw [outcome, Option.some.inj (result_eq.symm.trans failed), id_eq]
    exact result?_resolve lone.chain _
  · have ran_eq := Option.some.inj (result_eq.symm.trans produced)
    cases made : next value with
    | panic message =>
        left
        have standing := (standing?_of_task? known).symm.trans lone.chain
        have type_eq : chain.type = .default := congrArg Standing.type (Option.some.inj standing)
        simp only [submitSecond, made, id_eq, type_eq, outcome, ran_eq]
        have passed := core_setSite session lone.chain
          (.chain place start.next next ([] ++ [value]) none)
        exact result?_resolve ((congrFun (congrArg Core.standing? passed) _).trans
          (Function.update_self ..)) _
    | body stage =>
        right
        obtain ⟨pool, found, -, isOpen⟩ :=
          registered_place lone.sound ((lone.keeps.place?_eq .default).trans default_eq)
        have unheld (task : Nat) : ¬pool.Holds task := by
          intro held
          obtain ⟨rfl, -⟩ := lone.eq_of_holds found held
          obtain ⟨phase, held⟩ := Option.isSome_iff_exists.1 held
          cases result_eq.symm.trans (lone.result?_of_phase found held)
        obtain ⟨taker, taken, takes⟩ := takes_of_idle lone.sound found isOpen unheld rfl
          (rfl : session.scheduler.spawnAt place session.next true = _)
        refine ⟨value, stage, ran_eq, made, ?_⟩
        refine lone.waits_for_second default_eq (opened value stage made) result_eq works_eq
          (takes (some place) stage) ?_ sound
        simp only [submitSecond, made, taken, id_eq, List.nil_append]
        rw [lone.next_eq rfl]
  · cases eq
  · cases eq

end Lone

/-- A session that has a task lets more things happen than a chain needs. -/
theorem lt_bound {id : Nat} {standing : Standing α}
    (known : session.standing? id = some standing) : 12 < session.bound := by
  obtain ⟨task, found, -⟩ := exists_task known
  have tasks_pos : 0 < session.tasks.length :=
    List.length_pos_of_mem (List.mem_of_find?_eq_some found)
  have grows (total : Nat) : total ≤ session.schedules.foldl
      (fun total schedule => total + 3 * (schedule.script.length + 2)) total := by
    induction session.schedules generalizing total with
    | nil => exact Nat.le_refl total
    | cons schedule schedules induction =>
        exact Nat.le_trans (Nat.le_add_right ..) (induction _)
  exact Nat.lt_of_lt_of_le (by omega) (grows (12 * session.tasks.length + 1))

/-- When nothing else goes on and its bodies do not wait, a chain runs to its end. -/
theorem settle_submitChain {place target : Nat} {type : ExecutorType} {body : Body α}
    {next : α → Stage α} (idle : start.Idle) (sound : start.core.Sound (· < start.next))
    (default_eq : start.scheduler.governor.place? .default = some place)
    (target_eq : start.scheduler.target? type = some target)
    (opened : start.isOpen body.gate = true)
    (opened_next : ∀ value made, next value = .body made → start.isOpen made.gate = true)
    (callerCanRun : Bool) :
    ∃ submitted,
      start.submitChain type callerCanRun body next = (submitted, .ok (start.next + 1)) ∧
      submitted.settle.result? (start.next + 1) = some (start.outcome target place body next) := by
  obtain ⟨submitted, submits, lone, ahead⟩ :=
    lone_of_submitChain idle sound default_eq target_eq opened callerCanRun next
  refine ⟨submitted, submits, ?_⟩
  have bound := lt_bound lone.chain
  obtain ⟨first, first_le, ended, toEnd, lone_ended, ended_first⟩ := lone.reaches_end idle ahead
  obtain ⟨middle, advanced, sound_middle, goesOn⟩ :=
    lone_ended.goes_on_with_first idle ended_first default_eq opened_next
  rcases goesOn with concluded | ⟨value, made, ran_eq, next_eq, waits, behind⟩
  · exact (toEnd.trans (.next advanced (.refl middle))).result?_settle sound_middle (by omega)
      concluded
  · obtain ⟨second, second_le, last, toLast, lone_last, ended_second⟩ :=
      waits.reaches_end idle behind
    obtain ⟨after, advances, sound_after, concluded⟩ := lone_last.ends_with_second idle ended_second
    have toAfter := (toEnd.trans (.next advanced toLast)).trans (.next advances (.refl after))
    rw [outcome, ran_eq]
    simp only [next_eq]
    exact toAfter.result?_settle sound_after (by omega) concluded

end Session
end ClusterMember
