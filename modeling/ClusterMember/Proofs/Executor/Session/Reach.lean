import ClusterMember.Proofs.Executor.Session.Sound

/-!
# The moves of a session

Each event of a session is a row of moves of its core.  So all cores of sessions are sound, and what
lasts in a core lasts in a session.
-/

namespace ClusterMember
namespace Session

open ClusterMember.Core (Move Moves)

variable {α : Type} {session after : Session α} {aborted : Nat → Prop}

theorem core_looked (session : Session α) (type : ExecutorType) :
    (session.looked type).core = session.core := by
  rw [looked, Scheduler.resolve_eq]
  rfl

theorem governor_looked (session : Session α) (type : ExecutorType) :
    (session.looked type).scheduler.governor = session.scheduler.governor := by
  rw [looked, Scheduler.resolve_eq]

/-- Two sessions of one core, one after a change that may not happen. -/
theorem core_getD_map {β : Type} (session : Session α) (found : Option β) (change : β → Session α)
    (same : ∀ value, (change value).core = session.core) :
    ((found.map change).getD session).core = session.core := by
  cases found with
  | none => rfl
  | some value => exact same value

/-- The registered pool of a kind is that of its place, and open. -/
theorem registered_place (sound : session.core.Sound aborted) {type : ExecutorType} {place : Nat}
    (found : session.scheduler.governor.place? type = some place) :
    ∃ pool, session.pools[place]? = some pool ∧ pool.type = type ∧ pool.isShut = false := by
  obtain ⟨before, behind, table_eq, -⟩ := List.lookup_eq_some_iff.1 found
  refine sound.registered type place ?_
  simp [core, table_eq]

/-! ## Submissions -/

/-- A pool deals with a new task, which gets going if it runs with its submitter; if the pool has a
permit, it takes the task.  All other tasks stand where they stood. -/
theorem addTask_spec (sound : session.core.Sound aborted) {scheduler spawnedIn : Scheduler}
    (governor_eq : scheduler.governor = session.scheduler.governor) {place : Nat}
    {host : Option Nat} (own : ∀ other, host = some other → other = place) {callerCanRun : Bool}
    {admission : Admission}
    (spawned : scheduler.spawnAt place session.next callerCanRun = .ok (spawnedIn, admission))
    (body : Body α)
    (added : ({ session with scheduler := spawnedIn } : Session α).addTask place host admission
      body = after) :
    Moves aborted session.core after.core ∧ after.core.Handed place host body session.next ∧
      (session.HasRoom place →
        ∃ type, after.standing? session.next = some ⟨type, .pool place body, none⟩) ∧
      ∀ other, other ≠ session.next → after.standing? other = session.standing? other := by
  obtain ⟨pool, taken, found, spawns, rfl⟩ := Scheduler.spawnAt_cases spawned
  rw [governor_eq] at found added
  have found_taken : (session.scheduler.governor.built.set place taken)[place]? = some taken := by
    rw [Core.getElem?_set_eq found, if_pos rfl]
  have submits : Move aborted session.core
      ((session.core.set place taken).enter (admission.standing pool.type place host body)) :=
    .submit own callerCanRun body found spawns
  have moved : Moves aborted session.core after.core ∧ after.standing? =
      Function.update session.standing? session.next
        (some (admission.standing pool.type place host body)) := by
    let taker : Session α :=
      { session with
        scheduler := { scheduler with governor := session.scheduler.governor.setPool place taken } }
    have type_eq : taker.typeOf place = pool.type := by
      rw [← (Pool.Lasts.of_spawn spawns).type_eq]
      simp only [taker, typeOf, Governor.setPool, found_taken, Option.elim_some]
    have fresh : taker.standing? taker.next = none := sound.fresh _ (Nat.le_refl _)
    have entered := core_addTask fresh place host admission body
    rw [type_eq, added] at entered
    rcases entered with eq | ⟨_, begun, found_started, begins, eq⟩
    · exact ⟨eq ▸ .single submits, congrArg Core.standing? eq⟩
    · exact ⟨eq ▸ .tail (.single submits) (.start found_started begins), congrArg Core.standing? eq⟩
  obtain ⟨moves, standing_eq⟩ := moved
  have stands := (congrFun standing_eq session.next).trans (Function.update_self ..)
  refine ⟨moves, ?_, fun hasRoom => ?_,
    fun other ne => by rw [standing_eq, Function.update_of_ne ne]⟩
  · obtain ⟨later, found_later, pool_lasts⟩ :=
      (moves.sound_and_lasts sound).2.pool place pool found
    exact ⟨later, _, found_later, stands,
      (Pool.deals_of_spawn spawns place host body).lasts pool_lasts (.refl _)⟩
  · obtain ⟨own, found_own, room⟩ := hasRoom
    cases found_own.symm.trans found
    obtain ⟨-, ⟨-, rfl, -⟩ | ⟨full, -⟩ | ⟨full, -⟩⟩ := Pool.spawn_cases spawns
    · exact ⟨pool.type, stands⟩
    · exact (Nat.ne_of_gt room full).elim
    · exact (Nat.ne_of_gt room full).elim

theorem moves_submit (sound : session.core.Sound aborted) (type : ExecutorType)
    (callerCanRun : Bool) (body : Body α) :
    Moves aborted session.core (session.submit type callerCanRun body).1.core := by
  rcases session.submit_cases type callerCanRun body with ⟨-, submitted⟩ |
    ⟨place, -, ⟨error, -, submitted⟩ | ⟨scheduler, admission, spawned, submitted⟩⟩
  · rw [submitted, core_looked]
    exact .refl
  · rw [submitted, core_looked]
    exact .refl
  · rw [submitted]
    have outside (other : Nat) (host : none = some other) : other = place := by cases host
    exact (addTask_spec sound (governor_looked session type) outside spawned body rfl).1

/-- A task that is not refused has the next number, and the pool that it is for has dealt with it;
if that has a permit, it has taken the task. -/
theorem submit_spec (sound : session.core.Sound aborted) {type : ExecutorType}
    {callerCanRun : Bool} {body : Body α} {number : Nat}
    (submitted : session.submit type callerCanRun body = (after, .ok number)) :
    number = session.next ∧ ∃ target, session.scheduler.target? type = some target ∧
      after.core.Handed target none body number ∧
      (session.HasRoom target →
        ∃ type, after.standing? number = some ⟨type, .pool target body, none⟩) := by
  rcases session.submit_cases type callerCanRun body with ⟨-, refused⟩ |
    ⟨target, found, ⟨error, -, refused⟩ | ⟨scheduler, admission, spawned, added⟩⟩
  · cases submitted.symm.trans refused
  · cases submitted.symm.trans refused
  · cases submitted.symm.trans added
    have outside (other : Nat) (host : none = some other) : other = target := by cases host
    obtain ⟨-, handed, taken, -⟩ :=
      addTask_spec sound (governor_looked session type) outside spawned body rfl
    exact ⟨rfl, target, found, handed, taken⟩

/-- The first stage of a chain has the next number, and the chain a later one. -/
theorem submitChain_spec (sound : session.core.Sound aborted) {type : ExecutorType}
    {callerCanRun : Bool} {body : Body α} {next : α → Stage α} {id : Nat}
    (submitted : session.submitChain type callerCanRun body next = (after, .ok id)) :
    Moves aborted session.core after.core ∧ session.next < id ∧ ∃ place target,
      session.scheduler.governor.place? .default = some place ∧
      session.scheduler.target? type = some target ∧
      after.core.Handed target none body session.next ∧
      (session.HasRoom target →
        ∃ type, after.standing? session.next = some ⟨type, .pool target body, none⟩) ∧
      after.standing? id = some ⟨.default, .chain place session.next next [] none, none⟩ := by
  rcases session.submitChain_cases type callerCanRun body next with ⟨-, refused⟩ |
    ⟨place, found, ⟨middle, error, -, refused⟩ | ⟨middle, first, handed, added⟩⟩
  · cases submitted.symm.trans refused
  · cases submitted.symm.trans refused
  cases submitted.symm.trans added
  have submits := moves_submit sound type callerCanRun body
  rw [handed] at submits
  obtain ⟨sound_middle, lasts⟩ := submits.sound_and_lasts sound
  obtain ⟨rfl, target, isTarget, handed, taken⟩ := submit_spec sound handed
  obtain ⟨pool, found_pool, type_eq, -⟩ := registered_place sound found
  obtain ⟨later, found_later, pool_lasts⟩ := lasts.pool place pool found_pool
  let task : Task α :=
    ⟨middle.next, .default, .chain place session.next next [] none, 0, none⟩
  have entered : Session.core { middle with
      tasks := middle.tasks ++ [task], next := middle.next + 1 } =
      middle.core.enter task.standing :=
    core_append middle task (sound_middle.fresh _ (Nat.le_refl _)) (middle.next + 1)
  have chains : Move aborted middle.core (middle.core.enter task.standing) :=
    .chain next found_later (pool_lasts.type_eq.trans type_eq)
  obtain ⟨_, _, -, known_first, -⟩ := id handed
  have older := sound_middle.lt_next known_first
  refine ⟨entered ▸ submits.tail chains, older, place, target, found, isTarget, ?_,
    fun hasRoom => ?_, ?_⟩
  · rw [entered]
    exact ((Moves.single chains).sound_and_lasts sound_middle).2.handed handed
  · obtain ⟨own, stands⟩ := taken hasRoom
    refine ⟨own, ?_⟩
    rw [← core_standing?, entered, Core.standing?_enter, if_neg (Nat.ne_of_lt older)]
    exact stands
  · rw [← core_standing?, entered]
    exact Function.update_self ..

theorem moves_submitChain (sound : session.core.Sound aborted) (type : ExecutorType)
    (callerCanRun : Bool) (body : Body α) (next : α → Stage α) :
    Moves aborted session.core (session.submitChain type callerCanRun body next).1.core := by
  rcases session.submitChain_cases type callerCanRun body next with ⟨-, submitted⟩ |
    ⟨place, found, ⟨middle, error, refused, submitted⟩ | ⟨middle, number, -, submitted⟩⟩
  · rw [submitted, core_looked]
    exact .refl
  · have submits := moves_submit sound type callerCanRun body
    rw [refused] at submits
    rw [submitted]
    exact submits
  · rw [submitted]
    exact (submitChain_spec sound submitted).1

/-! ## What happens by itself -/

theorem moves_startTask {place id : Nat} (started : session.startTask place id = some after) :
    Moves aborted session.core after.core := by
  obtain ⟨pool, begun, found, begins, rfl⟩ := startTask_cases started
  rw [core_begin]
  exact .single (.start found begins)

theorem core_of_startScheduledIn {place : Nat}
    (started : session.startScheduledIn place = some after) : after.core = session.core := by
  obtain ⟨pool, id, begun, -, -, rfl⟩ := startScheduledIn_cases started
  exact (core_setSchedule _ _ _).trans (core_began _ _)

theorem core_of_giveThread (given : session.giveThread = some after) :
    after.core = session.core := by
  obtain ⟨work, -, rfl⟩ := giveThread_cases given
  exact core_began _ _

theorem core_of_endWork {work : BlockingWork} (ended : session.endWork work = some after) :
    after.core = session.core := by
  obtain ⟨task, -, -, -, -, rfl⟩ := endWork_cases ended
  rfl

theorem core_of_advanceSchedule {schedule : Schedule}
    (advanced : session.advanceSchedule schedule = some after) : after.core = session.core := by
  obtain ⟨pool, changed, -, rfl | rfl⟩ := advanceSchedule_cases advanced <;> rfl

variable {task : Task α} {id : Nat}

/-- The body of a task in a pool, or with its submitter, ends. -/
theorem moves_finishIn {place : Nat} {thread : String} {body : Body α}
    (known : session.task? id = some task) (pending : task.result = none)
    (at_place : task.site.place? = some place)
    (ends : session.core.ending? id task.site = some (body.run ⟨id, thread⟩))
    (finished : session.finishIn task place thread body = some after) :
    Moves aborted session.core after.core := by
  obtain ⟨pool, left, found, -, -, leaves, rfl⟩ := finishIn_cases finished
  have standing := standing?_of_task? known
  obtain rfl := id_of_task? known
  rw [Task.standing, pending] at standing
  rw [core_resolve ((session.setPool place left).leaveThread task.id) standing rfl]
  exact .single (.finish standing at_place found leaves ends)

/-- A chain submits its second stage, which the default pool takes if it has a permit. -/
theorem passes_spec (sound : session.core.Sound aborted) {place first : Nat} {next : α → Stage α}
    (standing : session.standing? id = some ⟨.default, .chain place first next [] none, none⟩)
    {value : α} {body : Body α} (produced : session.core.result? first = some (.ok value))
    (made : next value = .body body) {scheduler : Scheduler} {admission : Admission}
    (spawned : session.scheduler.spawnAt place session.next true = .ok (scheduler, admission))
    (passes : (({ session with scheduler } : Session α).addTask place (some place) admission
      body).setTask id (fun task =>
        { task with site := .chain place first next [value] (some session.next) }) = after) :
    Moves aborted session.core after.core ∧
      after.standing? id =
        some ⟨.default, .chain place first next [value] (some session.next), none⟩ ∧
      (session.HasRoom place →
        ∃ type, after.standing? session.next = some ⟨type, .pool place body, none⟩) := by
  obtain ⟨moves, handed, taken, others⟩ :=
    addTask_spec sound rfl (fun _ eq => (Option.some.inj eq).symm) spawned body rfl
  have lasts := (moves.sound_and_lasts sound).2
  have older : id < session.next := sound.lt_next standing
  have standing_middle := (others id (Nat.ne_of_lt older)).trans standing
  have passed := core_setSite _ standing_middle (.chain place first next [value] session.next)
  rw [passes] at passed
  have stands (other : Nat) := (congrFun (congrArg Core.standing? passed) other).trans
    (Core.standing?_put ..)
  refine ⟨moves.tail (passed ▸ .pass standing_middle
      (.between older (lasts.result?_eq produced) made handed)),
    (stands id).trans (if_pos rfl), fun hasRoom => ?_⟩
  obtain ⟨type, known⟩ := taken hasRoom
  exact ⟨type, (stands session.next).trans ((if_neg (Nat.ne_of_gt older)).trans known)⟩

/-- A chain gives the value of its first stage to its transform, and ends or has a second stage,
which the default pool takes if it has a permit. -/
theorem submitSecond_spec (sound : session.core.Sound aborted)
    (known : session.task? id = some task) (pending : task.result = none) {place first : Nat}
    {next : α → Stage α} {given : List α} (site : task.site = .chain place first next given none)
    {value : α} (produced : session.result? first = some (.ok value))
    (submitted : session.submitSecond task place first next given value = after) :
    Moves aborted session.core after.core ∧ ∃ second result,
      after.standing? id = some ⟨.default, .chain place first next [value] second, result⟩ ∧
        (second ≠ none ∨ result ≠ none) ∧
        (session.HasRoom place → ∀ stage, second = some stage →
          ∃ type made, after.standing? stage = some ⟨type, .pool place made, none⟩) := by
  have standing := standing?_of_task? known
  obtain rfl := id_of_task? known
  rw [Task.standing, pending, site] at standing
  rw [← core_result?] at produced
  -- An unfinished chain without a second stage has given its transform nothing.
  obtain ⟨type_eq, rfl⟩ : task.type = .default ∧ given = [] := by
    obtain ⟨type_eq, underWay⟩ := sound.underWay standing
    cases underWay
    exact ⟨type_eq, rfl⟩
  rw [type_eq] at standing
  have concludes {result : Except Error α} (middle : Session α)
      (ended : session.core.Ended task.id place first next [value] none result)
      (middle_eq : middle.core = session.core.put task.id
        ⟨.default, .chain place first next [value] none, none⟩) :
      Moves aborted session.core (middle.resolve task.id result).core ∧ ∃ second result',
        (middle.resolve task.id result).standing? task.id =
          some ⟨.default, .chain place first next [value] second, result'⟩ ∧
            (second ≠ none ∨ result' ≠ none) ∧
            (session.HasRoom place → ∀ stage, second = some stage → ∃ type made,
              (middle.resolve task.id result).standing? stage =
                some ⟨type, .pool place made, none⟩) := by
    have standing_middle : middle.standing? task.id =
        some ⟨.default, .chain place first next [value] none, none⟩ := by
      rw [← core_standing?, middle_eq, Core.standing?_put, if_pos rfl]
    rw [← core_standing?, core_resolve middle standing_middle rfl, middle_eq, Core.put_put]
    refine ⟨.single (.conclude standing ended), none, some result, ?_, .inr (Option.some_ne_none _),
      fun _ _ eq => by cases eq⟩
    rw [Core.standing?_put, if_pos rfl]
  have given_core : (session.setTask task.id fun task =>
      { task with site := .chain place first next ([] ++ [value]) none }).core =
      session.core.put task.id ⟨.default, .chain place first next [value] none, none⟩ :=
    core_setSite session standing _
  unfold submitSecond at submitted
  split at submitted
  next message made =>
    subst submitted
    rw [type_eq]
    exact concludes _ (.panicked produced made) given_core
  next body made =>
    split at submitted
    next error refused =>
      subst submitted
      obtain ⟨pool, found, isDefault⟩ := sound.exists_default standing
      have refuses : pool.Refuses error := by
        rcases Scheduler.spawnAt_error_cases refused with ⟨absent, -⟩ | ⟨own, found_own, refuses⟩
        · cases absent.symm.trans found
        · cases found_own.symm.trans found
          rcases Pool.spawn_error_cases refuses with ⟨isShut, rfl⟩ | ⟨policy, rfl⟩
          · exact .shut isShut
          · exact .saturated policy
      exact concludes _ (.refused produced made found refuses) given_core
    next scheduler admission spawned =>
      obtain ⟨moves, stands, taken⟩ := passes_spec sound standing produced made spawned submitted
      refine ⟨moves, session.next, none, stands, .inl (Option.some_ne_none _),
        fun hasRoom stage eq => ?_⟩
      cases eq
      obtain ⟨type, known⟩ := taken hasRoom
      exact ⟨type, body, known⟩

/-- A chain goes on. -/
theorem moves_advanceChain (sound : session.core.Sound aborted)
    (known : session.task? id = some task) (pending : task.result = none) {place first : Nat}
    {next : α → Stage α} {given : List α} {second : Option Nat}
    (site : task.site = .chain place first next given second)
    (advanced : session.advanceChain task place first next given second = some after) :
    Moves aborted session.core after.core := by
  have standing := standing?_of_task? known
  rw [Task.standing, pending, site] at standing
  obtain ⟨type_eq, underWay⟩ := sound.underWay standing
  rw [type_eq] at standing
  have concludes {result : Except Error α}
      (ended : session.core.Ended id place first next given second result) :
      Moves aborted session.core (session.resolve task.id result).core := by
    rw [id_of_task? known, core_resolve session standing rfl]
    exact .single (.conclude standing ended)
  rcases advanceChain_cases advanced with ⟨rfl, error, failed, rfl⟩ | ⟨rfl, value, produced, rfl⟩ |
    ⟨stage, error, rfl, failed, rfl⟩ | ⟨stage, value, rfl, produced, rfl⟩
  · cases underWay
    exact concludes (.firstFailed ((session.core_result? first).trans failed))
  · exact (submitSecond_spec sound known pending site produced rfl).1
  · exact concludes (.secondEnded underWay ((session.core_result? stage).trans failed))
  · exact concludes (.secondEnded underWay ((session.core_result? stage).trans produced))

theorem moves_advanceTask (sound : session.core.Sound aborted)
    (known : session.task? id = some task) (advanced : session.advanceTask task = some after) :
    Moves aborted session.core after.core := by
  obtain ⟨pending, ⟨place, body, site, finished⟩ | ⟨place, host, body, site, finished⟩ |
    ⟨place, due, body, site, finished | ⟨pool, woken, -, -, -, rfl⟩⟩ |
    ⟨place, first, next, given, second, site, advanced⟩⟩ := advanceTask_cases advanced
  · obtain rfl := id_of_task? known
    exact moves_finishIn known pending (by rw [site]; rfl) (by rw [site]; rfl) finished
  · obtain rfl := id_of_task? known
    refine moves_finishIn known pending (by rw [site]; rfl) ?_ finished
    rw [site]
    cases host <;> rfl
  · obtain ⟨pool, failed, left, result, -, -, rfl⟩ := finishDelayed_cases finished
    have standing := standing?_of_task? known
    obtain rfl := id_of_task? known
    rw [Task.standing, pending, site] at standing
    rw [core_resolve (session.setScheduled place left) standing rfl]
    exact .single (.finishDelayed standing result)
  · exact .refl
  · exact moves_advanceChain sound known pending site advanced

/-! ## What is done to a session from outside -/

/-- A task that has no result is cut off. -/
theorem moves_cut (sound : session.core.Sound aborted) (known : session.task? id = some task)
    (pending : task.result = none) {result : Except Error α}
    (cause : session.core.CutOff aborted id ⟨task.type, task.site, none⟩ result) :
    Moves aborted session.core (session.cut task result).core := by
  have standing := standing?_of_task? known
  rw [Task.standing, pending] at standing
  obtain rfl := id_of_task? known
  cases at_place : task.site.place? with
  | some place =>
      obtain ⟨pool, left, found, leaves⟩ := sound.exists_abort standing at_place
      have aborted_in : (session.scheduler.governor.built[place]? >>= fun pool =>
          pool.abort task.id .zero) = some left :=
        Option.bind_eq_some_iff.2 ⟨pool, found, leaves⟩
      have given_back : session.giveBack task = session.setPool place left := by
        cases site : task.site with
        | pool own body | caller own host body =>
            rw [site] at at_place
            cases at_place
            simp only [giveBack, site, aborted_in, Option.map_some, Option.getD_some]
        | delayed => rw [site] at at_place; cases at_place
        | chain => rw [site] at at_place; cases at_place
        | nowhere => rw [site] at at_place; cases at_place
      rw [cut, given_back, core_resolve (session.setPool place left) standing rfl]
      exact .single (.cut standing at_place found leaves cause)
  | none =>
      have given_back : (session.giveBack task).core = session.core := by
        cases site : task.site with
        | pool => rw [site] at at_place; cases at_place
        | caller => rw [site] at at_place; cases at_place
        | delayed own due body =>
            simp only [giveBack, site]
            exact core_getD_map session _ _ fun _ => rfl
        | chain => simp only [giveBack, site]
        | nowhere => simp only [giveBack, site]
      have standing_after : (session.giveBack task).standing? task.id = _ :=
        (congrFun (congrArg Core.standing? given_back) task.id).trans standing
      rw [cut, core_resolve (session.giveBack task) standing_after rfl, given_back]
      exact .single (.drop standing at_place cause)

theorem moves_cutIf (sound : session.core.Sound aborted) {condition : Task α → Bool}
    {result : Task α → Except Error α} (cut : session.cutIf id condition result = some after)
    (cause : ∀ task, session.task? id = some task → condition task = true →
      session.core.CutOff aborted id ⟨task.type, task.site, none⟩ (result task)) :
    Moves aborted session.core after.core := by
  obtain ⟨task, known, pending, holds, rfl⟩ := cutIf_cases cut
  exact moves_cut sound known pending (cause task known holds)

/-- A governor is called, and answers. -/
theorem moves_call (session : Session α) (descriptor : PoolDescriptor) :
    Moves aborted session.core (session.call (.register descriptor)).core := by
  rcases Governor.perform_cases session.scheduler.governor (.register descriptor) with
    ⟨_, performed⟩ | ⟨_, eq, admits, performed⟩ | ⟨_, _, eq, -, -⟩ | ⟨_, eq, -⟩
  · rw [call, performed]
    exact .refl
  · cases eq
    rw [call, performed]
    exact .single (.register descriptor admits.max_pos)
  · cases eq
  · cases eq

theorem core_call_registerScheduled (session : Session α) (core : Nat) (daemon : Bool) :
    (session.call (.registerScheduled core daemon)).core = session.core := by
  rcases Governor.perform_cases session.scheduler.governor (.registerScheduled core daemon) with
    ⟨_, performed⟩ | ⟨_, eq, -, -⟩ | ⟨_, _, -, -, performed⟩ | ⟨_, eq, -⟩
  · rw [call, performed]
    rfl
  · cases eq
  · rw [call, performed]
    rfl
  · cases eq

theorem isClosed_of_mem_closedPlaces {place : Nat} (mem : place ∈ session.closedPlaces) :
    session.core.IsClosed place := by
  rw [closedPlaces, List.mem_filter, Option.any_eq_true] at mem
  obtain ⟨-, pool, found, isShut⟩ := mem
  exact ⟨pool, found, isShut⟩

/-- All registered pools are shut down at once. -/
theorem core_shutDown (session : Session α) :
    session.shutDown.core = session.core.shutDown (session.core.table.map Prod.snd)
      session.scheduler.governor.scheduled.toList := by
  have standing_eq : session.shutDown.standing? = fun id =>
      (session.standing? id).map (.lose (session.core.table.map Prod.snd)
        session.scheduler.governor.scheduled.toList) := by
    funext id
    have kept : session.shutDown.task? id = (session.task? id).map (.lose _ _) :=
      find?_map_of_id session.tasks _ (fun task => by unfold Task.lose; split <;> rfl) id
    rw [standing?, kept, standing?, Option.map_map, Option.map_map]
    exact Option.map_congr fun task _ => task.standing_lose _ _
  have ids_eq : session.shutDown.tasks.map Task.id = session.tasks.map Task.id := by
    rw [shutDown, List.map_map]
    refine List.map_congr_left fun task _ => ?_
    simp only [Function.comp_apply, Task.lose]
    split <;> rfl
  simp only [core, Core.shutDown, standing_eq, ids_eq]
  rfl

/-- Each event is a row of moves. -/
theorem moves_step (sound : session.core.Sound aborted) (event : SessionEvent α)
    (aborts : ∀ id, event = .abort id → aborted id) :
    Moves aborted session.core (session.step event).core := by
  have aside (happened : Option (Session α))
      (moves : ∀ after, happened = some after → Moves aborted session.core after.core) :
      Moves aborted session.core (happened.getD session).core := by
    cases happened with
    | none => exact .refl
    | some after => exact moves after rfl
  have stays {after : Session α} (same : after.core = session.core) :
      Moves aborted session.core after.core := same ▸ .refl
  cases event with
  | register descriptor => exact moves_call session descriptor
  | registerScheduled core daemon => exact stays (core_call_registerScheduled session core daemon)
  | submit type callerCanRun body => exact moves_submit sound type callerCanRun body
  | submitChain type callerCanRun body next =>
      exact moves_submitChain sound type callerCanRun body next
  | submitDelayed delay body =>
      rcases session.submitDelayed_cases delay body with ⟨error, submitted⟩ |
        ⟨place, taken, submitted⟩
      · exact stays (by simp only [step, step?, submitted, Option.getD_some])
      · simp only [step, step?, submitted, Option.getD_some]
        have entered := core_append (session.setScheduled place taken)
          ⟨session.next, .scheduled, .delayed place (session.clock + delay) body, 0, none⟩
          (sound.fresh _ (Nat.le_refl _)) (session.next + 1)
        exact entered ▸ .single (.delay place (session.clock + delay) body)
  | submitCyclic envelope script =>
      rcases session.submitCyclic_cases envelope script with ⟨error, submitted⟩ |
        ⟨place, taken, submitted⟩
      · exact stays (by simp only [step, step?, submitted, Option.getD_some])
      · simp only [step, step?, submitted, Option.getD_some]
        exact .single (.skip (session.next + 1) (Nat.le_succ _))
  | start place task =>
      exact aside _ fun after => moves_startTask
  | startScheduled place =>
      exact aside _ fun after started => stays (core_of_startScheduledIn started)
  | giveThread => exact aside _ fun after given => stays (core_of_giveThread given)
  | endWork task =>
      refine aside _ fun after ended => ?_
      obtain ⟨work, -, ended⟩ := Option.bind_eq_some_iff.1 ended
      exact stays (core_of_endWork ended)
  | advance task =>
      refine aside _ fun after advanced => ?_
      obtain ⟨owner, known, advanced⟩ := Option.bind_eq_some_iff.1 advanced
      exact moves_advanceTask sound known advanced
  | advanceSchedule schedule =>
      refine aside _ fun after advanced => ?_
      obtain ⟨known, -, advanced⟩ := Option.bind_eq_some_iff.1 advanced
      exact stays (core_of_advanceSchedule advanced)
  | openGate gate => exact .refl
  | pass ms => exact .refl
  | abort task =>
      exact aside _ fun after cut =>
        moves_cutIf sound cut fun _ _ _ => .aborted (aborts task rfl)
  | callOff schedule =>
      refine aside _ fun after calledOff => ?_
      obtain ⟨known, -, rfl⟩ := Option.map_eq_some_iff.1 calledOff
      exact stays (core_getD_map session _ _ fun _ => rfl)
  | withdraw => exact .single .withdraw
  | close place =>
      refine aside _ fun after closed => ?_
      simp only [step?, Option.ite_none_left_eq_some] at closed
      obtain ⟨withdrawn, eq⟩ := closed
      cases eq
      exact .single (.close place withdrawn)
  | closeScheduled place =>
      refine aside _ fun after closed => ?_
      simp only [step?, Option.ite_none_left_eq_some] at closed
      obtain ⟨-, eq⟩ := closed
      cases eq
      exact .refl
  | turnAway task label =>
      refine aside _ fun after cut => moves_cutIf sound cut fun owner known turned => ?_
      unfold isTurnedAway at turned
      split at turned
      next place body site =>
        obtain ⟨pool, found, waits⟩ := (Option.any_eq_true _ _).1 turned
        rw [Bool.and_eq_true] at waits
        exact .turnedAway label site ⟨pool, found, waits.1⟩
      next => cases turned
  | lose task =>
      exact aside _ fun after cut => moves_cutIf sound cut fun owner known lost =>
        .lost session.closedScheduled (fun place => isClosed_of_mem_closedPlaces) lost
  | shutDown => exact core_shutDown session ▸ .single (.shutDown _)

/-! ## Rows of events -/

theorem moves_follow (sound : session.core.Sound aborted) (events : List (SessionEvent α))
    (aborts : ∀ id, .abort id ∈ events → aborted id) :
    Moves aborted session.core (session.follow events).core := by
  induction events generalizing session with
  | nil => exact .refl
  | cons event events induction =>
      have first := moves_step sound event fun id eq => aborts id (eq ▸ List.mem_cons_self)
      have sound_next := (first.sound_and_lasts sound).1
      exact first.trans (induction sound_next fun id mem => aborts id (List.mem_cons_of_mem _ mem))

/-- A session of a node is sound, and what was aborted in it was aborted by an event. -/
theorem sound_run (caps : ResourceCaps) (events : List (SessionEvent α)) :
    (run caps events).core.Sound fun id => .abort id ∈ events := by
  have start : (empty caps : Session α).core.Sound fun id => .abort id ∈ events :=
    Core.sound_of_empty
  exact ((moves_follow start events fun _ => id).sound_and_lasts start).1

end Session
end ClusterMember
