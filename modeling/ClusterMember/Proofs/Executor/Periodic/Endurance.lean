import ClusterMember.Proofs.Executor.Periodic.Reach

/-!
# Periodic work endures

A pool never runs more bodies than it has slots, and never two of the same work.  A body that ends
in an error or a panic gives its slot back and ends no schedule; only being cancelled does, and
work that is cancelled never runs again.  What begins after the request to stop and before that is
counted as late.
-/

namespace ClusterMember

namespace PeriodicPool

variable {pool after : PeriodicPool} {task : Nat} {entry : PeriodicTask}

/-- Only work that has ended cannot be cancelled. -/
theorem ended_of_cancel_eq_none {elapsed : Duration} (there : pool.find? task = some entry)
    (stuck : pool.cancel task elapsed = none) : entry.phase = .ended := by
  obtain ⟨number, isCyclic, phase, executions, failures⟩ := entry
  cases phase <;> simp_all [cancel]

end PeriodicPool

/-- The time of work comes, or its body begins or ends. -/
def PeriodicEvent.isWork : PeriodicEvent → Bool
  | .wake _ | .start _ | .finish .. => true
  | _ => false

namespace PeriodicCourse

variable {core : Nat} {course after : PeriodicCourse} {task : Nat} {cancels : Nat → Bool}

/-- Work that the pool took stays known. -/
theorem Reaches.length_le (reaches : Reaches cancels course after) :
    course.stories.length ≤ after.stories.length := by
  induction reaches with
  | refl => exact Nat.le_refl _
  | close => exact Nat.le_refl _
  | add => simp
  | ask => exact Nat.le_of_eq (List.length_modify ..).symm
  | turn => simp
  | trans _ _ before behind => exact Nat.le_trans before behind

theorem Reaches.ended (reaches : Reaches cancels course after)
    (ended : course.pool.phase? task = some .ended) : after.pool.phase? task = some .ended := by
  obtain ⟨entry, there, phase_eq⟩ := PeriodicPool.exists_of_phase? ended
  rw [PeriodicPool.phase?_of_find? (reaches.settled there phase_eq).1, phase_eq]

theorem Sound.ended_cancel (sound : course.Sound core) (elapsed : Duration)
    (given : task < course.stories.length) :
    (course.cancel elapsed task).pool.phase? task = some .ended := by
  obtain ⟨entry, there, -⟩ := sound.agrees task _ (List.getElem?_eq_getElem given)
  unfold PeriodicCourse.cancel
  cases cancelled : course.pool.cancel task elapsed with
  | none =>
      change course.pool.phase? task = some .ended
      rw [PeriodicPool.phase?_of_find? there,
        PeriodicPool.ended_of_cancel_eq_none there cancelled]
  | some pool =>
      obtain ⟨other, change, other_there, turn⟩ := course.pool.turns_cancel task elapsed _ cancelled
      change pool.phase? task = some .ended
      rw [PeriodicPool.phase?_of_find? (turn.find?_eq other_there), turn.phase_change_eq]

theorem Sound.ended_cancel_all (sound : course.Sound core) (elapsed : Duration)
    {tasks : List Nat} (listed : task ∈ tasks) (given : task < course.stories.length) :
    (tasks.foldl (PeriodicCourse.cancel · elapsed) course).pool.phase? task = some .ended := by
  induction tasks generalizing course with
  | nil => cases listed
  | cons first rest induction =>
      have now : Reaches (fun _ => true) course (course.cancel elapsed first) :=
        reaches_cancel course elapsed rfl
      have later : Reaches (fun _ => true) (course.cancel elapsed first)
          (rest.foldl (PeriodicCourse.cancel · elapsed) (course.cancel elapsed first)) :=
        reaches_cancel_all _ elapsed rest fun _ _ => rfl
      rcases List.mem_cons.1 listed with rfl | listed
      · exact later.ended (sound.ended_cancel elapsed given)
      · exact induction (now.sound sound) listed (Nat.lt_of_lt_of_le given now.length_le)

/-- An event that cancels work ends it. -/
theorem Sound.ended_step (sound : course.Sound core) {event : PeriodicEvent}
    (cancelled : event.cancels task = true) (given : task < course.stories.length) :
    (course.step event).pool.phase? task = some .ended := by
  cases event with
  | cancel other elapsed =>
      obtain rfl : other = task := of_decide_eq_true cancelled
      exact sound.ended_cancel elapsed given
  | shutdown elapsed =>
      obtain ⟨entry, there, -⟩ := sound.agrees task _ (List.getElem?_eq_getElem given)
      have listed : task ∈ course.pool.tasks.map (·.id) :=
        List.mem_map.2
          ⟨entry, List.mem_of_find?_eq_some there, by simpa using List.find?_some there⟩
      exact sound.close.ended_cancel_all elapsed listed given
  | _ => cases cancelled

theorem Sound.ended_steps (sound : course.Sound core) {events : List PeriodicEvent}
    (cancelled : events.any (·.cancels task) = true) (given : task < course.stories.length) :
    (course.steps events).pool.phase? task = some .ended := by
  induction events generalizing course with
  | nil => cases cancelled
  | cons event rest induction =>
      rw [List.any_cons, Bool.or_eq_true] at cancelled
      rcases cancelled with now | later
      · exact (reaches_steps _ rest).ended (sound.ended_step now given)
      · have reaches := reaches_step course event
        exact induction (reaches.sound sound) later (Nat.lt_of_lt_of_le given reaches.length_le)

/-- A schedule that is taken lives exactly as long as no event cancels it. -/
theorem Sound.lives_iff (sound : course.Sound core) (isOpen : course.pool.isShut = false)
    {envelope : CyclicEnvelope} (period_ne : envelope.period ≠ .zero)
    (later : List PeriodicEvent) :
    ((course.step (.cycle envelope)).steps later).Lives course.stories.length ↔
      later.any (·.cancels course.stories.length) = false := by
  have taken : course.step (.cycle envelope) =
      ⟨course.pool.add course.stories.length true, course.stories ++ [.fresh true]⟩ := by
    simp [step, take, PeriodicPool.spawnCyclic, isOpen, period_ne]
  have born : (course.step (.cycle envelope)).Lives course.stories.length := by
    rw [taken]
    exact ⟨_, (sound.find?_add true _).trans (if_pos rfl), rfl, nofun⟩
  constructor
  · rintro ⟨entry, there, -, goes⟩
    by_contra cancelled
    have sound_born := (reaches_step course (.cycle envelope)).sound sound
    have ended := sound_born.ended_steps (eq_true_of_ne_false cancelled)
      (by rw [taken, List.length_append]; exact Nat.lt_succ_self _)
    rw [PeriodicPool.phase?_of_find? there, Option.some.injEq] at ended
    exact goes ended
  · intro spared
    exact (reaches_steps _ later).lives spared born

/-- No body of work begins once the work is cancelled or the pool is shut down. -/
theorem starts_of_cancels (course : PeriodicCourse) {event : PeriodicEvent}
    (cancelled : event.cancels task = true) :
    (course.step event).stories[task]?.map (·.starts) = course.stories[task]?.map (·.starts) := by
  cases event with
  | cancel other elapsed =>
      obtain rfl : other = task := of_decide_eq_true cancelled
      change (course.cancel elapsed other).stories[other]?.map _ = _
      unfold PeriodicCourse.cancel
      cases course.pool.cancel other elapsed with
      | none => rfl
      | some pool =>
          change (course.stories.modify other .cancelled)[other]?.map _ = _
          rw [List.getElem?_modify_eq, Option.map_eq_map, Option.map_map]
          exact congrArg (course.stories[other]?.map ·) (funext PeriodicStory.starts_cancelled)
  | shutdown elapsed => exact (reaches_shutdown course elapsed).starts_eq rfl task
  | _ => cases cancelled

/-- Work that an event has cancelled never runs again. -/
theorem Sound.starts_after (sound : course.Sound core) {event : PeriodicEvent}
    (cancelled : event.cancels task = true) {story : PeriodicStory}
    (found : course.stories[task]? = some story) (later : List PeriodicEvent) :
    ((course.step event).steps later).stories[task]?.map (·.starts) = some story.starts := by
  have starts_now := starts_of_cancels course cancelled
  have ended := sound.ended_step cancelled (List.getElem?_eq_some_iff.1 found).1
  obtain ⟨entry, there, phase_eq⟩ := PeriodicPool.exists_of_phase? ended
  rw [found, Option.map_some] at starts_now
  obtain ⟨told, told_found, told_starts⟩ := Option.map_eq_some_iff.1 starts_now
  obtain ⟨last, last_found, last_starts⟩ :=
    ((reaches_steps _ later).settled there phase_eq).2 told told_found
  rw [last_found, Option.map_some, last_starts, told_starts]

/-- What begins between the request to stop and the moment at which work is cancelled is late, and
nothing begins afterwards. -/
theorem Sound.late_eq (sound : course.Sound core) {story : PeriodicStory}
    (found : course.stories[task]? = some story) (unasked : story.asked = none)
    (between : List PeriodicEvent) {event : PeriodicEvent}
    (cancelled : event.cancels task = true) (later : List PeriodicEvent) :
    ∃ told last, ((course.ask task).steps between).stories[task]? = some told ∧
      ((((course.ask task).steps between).step event).steps later).stories[task]? = some last ∧
      last.starts = told.starts ∧ last.starts = story.starts + last.late := by
  have asked_found : (course.ask task).stories[task]? = some story.ask := by
    change (course.stories.modify task .ask)[task]? = some story.ask
    rw [List.getElem?_modify_eq, found]
    rfl
  have asked_eq : story.ask.asked = some story.starts := by
    rw [PeriodicStory.ask, unasked, Option.none_or]
  have first := reaches_steps (course.ask task) between
  obtain ⟨told, told_found, told_asked, told_le⟩ := first.asked asked_found asked_eq
  obtain ⟨next, next_found, next_asked, -⟩ :=
    (reaches_step ((course.ask task).steps between) event).asked told_found told_asked
  obtain ⟨last, last_found, last_asked, -⟩ :=
    (reaches_steps _ later).asked next_found next_asked
  have settled := (first.sound (sound.ask task)).starts_after cancelled told_found later
  rw [last_found, Option.map_some, Option.some.injEq] at settled
  have last_le : story.starts ≤ last.starts := settled ▸ told_le
  refine ⟨told, last, told_found, last_found, settled, ?_⟩
  rw [PeriodicStory.late, last_asked]
  exact (Nat.add_sub_of_le last_le).symm

theorem isShut_follow {isCut : Bool} {tell : PeriodicStory → PeriodicStory}
    {outcome : Option PeriodicPool} (turns : course.pool.Turns task isCut tell outcome) :
    (course.follow task tell outcome).pool.isShut = course.pool.isShut := by
  cases outcome with
  | none => rfl
  | some pool =>
      obtain ⟨entry, change, -, turn⟩ := turns pool rfl
      exact turn.isShut_eq

/-- A pool is shut down by the events that say so, and by no others. -/
theorem isShut_step (course : PeriodicCourse) (event : PeriodicEvent) :
    (course.step event).pool.isShut = (course.pool.isShut || event.closes) := by
  cases event with
  | delay =>
      refine Eq.trans ?_ (Bool.or_false _).symm
      rw [step, PeriodicPool.spawnDelayed]
      split <;> rfl
  | cycle envelope =>
      refine Eq.trans ?_ (Bool.or_false _).symm
      rw [step, PeriodicPool.spawnCyclic]
      split
      next => rfl
      next => split <;> rfl
  | wake task =>
      exact (isShut_follow (course.pool.turns_wake task)).trans (Bool.or_false _).symm
  | start task =>
      exact (isShut_follow (course.pool.turns_giveSlot task)).trans (Bool.or_false _).symm
  | finish task call elapsed =>
      exact (isShut_follow (course.pool.turns_finish task call elapsed)).trans
        (Bool.or_false _).symm
  | ask task => exact (Bool.or_false _).symm
  | cancel task elapsed =>
      exact (isShut_follow (course.pool.turns_cancel task elapsed)).trans (Bool.or_false _).symm
  | turnAway task =>
      exact (isShut_follow (course.pool.turns_turnAway task)).trans (Bool.or_false _).symm
  | close => exact (Bool.or_true _).symm
  | shutdown elapsed =>
      exact ((reaches_shutdown course elapsed).isShut rfl).trans (Bool.or_true _).symm

theorem isShut_steps (course : PeriodicCourse) (events : List PeriodicEvent) :
    (course.steps events).pool.isShut =
      (course.pool.isShut || events.any PeriodicEvent.closes) := by
  induction events generalizing course with
  | nil => exact (Bool.or_false _).symm
  | cons event rest induction =>
      rw [List.any_cons, ← Bool.or_assoc, ← isShut_step]
      exact induction _

/-- The shutdown of a course is the shutdown of its pool. -/
theorem pool_shutdown (course : PeriodicCourse) (elapsed : Duration) :
    (course.shutdown elapsed).pool = course.pool.shutdown elapsed := by
  have cancelled (tasks : List Nat) (course : PeriodicCourse) :
      (tasks.foldl (PeriodicCourse.cancel · elapsed) course).pool =
        PeriodicPool.cancelAll elapsed tasks course.pool := by
    induction tasks generalizing course with
    | nil => rfl
    | cons task rest induction =>
        rw [List.foldl_cons, induction, PeriodicPool.cancelAll, PeriodicCourse.cancel]
        cases course.pool.cancel task elapsed <;> rfl
  exact cancelled _ course.close

/-- Sleeping work of an open pool asks for a slot when its time comes. -/
theorem wake_eq (asleep : course.pool.phase? task = some .sleeping)
    (isOpen : course.pool.isShut = false) :
    ∃ pool, course.step (.wake task) = ⟨pool, course.stories⟩ ∧ pool.slots = course.pool.slots ∧
      pool.isShut = false ∧ pool.phase? task = some .waiting := by
  obtain ⟨⟨number, isCyclic, phase, executions, failures⟩, there, rfl⟩ :=
    PeriodicPool.exists_of_phase? asleep
  have turn := @PeriodicPool.Turn.woken course.pool task
    ⟨number, isCyclic, .sleeping, executions, failures⟩ rfl isOpen
  have woken : course.pool.wake task =
      some { course.pool with
        tasks := PeriodicPool.modify task (.enter .waiting) course.pool.tasks
        queue := course.pool.queue ++ [task] } := by
    rw [PeriodicPool.wake, there]
    simp only [isOpen]
    rfl
  rw [step, woken]
  refine ⟨_, congrArg (PeriodicCourse.mk _) (List.modify_id _ _), rfl, isOpen, ?_⟩
  rw [PeriodicPool.phase?_of_find? (turn.find?_eq there)]
  rfl

namespace Sound

/-- What the pool tells about work. -/
theorem phase?_eq_running_iff (sound : course.Sound core) {story : PeriodicStory}
    (found : course.stories[task]? = some story) :
    course.pool.phase? task = some .running ↔ story.running = 1 := by
  obtain ⟨entry, there, agrees⟩ := sound.agrees task story found
  rw [PeriodicPool.phase?_of_find? there, Option.some.injEq, agrees.running_eq_one_iff]

/-- Every body that has begun runs or is over. -/
theorem starts_eq (sound : course.Sound core) : course.starts = course.ends + course.running := by
  apply total_eq_add
  intro story listed
  obtain ⟨task, found⟩ := List.mem_iff_getElem?.1 listed
  obtain ⟨entry, -, agrees⟩ := sound.agrees task story found
  rw [agrees.running_eq, agrees.starts_eq]

theorem start_eq (sound : course.Sound core) (task : Nat) :
    (course.step (.start task)).stories =
      if course.pool.phase? task = some .waiting ∧ course.pool.isShut = false ∧
          course.running < max core 1 then
        course.stories.modify task .began
      else course.stories := by
  have room_iff : 0 < course.pool.slots ↔ course.running < max core 1 := by
    have := sound.slots_add
    omega
  rw [step, PeriodicPool.giveSlot]
  simp only [room_iff]
  split <;> rfl

/-- A body ends, in whatever way: its slot is free, other work goes on, and a schedule sleeps. -/
theorem finish_eq (sound : course.Sound core) {story : PeriodicStory}
    (found : course.stories[task]? = some story) (runs : story.running = 1) (call : BodyCall)
    (elapsed : Duration) :
    ∃ pool, course.step (.finish task call elapsed) =
        ⟨pool, course.stories.modify task (.ended (.ran call))⟩ ∧
      pool.slots = course.pool.slots + 1 ∧ pool.queue = course.pool.queue ∧
      pool.latency = course.pool.latency.record elapsed ∧ pool.isShut = course.pool.isShut ∧
      (∀ other, other ≠ task → pool.find? other = course.pool.find? other) ∧
      (story.isCyclic = true → pool.phase? task = some .sleeping) := by
  have running := (sound.phase?_eq_running_iff found).2 runs
  obtain ⟨⟨number, isCyclic, phase, executions, failures⟩, there, rfl⟩ :=
    PeriodicPool.exists_of_phase? running
  obtain ⟨other, other_there, agrees⟩ := sound.agrees task story found
  rw [there] at other_there
  cases other_there
  have turn := @PeriodicPool.Turn.finished course.pool task
    ⟨number, isCyclic, .running, executions, failures⟩ rfl call elapsed
  have finished : course.pool.finish task call.failed elapsed =
      some { course.pool with
        slots := course.pool.slots + 1
        latency := course.pool.latency.record elapsed
        tasks :=
          PeriodicPool.modify task (PeriodicPool.afterRun call.failed) course.pool.tasks } := by
    rw [PeriodicPool.finish, there]
  rw [step, finished]
  refine ⟨_, rfl, rfl, rfl, rfl, rfl, fun other ne => turn.find?_of_ne ne, fun cyclic => ?_⟩
  have entry_cyclic : isCyclic = true := agrees.isCyclic_eq.trans cyclic
  rw [PeriodicPool.phase?_of_find? (turn.find?_eq there)]
  simp [PeriodicPool.afterRun, entry_cyclic]

/-- The pool's own way to give slots is one of the ways in which bodies begin. -/
theorem giveSlot_of_start (sound : course.Sound core) {pool : PeriodicPool}
    (started : course.pool.start = some (task, pool)) :
    course.pool.giveSlot task = some pool := by
  have queued := sound.mem_queue
  have nodup := sound.nodup_queue
  unfold PeriodicPool.start at started
  split at started
  next => cases started
  next first rest queue_eq =>
    split at started
    next ready =>
      cases started
      rw [queue_eq] at queued nodup
      have waits := (queued task).1 List.mem_cons_self
      have rest_eq : (task :: rest).filter (· ≠ task) = rest := by
        have unlisted := (List.nodup_cons.1 nodup).1
        rw [List.filter_cons_of_neg (by simp), List.filter_eq_self]
        intro other listed
        exact decide_eq_true fun eq => unlisted (eq ▸ listed)
      rw [PeriodicPool.giveSlot, if_pos ⟨waits, ready⟩, queue_eq, rest_eq]
    next => cases started

theorem exists_running (sound : course.Sound core) (busy : course.running ≠ 0) :
    ∃ (other : Nat) (story : PeriodicStory),
      course.stories[other]? = some story ∧ story.running = 1 := by
  obtain ⟨story, listed, runs⟩ := exists_of_total_ne_zero _ busy
  obtain ⟨other, found⟩ := List.mem_iff_getElem?.1 listed
  obtain ⟨entry, -, agrees⟩ := sound.agrees other story found
  have at_most : story.running ≤ 1 := by
    rw [agrees.running_eq]
    split <;> omega
  refine ⟨other, story, found, ?_⟩
  omega

end Sound

/-- The next run of work begins after some more of the pool's own work. -/
def RunsOn (course : PeriodicCourse) (task starts : Nat) : Prop :=
  ∃ later : List PeriodicEvent, later.all PeriodicEvent.isWork = true ∧
    (course.steps later).stories[task]?.map (·.starts) = some (starts + 1)

theorem RunsOn.cons {starts : Nat} {event : PeriodicEvent} (isWork : event.isWork = true)
    (runs : (course.step event).RunsOn task starts) : course.RunsOn task starts := by
  obtain ⟨later, later_work, starts_eq⟩ := runs
  exact ⟨event :: later, by rw [List.all_cons, isWork, later_work]; rfl, starts_eq⟩

namespace Sound

variable {story : PeriodicStory}

/-- A body that runs can end, and then there is room for another one. -/
theorem exists_finish (sound : course.Sound core) (found : course.stories[task]? = some story)
    (runs : story.running = 1) :
    ∃ event : PeriodicEvent, event.isWork = true ∧ (course.step event).running < max core 1 ∧
      (course.step event).pool.isShut = course.pool.isShut ∧
      (∀ other, other ≠ task →
        (course.step event).pool.phase? other = course.pool.phase? other ∧
          (course.step event).stories[other]? = course.stories[other]?) ∧
      (story.isCyclic = true → (course.step event).pool.phase? task = some .sleeping) ∧
      ∃ told, (course.step event).stories[task]? = some told ∧ told.starts = story.starts := by
  obtain ⟨pool, step_eq, slots_eq, -, -, shut_eq, kept, asleep⟩ :=
    sound.finish_eq found runs (.created (.value ())) .zero
  have sound_after :=
    (reaches_step course (.finish task (.created (.value ())) .zero)).sound sound
  refine ⟨.finish task (.created (.value ())) .zero, rfl, ?_, ?_, ?_, ?_, ?_⟩
  · have total := sound_after.slots_add
    rw [step_eq] at total ⊢
    change pool.slots + _ = _ at total
    omega
  · rw [step_eq]
    exact shut_eq
  · intro other ne
    rw [step_eq]
    refine ⟨?_, List.getElem?_modify_ne _ _ ne.symm⟩
    rw [PeriodicPool.phase?, PeriodicPool.phase?, kept other ne]
  · rw [step_eq]
    exact asleep
  · rw [step_eq]
    refine ⟨story.ended (.ran (.created (.value ()))), ?_, rfl⟩
    rw [List.getElem?_modify_eq, found]
    rfl

theorem runsOn_of_room (sound : course.Sound core) (isOpen : course.pool.isShut = false)
    (found : course.stories[task]? = some story)
    (waits : course.pool.phase? task = some .waiting) (room : course.running < max core 1) :
    course.RunsOn task story.starts := by
  refine ⟨[.start task], rfl, ?_⟩
  change (course.step (.start task)).stories[task]?.map _ = _
  rw [sound.start_eq, if_pos ⟨waits, isOpen, room⟩, List.getElem?_modify_eq, found]
  rfl

/-- Waiting work gets a slot, at the latest when another body has ended. -/
theorem runsOn_waiting (sound : course.Sound core) (isOpen : course.pool.isShut = false)
    (found : course.stories[task]? = some story)
    (waits : course.pool.phase? task = some .waiting) : course.RunsOn task story.starts := by
  by_cases room : course.running < max core 1
  · exact sound.runsOn_of_room isOpen found waits room
  -- All slots are taken: a running body ends first, and it is one of other work.
  · have busy : course.running ≠ 0 := by omega
    obtain ⟨other, other_story, other_found, runs⟩ := sound.exists_running busy
    have ne : task ≠ other := by
      rintro rfl
      rw [(sound.phase?_eq_running_iff other_found).2 runs] at waits
      cases waits
    obtain ⟨event, isWork, room, shut_eq, kept, -⟩ := sound.exists_finish other_found runs
    obtain ⟨phase_eq, story_eq⟩ := kept task ne
    have sound_after := (reaches_step course event).sound sound
    exact .cons isWork (sound_after.runsOn_of_room (shut_eq.trans isOpen) (story_eq.trans found)
      (phase_eq.trans waits) room)

theorem runsOn_sleeping (sound : course.Sound core) (isOpen : course.pool.isShut = false)
    (found : course.stories[task]? = some story)
    (asleep : course.pool.phase? task = some .sleeping) : course.RunsOn task story.starts := by
  obtain ⟨pool, step_eq, -, pool_open, waits⟩ := wake_eq asleep isOpen
  have sound_after := (reaches_step course (.wake task)).sound sound
  rw [step_eq] at sound_after
  have isWork : (PeriodicEvent.wake task).isWork = true := rfl
  refine .cons isWork ?_
  rw [step_eq]
  exact sound_after.runsOn_waiting pool_open found waits

/-- A schedule that lives in an open pool is never stuck. -/
theorem runsOn (sound : course.Sound core) (isOpen : course.pool.isShut = false)
    (found : course.stories[task]? = some story) (lives : course.Lives task) :
    course.RunsOn task story.starts := by
  obtain ⟨entry, there, isCyclic, goes⟩ := lives
  have phase_eq := PeriodicPool.phase?_of_find? there
  cases phase : entry.phase with
  | sleeping => exact sound.runsOn_sleeping isOpen found (phase_eq.trans (congrArg some phase))
  | waiting => exact sound.runsOn_waiting isOpen found (phase_eq.trans (congrArg some phase))
  | running =>
      obtain ⟨other, other_there, agrees⟩ := sound.agrees task story found
      rw [there] at other_there
      cases other_there
      have runs := agrees.running_eq_one_iff.2 phase
      obtain ⟨event, isWork, -, shut_eq, -, asleep, told, told_found, starts_eq⟩ :=
        sound.exists_finish found runs
      have sound_after := (reaches_step course event).sound sound
      rw [← starts_eq]
      exact .cons isWork (sound_after.runsOn_sleeping (shut_eq.trans isOpen) told_found
        (asleep (agrees.isCyclic_eq.symm.trans isCyclic)))
  | ended => exact absurd phase goes

end Sound

/-- What holds of a pool for periodic work after a row of events. -/
structure Dependable (core : Nat) (events : List PeriodicEvent) (course : PeriodicCourse) :
    Prop where
  isShut_eq : course.pool.isShut = events.any PeriodicEvent.closes
  /-- It never runs more bodies than it has threads; one without threads counts as one. -/
  running_le : course.running ≤ max core 1
  /-- A slot is free or with one body. -/
  slots_add : course.pool.slots + course.running = max core 1
  /-- A run is over before the next run of the same work begins. -/
  apart : ∀ story ∈ course.stories,
    story.ends.length ≤ story.starts ∧ story.starts ≤ story.ends.length + 1
  /-- A schedule tells how often its body ran to an end, and how often in an error or a panic. -/
  counts : ∀ task story, course.stories[task]? = some story →
    ∃ entry, course.pool.find? task = some entry ∧ entry.isCyclic = story.isCyclic ∧
      (story.isCyclic = true →
        entry.executions = story.executions ∧ entry.failures = story.failures)
  /-- The pool times every run that is over once. -/
  latency_eq : course.pool.latency.count = course.ends
  /-- Every body that has begun has been timed or runs. -/
  starts_eq : course.starts = course.pool.latency.count + course.running
  /-- Waiting work gets a free slot as long as the pool is open, and no other work does. -/
  started : ∀ task, (course.step (.start task)).stories =
    if course.pool.phase? task = some .waiting ∧ course.pool.isShut = false ∧
        course.running < max core 1 then
      course.stories.modify task .began
    else course.stories
  /-- The pool's own order of giving slots is one of those that can happen. -/
  fifo : ∀ task pool, course.pool.start = some (task, pool) →
    course.pool.giveSlot task = some pool
  /-- However a body ends, its slot is free, it is timed, other work goes on, and a schedule sleeps
  until its next run. -/
  finished : ∀ task story call elapsed, course.stories[task]? = some story → story.running = 1 →
    ∃ pool, course.step (.finish task call elapsed) =
        ⟨pool, course.stories.modify task (.ended (.ran call))⟩ ∧
      pool.slots = course.pool.slots + 1 ∧ pool.queue = course.pool.queue ∧
      pool.latency = course.pool.latency.record elapsed ∧ pool.isShut = course.pool.isShut ∧
      (∀ other, other ≠ task → pool.find? other = course.pool.find? other) ∧
      (story.isCyclic = true → pool.phase? task = some .sleeping)
  /-- A schedule that is taken lives exactly as long as it is not cancelled. -/
  lives_iff : ∀ envelope later, course.pool.isShut = false → envelope.period ≠ .zero →
    (((course.step (.cycle envelope)).steps later).Lives course.stories.length ↔
      later.any (·.cancels course.stories.length) = false)
  /-- A schedule that lives in an open pool has its next run. -/
  runsOn : ∀ task story, course.stories[task]? = some story → course.Lives task →
    course.pool.isShut = false → course.RunsOn task story.starts
  /-- The request to stop changes nothing but what is told of the work. -/
  asked : ∀ task, (course.step (.ask task)).pool = course.pool ∧
    (course.step (.ask task)).stories = course.stories.modify task .ask
  /-- What begins between the first request to stop and the moment at which the work is cancelled is
  late, and nothing begins afterwards. -/
  late : ∀ task story between event later, course.stories[task]? = some story →
    story.asked = none → event.cancels task = true →
      ∃ told last, ((course.step (.ask task)).steps between).stories[task]? = some told ∧
        ((((course.step (.ask task)).steps between).step event).steps later).stories[task]? =
          some last ∧
        last.starts = told.starts ∧ last.starts = story.starts + last.late
  /-- Work that is cancelled, by itself or with all other work, never begins again. -/
  cancelled : ∀ task story event later, course.stories[task]? = some story →
    event.cancels task = true →
      ((course.step event).steps later).stories[task]?.map (·.starts) = some story.starts
  /-- No body begins in a pool that is shut down. -/
  closed : course.pool.isShut = true → ∀ (task : Nat) later,
    (course.steps later).stories[task]?.map (·.starts) = course.stories[task]?.map (·.starts)
  /-- A shutdown is the shutdown of the pool. -/
  shutdown_eq : ∀ elapsed,
    (course.step (.shutdown elapsed)).pool = course.pool.shutdown elapsed

theorem Sound.dependable (sound : course.Sound core) {events : List PeriodicEvent}
    (isShut_eq : course.pool.isShut = events.any PeriodicEvent.closes) :
    course.Dependable core events where
  isShut_eq := isShut_eq
  running_le := by
    have := sound.slots_add
    omega
  slots_add := sound.slots_add
  apart := by
    intro story listed
    obtain ⟨task, found⟩ := List.mem_iff_getElem?.1 listed
    obtain ⟨entry, -, agrees⟩ := sound.agrees task story found
    rw [agrees.starts_eq]
    split <;> omega
  counts := by
    intro task story found
    obtain ⟨entry, there, agrees⟩ := sound.agrees task story found
    exact ⟨entry, there, agrees.isCyclic_eq,
      fun isCyclic => ⟨agrees.executions_eq isCyclic, agrees.failures_eq isCyclic⟩⟩
  latency_eq := sound.latency_eq
  starts_eq := by rw [sound.latency_eq, sound.starts_eq]
  started := sound.start_eq
  fifo _ _ := sound.giveSlot_of_start
  finished _ _ call elapsed found runs := sound.finish_eq found runs call elapsed
  lives_iff _ later isOpen period_ne := sound.lives_iff isOpen period_ne later
  runsOn _ _ found lives isOpen := sound.runsOn isOpen found lives
  asked _ := ⟨rfl, rfl⟩
  late _ _ between _ later found unasked cancelled :=
    sound.late_eq found unasked between cancelled later
  cancelled _ _ _ later found cancelled := sound.starts_after cancelled found later
  closed isShut task later := (reaches_steps course later).starts_eq isShut task
  shutdown_eq := course.pool_shutdown

/-- Periodic work endures, and its pool keeps to its slots, whatever happens. -/
theorem run_dependable (core : Nat) (daemon : Bool) (events : List PeriodicEvent) :
    (run core daemon events).Dependable core events :=
  (sound_run core daemon events).dependable (isShut_steps _ events)

/-- A schedule whose first call panics before there is a future runs again, although it was asked to
stop, until it is cancelled in its second run: its handle tells one failed execution, both runs are
timed, and the second one is late. -/
example :
    let course := run 1 true
      [.cycle ⟨"flaky", .ofMillis 50, .zero, true⟩, .wake 0, .start 0, .ask 0,
        .finish 0 (.panicked none) .zero, .wake 0, .start 0, .cancel 0 .zero, .wake 0, .start 0]
    course.pool.tasks = [⟨0, true, .ended, 1, 1⟩] ∧ course.pool.latency.count = 2 ∧
      course.starts = 2 ∧ course.stories.map (·.late) = [1] := by
  decide

end PeriodicCourse
end ClusterMember
