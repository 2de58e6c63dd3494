import ClusterMember.Proofs.Executor.Periodic.Turns

/-!
# What periodic work can come to

The books of a pool for periodic work are sound: every slot is free or with one body, every entry
agrees with the runs of its work, and the queue holds the work that waits.  Whatever events do to a
pool is a chain of turns, new work, requests to stop and the shutdown, so that what each of these
keeps is kept by all events.
-/

namespace ClusterMember

namespace PeriodicCourse

variable {core : Nat} {course after : PeriodicCourse} {task : Nat}

/-- The books of a pool are sound. -/
structure Sound (core : Nat) (course : PeriodicCourse) : Prop where
  agrees : ∀ task story, course.stories[task]? = some story →
    ∃ entry, course.pool.find? task = some entry ∧ story.Agrees entry
  unknown : ∀ task, course.stories[task]? = none → course.pool.find? task = none
  slots_add : course.pool.slots + course.running = max core 1
  latency_eq : course.pool.latency.count = course.ends
  mem_queue : ∀ task, task ∈ course.pool.queue ↔ course.pool.phase? task = some .waiting
  nodup_queue : course.pool.queue.Nodup

/-- What events can do, as far as they cancel only certain work. -/
inductive Reaches (cancels : Nat → Bool) : PeriodicCourse → PeriodicCourse → Prop
  | refl (course : PeriodicCourse) : Reaches cancels course course
  | close (course : PeriodicCourse) : Reaches cancels course course.close
  | add (course : PeriodicCourse) (isCyclic : Bool) (isOpen : course.pool.isShut = false) :
      Reaches cancels course
        ⟨course.pool.add course.stories.length isCyclic, course.stories ++ [.fresh isCyclic]⟩
  | ask (course : PeriodicCourse) (task : Nat) : Reaches cancels course (course.ask task)
  | turn {course : PeriodicCourse} {task : Nat} {entry : PeriodicTask} {isCut : Bool}
      {change : PeriodicTask → PeriodicTask} {tell : PeriodicStory → PeriodicStory}
      {pool : PeriodicPool} (there : course.pool.find? task = some entry)
      (turn : course.pool.Turn task entry isCut change tell pool)
      (allowed : isCut = true → cancels task = true) :
      Reaches cancels course ⟨pool, course.stories.modify task tell⟩
  | trans {first second third : PeriodicCourse} (before : Reaches cancels first second)
      (behind : Reaches cancels second third) : Reaches cancels first third

theorem sound_build (core : Nat) (daemon : Bool) : (build core daemon).Sound core where
  agrees := nofun
  unknown _ _ := rfl
  slots_add := rfl
  latency_eq := rfl
  mem_queue := by simp [build, PeriodicPool.build, PeriodicPool.phase?, PeriodicPool.find?]
  nodup_queue := List.nodup_nil

section Total

variable (count : PeriodicStory → Nat) {stories : List PeriodicStory} {story : PeriodicStory}

/-- A change to one story changes a total by what it changes of the story. -/
theorem total_modify (change : PeriodicStory → PeriodicStory)
    (found : stories[task]? = some story) :
    total count (stories.modify task change) + count story =
      total count stories + count (change story) := by
  induction stories generalizing task with
  | nil => simp at found
  | cons first rest induction =>
      cases task with
      | zero =>
          simp only [List.getElem?_cons_zero, Option.some.injEq] at found
          subst found
          simp only [List.modify_zero_cons, total]
          omega
      | succ task =>
          simp only [List.getElem?_cons_succ] at found
          have rest_eq := induction found
          simp only [List.modify_succ_cons, total]
          omega

theorem total_append_singleton (stories : List PeriodicStory) (story : PeriodicStory) :
    total count (stories ++ [story]) = total count stories + count story := by
  induction stories with
  | nil => exact Nat.add_comm _ _
  | cons first rest induction =>
      rw [List.cons_append, total, induction, total, Nat.add_assoc]

/-- A change that counts for nothing in any story counts for nothing in total. -/
theorem total_modify_of_eq (change : PeriodicStory → PeriodicStory)
    (same : ∀ story, count (change story) = count story) (stories : List PeriodicStory)
    (task : Nat) : total count (stories.modify task change) = total count stories := by
  cases found : stories[task]? with
  | none => rw [List.modify_eq_self (List.getElem?_eq_none_iff.1 found)]
  | some story =>
      have total_eq := total_modify count change found
      rw [same story] at total_eq
      exact Nat.add_right_cancel total_eq

/-- What adds up for each story adds up in total. -/
theorem total_eq_add {whole part : PeriodicStory → Nat}
    (adds : ∀ story ∈ stories, whole story = part story + count story) :
    total whole stories = total part stories + total count stories := by
  induction stories with
  | nil => rfl
  | cons first rest induction =>
      obtain ⟨first_adds, rest_adds⟩ := List.forall_mem_cons.1 adds
      have rest_eq := induction rest_adds
      simp only [total]
      omega

theorem exists_of_total_ne_zero (some_counts : total count stories ≠ 0) :
    ∃ story ∈ stories, count story ≠ 0 := by
  induction stories with
  | nil => exact absurd rfl some_counts
  | cons first rest induction =>
      by_cases first_eq : count first = 0
      · rw [total, first_eq, Nat.zero_add] at some_counts
        obtain ⟨story, listed, counts⟩ := induction some_counts
        exact ⟨story, List.mem_cons_of_mem _ listed, counts⟩
      · exact ⟨first, List.mem_cons_self, first_eq⟩

end Total

namespace Sound

/-- Work that the pool knows is work that it took. -/
theorem exists_story (sound : course.Sound core) {entry : PeriodicTask}
    (there : course.pool.find? task = some entry) :
    ∃ story, course.stories[task]? = some story ∧ story.Agrees entry := by
  cases found : course.stories[task]? with
  | none =>
      rw [sound.unknown task found] at there
      cases there
  | some story =>
      obtain ⟨other, other_there, agrees⟩ := sound.agrees task story found
      rw [there] at other_there
      cases other_there
      exact ⟨story, rfl, agrees⟩

/-- The number of new work is not given yet. -/
theorem find?_length (sound : course.Sound core) :
    course.pool.find? course.stories.length = none :=
  sound.unknown _ (List.getElem?_eq_none (Nat.le_refl _))

theorem find?_add (sound : course.Sound core) (isCyclic : Bool) (other : Nat) :
    (course.pool.add course.stories.length isCyclic).find? other =
      if other = course.stories.length then some ⟨other, isCyclic, .sleeping, 0, 0⟩
      else course.pool.find? other := by
  unfold PeriodicPool.add
  rw [PeriodicPool.find?, List.find?_append]
  by_cases eq : other = course.stories.length
  · subst eq
    rw [show course.pool.tasks.find? _ = none from sound.find?_length, if_pos rfl]
    simp
  · rw [if_neg eq, List.find?_cons_of_neg (by simp [Ne.symm eq]), List.find?_nil, Option.or_none,
      PeriodicPool.find?]

theorem close (sound : course.Sound core) : course.close.Sound core where
  agrees := sound.agrees
  unknown := sound.unknown
  slots_add := sound.slots_add
  latency_eq := sound.latency_eq
  mem_queue := sound.mem_queue
  nodup_queue := sound.nodup_queue

/-- Work is asked to stop. -/
theorem ask (sound : course.Sound core) (asked : Nat) : (course.ask asked).Sound core where
  agrees := by
    intro task told found
    change (course.stories.modify asked .ask)[task]? = some told at found
    rw [List.getElem?_modify, Option.map_eq_map, Option.map_eq_some_iff] at found
    obtain ⟨story, story_found, rfl⟩ := found
    obtain ⟨entry, there, agrees⟩ := sound.agrees task story story_found
    refine ⟨entry, there, ?_⟩
    split
    next => exact agrees.ask
    next => exact agrees
  unknown := by
    intro task behind
    refine sound.unknown task ?_
    rw [List.getElem?_eq_none_iff] at behind ⊢
    exact Nat.le_trans (Nat.le_of_eq (List.length_modify ..).symm) behind
  slots_add := by
    have running_eq : (course.ask asked).running = course.running :=
      total_modify_of_eq (·.running) .ask (fun _ => rfl) course.stories asked
    rw [running_eq]
    exact sound.slots_add
  latency_eq := by
    have ends_eq : (course.ask asked).ends = course.ends :=
      total_modify_of_eq (·.ends.length) .ask (fun _ => rfl) course.stories asked
    rw [ends_eq]
    exact sound.latency_eq
  mem_queue := sound.mem_queue
  nodup_queue := sound.nodup_queue

/-- The pool takes work. -/
theorem add (sound : course.Sound core) (isCyclic : Bool) :
    Sound core
      ⟨course.pool.add course.stories.length isCyclic, course.stories ++ [.fresh isCyclic]⟩ where
  agrees := by
    intro task story found
    rw [sound.find?_add]
    by_cases eq : task = course.stories.length
    · subst eq
      rw [List.getElem?_concat_length] at found
      cases found
      exact ⟨_, if_pos rfl, .fresh _ _⟩
    · rw [if_neg eq]
      rw [List.getElem?_append] at found
      split at found
      next => exact sound.agrees task story found
      next behind =>
        rw [List.getElem?_eq_none (by simp; omega)] at found
        cases found
  unknown := by
    intro task behind
    rw [List.getElem?_eq_none_iff, List.length_append, List.length_singleton] at behind
    rw [sound.find?_add, if_neg (by omega)]
    exact sound.unknown task (List.getElem?_eq_none (by omega))
  slots_add := by
    rw [running, total_append_singleton]
    exact sound.slots_add
  latency_eq := by
    rw [ends, total_append_singleton]
    exact sound.latency_eq
  mem_queue := by
    intro task
    rw [PeriodicPool.phase?, sound.find?_add]
    by_cases eq : task = course.stories.length
    · subst eq
      have unqueued : course.stories.length ∉ course.pool.queue := by
        rw [sound.mem_queue, PeriodicPool.phase?, sound.find?_length]
        exact (Option.some_ne_none _).symm
      simpa [PeriodicPool.add] using unqueued
    · rw [if_neg eq]
      exact sound.mem_queue task
  nodup_queue := sound.nodup_queue

/-- Work of the pool takes a turn. -/
theorem turn (sound : course.Sound core) {entry : PeriodicTask} {isCut : Bool}
    {change : PeriodicTask → PeriodicTask} {tell : PeriodicStory → PeriodicStory}
    {pool : PeriodicPool} (there : course.pool.find? task = some entry)
    (turn : course.pool.Turn task entry isCut change tell pool) :
    Sound core ⟨pool, course.stories.modify task tell⟩ := by
  obtain ⟨story, found, agrees⟩ := sound.exists_story there
  have agrees_after := turn.agrees agrees
  have queued : task ∈ course.pool.queue ↔ entry.phase = .waiting := by
    rw [sound.mem_queue, PeriodicPool.phase?_of_find? there, Option.some.injEq]
  refine ⟨?_, ?_, ?_, ?_, ?_, turn.nodup_queue queued sound.nodup_queue⟩
  · intro other told told_found
    by_cases eq : other = task
    · subst eq
      rw [List.getElem?_modify_eq, found] at told_found
      cases told_found
      exact ⟨change entry, turn.find?_eq there, agrees_after⟩
    · rw [List.getElem?_modify_ne _ _ (Ne.symm eq)] at told_found
      obtain ⟨known, known_there, known_agrees⟩ := sound.agrees other told told_found
      exact ⟨known, (turn.find?_of_ne eq).trans known_there, known_agrees⟩
  · intro other behind
    have behind' : course.stories[other]? = none := by
      rw [List.getElem?_eq_none_iff] at behind ⊢
      simpa using behind
    have ne : other ≠ task := by
      rintro rfl
      rw [found] at behind'
      cases behind'
    exact (turn.find?_of_ne ne).trans (sound.unknown other behind')
  -- Slots and records change by what the story of this one piece of work tells.
  · have slots_eq := turn.slots_add
    have sum_eq := total_modify (·.running) tell found
    have before := sound.slots_add
    rw [agrees.running_eq, agrees_after.running_eq] at sum_eq
    change pool.slots + total (·.running) (course.stories.modify task tell) = max core 1
    rw [running] at before
    omega
  · have count_eq := turn.latency_add agrees
    have sum_eq := total_modify (·.ends.length) tell found
    have before := sound.latency_eq
    change pool.latency.count = total (·.ends.length) (course.stories.modify task tell)
    rw [ends] at before
    omega
  · intro other
    rw [turn.mem_queue queued other]
    by_cases eq : other = task
    · subst eq
      rw [if_pos rfl, PeriodicPool.phase?_of_find? (turn.find?_eq there), Option.some.injEq]
    · rw [if_neg eq, PeriodicPool.phase?, turn.find?_of_ne eq]
      exact sound.mem_queue other

end Sound

variable {cancels : Nat → Bool}

/-- Sound books stay sound. -/
theorem Reaches.sound (reaches : Reaches cancels course after) (sound : course.Sound core) :
    after.Sound core := by
  induction reaches with
  | refl => exact sound
  | close => exact sound.close
  | add course isCyclic => exact sound.add isCyclic
  | ask course task => exact sound.ask task
  | turn there turn => exact sound.turn there turn
  | trans _ _ before behind => exact behind (before sound)

theorem Reaches.mono {more : Nat → Bool} (reaches : Reaches cancels course after)
    (le : ∀ task, cancels task = true → more task = true) : Reaches more course after := by
  induction reaches with
  | refl course => exact .refl course
  | close course => exact .close course
  | add course isCyclic isOpen => exact .add course isCyclic isOpen
  | ask course task => exact .ask course task
  | turn there turn allowed => exact .turn there turn fun isCut => le _ (allowed isCut)
  | trans _ _ before behind => exact before.trans behind

/-- A pool that is shut down stays so. -/
theorem Reaches.isShut (reaches : Reaches cancels course after)
    (isShut : course.pool.isShut = true) : after.pool.isShut = true := by
  induction reaches with
  | refl => exact isShut
  | close => rfl
  | add => exact isShut
  | ask => exact isShut
  | turn _ turn => exact turn.isShut_eq.trans isShut
  | trans _ _ before behind => exact behind (before isShut)

theorem find?_add_of_find? {pool : PeriodicPool} {entry : PeriodicTask}
    (there : pool.find? task = some entry) (number : Nat) (isCyclic : Bool) :
    (pool.add number isCyclic).find? task = some entry := by
  unfold PeriodicPool.add
  rw [PeriodicPool.find?, List.find?_append, show pool.tasks.find? _ = some entry from there,
    Option.some_or]

/-- Work that has ended stays as it is: its body never begins again. -/
theorem Reaches.settled (reaches : Reaches cancels course after) {entry : PeriodicTask}
    (there : course.pool.find? task = some entry) (ended : entry.phase = .ended) :
    after.pool.find? task = some entry ∧
      ∀ story, course.stories[task]? = some story →
        ∃ told, after.stories[task]? = some told ∧ told.starts = story.starts := by
  induction reaches with
  | refl => exact ⟨there, fun story found => ⟨story, found, rfl⟩⟩
  | close => exact ⟨there, fun story found => ⟨story, found, rfl⟩⟩
  | add course isCyclic =>
      refine ⟨find?_add_of_find? there _ _, fun story found => ⟨story, ?_, rfl⟩⟩
      exact (List.getElem?_append_left (List.getElem?_eq_some_iff.1 found).1).trans found
  | ask course asked =>
      refine ⟨there, fun story found => ⟨if asked = task then story.ask else story, ?_, ?_⟩⟩
      · change (course.stories.modify asked .ask)[task]? = _
        rw [List.getElem?_modify, found]
        split <;> rfl
      · split <;> rfl
  | @turn course other _ _ _ _ _ other_there turn =>
      -- Work that has ended takes no turn, so the turn is one of other work.
      have ne : task ≠ other := by
        rintro rfl
        rw [there] at other_there
        cases other_there
        exact turn.phase_ne ended
      refine ⟨(turn.find?_of_ne ne).trans there, fun story found => ⟨story, ?_, rfl⟩⟩
      exact (List.getElem?_modify_ne _ _ (Ne.symm ne)).trans found
  | trans _ _ before behind =>
      obtain ⟨there, kept⟩ := before there
      obtain ⟨there, kept_behind⟩ := behind there
      refine ⟨there, fun story found => ?_⟩
      obtain ⟨told, told_found, told_eq⟩ := kept story found
      obtain ⟨last, last_found, last_eq⟩ := kept_behind told told_found
      exact ⟨last, last_found, last_eq.trans told_eq⟩

/-- Work that was asked to stop tells for good how often its body had begun by then. -/
theorem Reaches.asked (reaches : Reaches cancels course after) {story : PeriodicStory}
    (found : course.stories[task]? = some story) {before : Nat}
    (asked : story.asked = some before) :
    ∃ told, after.stories[task]? = some told ∧ told.asked = some before ∧
      story.starts ≤ told.starts := by
  induction reaches generalizing story with
  | refl => exact ⟨story, found, asked, Nat.le_refl _⟩
  | close => exact ⟨story, found, asked, Nat.le_refl _⟩
  | add course isCyclic =>
      refine ⟨story, ?_, asked, Nat.le_refl _⟩
      exact (List.getElem?_append_left (List.getElem?_eq_some_iff.1 found).1).trans found
  | ask course other =>
      refine ⟨if other = task then story.ask else story, ?_, ?_, ?_⟩
      · change (course.stories.modify other .ask)[task]? = _
        rw [List.getElem?_modify, found]
        split <;> rfl
      · split
        next => rw [PeriodicStory.ask, asked, Option.some_or]
        next => exact asked
      · split <;> exact Nat.le_refl _
  | @turn course other _ _ _ tell _ _ turn =>
      obtain ⟨starts_le, asked_eq⟩ := turn.starts_le story
      refine ⟨if other = task then tell story else story, ?_, ?_, ?_⟩
      · rw [List.getElem?_modify, found]
        split <;> rfl
      · split
        next => exact asked_eq.trans asked
        next => exact asked
      · split
        next => exact starts_le
        next => exact Nat.le_refl _
  | trans _ _ before behind =>
      obtain ⟨told, told_found, told_asked, told_le⟩ := before found asked
      obtain ⟨last, last_found, last_asked, last_le⟩ := behind told_found told_asked
      exact ⟨last, last_found, last_asked, Nat.le_trans told_le last_le⟩

/-- No body begins in a pool that is shut down. -/
theorem Reaches.starts_eq (reaches : Reaches cancels course after)
    (isShut : course.pool.isShut = true) (task : Nat) :
    after.stories[task]?.map (·.starts) = course.stories[task]?.map (·.starts) := by
  induction reaches with
  | refl => rfl
  | close => rfl
  | add _ _ isOpen =>
      rw [isShut] at isOpen
      cases isOpen
  | ask course other =>
      change (course.stories.modify other .ask)[task]?.map _ = _
      rw [List.getElem?_modify]
      cases course.stories[task]? with
      | none => rfl
      | some story =>
          by_cases eq : other = task
          · simp [eq, PeriodicStory.ask]
          · simp [eq]
  | @turn course other _ _ _ tell _ _ turn =>
      rw [List.getElem?_modify]
      cases course.stories[task]? with
      | none => rfl
      | some story =>
          by_cases eq : other = task
          · simp [eq, turn.starts_of_isShut isShut story]
          · simp [eq]
  | trans first _ before behind => exact (behind (first.isShut isShut)).trans (before isShut)

/-- A pool has a schedule with a number that has not ended. -/
def Lives (course : PeriodicCourse) (task : Nat) : Prop :=
  ∃ entry, course.pool.find? task = some entry ∧ entry.isCyclic = true ∧ entry.phase ≠ .ended

/-- A schedule lives on until it is cancelled. -/
theorem Reaches.lives (reaches : Reaches cancels course after) (spared : cancels task = false)
    (lives : course.Lives task) : after.Lives task := by
  induction reaches with
  | refl => exact lives
  | close => exact lives
  | add =>
      obtain ⟨entry, there, isCyclic, goes⟩ := lives
      exact ⟨entry, find?_add_of_find? there _ _, isCyclic, goes⟩
  | ask => exact lives
  | @turn _ other _ isCut _ _ _ other_there turn allowed =>
      obtain ⟨entry, there, isCyclic, goes⟩ := lives
      by_cases eq : task = other
      · subst eq
        rw [there] at other_there
        cases other_there
        cases isCut with
        | true =>
            rw [allowed rfl] at spared
            cases spared
        | false =>
            exact ⟨_, turn.find?_eq there, (turn.keeps _).2.trans isCyclic,
              turn.phase_change_ne isCyclic⟩
      · exact ⟨entry, (turn.find?_of_ne eq).trans there, isCyclic, goes⟩
  | trans _ _ before behind => exact behind (before lives)

/-- An operation of the pool reaches what its turn reaches. -/
theorem reaches_follow {isCut : Bool} {tell : PeriodicStory → PeriodicStory}
    {outcome : Option PeriodicPool} (turns : course.pool.Turns task isCut tell outcome)
    (allowed : isCut = true → cancels task = true) :
    Reaches cancels course (course.follow task tell outcome) := by
  cases outcome with
  | none => exact .refl course
  | some pool =>
      obtain ⟨entry, change, there, turn⟩ := turns pool rfl
      exact .turn there turn allowed

theorem reaches_cancel (course : PeriodicCourse) (elapsed : Duration)
    (allowed : cancels task = true) : Reaches cancels course (course.cancel elapsed task) :=
  reaches_follow (course.pool.turns_cancel task elapsed) fun _ => allowed

theorem reaches_cancel_all (course : PeriodicCourse) (elapsed : Duration) (tasks : List Nat)
    (allowed : ∀ task ∈ tasks, cancels task = true) :
    Reaches cancels course (tasks.foldl (PeriodicCourse.cancel · elapsed) course) := by
  induction tasks generalizing course with
  | nil => exact .refl course
  | cons task rest induction =>
      obtain ⟨task_allowed, rest_allowed⟩ := List.forall_mem_cons.1 allowed
      exact (reaches_cancel course elapsed task_allowed).trans (induction _ rest_allowed)

/-- What follows the closing of a pool at its shutdown. -/
theorem reaches_shutdown (course : PeriodicCourse) (elapsed : Duration) :
    Reaches (fun _ => true) course.close (course.shutdown elapsed) :=
  reaches_cancel_all _ elapsed _ fun _ _ => rfl

theorem reaches_take (course : PeriodicCourse) (isCyclic : Bool)
    {answer : Except Error PeriodicPool}
    (taken : ∀ pool, answer = .ok pool →
      course.pool.isShut = false ∧ pool = course.pool.add course.stories.length isCyclic) :
    Reaches cancels course (course.take isCyclic answer) := by
  cases answer with
  | error => exact .refl course
  | ok pool =>
      obtain ⟨isOpen, rfl⟩ := taken pool rfl
      exact .add course isCyclic isOpen

/-- Whatever happens is a chain of turns, new work, requests to stop and the shutdown. -/
theorem reaches_step (course : PeriodicCourse) (event : PeriodicEvent) :
    Reaches (event.cancels ·) course (course.step event) := by
  cases event with
  | delay =>
      refine reaches_take course false fun pool taken => ?_
      unfold PeriodicPool.spawnDelayed at taken
      split at taken
      next => cases taken
      next isOpen =>
        cases taken
        exact ⟨by simpa using isOpen, rfl⟩
  | cycle envelope =>
      refine reaches_take course true fun pool taken => ?_
      refine ⟨?_, PeriodicPool.eq_add_of_spawnCyclic taken⟩
      unfold PeriodicPool.spawnCyclic at taken
      split at taken
      next => cases taken
      next isOpen => simpa using isOpen
  | wake task => exact reaches_follow (course.pool.turns_wake task) nofun
  | start task => exact reaches_follow (course.pool.turns_giveSlot task) nofun
  | finish task call elapsed =>
      exact reaches_follow (course.pool.turns_finish task call elapsed) nofun
  | ask task => exact .ask course task
  | cancel task elapsed => exact reaches_cancel course elapsed (decide_eq_true rfl)
  | turnAway task => exact reaches_follow (course.pool.turns_turnAway task) nofun
  | close => exact .close course
  | shutdown elapsed =>
      exact (Reaches.close course).trans (reaches_shutdown course elapsed)

theorem reaches_steps (course : PeriodicCourse) (events : List PeriodicEvent) :
    Reaches (fun task => events.any (·.cancels task)) course (course.steps events) := by
  induction events generalizing course with
  | nil => exact .refl course
  | cons event rest induction =>
      have first : Reaches (fun task => (event :: rest).any (·.cancels task)) course
          (course.step event) :=
        (reaches_step course event).mono fun task cancelled => by simp [cancelled]
      have later : Reaches (fun task => (event :: rest).any (·.cancels task)) (course.step event)
          ((course.step event).steps rest) :=
        (induction _).mono fun task cancelled => by
          simp only [List.any_cons, cancelled, Bool.or_true]
      exact first.trans later

/-- The books of a pool are sound, whatever has happened. -/
theorem sound_run (core : Nat) (daemon : Bool) (events : List PeriodicEvent) :
    (run core daemon events).Sound core :=
  (reaches_steps _ events).sound (sound_build core daemon)

end PeriodicCourse
end ClusterMember
