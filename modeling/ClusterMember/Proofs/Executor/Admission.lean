import ClusterMember.Proofs.Executor.Permits

/-!
# What a pool promises

Whatever happens to a pool, it takes a task exactly when it has fewer tasks than it can hold, and
each task that it took gives back its permit once.
-/

namespace ClusterMember

variable {α : Type}

/-- What is known of a task as soon as its submitter has been answered. -/
def Submission.answered (type : ExecutorType) (label : String) (answer : Except Error Admission) :
    Submission α :=
  match answer with
  | .ok .discarded => ⟨label, answer, 0, [PoolCourse.dropped type]⟩
  | _ => ⟨label, answer, 0, []⟩

namespace PoolCourse

/-- How many admitted tasks have not ended. -/
def inFlight (course : PoolCourse α) : Nat := course.submissions.countP Submission.isInFlight

/-- How many admitted tasks run. -/
def running (course : PoolCourse α) : Nat := course.submissions.countP Submission.isRunning

/-- What a submitter is to be told. -/
def verdict (descriptor : PoolDescriptor) (course : PoolCourse α) (callerCanRun : Bool) :
    Except Error Admission :=
  if course.pool.isShut then .error (.rejected descriptor.type shutReason)
  else if course.inFlight < descriptor.capacity then .ok .admitted
  else
    match descriptor.rejection with
    | .abort => .error (.rejected descriptor.type saturatedReason)
    | .discard => .ok .discarded
    | .callerRuns =>
      if callerCanRun then .ok .byCaller
      else .error (.rejected descriptor.type noCallerReason)

/-- What a pool promises after a row of events. -/
structure Governed (descriptor : PoolDescriptor) (events : List (PoolEvent α))
    (course : PoolCourse α) : Prop where
  /-- It is the pool that was described. -/
  descriptor_eq : course.pool.descriptor = descriptor
  /-- It is shut down once it was told so. -/
  isShut_eq : course.pool.isShut = events.any PoolEvent.closes
  /-- It tells the number of admitted tasks that have not ended. -/
  inFlight_eq : course.pool.inFlight = course.inFlight
  /-- It never holds more than it can. -/
  inFlight_le : course.pool.inFlight ≤ descriptor.max + descriptor.queue.waitingSlots
  /-- A permit is free, or with an admitted task that has not ended. -/
  permits_add :
    course.pool.permits + course.inFlight = descriptor.max + descriptor.queue.waitingSlots
  /-- It never runs more than it may. -/
  running_le : course.running ≤ descriptor.max
  /-- A slot is free, or with an admitted task that runs. -/
  slots_add : course.pool.slots + course.running = descriptor.max
  /-- It times every body that has begun and ended. -/
  latency_eq : course.pool.latency.count = course.submissions.countP Submission.hasRun
  /-- No body begins twice and no task ends twice; who was refused or dropped never runs. -/
  lawful : ∀ submission ∈ course.submissions, submission.Lawful descriptor.type
  /-- It answers by the number of tasks in flight, and by its policy when that is reached. -/
  spawned : ∀ label callerCanRun,
    (course.spawn label callerCanRun).submissions = course.submissions ++
      [.answered descriptor.type label (course.verdict descriptor callerCanRun)]
  /-- Admitted tasks get going as long as a slot is free. -/
  started : ∀ task submission, course.submissions[task]? = some submission →
    submission.isAdmitted = true → submission.phase? = some .waiting →
      (course.start task).submissions =
        if course.pool.isShut = false ∧ course.running < descriptor.max then
          course.submissions.modify task .began
        else course.submissions
  /-- Tasks that run with their submitters get going whenever they like, and take nothing. -/
  guestStarted : ∀ task submission, course.submissions[task]? = some submission →
    submission.isGuest = true → submission.phase? = some .waiting →
      (course.start task).submissions = course.submissions.modify task .began ∧
        (course.start task).pool.permits = course.pool.permits ∧
        (course.start task).pool.slots = course.pool.slots
  /-- The end of a body gives back what the task had, and awaiting the task gives its ending. -/
  finished : ∀ task submission, course.submissions[task]? = some submission →
    submission.phase? = some .running →
      submission.isAdmitted = true ∨ submission.isGuest = true →
        ∀ ending elapsed,
          (course.finish task ending elapsed).submissions =
              course.submissions.modify task (.ended (ending.result descriptor.type task)) ∧
            (course.finish task ending elapsed).pool.inFlight
                + (if submission.isAdmitted then 1 else 0) =
              course.pool.inFlight
  /-- The same holds of a task that is aborted before or during its run. -/
  aborted : ∀ task submission phase, course.submissions[task]? = some submission →
    submission.phase? = some phase →
      submission.isAdmitted = true ∨ submission.isGuest = true →
        ∀ elapsed,
          (course.abort elapsed task).submissions =
              course.submissions.modify task (.ended (cancelled descriptor.type)) ∧
            (course.abort elapsed task).pool.inFlight + (if submission.isAdmitted then 1 else 0) =
              course.pool.inFlight
  /-- The same holds of an admitted task that waits in a pool that is shut down. -/
  turnedAway : ∀ task submission, course.submissions[task]? = some submission →
    submission.isAdmitted = true → submission.phase? = some .waiting →
      course.pool.isShut = true →
        (course.turnAway task).submissions =
            course.submissions.modify task (.ended (.error (closedFault submission.label))) ∧
          (course.turnAway task).pool.inFlight + 1 = course.pool.inFlight
  /-- A task that has ended stays as it is. -/
  settled : ∀ task submission, course.submissions[task]? = some submission →
    submission.hasEnded = true →
      course.start task = course ∧ course.turnAway task = course ∧
        (∀ ending elapsed, course.finish task ending elapsed = course) ∧
        ∀ elapsed, course.abort elapsed task = course
  /-- When all its tasks have ended, everything has been given back. -/
  idle : (∀ submission ∈ course.submissions, submission.isAdmitted = true →
      submission.hasEnded = true) →
    course.pool.inFlight = 0 ∧ course.pool.permits = descriptor.capacity ∧
      course.pool.slots = descriptor.max
  /-- A shutdown ends all its tasks. -/
  shut : ∀ elapsed, (course.shutdown elapsed).pool.inFlight = 0 ∧
    ∀ submission ∈ (course.shutdown elapsed).submissions, submission.isAdmitted = true →
      submission.hasEnded = true

namespace Sound

variable {descriptor : PoolDescriptor} {course : PoolCourse α}

theorem inFlight_eq (sound : course.Sound descriptor) :
    course.pool.inFlight = course.inFlight := by
  have := sound.permits_add
  rw [Pool.inFlight, inFlight, sound.descriptor_eq]
  omega

/-- A pool has no free permit exactly when it holds all that it can. -/
theorem permits_eq_zero_iff (sound : course.Sound descriptor) :
    course.pool.permits = 0 ↔ ¬course.inFlight < descriptor.capacity := by
  have := sound.permits_add
  rw [inFlight]
  omega

/-- The pool tells what a task does that it took. -/
theorem phase?_of_admitted (sound : course.Sound descriptor) {task : Nat}
    {submission : Submission α} (found : course.submissions[task]? = some submission)
    (admitted : submission.isAdmitted = true) :
    course.pool.phase? task = submission.phase? ∧ course.pool.guestPhase? task = none := by
  rw [sound.phase_eq, sound.guestPhase_eq, phaseIn_of_getElem? found, phaseIn_of_getElem? found,
    if_pos admitted, Submission.not_isGuest_of_isAdmitted admitted]
  exact ⟨rfl, rfl⟩

/-- The pool tells what a task does that runs with its submitter. -/
theorem phase?_of_guest (sound : course.Sound descriptor) {task : Nat}
    {submission : Submission α} (found : course.submissions[task]? = some submission)
    (guest : submission.isGuest = true) :
    course.pool.phase? task = none ∧ course.pool.guestPhase? task = submission.phase? := by
  rw [sound.phase_eq, sound.guestPhase_eq, phaseIn_of_getElem? found, phaseIn_of_getElem? found,
    if_pos guest, Submission.not_isAdmitted_of_isGuest guest]
  exact ⟨rfl, rfl⟩

/-- The pool knows nothing of a task that has ended. -/
theorem unknown_of_hasEnded (sound : course.Sound descriptor) {task : Nat}
    {submission : Submission α} (found : course.submissions[task]? = some submission)
    (ended : submission.hasEnded = true) :
    course.pool.phase? task = none ∧ course.pool.guestPhase? task = none := by
  rw [sound.phase_eq, sound.guestPhase_eq, phaseIn_of_getElem? found, phaseIn_of_getElem? found,
    Submission.phase?, if_pos ended, ite_self, ite_self]
  exact ⟨rfl, rfl⟩

/-- The end of a task gives back one permit when it was admitted, and none when it was not. -/
theorem inFlight_update (sound : course.Sound descriptor) {pool : Pool} {task : Nat}
    {result : Except Error α} (after : (course.update pool task (.ended result)).Sound descriptor)
    {submission : Submission α} {phase : TaskPhase}
    (found : course.submissions[task]? = some submission)
    (phase_eq : submission.phase? = some phase) :
    pool.inFlight + (if submission.isAdmitted then 1 else 0) = course.pool.inFlight := by
  have counted := countP_modify Submission.isInFlight (.ended result) found
  rw [Submission.isInFlight_ended, Submission.isInFlight_of_phase? phase_eq] at counted
  rw [sound.inFlight_eq]
  change (course.update pool task (.ended result)).pool.inFlight + _ = _
  rw [after.inFlight_eq]
  exact counted

/-- A pool answers a submission by what it holds. -/
theorem spawn_eq (sound : course.Sound descriptor) (label : String) (callerCanRun : Bool) :
    (course.spawn label callerCanRun).submissions = course.submissions ++
      [.answered descriptor.type label (course.verdict descriptor callerCanRun)] := by
  unfold verdict
  rw [← sound.type_eq]
  cases shut : course.pool.isShut with
  | true => rw [spawn_of_shut course label callerCanRun shut]; rfl
  | false =>
      rcases Nat.eq_zero_or_pos course.pool.permits with full | room
      · rw [spawn_of_full course label callerCanRun shut full, sound.descriptor_eq]
        rw [if_neg nofun, if_neg (sound.permits_eq_zero_iff.1 full)]
        cases descriptor.rejection <;> cases callerCanRun <;> rfl
      · rw [spawn_of_room course label callerCanRun shut room]
        rw [if_neg nofun, if_pos]
        · rfl
        · by_contra full
          exact absurd (sound.permits_eq_zero_iff.2 full) (Nat.ne_of_gt room)

/-- An admitted task gets going as long as a slot is free. -/
theorem start_admitted (sound : course.Sound descriptor) {task : Nat}
    {submission : Submission α} (found : course.submissions[task]? = some submission)
    (admitted : submission.isAdmitted = true) (waiting : submission.phase? = some .waiting) :
    (course.start task).submissions =
      if course.pool.isShut = false ∧ course.running < descriptor.max then
        course.submissions.modify task .began
      else course.submissions := by
  obtain ⟨phase_eq, guest_none⟩ := sound.phase?_of_admitted found admitted
  have slots_iff : 0 < course.pool.slots ↔ course.running < descriptor.max := by
    have := sound.slots_add
    rw [running]
    omega
  rw [PoolCourse.start, Pool.start, phase_eq, waiting, guest_none]
  by_cases ready : course.pool.isShut = false ∧ course.running < descriptor.max
  · rw [if_pos ⟨ready.1, slots_iff.2 ready.2, rfl⟩, if_pos ready]
    rfl
  · rw [if_neg fun all => ready ⟨all.1, slots_iff.1 all.2.1⟩, if_neg nofun, if_neg ready]

/-- A task gets going with its submitter whenever it likes, and takes nothing. -/
theorem start_guest (sound : course.Sound descriptor) {task : Nat}
    {submission : Submission α} (found : course.submissions[task]? = some submission)
    (guest : submission.isGuest = true) (waiting : submission.phase? = some .waiting) :
    (course.start task).submissions = course.submissions.modify task .began ∧
      (course.start task).pool.permits = course.pool.permits ∧
      (course.start task).pool.slots = course.pool.slots := by
  obtain ⟨phase_none, guest_eq⟩ := sound.phase?_of_guest found guest
  rw [PoolCourse.start, Pool.start, phase_none, guest_eq, waiting, if_neg nofun, if_pos rfl]
  exact ⟨rfl, rfl, rfl⟩

/-- The end of a body gives back what its task had. -/
theorem finish_running (sound : course.Sound descriptor) {task : Nat}
    {submission : Submission α} (found : course.submissions[task]? = some submission)
    (running : submission.phase? = some .running)
    (taken : submission.isAdmitted = true ∨ submission.isGuest = true) (ending : Ending α)
    (elapsed : Duration) :
    (course.finish task ending elapsed).submissions =
        course.submissions.modify task (.ended (ending.result descriptor.type task)) ∧
      (course.finish task ending elapsed).pool.inFlight
          + (if submission.isAdmitted then 1 else 0) =
        course.pool.inFlight := by
  have known : course.pool.phase? task = some .running ∨
      course.pool.guestPhase? task = some .running := by
    rcases taken with admitted | guest
    · exact .inl ((sound.phase?_of_admitted found admitted).1.trans running)
    · exact .inr ((sound.phase?_of_guest found guest).2.trans running)
  cases finished : course.pool.finish task elapsed with
  | none =>
      obtain ⟨not_phase, not_guest⟩ := Pool.finish_eq_none_iff.1 finished
      exact absurd known (not_or.2 ⟨not_phase, not_guest⟩)
  | some after =>
      have type_eq : after.type = descriptor.type := by
        rw [Pool.type, Pool.finish_descriptor finished, sound.descriptor_eq]
      have after_sound := sound.end_body finished (ending.result descriptor.type task)
      simp only [PoolCourse.finish, finished, type_eq]
      exact ⟨rfl, sound.inFlight_update after_sound found running⟩

/-- A task that is aborted gives back what it had. -/
theorem abort_known (sound : course.Sound descriptor) {task : Nat} {submission : Submission α}
    {phase : TaskPhase} (found : course.submissions[task]? = some submission)
    (phase_eq : submission.phase? = some phase)
    (taken : submission.isAdmitted = true ∨ submission.isGuest = true) (elapsed : Duration) :
    (course.abort elapsed task).submissions =
        course.submissions.modify task (.ended (cancelled descriptor.type)) ∧
      (course.abort elapsed task).pool.inFlight + (if submission.isAdmitted then 1 else 0) =
        course.pool.inFlight := by
  cases aborted : course.pool.abort task elapsed with
  | none =>
      obtain ⟨phase_none, guest_none⟩ := Pool.abort_eq_none_iff.1 aborted
      rcases taken with admitted | guest
      · rw [(sound.phase?_of_admitted found admitted).1, phase_eq] at phase_none
        cases phase_none
      · rw [(sound.phase?_of_guest found guest).2, phase_eq] at guest_none
        cases guest_none
  | some after =>
      have type_eq : after.type = descriptor.type := by
        rw [Pool.type, (Pool.frame_of_abort aborted).1, sound.descriptor_eq]
      have after_sound : (course.update after task (.ended (cancelled descriptor.type))).Sound
          descriptor := sound.end_task aborted fun _ _ _ => .inl rfl
      simp only [PoolCourse.abort, aborted, type_eq]
      exact ⟨rfl, sound.inFlight_update after_sound found phase_eq⟩

/-- A task that is turned away gives back its permit. -/
theorem turnAway_waiting (sound : course.Sound descriptor) {task : Nat}
    {submission : Submission α} (found : course.submissions[task]? = some submission)
    (admitted : submission.isAdmitted = true) (waiting : submission.phase? = some .waiting)
    (shut : course.pool.isShut = true) :
    (course.turnAway task).submissions =
        course.submissions.modify task (.ended (.error (closedFault submission.label))) ∧
      (course.turnAway task).pool.inFlight + 1 = course.pool.inFlight := by
  have known : course.pool.phase? task = some .waiting :=
    (sound.phase?_of_admitted found admitted).1.trans waiting
  have after_sound := sound.turnAway task
  cases aborted : course.pool.abort task .zero with
  | none =>
      rw [(Pool.abort_eq_none_iff.1 aborted).1] at known
      cases known
  | some after =>
      have turned : course.turnAway task =
          course.update after task (.ended (.error (closedFault submission.label))) := by
        simp only [PoolCourse.turnAway, if_pos (And.intro shut known), aborted, found]
      rw [turned] at after_sound ⊢
      have given := sound.inFlight_update after_sound found waiting
      rw [if_pos admitted] at given
      exact ⟨rfl, given⟩

/-- Nothing happens to a task that has ended. -/
theorem settled (sound : course.Sound descriptor) {task : Nat} {submission : Submission α}
    (found : course.submissions[task]? = some submission) (ended : submission.hasEnded = true) :
    course.start task = course ∧ course.turnAway task = course ∧
      (∀ ending elapsed, course.finish task ending elapsed = course) ∧
      ∀ elapsed, course.abort elapsed task = course := by
  obtain ⟨phase_none, guest_none⟩ := sound.unknown_of_hasEnded found ended
  refine ⟨?_, ?_, fun ending elapsed => ?_, fun elapsed => ?_⟩
  · rw [PoolCourse.start, Pool.start, phase_none, guest_none, if_neg nofun, if_neg nofun]
  · rw [PoolCourse.turnAway, phase_none, if_neg nofun]
  · have none : course.pool.finish task elapsed = none :=
      Pool.finish_eq_none_iff.2 ⟨by rw [phase_none]; nofun, by rw [guest_none]; nofun⟩
    rw [PoolCourse.finish, none]
  · rw [PoolCourse.abort, Pool.abort_eq_none_iff.2 ⟨phase_none, guest_none⟩]

/-- A pool whose tasks have all ended has everything back. -/
theorem idle (sound : course.Sound descriptor)
    (ended : ∀ submission ∈ course.submissions, submission.isAdmitted = true →
      submission.hasEnded = true) :
    course.pool.inFlight = 0 ∧ course.pool.permits = descriptor.capacity ∧
      course.pool.slots = descriptor.max := by
  have none_inFlight : course.submissions.countP Submission.isInFlight = 0 := by
    refine List.countP_eq_zero.2 fun submission mem isInFlight => ?_
    rw [Submission.isInFlight, Bool.and_eq_true, Bool.not_eq_true'] at isInFlight
    rw [ended submission mem isInFlight.1] at isInFlight
    cases isInFlight.2
  have none_running : course.submissions.countP Submission.isRunning = 0 := by
    refine List.countP_eq_zero.2 fun submission mem isRunning => ?_
    rw [Submission.isRunning, Bool.and_eq_true] at isRunning
    exact List.countP_eq_zero.1 none_inFlight submission mem isRunning.1
  have permits_add := sound.permits_add
  have slots_add := sound.slots_add
  rw [none_inFlight] at permits_add
  rw [none_running] at slots_add
  exact ⟨by rw [sound.inFlight_eq, inFlight, none_inFlight], permits_add, slots_add⟩

/-- A task that is aborted is known no more. -/
theorem phase?_abort (sound : course.Sound descriptor) (elapsed : Duration) (task other : Nat) :
    (course.abort elapsed task).pool.phase? other =
      if other = task then none else course.pool.phase? other := by
  unfold PoolCourse.abort
  split
  next aborted =>
    exact lookup_eq_ite_of_fresh (Pool.abort_eq_none_iff.1 aborted).1 other
  next after aborted =>
    rcases Pool.abort_cases aborted with ⟨-, rfl⟩ | ⟨known, rfl⟩ | finished
    · exact Pool.lookup_forget task course.pool.tasks other
    · obtain ⟨-, -, -, -, -, phase_none⟩ := sound.exists_guest known
      exact lookup_eq_ite_of_fresh phase_none other
    · rcases Pool.finish_cases finished with ⟨-, rfl⟩ | ⟨known, rfl⟩
      · exact Pool.lookup_forget task course.pool.tasks other
      · obtain ⟨-, -, -, -, -, phase_none⟩ := sound.exists_guest known
        exact lookup_eq_ite_of_fresh phase_none other

theorem phase?_abort_all (sound : course.Sound descriptor) (elapsed : Duration)
    (tasks : List Nat) (other : Nat) :
    (tasks.foldl (PoolCourse.abort · elapsed) course).pool.phase? other =
      if other ∈ tasks then none else course.pool.phase? other := by
  induction tasks generalizing course with
  | nil => simp
  | cons task rest induction =>
      rw [List.foldl_cons, induction (sound.abort elapsed task), sound.phase?_abort]
      by_cases eq : other = task <;> simp [eq]

/-- A shutdown ends every admitted task. -/
theorem shutdown_ends (sound : course.Sound descriptor) (elapsed : Duration) :
    ∀ submission ∈ (course.shutdown elapsed).submissions, submission.isAdmitted = true →
      submission.hasEnded = true := by
  intro submission mem admitted
  obtain ⟨task, found⟩ := List.mem_iff_getElem?.1 mem
  have after_sound : (course.shutdown elapsed).Sound descriptor := sound.step (.shutdown elapsed)
  have unknown : (course.shutdown elapsed).pool.phase? task = none := by
    rw [PoolCourse.shutdown, sound.close.phase?_abort_all]
    split
    next => rfl
    next unlisted =>
      exact List.lookup_eq_none_iff.2 fun entry entry_mem => by
        rw [bne_iff_ne]
        rintro rfl
        exact unlisted (List.mem_map_of_mem entry_mem)
  rw [(after_sound.phase?_of_admitted found admitted).1, Submission.phase?] at unknown
  cases ended : submission.hasEnded with
  | true => rfl
  | false => simp [ended] at unknown

end Sound

/-- The course of a pool shuts it down as the pool itself does. -/
theorem shutdown_pool (course : PoolCourse α) (elapsed : Duration) :
    (course.shutdown elapsed).pool = course.pool.shutdown elapsed := by
  have all (tasks : List Nat) (course : PoolCourse α) :
      (tasks.foldl (abort · elapsed) course).pool = Pool.abortAll elapsed tasks course.pool := by
    induction tasks generalizing course with
    | nil => rfl
    | cons task rest induction =>
        rw [List.foldl_cons, induction, Pool.abortAll, abort]
        cases course.pool.abort task elapsed <;> rfl
  exact all _ course.close

/-- The end of tasks does not shut their pool down. -/
theorem isShut_abort (course : PoolCourse α) (elapsed : Duration) (task : Nat) :
    (course.abort elapsed task).pool.isShut = course.pool.isShut := by
  unfold abort
  split
  next => rfl
  next aborted => exact (Pool.frame_of_abort aborted).2

theorem isShut_spawn (course : PoolCourse α) (label : String) (callerCanRun : Bool) :
    (course.spawn label callerCanRun).pool.isShut = course.pool.isShut := by
  cases shut : course.pool.isShut with
  | true => rw [spawn_of_shut course label callerCanRun shut, shut]
  | false =>
      rcases Nat.eq_zero_or_pos course.pool.permits with full | room
      · rw [spawn_of_full course label callerCanRun shut full]
        split <;> exact shut
      · rw [spawn_of_room course label callerCanRun shut room]
        exact shut

/-- A pool is shut down by the events that say so, and for good. -/
theorem isShut_step (course : PoolCourse α) (event : PoolEvent α) :
    (course.step event).pool.isShut = (course.pool.isShut || event.closes) := by
  cases event with
  | spawn label callerCanRun =>
      exact (isShut_spawn course label callerCanRun).trans (Bool.or_false _).symm
  | start task =>
      simp only [step, start, PoolEvent.closes, Bool.or_false]
      split
      next => rfl
      next started =>
        rcases Pool.start_cases started with ⟨-, -, -, rfl⟩ | ⟨-, rfl⟩ <;> rfl
  | finish task ending elapsed =>
      simp only [step, finish, PoolEvent.closes, Bool.or_false]
      split
      next => rfl
      next finished =>
        rcases Pool.finish_cases finished with ⟨-, rfl⟩ | ⟨-, rfl⟩ <;> rfl
  | abort task elapsed => exact (isShut_abort course elapsed task).trans (Bool.or_false _).symm
  | turnAway task =>
      simp only [step, turnAway, PoolEvent.closes, Bool.or_false]
      split
      next =>
        split
        next aborted _ => exact (Pool.frame_of_abort aborted).2
        next => rfl
      next => rfl
  | close => exact (Bool.or_true _).symm
  | shutdown elapsed =>
      change (course.shutdown elapsed).pool.isShut = _
      rw [shutdown_pool, Pool.shutdown_isShut]
      exact (Bool.or_true _).symm

theorem isShut_steps (course : PoolCourse α) (events : List (PoolEvent α)) :
    (events.foldl step course).pool.isShut =
      (course.pool.isShut || events.any PoolEvent.closes) := by
  induction events generalizing course with
  | nil => exact (Bool.or_false _).symm
  | cons event rest induction =>
      rw [List.foldl_cons, induction, isShut_step, List.any_cons, Bool.or_assoc]

/-- A pool keeps its promises through every row of events. -/
theorem run_governed (descriptor : PoolDescriptor) (events : List (PoolEvent α)) :
    Governed descriptor events (run descriptor events) := by
  have sound := sound_run descriptor events
  have inFlight_le : (run descriptor events).pool.inFlight ≤ descriptor.capacity := by
    rw [sound.inFlight_eq, ← sound.permits_add]
    exact Nat.le_add_left _ _
  have running_le : (run descriptor events).running ≤ descriptor.max := by
    rw [← sound.slots_add]
    exact Nat.le_add_left _ _
  exact
    { descriptor_eq := sound.descriptor_eq
      isShut_eq := isShut_steps (build descriptor) events
      inFlight_eq := sound.inFlight_eq
      inFlight_le := inFlight_le
      permits_add := sound.permits_add
      running_le := running_le
      slots_add := sound.slots_add
      latency_eq := sound.latency_eq
      lawful := sound.lawful
      spawned := sound.spawn_eq
      started := fun _ _ => sound.start_admitted
      guestStarted := fun _ _ => sound.start_guest
      finished := fun _ _ => sound.finish_running
      aborted := fun _ _ _ => sound.abort_known
      turnedAway := fun _ _ => sound.turnAway_waiting
      settled := fun _ _ => sound.settled
      idle := sound.idle
      shut := fun elapsed =>
        have ends := sound.shutdown_ends elapsed
        ⟨((sound.step (.shutdown elapsed)).idle ends).1, ends⟩ }

end PoolCourse
end ClusterMember
