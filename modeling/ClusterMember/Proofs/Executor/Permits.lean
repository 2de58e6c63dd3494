import ClusterMember.Executor.Pool.Course
import Mathlib.Tactic.Common

/-!
# The permits of a pool

Every permit and every slot of a pool is free or with one task that was admitted and has not ended.
The pool knows its tasks and what they do.  This holds whatever happens to the pool, so that a task
that ends, in whatever way, gives back exactly what it has.
-/

namespace ClusterMember

variable {α : Type}

namespace PoolCourse

/-- What the tasks of a kind are doing, as their submissions have it. -/
def phaseIn (kind : Submission α → Bool) (submissions : List (Submission α)) (task : Nat) :
    Option TaskPhase :=
  submissions[task]?.bind fun submission => if kind submission then submission.phase? else none

theorem phaseIn_of_getElem? {kind : Submission α → Bool} {submissions : List (Submission α)}
    {task : Nat} {submission : Submission α} (found : submissions[task]? = some submission) :
    phaseIn kind submissions task = if kind submission then submission.phase? else none := by
  rw [phaseIn, found, Option.bind_some]

theorem exists_of_phaseIn {kind : Submission α → Bool} {submissions : List (Submission α)}
    {task : Nat} {phase : TaskPhase} (known : phaseIn kind submissions task = some phase) :
    ∃ submission, submissions[task]? = some submission ∧ kind submission = true ∧
      submission.phase? = some phase := by
  obtain ⟨submission, found, phase_eq⟩ := Option.bind_eq_some_iff.1 known
  split at phase_eq
  next isKind => exact ⟨submission, found, isKind, phase_eq⟩
  next => cases phase_eq

theorem phaseIn_append (kind : Submission α → Bool) (submissions : List (Submission α))
    (submission : Submission α) (task : Nat) :
    phaseIn kind (submissions ++ [submission]) task =
      if task = submissions.length then if kind submission then submission.phase? else none
      else phaseIn kind submissions task := by
  unfold phaseIn
  rcases Nat.lt_trichotomy task submissions.length with before | rfl | behind
  · rw [List.getElem?_append_left before, if_neg (Nat.ne_of_lt before)]
  · simp
  · rw [if_neg (Nat.ne_of_gt behind), List.getElem?_eq_none (by simp; omega),
      List.getElem?_eq_none (Nat.le_of_lt behind)]

theorem phaseIn_modify {kind : Submission α → Bool} {change : Submission α → Submission α}
    (kind_change : ∀ submission, kind (change submission) = kind submission)
    {submissions : List (Submission α)} {task : Nat} {submission : Submission α}
    (found : submissions[task]? = some submission) (other : Nat) :
    phaseIn kind (submissions.modify task change) other =
      if other = task then if kind submission then (change submission).phase? else none
      else phaseIn kind submissions other := by
  unfold phaseIn
  by_cases eq : other = task
  · subst eq
    rw [List.getElem?_modify_eq, found]
    simp [kind_change]
  · rw [List.getElem?_modify_ne _ _ (Ne.symm eq), if_neg eq]

/-- Changing one entry of a row changes a count by what the entry counts. -/
theorem countP_modify (counts : Submission α → Bool) (change : Submission α → Submission α)
    {submissions : List (Submission α)} {task : Nat} {submission : Submission α}
    (found : submissions[task]? = some submission) :
    (submissions.modify task change).countP counts + (if counts submission then 1 else 0) =
      submissions.countP counts + if counts (change submission) then 1 else 0 := by
  induction submissions generalizing task with
  | nil => simp at found
  | cons first rest induction =>
      cases task with
      | zero =>
          simp only [List.getElem?_cons_zero, Option.some.injEq] at found
          subst found
          simp only [List.modify_zero_cons, List.countP_cons]
          omega
      | succ task =>
          simp only [List.getElem?_cons_succ] at found
          simp only [List.modify_succ_cons, List.countP_cons]
          have := induction found
          omega

end PoolCourse

namespace Submission

/-- What can have become of a task that was submitted to a pool of a kind. -/
structure Lawful (type : ExecutorType) (submission : Submission α) : Prop where
  /-- Its body has begun once at most. -/
  starts_le : submission.starts ≤ 1
  /-- It has ended once at most. -/
  ends_le : submission.ends.length ≤ 1
  /-- A refused task never runs. -/
  refused : ∀ error, submission.answer = .error error →
    submission.starts = 0 ∧ submission.ends = []
  /-- A dropped task never runs, and its handle says so. -/
  discarded : submission.answer = .ok .discarded →
    submission.starts = 0 ∧ submission.ends = [PoolCourse.dropped type]
  /-- A task that ends before its body began was aborted or found its pool shut down. -/
  unbegun : submission.answer ≠ .ok .discarded → submission.starts = 0 →
    ∀ result ∈ submission.ends,
      result = cancelled type ∨ result = .error (closedFault submission.label)

theorem phase?_eq_some_iff (submission : Submission α) (phase : TaskPhase) :
    submission.phase? = some phase ↔
      submission.ends = [] ∧ phase = if submission.starts = 0 then .waiting else .running := by
  unfold phase? hasEnded
  cases submission.ends <;> simp [eq_comm]

@[simp]
theorem phase?_ended (submission : Submission α) (result : Except Error α) :
    (submission.ended result).phase? = none := by
  simp [phase?, hasEnded, ended]

theorem waiting_iff (submission : Submission α) :
    submission.phase? = some .waiting ↔ submission.ends = [] ∧ submission.starts = 0 := by
  rw [phase?_eq_some_iff]
  by_cases none : submission.starts = 0 <;> simp [none]

theorem running_iff (submission : Submission α) :
    submission.phase? = some .running ↔ submission.ends = [] ∧ submission.starts ≠ 0 := by
  rw [phase?_eq_some_iff]
  by_cases none : submission.starts = 0 <;> simp [none]

/-- A task that waits runs once its body has begun. -/
theorem phase?_began {submission : Submission α} (waiting : submission.phase? = some .waiting) :
    submission.began.phase? = some .running := by
  obtain ⟨ends_eq, -⟩ := (waiting_iff submission).1 waiting
  exact (running_iff submission.began).2 ⟨ends_eq, Nat.succ_ne_zero _⟩

@[simp]
theorem isAdmitted_began (submission : Submission α) :
    submission.began.isAdmitted = submission.isAdmitted := rfl

/-- A task that has not ended is in flight when it was admitted. -/
theorem isInFlight_of_phase? {submission : Submission α} {phase : TaskPhase}
    (phase_eq : submission.phase? = some phase) :
    submission.isInFlight = submission.isAdmitted := by
  obtain ⟨ends_eq, -⟩ := (phase?_eq_some_iff submission phase).1 phase_eq
  simp [isInFlight, hasEnded, ends_eq]

theorem isRunning_of_waiting {submission : Submission α}
    (waiting : submission.phase? = some .waiting) : submission.isRunning = false := by
  simp [isRunning, ((waiting_iff submission).1 waiting).2]

theorem isRunning_of_running {submission : Submission α}
    (running : submission.phase? = some .running) :
    submission.isRunning = submission.isAdmitted := by
  rw [isRunning, isInFlight_of_phase? running]
  simp [((running_iff submission).1 running).2]

theorem hasRun_of_phase? {submission : Submission α} {phase : TaskPhase}
    (phase_eq : submission.phase? = some phase) : submission.hasRun = false := by
  obtain ⟨ends_eq, -⟩ := (phase?_eq_some_iff submission phase).1 phase_eq
  simp [hasRun, hasEnded, ends_eq]

@[simp]
theorem isInFlight_ended (submission : Submission α) (result : Except Error α) :
    (submission.ended result).isInFlight = false := by
  simp [isInFlight, hasEnded, ended]

@[simp]
theorem isRunning_ended (submission : Submission α) (result : Except Error α) :
    (submission.ended result).isRunning = false := by
  simp [isRunning]

@[simp]
theorem hasRun_ended (submission : Submission α) (result : Except Error α) :
    (submission.ended result).hasRun = decide (submission.starts ≠ 0) := by
  have ended_now : (submission.ended result).hasEnded = true := by simp [hasEnded, ended]
  rw [hasRun, ended_now, Bool.true_and]
  rfl

/-- A task that ends has run when its body was running. -/
theorem hasRun_ended_of_phase? {submission : Submission α} {phase : TaskPhase}
    {result : Except Error α} (phase_eq : submission.phase? = some phase) :
    (submission.ended result).hasRun = decide (phase = .running) := by
  rw [hasRun_ended]
  cases phase with
  | waiting => simp [((waiting_iff submission).1 phase_eq).2]
  | running => simp [((running_iff submission).1 phase_eq).2]

/-- A task is admitted or runs with its submitter, and not both. -/
theorem not_isGuest_of_isAdmitted {submission : Submission α}
    (admitted : submission.isAdmitted = true) : submission.isGuest = false := by
  unfold isAdmitted at admitted
  unfold isGuest
  split at admitted
  next answer_eq => rw [answer_eq]
  next => cases admitted

theorem not_isAdmitted_of_isGuest {submission : Submission α}
    (guest : submission.isGuest = true) : submission.isAdmitted = false := by
  cases admitted : submission.isAdmitted with
  | false => rfl
  | true =>
      rw [not_isGuest_of_isAdmitted admitted] at guest
      cases guest

/-- A waiting task gets going as the law has it. -/
theorem Lawful.began {type : ExecutorType} {submission : Submission α}
    (lawful : submission.Lawful type) (taken : submission.isAdmitted ∨ submission.isGuest)
    (waiting : submission.phase? = some .waiting) : submission.began.Lawful type := by
  obtain ⟨ends_eq, starts_eq⟩ := (waiting_iff submission).1 waiting
  refine ⟨by simp [Submission.began, starts_eq], lawful.ends_le, ?_, ?_, ?_⟩
  · intro error answer_eq
    change submission.answer = _ at answer_eq
    simp [isAdmitted, isGuest, answer_eq] at taken
  · intro answer_eq
    change submission.answer = _ at answer_eq
    simp [isAdmitted, isGuest, answer_eq] at taken
  · intro _ starts_zero
    simp [Submission.began] at starts_zero

/-- A task ends as the law has it. -/
theorem Lawful.ended {type : ExecutorType} {submission : Submission α} {phase : TaskPhase}
    {result : Except Error α} (lawful : submission.Lawful type)
    (taken : submission.isAdmitted ∨ submission.isGuest)
    (phase_eq : submission.phase? = some phase)
    (unbegun : submission.starts = 0 →
      result = cancelled type ∨ result = .error (closedFault submission.label)) :
    (submission.ended result).Lawful type := by
  obtain ⟨ends_eq, -⟩ := (phase?_eq_some_iff submission phase).1 phase_eq
  refine ⟨lawful.starts_le, by simp [Submission.ended, ends_eq], ?_, ?_, ?_⟩
  · intro error answer_eq
    change submission.answer = _ at answer_eq
    simp [isAdmitted, isGuest, answer_eq] at taken
  · intro answer_eq
    change submission.answer = _ at answer_eq
    simp [isAdmitted, isGuest, answer_eq] at taken
  · intro _ starts_zero other mem
    simp only [Submission.ended, ends_eq, List.nil_append, List.mem_singleton] at mem
    subst mem
    exact unbegun starts_zero

end Submission

namespace PoolCourse

/-- The books of a pool agree with what was submitted to it. -/
structure Sound (descriptor : PoolDescriptor) (course : PoolCourse α) : Prop where
  /-- The pool is what it was built from. -/
  descriptor_eq : course.pool.descriptor = descriptor
  /-- The pool knows what admitted tasks do. -/
  phase_eq : ∀ task,
    course.pool.phase? task = phaseIn Submission.isAdmitted course.submissions task
  /-- The pool knows what tasks do that run with their submitters. -/
  guestPhase_eq : ∀ task,
    course.pool.guestPhase? task = phaseIn Submission.isGuest course.submissions task
  /-- A permit is free, or with an admitted task that has not ended. -/
  permits_add :
    course.pool.permits + course.submissions.countP Submission.isInFlight = descriptor.capacity
  /-- A slot is free, or with an admitted task whose body runs. -/
  slots_add :
    course.pool.slots + course.submissions.countP Submission.isRunning = descriptor.max
  /-- The run times are those of the bodies that have ended. -/
  latency_eq : course.pool.latency.count = course.submissions.countP Submission.hasRun
  /-- Nothing has become of a task that cannot. -/
  lawful : ∀ submission ∈ course.submissions, submission.Lawful descriptor.type

variable {descriptor : PoolDescriptor} {course : PoolCourse α}

theorem sound_build (descriptor : PoolDescriptor) :
    (build descriptor : PoolCourse α).Sound descriptor where
  descriptor_eq := rfl
  phase_eq _ := rfl
  guestPhase_eq _ := rfl
  permits_add := rfl
  slots_add := rfl
  latency_eq := rfl
  lawful _ mem := absurd mem List.not_mem_nil

theorem Sound.type_eq (sound : course.Sound descriptor) : course.pool.type = descriptor.type := by
  rw [Pool.type, sound.descriptor_eq]

theorem Sound.lawful_modify (sound : course.Sound descriptor)
    {change : Submission α → Submission α} {task : Nat} {submission : Submission α}
    (found : course.submissions[task]? = some submission)
    (changed : (change submission).Lawful descriptor.type) :
    ∀ other ∈ course.submissions.modify task change, other.Lawful descriptor.type := by
  intro other mem
  obtain ⟨place, other_eq⟩ := List.mem_iff_getElem?.1 mem
  rw [List.getElem?_modify, Option.map_eq_map, Option.map_eq_some_iff] at other_eq
  obtain ⟨before, before_eq, rfl⟩ := other_eq
  split
  next eq =>
    subst eq
    rw [found] at before_eq
    cases before_eq
    exact changed
  next => exact sound.lawful before (List.mem_of_getElem? before_eq)

/-- A task is added to the books. -/
theorem Sound.append (sound : course.Sound descriptor) {submission : Submission α} {pool : Pool}
    (lawful : submission.Lawful descriptor.type) (descriptor_eq : pool.descriptor = descriptor)
    (phase_eq : ∀ task, pool.phase? task =
      if task = course.submissions.length then
        if submission.isAdmitted then submission.phase? else none
      else course.pool.phase? task)
    (guestPhase_eq : ∀ task, pool.guestPhase? task =
      if task = course.submissions.length then
        if submission.isGuest then submission.phase? else none
      else course.pool.guestPhase? task)
    (permits_eq : pool.permits + (if submission.isInFlight then 1 else 0) = course.pool.permits)
    (slots_eq : pool.slots = course.pool.slots) (latency_eq : pool.latency = course.pool.latency)
    (unbegun : submission.starts = 0) :
    Sound descriptor ⟨pool, course.submissions ++ [submission]⟩ where
  descriptor_eq := descriptor_eq
  phase_eq task := by
    rw [phase_eq, phaseIn_append, sound.phase_eq]
  guestPhase_eq task := by
    rw [guestPhase_eq, phaseIn_append, sound.guestPhase_eq]
  permits_add := by
    have := sound.permits_add
    simp only [List.countP_append, List.countP_singleton]
    omega
  slots_add := by
    have := sound.slots_add
    simp [Submission.isRunning, unbegun, slots_eq, this]
  latency_eq := by
    simp [Submission.hasRun, unbegun, latency_eq, sound.latency_eq]
  lawful other mem := by
    rcases List.mem_append.1 mem with old | new
    · exact sound.lawful other old
    · rw [List.mem_singleton.1 new]
      exact lawful

theorem Sound.fresh (sound : course.Sound descriptor) :
    course.pool.phase? course.submissions.length = none ∧
      course.pool.guestPhase? course.submissions.length = none := by
  rw [sound.phase_eq, sound.guestPhase_eq]
  simp [phaseIn]

/-- Books that leave out a number look the same with nothing under it. -/
theorem lookup_eq_ite_of_fresh {tasks : List (Nat × TaskPhase)} {number : Nat}
    (fresh : tasks.lookup number = none) (task : Nat) :
    tasks.lookup task = if task = number then none else tasks.lookup task := by
  split
  next eq => rw [eq, fresh]
  next => rfl

theorem lookup_append_fresh {tasks : List (Nat × TaskPhase)} {number : Nat}
    (fresh : tasks.lookup number = none) (phase : TaskPhase) (task : Nat) :
    (tasks ++ [(number, phase)]).lookup task =
      if task = number then some phase else tasks.lookup task := by
  rw [List.lookup_append, Pool.lookup_cons_eq_ite]
  split
  next eq => rw [eq, fresh, Option.none_or]
  next => simp

/-- A task that the pool turns down is added to the books. -/
theorem Sound.append_refused (sound : course.Sound descriptor) (label : String) (error : Error) :
    Sound descriptor ⟨course.pool, course.submissions ++ [⟨label, .error error, 0, []⟩]⟩ := by
  obtain ⟨fresh, guestFresh⟩ := sound.fresh
  have lawful : (⟨label, .error error, 0, []⟩ : Submission α).Lawful descriptor.type :=
    ⟨Nat.zero_le 1, Nat.zero_le 1, fun _ _ => ⟨rfl, rfl⟩, nofun, fun _ _ _ => nofun⟩
  exact sound.append lawful sound.descriptor_eq (lookup_eq_ite_of_fresh fresh)
    (lookup_eq_ite_of_fresh guestFresh) rfl rfl rfl rfl

/-- A task that the pool drops is added to the books. -/
theorem Sound.append_discarded (sound : course.Sound descriptor) (label : String) :
    Sound descriptor ⟨course.pool,
      course.submissions ++ [⟨label, .ok .discarded, 0, [dropped course.pool.type]⟩]⟩ := by
  obtain ⟨fresh, guestFresh⟩ := sound.fresh
  have lawful : (⟨label, .ok .discarded, 0, [dropped course.pool.type]⟩ : Submission α).Lawful
      descriptor.type :=
    ⟨Nat.zero_le 1, Nat.le_refl 1, nofun, fun _ => ⟨rfl, by rw [sound.type_eq]⟩,
      fun notDiscarded => absurd rfl notDiscarded⟩
  exact sound.append lawful sound.descriptor_eq (lookup_eq_ite_of_fresh fresh)
    (lookup_eq_ite_of_fresh guestFresh) rfl rfl rfl rfl

/-- A task that has only been taken is lawful. -/
theorem lawful_taken (type : ExecutorType) (label : String) {admission : Admission}
    (taken : admission ≠ .discarded) :
    (⟨label, .ok admission, 0, []⟩ : Submission α).Lawful type :=
  ⟨Nat.zero_le 1, Nat.zero_le 1, nofun, fun answer_eq => absurd (Except.ok.inj answer_eq) taken,
    fun _ _ _ => nofun⟩

/-- A task that runs with its submitter is added to the books. -/
theorem Sound.append_guest (sound : course.Sound descriptor) (label : String) :
    Sound descriptor
      ⟨{ course.pool with
          guests := course.pool.guests ++ [(course.submissions.length, .waiting)] },
        course.submissions ++ [⟨label, .ok .byCaller, 0, []⟩]⟩ := by
  obtain ⟨fresh, guestFresh⟩ := sound.fresh
  exact sound.append (lawful_taken descriptor.type label nofun) sound.descriptor_eq
    (lookup_eq_ite_of_fresh fresh) (lookup_append_fresh guestFresh .waiting) rfl rfl rfl rfl

/-- A task that the pool takes is added to the books. -/
theorem Sound.append_admitted (sound : course.Sound descriptor) (label : String)
    (room : 0 < course.pool.permits) :
    Sound descriptor
      ⟨{ course.pool with
          permits := course.pool.permits - 1
          tasks := course.pool.tasks ++ [(course.submissions.length, .waiting)] },
        course.submissions ++ [⟨label, .ok .admitted, 0, []⟩]⟩ := by
  obtain ⟨fresh, guestFresh⟩ := sound.fresh
  exact sound.append (lawful_taken descriptor.type label nofun) sound.descriptor_eq
    (lookup_append_fresh fresh .waiting) (lookup_eq_ite_of_fresh guestFresh)
    (Nat.sub_add_cancel room) rfl rfl rfl

/-- A pool that is shut down turns every task down. -/
theorem spawn_of_shut (course : PoolCourse α) (label : String) (callerCanRun : Bool)
    (shut : course.pool.isShut = true) :
    course.spawn label callerCanRun =
      ⟨course.pool, course.submissions ++
        [⟨label, .error (.rejected course.pool.type shutReason), 0, []⟩]⟩ := by
  simp [spawn, Pool.spawn, shut, Pool.refusal]

/-- A pool with a free permit takes the task. -/
theorem spawn_of_room (course : PoolCourse α) (label : String) (callerCanRun : Bool)
    (alive : course.pool.isShut = false) (room : 0 < course.pool.permits) :
    course.spawn label callerCanRun =
      ⟨{ course.pool with
          permits := course.pool.permits - 1
          tasks := course.pool.tasks ++ [(course.submissions.length, .waiting)] },
        course.submissions ++ [⟨label, .ok .admitted, 0, []⟩]⟩ := by
  simp [spawn, Pool.spawn, alive, Nat.ne_of_gt room]

/-- A pool without a free permit does what its policy says. -/
theorem spawn_of_full (course : PoolCourse α) (label : String) (callerCanRun : Bool)
    (alive : course.pool.isShut = false) (full : course.pool.permits = 0) :
    course.spawn label callerCanRun =
      match course.pool.descriptor.rejection, callerCanRun with
      | .abort, _ =>
        ⟨course.pool, course.submissions ++
          [⟨label, .error (.rejected course.pool.type saturatedReason), 0, []⟩]⟩
      | .discard, _ =>
        ⟨course.pool, course.submissions ++
          [⟨label, .ok .discarded, 0, [dropped course.pool.type]⟩]⟩
      | .callerRuns, true =>
        ⟨{ course.pool with
            guests := course.pool.guests ++ [(course.submissions.length, .waiting)] },
          course.submissions ++ [⟨label, .ok .byCaller, 0, []⟩]⟩
      | .callerRuns, false =>
        ⟨course.pool, course.submissions ++
          [⟨label, .error (.rejected course.pool.type noCallerReason), 0, []⟩]⟩ := by
  cases policy : course.pool.descriptor.rejection <;> cases callerCanRun <;>
    simp [spawn, Pool.spawn, Pool.reject, alive, full, policy, Pool.refusal]

theorem Sound.spawn (sound : course.Sound descriptor) (label : String) (callerCanRun : Bool) :
    (course.spawn label callerCanRun).Sound descriptor := by
  cases shut : course.pool.isShut with
  | true =>
      rw [spawn_of_shut course label callerCanRun shut]
      exact sound.append_refused label _
  | false =>
      rcases Nat.eq_zero_or_pos course.pool.permits with full | room
      · rw [spawn_of_full course label callerCanRun shut full]
        split
        · exact sound.append_refused label _
        · exact sound.append_discarded label
        · exact sound.append_guest label
        · exact sound.append_refused label _
      · rw [spawn_of_room course label callerCanRun shut room]
        exact sound.append_admitted label room

/-- The books follow a task that changes. -/
theorem Sound.modify (sound : course.Sound descriptor) (change : Submission α → Submission α)
    (answer_eq : ∀ submission, (change submission).answer = submission.answer) {task : Nat}
    {submission : Submission α} (found : course.submissions[task]? = some submission) {pool : Pool}
    (lawful : (change submission).Lawful descriptor.type)
    (descriptor_eq : pool.descriptor = course.pool.descriptor)
    (phase_eq : ∀ other, pool.phase? other =
      if other = task then if submission.isAdmitted then (change submission).phase? else none
      else course.pool.phase? other)
    (guestPhase_eq : ∀ other, pool.guestPhase? other =
      if other = task then if submission.isGuest then (change submission).phase? else none
      else course.pool.guestPhase? other)
    (permits_eq : pool.permits + (if (change submission).isInFlight then 1 else 0) =
      course.pool.permits + if submission.isInFlight then 1 else 0)
    (slots_eq : pool.slots + (if (change submission).isRunning then 1 else 0) =
      course.pool.slots + if submission.isRunning then 1 else 0)
    (latency_eq : pool.latency.count + (if submission.hasRun then 1 else 0) =
      course.pool.latency.count + if (change submission).hasRun then 1 else 0) :
    (course.update pool task change).Sound descriptor where
  descriptor_eq := descriptor_eq.trans sound.descriptor_eq
  phase_eq other := by
    have kind (submission : Submission α) :
        (change submission).isAdmitted = submission.isAdmitted := by
      rw [Submission.isAdmitted, Submission.isAdmitted, answer_eq]
    simp only [update]
    rw [phaseIn_modify kind found, ← sound.phase_eq, phase_eq]
  guestPhase_eq other := by
    have kind (submission : Submission α) : (change submission).isGuest = submission.isGuest := by
      rw [Submission.isGuest, Submission.isGuest, answer_eq]
    simp only [update]
    rw [phaseIn_modify kind found, ← sound.guestPhase_eq, guestPhase_eq]
  permits_add := by
    have counted := countP_modify Submission.isInFlight change found
    have := sound.permits_add
    simp only [update]
    omega
  slots_add := by
    have counted := countP_modify Submission.isRunning change found
    have := sound.slots_add
    simp only [update]
    omega
  latency_eq := by
    have counted := countP_modify Submission.hasRun change found
    have := sound.latency_eq
    simp only [update]
    omega
  lawful := sound.lawful_modify found lawful

/-- A task that the pool knows, with its submission. -/
theorem Sound.exists_admitted (sound : course.Sound descriptor) {task : Nat} {phase : TaskPhase}
    (known : course.pool.phase? task = some phase) :
    ∃ submission, course.submissions[task]? = some submission ∧ submission.isAdmitted = true ∧
      submission.isGuest = false ∧ submission.phase? = some phase ∧
      course.pool.guestPhase? task = none := by
  rw [sound.phase_eq] at known
  obtain ⟨submission, found, admitted, phase_eq⟩ := exists_of_phaseIn known
  have notGuest := Submission.not_isGuest_of_isAdmitted admitted
  refine ⟨submission, found, admitted, notGuest, phase_eq, ?_⟩
  rw [sound.guestPhase_eq, phaseIn_of_getElem? found, notGuest]
  rfl

/-- A task that runs with its submitter, with its submission. -/
theorem Sound.exists_guest (sound : course.Sound descriptor) {task : Nat} {phase : TaskPhase}
    (known : course.pool.guestPhase? task = some phase) :
    ∃ submission, course.submissions[task]? = some submission ∧ submission.isAdmitted = false ∧
      submission.isGuest = true ∧ submission.phase? = some phase ∧
      course.pool.phase? task = none := by
  have guest := known
  rw [sound.guestPhase_eq] at guest
  obtain ⟨submission, found, isGuest, phase_eq⟩ := exists_of_phaseIn guest
  have notAdmitted := Submission.not_isAdmitted_of_isGuest isGuest
  refine ⟨submission, found, notAdmitted, isGuest, phase_eq, ?_⟩
  rw [sound.phase_eq, phaseIn_of_getElem? found, notAdmitted]
  rfl

/-- A waiting task gets going: an admitted one takes a slot. -/
theorem Sound.start (sound : course.Sound descriptor) (task : Nat) :
    (course.start task).Sound descriptor := by
  unfold PoolCourse.start
  split
  next => exact sound
  next after started =>
    rcases Pool.start_cases started with ⟨-, room, known, rfl⟩ | ⟨known, rfl⟩
    -- An admitted task: one slot goes from the free ones to the task.
    · obtain ⟨submission, found, admitted, notGuest, waiting, guest_none⟩ :=
        sound.exists_admitted known
      have running := Submission.phase?_began waiting
      have lawful := (sound.lawful submission (List.mem_of_getElem? found)).began
        (.inl admitted) waiting
      refine sound.modify .began (fun _ => rfl) found lawful rfl ?_ ?_ ?_ ?_ ?_
      · intro other
        rw [running, if_pos admitted, Pool.phase?, Pool.lookup_setPhase, ← Pool.phase?, known]
        rfl
      · intro other
        rw [notGuest]
        exact lookup_eq_ite_of_fresh guest_none other
      · rw [Submission.isInFlight_of_phase? running, Submission.isInFlight_of_phase? waiting,
          Submission.isAdmitted_began]
      · rw [Submission.isRunning_of_running running, Submission.isRunning_of_waiting waiting,
          Submission.isAdmitted_began, admitted]
        exact Nat.sub_add_cancel room
      · rw [Submission.hasRun_of_phase? running, Submission.hasRun_of_phase? waiting]
    -- A task of a submitter: permits and slots stay where they are.
    · obtain ⟨submission, found, notAdmitted, guest, waiting, phase_none⟩ :=
        sound.exists_guest known
      have running := Submission.phase?_began waiting
      have lawful := (sound.lawful submission (List.mem_of_getElem? found)).began
        (.inr guest) waiting
      refine sound.modify .began (fun _ => rfl) found lawful rfl ?_ ?_ ?_ ?_ ?_
      · intro other
        rw [notAdmitted]
        exact lookup_eq_ite_of_fresh phase_none other
      · intro other
        rw [running, if_pos guest, Pool.guestPhase?, Pool.lookup_setPhase, ← Pool.guestPhase?,
          known]
        rfl
      · rw [Submission.isInFlight_of_phase? running, Submission.isInFlight_of_phase? waiting,
          Submission.isAdmitted_began]
      · rw [Submission.isRunning_of_running running, Submission.isRunning_of_waiting waiting,
          Submission.isAdmitted_began, notAdmitted]
      · rw [Submission.hasRun_of_phase? running, Submission.hasRun_of_phase? waiting]

/-- An admitted task ends, and gives back what it has. -/
theorem Sound.end_admitted (sound : course.Sound descriptor) {task : Nat} {phase : TaskPhase}
    (known : course.pool.phase? task = some phase) {result : Except Error α}
    (unbegun : ∀ submission, course.submissions[task]? = some submission →
      submission.starts = 0 →
        result = cancelled descriptor.type ∨ result = .error (closedFault submission.label))
    {pool : Pool} (descriptor_eq : pool.descriptor = course.pool.descriptor)
    (permits_eq : pool.permits = course.pool.permits + 1)
    (slots_eq : pool.slots = course.pool.slots + if phase = .running then 1 else 0)
    (tasks_eq : pool.tasks = Pool.forget task course.pool.tasks)
    (guests_eq : pool.guests = course.pool.guests)
    (latency_eq : pool.latency.count =
      course.pool.latency.count + if phase = .running then 1 else 0) :
    (course.update pool task (.ended result)).Sound descriptor := by
  obtain ⟨submission, found, admitted, notGuest, phase_eq, guest_none⟩ :=
    sound.exists_admitted known
  have lawful := (sound.lawful submission (List.mem_of_getElem? found)).ended
    (.inl admitted) phase_eq (unbegun submission found)
  refine sound.modify (.ended result) (fun _ => rfl) found lawful descriptor_eq ?_ ?_ ?_ ?_ ?_
  · intro other
    rw [Submission.phase?_ended, ite_self, Pool.phase?, tasks_eq, Pool.lookup_forget]
    rfl
  · intro other
    rw [notGuest, Pool.guestPhase?, guests_eq]
    exact lookup_eq_ite_of_fresh guest_none other
  · rw [Submission.isInFlight_ended, Submission.isInFlight_of_phase? phase_eq, admitted,
      permits_eq]
    rfl
  · rw [Submission.isRunning_ended, slots_eq]
    cases phase with
    | waiting => rw [Submission.isRunning_of_waiting phase_eq]; rfl
    | running => rw [Submission.isRunning_of_running phase_eq, admitted]; rfl
  · rw [Submission.hasRun_ended_of_phase? phase_eq, Submission.hasRun_of_phase? phase_eq,
      latency_eq]
    simp

/-- A task that runs with its submitter ends. -/
theorem Sound.end_guest (sound : course.Sound descriptor) {task : Nat} {phase : TaskPhase}
    (known : course.pool.guestPhase? task = some phase) {result : Except Error α}
    (unbegun : ∀ submission, course.submissions[task]? = some submission →
      submission.starts = 0 →
        result = cancelled descriptor.type ∨ result = .error (closedFault submission.label))
    {pool : Pool} (descriptor_eq : pool.descriptor = course.pool.descriptor)
    (permits_eq : pool.permits = course.pool.permits)
    (slots_eq : pool.slots = course.pool.slots)
    (tasks_eq : pool.tasks = course.pool.tasks)
    (guests_eq : pool.guests = Pool.forget task course.pool.guests)
    (latency_eq : pool.latency.count =
      course.pool.latency.count + if phase = .running then 1 else 0) :
    (course.update pool task (.ended result)).Sound descriptor := by
  obtain ⟨submission, found, notAdmitted, guest, phase_eq, phase_none⟩ := sound.exists_guest known
  have lawful := (sound.lawful submission (List.mem_of_getElem? found)).ended
    (.inr guest) phase_eq (unbegun submission found)
  have notInFlight : submission.isInFlight = false := by
    rw [Submission.isInFlight_of_phase? phase_eq, notAdmitted]
  refine sound.modify (.ended result) (fun _ => rfl) found lawful descriptor_eq ?_ ?_ ?_ ?_ ?_
  · intro other
    rw [notAdmitted, Pool.phase?, tasks_eq]
    exact lookup_eq_ite_of_fresh phase_none other
  · intro other
    rw [Submission.phase?_ended, ite_self, Pool.guestPhase?, guests_eq, Pool.lookup_forget]
    rfl
  · rw [Submission.isInFlight_ended, notInFlight, permits_eq]
  · rw [Submission.isRunning_ended, Submission.isRunning, notInFlight, slots_eq, Bool.false_and]
  · rw [Submission.hasRun_ended_of_phase? phase_eq, Submission.hasRun_of_phase? phase_eq,
      latency_eq]
    simp

/-- The body of a task that runs has begun. -/
theorem Sound.begun_of_running (sound : course.Sound descriptor) {task : Nat}
    (known : course.pool.phase? task = some .running ∨
      course.pool.guestPhase? task = some .running)
    {submission : Submission α} (found : course.submissions[task]? = some submission) :
    submission.starts ≠ 0 := by
  have running : submission.phase? = some .running := by
    rcases known with admitted | guest
    · obtain ⟨other, other_found, -, -, running, -⟩ := sound.exists_admitted admitted
      rw [found] at other_found
      cases other_found
      exact running
    · obtain ⟨other, other_found, -, -, running, -⟩ := sound.exists_guest guest
      rw [found] at other_found
      cases other_found
      exact running
  exact ((Submission.running_iff submission).1 running).2

/-- A body ends. -/
theorem Sound.end_body (sound : course.Sound descriptor) {task : Nat} {elapsed : Duration}
    {after : Pool} (finished : course.pool.finish task elapsed = some after)
    (result : Except Error α) :
    (course.update after task (.ended result)).Sound descriptor := by
  rcases Pool.finish_cases finished with ⟨known, rfl⟩ | ⟨known, rfl⟩
  · refine sound.end_admitted known ?_ rfl rfl rfl rfl rfl rfl
    intro submission found unbegun
    exact absurd unbegun (sound.begun_of_running (.inl known) found)
  · refine sound.end_guest known ?_ rfl rfl rfl rfl rfl rfl
    intro submission found unbegun
    exact absurd unbegun (sound.begun_of_running (.inr known) found)

/-- A task ends before or during its run. -/
theorem Sound.end_task (sound : course.Sound descriptor) {task : Nat} {elapsed : Duration}
    {after : Pool} (aborted : course.pool.abort task elapsed = some after)
    {result : Except Error α}
    (unbegun : ∀ submission, course.submissions[task]? = some submission →
      submission.starts = 0 →
        result = cancelled descriptor.type ∨ result = .error (closedFault submission.label)) :
    (course.update after task (.ended result)).Sound descriptor := by
  rcases Pool.abort_cases aborted with ⟨known, rfl⟩ | ⟨known, rfl⟩ | finished
  · exact sound.end_admitted known unbegun rfl rfl rfl rfl rfl rfl
  · exact sound.end_guest known unbegun rfl rfl rfl rfl rfl rfl
  · exact sound.end_body finished result

theorem Sound.finish (sound : course.Sound descriptor) (task : Nat) (ending : Ending α)
    (elapsed : Duration) : (course.finish task ending elapsed).Sound descriptor := by
  unfold PoolCourse.finish
  split
  next => exact sound
  next finished => exact sound.end_body finished _

theorem Sound.abort (sound : course.Sound descriptor) (elapsed : Duration) (task : Nat) :
    (course.abort elapsed task).Sound descriptor := by
  unfold PoolCourse.abort
  split
  next => exact sound
  next after aborted =>
    have type_eq : after.type = descriptor.type := by
      rw [Pool.type, (Pool.frame_of_abort aborted).1, sound.descriptor_eq]
    exact sound.end_task aborted fun _ _ _ => .inl (by rw [type_eq])

theorem Sound.turnAway (sound : course.Sound descriptor) (task : Nat) :
    (course.turnAway task).Sound descriptor := by
  unfold PoolCourse.turnAway
  split
  next =>
    split
    next after submission aborted found =>
      refine sound.end_task aborted ?_
      intro other other_found _
      rw [found] at other_found
      cases other_found
      exact .inr rfl
    next => exact sound
  next => exact sound

theorem Sound.close (sound : course.Sound descriptor) : course.close.Sound descriptor where
  descriptor_eq := sound.descriptor_eq
  phase_eq := sound.phase_eq
  guestPhase_eq := sound.guestPhase_eq
  permits_add := sound.permits_add
  slots_add := sound.slots_add
  latency_eq := sound.latency_eq
  lawful := sound.lawful

theorem Sound.abort_all (sound : course.Sound descriptor) (elapsed : Duration) (tasks : List Nat) :
    (tasks.foldl (PoolCourse.abort · elapsed) course).Sound descriptor := by
  induction tasks generalizing course with
  | nil => exact sound
  | cons task rest induction => exact induction (sound.abort elapsed task)

theorem Sound.step (sound : course.Sound descriptor) (event : PoolEvent α) :
    (course.step event).Sound descriptor := by
  cases event with
  | spawn label callerCanRun => exact sound.spawn label callerCanRun
  | start task => exact sound.start task
  | finish task ending elapsed => exact sound.finish task ending elapsed
  | abort task elapsed => exact sound.abort elapsed task
  | turnAway task => exact sound.turnAway task
  | close => exact sound.close
  | shutdown elapsed => exact sound.close.abort_all elapsed _

theorem Sound.steps (sound : course.Sound descriptor) (events : List (PoolEvent α)) :
    (events.foldl PoolCourse.step course).Sound descriptor := by
  induction events generalizing course with
  | nil => exact sound
  | cons event rest induction => exact induction (sound.step event)

/-- The books of a pool agree with what was submitted to it, whatever has happened. -/
theorem sound_run (descriptor : PoolDescriptor) (events : List (PoolEvent α)) :
    (run descriptor events).Sound descriptor :=
  (sound_build descriptor).steps events

end PoolCourse
end ClusterMember
