import ClusterMember.Lifecycle.Idle

/-!
# Idle loops hear of every stop

Everyone who stops a node sets the flag before sending the wake.  So a wake that is used up before
the flag is seen leaves the loop with a look at the flag to come, and a wake that comes later ends
the sleep or is kept for it.  Once someone is done, the loop never sleeps without a wake, falls
asleep at most once more, and is left by steps of its own.
-/

namespace ClusterMember

namespace IdlePhase

/-- How many steps a loop has to take until it is left, when the node is to stop. -/
def ahead : IdlePhase → Nat
  | .tired => 3
  | .sleeping _ => 2
  | .looking => 1
  | .left => 0

/-- How often a loop falls asleep until it is left, when the node is to stop. -/
def sleepsAhead : IdlePhase → Nat
  | .tired => 1
  | _ => 0

theorem eq_left_of_ahead_eq_zero {phase : IdlePhase} (none_ahead : phase.ahead = 0) :
    phase = .left := by
  cases phase <;> first | rfl | cases none_ahead

theorem ahead_le_three (phase : IdlePhase) : phase.ahead ≤ 3 := by
  cases phase <;> simp [ahead]

theorem sleepsAhead_le_one (phase : IdlePhase) : phase.sleepsAhead ≤ 1 := by
  cases phase <;> simp [sleepsAhead]

end IdlePhase

namespace Idle

/-- Someone who stops the node has set the flag and sent the wake. -/
def IsRequested (idle : Idle) : Prop := ∃ request, (request, .done) ∈ idle.stoppers

/-! ## Events -/

/-- All that an event can do to an idle loop and those who stop it. -/
inductive Takes (idle : Idle) : IdleEvent → Idle → Prop where
  | looked (phase_eq : idle.phase = .looking) :
      Takes idle .look
        { idle with phase := if idle.control.flags.stopped then .left else .tired }
  | fellAsleep (phase_eq : idle.phase = .tired) : Takes idle .fallAsleep idle.fallAsleep
  | awoke (phase_eq : idle.phase = .sleeping true) :
      Takes idle .awake { idle with phase := .looking }
  | sleptOut (phase_eq : idle.phase = .sleeping false) :
      Takes idle .periodOver { idle with phase := .looking }
  /-- The period ends first, and the wake that has reached the sleep is kept for the next one. -/
  | gaveBack (phase_eq : idle.phase = .sleeping true) :
      Takes idle .periodOver { idle with phase := .looking, control := idle.control.wake }
  | admitted (number : Nat) :
      Takes idle (.stopper number)
        ({ idle with isTornDown := true }.setStopper number (.tearDown, .admitted))
  | turnedAway (number : Nat) :
      Takes idle (.stopper number) (idle.setStopper number (.tearDown, .turnedAway))
  | flagSet (number : Nat) (request : StopRequest) :
      Takes idle (.stopper number)
        ({ idle with control := setFlag idle.control request }.setStopper number
          (request, .flagSet))
  | done (number : Nat) {request : StopRequest} (before : (request, .flagSet) ∈ idle.stoppers) :
      Takes idle (.stopper number) (idle.wake.setStopper number (request, .done))
  | woke : Takes idle .wake idle.wake

theorem takes_stepStopper {idle after : Idle} {number : Nat} {stopper : StopRequest × StopPhase}
    (there : idle.stoppers[number]? = some stopper)
    (stepped : idle.stepStopper number stopper = some after) :
    idle.Takes (.stopper number) after := by
  obtain ⟨request, phase⟩ := stopper
  cases phase with
  | begun =>
      cases request with
      | tearDown =>
          cases stepped
          split
          next => exact .turnedAway number
          next => exact .admitted number
      | stop => cases stepped; exact .flagSet number _
      | abort reason => cases stepped; exact .flagSet number _
  | admitted => cases request <;> cases stepped <;> exact .flagSet number _
  | flagSet =>
      have before := List.mem_of_getElem? there
      cases request <;> cases stepped <;> exact .done number before
  | done | turnedAway => cases request <;> cases stepped

theorem takes_step {idle after : Idle} {event : IdleEvent}
    (happened : idle.step event = some after) : idle.Takes event after := by
  cases event with
  | look =>
      obtain ⟨phase_eq, eq⟩ := Option.ite_none_right_eq_some.1 happened
      cases eq
      exact .looked phase_eq
  | fallAsleep =>
      obtain ⟨phase_eq, eq⟩ := Option.ite_none_right_eq_some.1 happened
      cases eq
      exact .fellAsleep phase_eq
  | awake =>
      obtain ⟨phase_eq, eq⟩ := Option.ite_none_right_eq_some.1 happened
      cases eq
      exact .awoke phase_eq
  | periodOver =>
      simp only [step] at happened
      split at happened
      next phase_eq => cases happened; exact .sleptOut phase_eq
      next phase_eq => cases happened; exact .gaveBack phase_eq
      next => cases happened
  | stopper number =>
      obtain ⟨stopper, there, stepped⟩ := Option.bind_eq_some_iff.1 happened
      exact takes_stepStopper there stepped
  | wake => cases happened; exact .woke

/-- What holds at first and is kept by all that can happen holds after every row of events. -/
theorem run_induction {motive : Idle → Prop} {idle : Idle} (start : motive idle)
    (step : ∀ {before after : Idle} {event : IdleEvent}, before.Takes event after →
      motive before → motive after) (events : List IdleEvent) : motive (idle.run events) := by
  induction events generalizing idle with
  | nil => exact start
  | cons event rest induction =>
      rw [run, List.foldl_cons]
      cases happened : idle.step event with
      | none => exact induction start
      | some after => exact induction (step (takes_step happened) start)

/-! ## Hearing -/

/-- The node is to stop, and the loop does not wait for anyone to say so. -/
structure Heard (idle : Idle) : Prop where
  stopped : idle.control.flags.stopped = true
  not_blocked : idle.phase ≠ .sleeping false
  /-- A loop that is about to sleep will find a wake. -/
  kept : idle.phase = .tired → idle.control.isWakePending = true

theorem stopped_setFlag (control : Control) (request : StopRequest) :
    (setFlag control request).flags.stopped = true := by
  cases request <;> rfl

theorem isWakePending_setFlag (control : Control) (request : StopRequest) :
    (setFlag control request).isWakePending = control.isWakePending := by
  cases request <;> rfl

theorem flags_wake (idle : Idle) : idle.wake.control.flags = idle.control.flags := by
  unfold wake
  split <;> rfl

theorem stoppers_wake (idle : Idle) : idle.wake.stoppers = idle.stoppers := by
  unfold wake
  split <;> rfl

/-- A wake is heard when the flag was set before. -/
theorem heard_wake {idle : Idle} (stopped : idle.control.flags.stopped = true) :
    idle.wake.Heard := by
  unfold wake
  split
  next => exact ⟨stopped, nofun, nofun⟩
  next not_blocked => exact ⟨stopped, not_blocked, fun _ => rfl⟩

theorem wake_of_not_blocked {idle : Idle} (not_blocked : idle.phase ≠ .sleeping false) :
    idle.wake = { idle with control := idle.control.wake } := by
  unfold wake
  split
  next blocked => exact absurd blocked not_blocked
  next => rfl

/-- What becomes of a loop that has heard. -/
structure Hurries (before after : Idle) : Prop where
  heard : after.Heard
  ahead_le : after.phase.ahead ≤ before.phase.ahead
  sleeps_le : after.sleeps + after.phase.sleepsAhead ≤ before.sleeps + before.phase.sleepsAhead

theorem Heard.hurries {before after : Idle} {event : IdleEvent} (heard : before.Heard)
    (takes : before.Takes event after) : before.Hurries after := by
  have ⟨stopped, not_blocked, kept⟩ := heard
  cases takes with
  | looked phase_eq =>
      simp only [stopped, if_true]
      refine ⟨⟨stopped, nofun, nofun⟩, Nat.zero_le _, ?_⟩
      simp [IdlePhase.sleepsAhead]
  | fellAsleep phase_eq =>
      have pending := kept phase_eq
      refine ⟨⟨stopped, ?_, nofun⟩, ?_, ?_⟩
      · simp [fallAsleep, Control.sleep, pending]
      · simp [fallAsleep, phase_eq, IdlePhase.ahead]
      · simp [fallAsleep, phase_eq, IdlePhase.sleepsAhead]
  | awoke phase_eq =>
      refine ⟨⟨stopped, nofun, nofun⟩, ?_, ?_⟩
      · simp [phase_eq, IdlePhase.ahead]
      · simp [phase_eq, IdlePhase.sleepsAhead]
  | sleptOut phase_eq => exact absurd phase_eq not_blocked
  | gaveBack phase_eq =>
      refine ⟨⟨stopped, nofun, nofun⟩, ?_, ?_⟩
      · simp [phase_eq, IdlePhase.ahead]
      · simp [phase_eq, IdlePhase.sleepsAhead]
  | admitted | turnedAway => exact ⟨⟨stopped, not_blocked, kept⟩, Nat.le_refl _, Nat.le_refl _⟩
  | flagSet number request =>
      refine ⟨⟨stopped_setFlag _ request, not_blocked, fun tired => ?_⟩, Nat.le_refl _,
        Nat.le_refl _⟩
      rw [setStopper, isWakePending_setFlag]
      exact kept tired
  | done | woke =>
      rw [wake_of_not_blocked not_blocked]
      exact ⟨⟨stopped, not_blocked, fun _ => rfl⟩, Nat.le_refl _, Nat.le_refl _⟩

theorem Heard.run {idle : Idle} (heard : idle.Heard) (events : List IdleEvent) :
    idle.Hurries (idle.run events) := by
  refine run_induction (motive := idle.Hurries) ⟨heard, Nat.le_refl _, Nat.le_refl _⟩ ?_ events
  intro before after event takes hurries
  have next := hurries.heard.hurries takes
  exact ⟨next.heard, Nat.le_trans next.ahead_le hurries.ahead_le,
    Nat.le_trans next.sleeps_le hurries.sleeps_le⟩

/-! ## Leaving -/

theorem run_append (idle : Idle) (earlier later : List IdleEvent) :
    idle.run (earlier ++ later) = (idle.run earlier).run later :=
  List.foldl_append

/-- A loop that has heard gets on by an event of its own, whatever happens before and after it. -/
theorem Heard.ahead_run {idle : Idle} (heard : idle.Heard) {own : IdleEvent} {limit : Nat}
    (gets_on : ∀ {before : Idle}, before.Heard → before.phase.ahead ≤ limit + 1 →
      ((before.step own).getD before).phase.ahead ≤ limit)
    {events : List IdleEvent} (mem : own ∈ events) (near : idle.phase.ahead ≤ limit + 1) :
    (idle.run events).phase.ahead ≤ limit := by
  obtain ⟨earlier, later, rfl⟩ := List.append_of_mem mem
  have waits := heard.run earlier
  have near := gets_on waits.heard (Nat.le_trans waits.ahead_le near)
  have hurries := (waits.heard.run [own]).heard.run later
  rw [run_append, ← List.singleton_append, run_append]
  exact Nat.le_trans hurries.ahead_le near

theorem ahead_fallAsleep (idle : Idle) :
    ((idle.step .fallAsleep).getD idle).phase.ahead ≤ 2 := by
  simp only [step]
  split
  next => exact Nat.le_refl 2
  next awake => cases phase_eq : idle.phase <;> simp_all [IdlePhase.ahead]

theorem ahead_awake {idle : Idle} (heard : idle.Heard) (near : idle.phase.ahead ≤ 2) :
    ((idle.step .awake).getD idle).phase.ahead ≤ 1 := by
  have not_blocked := heard.not_blocked
  simp only [step]
  split
  next => exact Nat.le_refl 1
  next other =>
    cases phase_eq : idle.phase with
    | sleeping isWoken => cases isWoken <;> simp_all
    | _ => simp_all [IdlePhase.ahead]

theorem ahead_look {idle : Idle} (heard : idle.Heard) (near : idle.phase.ahead ≤ 1) :
    ((idle.step .look).getD idle).phase.ahead ≤ 0 := by
  simp only [step]
  split
  next => simp [heard.stopped, IdlePhase.ahead]
  next other => cases phase_eq : idle.phase <;> simp_all [IdlePhase.ahead]

/-- A loop that has heard is left once it has slept, awoken and looked, whatever happens besides. -/
theorem Heard.left {idle : Idle} (heard : idle.Heard) {events : List IdleEvent}
    (own : [.fallAsleep, .awake, .look].Sublist events) : (idle.run events).phase = .left := by
  obtain ⟨first, events, rfl, asleep, own⟩ := List.cons_sublist_iff.1 own
  obtain ⟨second, third, rfl, awake, own⟩ := List.cons_sublist_iff.1 own
  have look := List.singleton_sublist.1 own
  have near := idle.phase.ahead_le_three
  have slept := heard.ahead_run (fun _ _ => ahead_fallAsleep _) asleep near
  have first_heard := (heard.run first).heard
  have awoken := first_heard.ahead_run ahead_awake awake slept
  have second_heard := (first_heard.run second).heard
  have looked := second_heard.ahead_run ahead_look look awoken
  rw [run_append, run_append]
  exact IdlePhase.eq_left_of_ahead_eq_zero (Nat.le_zero.1 looked)

/-! ## Requests -/

/-- Nobody has sent a wake before the flag was set. -/
structure Ordered (idle : Idle) : Prop where
  stopped : ∀ request, (request, .flagSet) ∈ idle.stoppers → idle.control.flags.stopped = true
  heard : idle.IsRequested → idle.Heard

theorem ordered_start (control : Control) (isTornDown : Bool) (requests : List StopRequest) :
    (start control isTornDown requests).Ordered where
  stopped request mem := by simp [start] at mem
  heard := by
    rintro ⟨request, mem⟩
    simp [start] at mem

theorem mem_of_mem_setStopper {idle : Idle} {number : Nat} {stopper other : StopRequest × StopPhase}
    (mem : other ∈ (idle.setStopper number stopper).stoppers) (phase_ne : other.2 ≠ stopper.2) :
    other ∈ idle.stoppers := by
  rcases List.mem_or_eq_of_mem_set mem with old | rfl
  · exact old
  · exact absurd rfl phase_ne

theorem Ordered.takes {before after : Idle} {event : IdleEvent} (ordered : before.Ordered)
    (takes : before.Takes event after) : after.Ordered := by
  have still (requested : before.IsRequested) : after.Heard :=
    ((ordered.heard requested).hurries takes).heard
  cases takes with
  | looked | fellAsleep | awoke | sleptOut | gaveBack => exact ⟨ordered.stopped, still⟩
  | admitted number | turnedAway number =>
      refine ⟨fun request mem => ordered.stopped request (mem_of_mem_setStopper mem nofun), ?_⟩
      rintro ⟨request, mem⟩
      exact still ⟨request, mem_of_mem_setStopper mem nofun⟩
  | flagSet number request =>
      refine ⟨fun _ _ => stopped_setFlag _ request, ?_⟩
      rintro ⟨done, mem⟩
      exact still ⟨done, mem_of_mem_setStopper mem nofun⟩
  | done number flag_set =>
      have stopped := ordered.stopped _ flag_set
      have heard := heard_wake stopped
      exact ⟨fun _ _ => heard.stopped, fun _ => ⟨heard.stopped, heard.not_blocked, heard.kept⟩⟩
  | woke =>
      refine ⟨fun request mem => ?_, ?_⟩
      · rw [stoppers_wake] at mem
        rw [flags_wake]
        exact ordered.stopped request mem
      · rintro ⟨request, mem⟩
        rw [stoppers_wake] at mem
        exact still ⟨request, mem⟩

/-- What is promised to those who stop a node, once the first one of them is done.  Whatever happens
later, the loop does not wait for a wake, it falls asleep at most once more and a wake is there
then, and it is left by three steps of its own. -/
structure Heeds (idle : Idle) (later : List IdleEvent) : Prop where
  not_blocked : (idle.run later).phase ≠ .sleeping false
  sleeps_le : (idle.run later).sleeps ≤ idle.sleeps + 1
  cut_short : (idle.run later).phase = .tired →
    ((idle.run later).step .fallAsleep).map (·.phase) = some (.sleeping true)
  left : [.fallAsleep, .awake, .look].Sublist later → (idle.run later).phase = .left

/-- Whoever stops a node is heard, however the steps of all mix and whatever wakes are left over. -/
theorem run_heeds (control : Control) (isTornDown : Bool) (requests : List StopRequest)
    (events : List IdleEvent)
    (requested : ((start control isTornDown requests).run events).IsRequested)
    (later : List IdleEvent) :
    ((start control isTornDown requests).run events).Heeds later := by
  have ordered := run_induction (ordered_start control isTornDown requests)
    (fun takes ordered => ordered.takes takes) events
  have heard := ordered.heard requested
  have hurries := heard.run later
  refine ⟨hurries.heard.not_blocked, ?_, fun tired => ?_, heard.left⟩
  · have sleeps_le := hurries.sleeps_le
    have due_le := ((start control isTornDown requests).run events).phase.sleepsAhead_le_one
    omega
  · have pending := hurries.heard.kept tired
    simp [step, tired, fallAsleep, Control.sleep, pending]

/-- A stop comes between the look and the sleep of a loop for which a wake is left over. -/
theorem run_heeds_between_look_and_sleep :
    let idle := (start { isWakePending := true } false [.stop, .tearDown]).run
      [.look, .fallAsleep, .awake, .look, .stopper 0, .stopper 0]
    idle.IsRequested ∧ idle.phase = .tired ∧ idle.sleeps = 1 ∧
      (idle.run [.fallAsleep, .stopper 1, .awake, .stopper 1, .look]).phase = .left := by
  intro idle
  have requested : idle.IsRequested := ⟨.stop, by decide⟩
  have heeds := run_heeds { isWakePending := true } false [.stop, .tearDown]
    [.look, .fallAsleep, .awake, .look, .stopper 0, .stopper 0] requested
    [.fallAsleep, .stopper 1, .awake, .stopper 1, .look]
  exact ⟨requested, by decide, by decide, heeds.left (by decide)⟩

end Idle
end ClusterMember
