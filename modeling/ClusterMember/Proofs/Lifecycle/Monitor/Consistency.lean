import ClusterMember.Proofs.Lifecycle.Monitor.Stories

/-!
# A monitor is consistent

Whatever a monitor is given, its entries are few enough, stand in the order of their numbers, and
agree with themselves and with their guards.  What is done through a guard concerns the entry with
its number and no other.
-/

namespace ClusterMember

/-- The guard that an event goes through. -/
def MonitorEvent.guard? : MonitorEvent → Option Nat
  | .act id _ | .drop id _ => some id
  | .create _ _ | .snapshot _ => none

namespace ActivityStory

variable {story : ActivityStory}

theorem finishedSince?_isSome (story : ActivityStory) :
    story.finishedSince?.isSome = story.state.isFinished := by
  rw [finishedSince?]
  cases story.state.isFinished <;> rfl

/-- What is unfinished has its guard. -/
theorem isHeld_of_unfinished (unfinished : story.state.isFinished = false) :
    story.isHeld = true := by
  cases held : story.isHeld with
  | true => rfl
  | false =>
      have leaked_eq : story.isLeaked = !story.heldState.isFinished := by
        rw [isLeaked, held]
        rfl
      cases finished : story.heldState.isFinished with
      | true => simp [state, leaked_eq, finished] at unfinished
      | false =>
          simp only [state, leaked_eq, finished] at unfinished
          cases unfinished

end ActivityStory

theorem ActivityState.isFinished_iff (state : ActivityState) :
    state.isFinished = true ↔ state = .complete ∨ state = .aborted := by
  cases state <;> simp [isFinished]

theorem ActivityState.isFinished_eq_false_iff (state : ActivityState) :
    state.isFinished = false ↔ state = .running ∨ state = .waiting := by
  cases state <;> simp [isFinished]

theorem GuardDeed.id_change (deed : GuardDeed) (entry : Activity) :
    (deed.change entry).id = entry.id := by
  obtain ⟨action, text, now⟩ := deed
  cases action <;> rfl

theorem Activity.id_leave (now : Nat) (entry : Activity) : (entry.leave now).id = entry.id := by
  unfold leave
  split <;> rfl

namespace MonitorHistory

/-- What holds of a monitor at any time. -/
structure Consistent (capacity : Nat) (history : MonitorHistory) : Prop where
  length_le : history.monitor.entries.length ≤ max capacity 1
  /-- The numbers grow from the oldest entry to the newest. -/
  ids_increase : (history.monitor.entries.map (·.id)).Pairwise (· < ·)
  ids_lt : ∀ entry ∈ history.monitor.entries, entry.id < history.monitor.next
  /-- No number is given out twice. -/
  nodup_issued : (history.stories.map (·.id)).Nodup
  issued_lt : ∀ story ∈ history.stories, story.id < history.monitor.next
  finishedAt_iff : ∀ entry ∈ history.monitor.entries,
    entry.finishedAt.isSome = true ↔ entry.state = .complete ∨ entry.state = .aborted
  /-- The guards are those that have not gone. -/
  guards_eq : history.monitor.guards =
    (history.stories.filter ActivityStory.isHeld).map ActivityStory.guard
  held : ∀ entry ∈ history.monitor.entries, entry.state = .running ∨ entry.state = .waiting →
    ∃ guard ∈ history.monitor.guards, guard.id = entry.id
  described : ∀ entry ∈ history.monitor.entries, ∀ guard ∈ history.monitor.guards,
    guard.id = entry.id → guard.description = entry.description
  /-- What goes through a guard leaves all numbers, and all entries with other numbers, in place. -/
  others_stay : ∀ event id, event.guard? = some id →
    (history.step event).monitor.entries.map (·.id) = history.monitor.entries.map (·.id) ∧
      ∀ (place : Nat) (entry : Activity), history.monitor.entries[place]? = some entry →
        entry.id ≠ id → (history.step event).monitor.entries[place]? = some entry
  /-- What goes through a guard whose entry has gone changes no entry. -/
  gone_stays : ∀ event id, event.guard? = some id →
    (∀ entry ∈ history.monitor.entries, entry.id ≠ id) →
      (history.step event).monitor.entries = history.monitor.entries

namespace Mirrors

variable {history : MonitorHistory} (mirrors : history.Mirrors)
include mirrors

theorem id_lt_next {story : ActivityStory} (mem : story ∈ history.stories) :
    story.id < history.monitor.next := by
  have listed : story.id ∈ List.range' 1 history.stories.length :=
    mirrors.ids_eq ▸ List.mem_map_of_mem mem
  rw [List.mem_range'_1] at listed
  rw [mirrors.next_eq]
  omega

/-- What goes through a guard changes the entries under its number and keeps their numbers. -/
theorem entries_of_guard {event : MonitorEvent} {id : Nat} (through : event.guard? = some id) :
    ∃ change : Activity → Activity, (∀ entry, (change entry).id = entry.id) ∧
      (history.step event).monitor.entries =
        history.monitor.entries.map fun entry => if entry.id = id then change entry else entry := by
  have unchanged :
      history.monitor.entries.map (fun entry => if entry.id = id then entry else entry) =
        history.monitor.entries := by
    simp only [ite_self, List.map_id']
  cases event with
  | create description now => cases through
  | snapshot now => cases through
  | act other deed =>
      cases through
      by_cases guarded : (history.monitor.guard? id).isSome
      · refine ⟨deed.change, deed.id_change, ?_⟩
        simp only [MonitorHistory.step, if_pos guarded, Monitor.act_entries]
      · refine ⟨fun entry => entry, fun _ => rfl, ?_⟩
        simp only [MonitorHistory.step, if_neg guarded, unchanged]
  | drop other now =>
      cases through
      by_cases guarded : (history.monitor.guard? id).isSome
      · refine ⟨Activity.leave now, Activity.id_leave now, ?_⟩
        simp only [MonitorHistory.step, if_pos guarded,
          Monitor.drop_entries mirrors.nodup_entry_ids]
      · refine ⟨fun entry => entry, fun _ => rfl, ?_⟩
        simp only [MonitorHistory.step, if_neg guarded, unchanged]

theorem ids_of_guard {event : MonitorEvent} {id : Nat} (through : event.guard? = some id) :
    (history.step event).monitor.entries.map (·.id) = history.monitor.entries.map (·.id) := by
  obtain ⟨change, id_change, entries_eq⟩ := mirrors.entries_of_guard through
  rw [entries_eq, List.map_map]
  refine List.map_congr_left fun entry _ => ?_
  simp only [Function.comp_apply]
  split
  next => exact id_change entry
  next => rfl

theorem others_stay {event : MonitorEvent} {id : Nat} (through : event.guard? = some id)
    {place : Nat} {entry : Activity} (there : history.monitor.entries[place]? = some entry)
    (other : entry.id ≠ id) : (history.step event).monitor.entries[place]? = some entry := by
  obtain ⟨change, -, entries_eq⟩ := mirrors.entries_of_guard through
  rw [entries_eq, List.getElem?_map, there, Option.map_some, if_neg other]

theorem gone_stays {event : MonitorEvent} {id : Nat} (through : event.guard? = some id)
    (gone : ∀ entry ∈ history.monitor.entries, entry.id ≠ id) :
    (history.step event).monitor.entries = history.monitor.entries := by
  obtain ⟨change, -, entries_eq⟩ := mirrors.entries_of_guard through
  rw [entries_eq]
  refine (List.map_congr_left fun entry mem => ?_).trans (List.map_id _)
  rw [if_neg (gone entry mem), id_eq]

theorem held {entry : Activity} (mem : entry ∈ history.monitor.entries)
    (unfinished : entry.state = .running ∨ entry.state = .waiting) :
    ∃ guard ∈ history.monitor.guards, guard.id = entry.id := by
  obtain ⟨story, story_mem, rfl⟩ := mirrors.exists_story mem
  have held := ActivityStory.isHeld_of_unfinished
    ((ActivityState.isFinished_eq_false_iff story.state).2 unfinished)
  refine ⟨story.guard, ?_, rfl⟩
  rw [mirrors.guards_eq]
  exact List.mem_map_of_mem (List.mem_filter.2 ⟨story_mem, held⟩)

theorem described {entry : Activity} (mem : entry ∈ history.monitor.entries)
    {guard : ActivityGuard} (guard_mem : guard ∈ history.monitor.guards)
    (same : guard.id = entry.id) : guard.description = entry.description := by
  obtain ⟨story, story_mem, rfl⟩ := mirrors.exists_story mem
  rw [mirrors.guards_eq] at guard_mem
  obtain ⟨holder, holder_mem, rfl⟩ := List.mem_map.1 guard_mem
  have one : holder = story := mirrors.story_eq (List.mem_filter.1 holder_mem).1 story_mem same
  rw [one]
  rfl

/-- An event changes no limit. -/
theorem limits_step (event : MonitorEvent) :
    (history.step event).monitor.capacity = history.monitor.capacity ∧
      (history.step event).monitor.expiration = history.monitor.expiration := by
  cases event with
  | create description now =>
      have terms := (Monitor.makeRoom_sublist mirrors.positive now).2.2
      exact ⟨terms.capacity_eq, terms.expiration_eq⟩
  | act id deed =>
      simp only [MonitorHistory.step]
      split
      next =>
        have terms := Monitor.sameTerms_act history.monitor id deed.action deed.text deed.now
        exact ⟨terms.capacity_eq, terms.expiration_eq⟩
      next => exact ⟨rfl, rfl⟩
  | drop id now =>
      simp only [MonitorHistory.step]
      split
      next =>
        have terms := Monitor.sameTerms_drop history.monitor id now
        exact ⟨terms.capacity_eq, terms.expiration_eq⟩
      next => exact ⟨rfl, rfl⟩
  | snapshot now => exact ⟨rfl, rfl⟩

theorem limits_steps (events : List MonitorEvent) :
    (events.foldl MonitorHistory.step history).monitor.capacity = history.monitor.capacity ∧
      (events.foldl MonitorHistory.step history).monitor.expiration =
        history.monitor.expiration := by
  induction events generalizing history with
  | nil => exact ⟨rfl, rfl⟩
  | cons event rest induction =>
      have first := mirrors.limits_step event
      have later := induction (mirrors.step event)
      exact ⟨later.1.trans first.1, later.2.trans first.2⟩

end Mirrors

theorem limits_run (capacity expiration : Nat) (events : List MonitorEvent) :
    (run capacity expiration events).monitor.capacity = max capacity 1 ∧
      (run capacity expiration events).monitor.expiration = expiration :=
  (mirrors_run capacity expiration []).limits_steps events

/-- A monitor is consistent whatever it was given. -/
theorem run_consistent (capacity expiration : Nat) (events : List MonitorEvent) :
    (run capacity expiration events).Consistent capacity := by
  have mirrors := mirrors_run capacity expiration events
  have capacity_eq := (limits_run capacity expiration events).1
  exact
    { length_le := capacity_eq ▸ mirrors.length_le
      ids_increase := mirrors.entry_ids_increase
      ids_lt := fun entry mem => by
        obtain ⟨story, story_mem, rfl⟩ := mirrors.exists_story mem
        exact mirrors.id_lt_next story_mem
      nodup_issued := mirrors.ids_increase.imp Nat.ne_of_lt
      issued_lt := fun _ => mirrors.id_lt_next
      finishedAt_iff := fun entry mem => by
        obtain ⟨story, -, rfl⟩ := mirrors.exists_story mem
        exact (iff_of_eq (congrArg (· = true) story.finishedSince?_isSome)).trans
          story.state.isFinished_iff
      guards_eq := mirrors.guards_eq
      held := fun _ => mirrors.held
      described := fun _ mem _ => mirrors.described mem
      others_stay := fun _ _ through =>
        ⟨mirrors.ids_of_guard through, fun _ _ => mirrors.others_stay through⟩
      gone_stays := fun _ _ => mirrors.gone_stays }

end MonitorHistory
end ClusterMember
