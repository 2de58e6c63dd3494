import ClusterMember.Lifecycle.Monitor.History
import Mathlib.Data.List.Nodup
import Mathlib.Tactic.Common

/-!
# What a monitor holds

The entries of a monitor are some of the activities that ever began, in the order in which they
began, and each entry says what its story says.  The guards are those that have not gone.
-/

namespace ClusterMember

/-- What a deed changes in an entry. -/
def GuardDeed.change (deed : GuardDeed) (entry : Activity) : Activity :=
  match deed.action with
  | .setStatus => { entry with status := deed.text, statusTime := deed.now }
  | .setDescription => { entry with description := deed.text }
  | .complete | .pause | .resume | .abort =>
    { Monitor.setState (deed.action.target?.getD entry.state) deed.now entry with
      status := deed.text, statusTime := deed.now }

/-- What the loss of its guard changes in an entry. -/
def Activity.leave (now : Nat) (entry : Activity) : Activity :=
  if entry.state.isFinished then entry else Monitor.setState .aborted now entry

namespace ActivityStory

variable {story : ActivityStory}

theorem last?_act (story : ActivityStory) (deed : GuardDeed) (kind : GuardAction → Bool) :
    (story.act deed).last? kind = if kind deed.action then some deed else story.last? kind := by
  have newest_first : (story.act deed).deeds.reverse = deed :: story.deeds.reverse := by
    rw [act, List.reverse_append, List.reverse_singleton, List.singleton_append]
  rw [last?, newest_first, List.find?_cons]
  cases kind deed.action <;> rfl

theorem renamed?_act (story : ActivityStory) (deed : GuardDeed) :
    (story.act deed).renamed? =
      if deed.action = .setDescription then some deed else story.renamed? := by
  simp [renamed?, last?_act]

theorem reported?_act (story : ActivityStory) (deed : GuardDeed) :
    (story.act deed).reported? =
      if deed.action = .setDescription then story.reported? else some deed := by
  simp [reported?, last?_act]

theorem moved?_act (story : ActivityStory) (deed : GuardDeed) :
    (story.act deed).moved? =
      if deed.action.target?.isSome then some deed else story.moved? :=
  last?_act story deed _

theorem guard_act (story : ActivityStory) (deed : GuardDeed) :
    (story.act deed).guard =
      if deed.action = .setDescription then ⟨story.id, deed.text⟩ else story.guard := by
  have title_eq : (story.act deed).title = story.title := rfl
  rw [guard, description, renamed?_act, title_eq]
  split <;> rfl

theorem isLeaked_of_isHeld (held : story.isHeld = true) : story.isLeaked = false := by
  rw [isLeaked, held]
  rfl

theorem state_of_isHeld (held : story.isHeld = true) : story.state = story.heldState := by
  rw [state, isLeaked_of_isHeld held, if_neg nofun]

theorem stateTime_of_isHeld (held : story.isHeld = true) :
    story.stateTime = (story.moved?.map (·.now)).getD story.began := by
  rw [stateTime, isLeaked_of_isHeld held, if_neg nofun]

/-- As long as the guard is there, its deeds change the entry one after the other. -/
theorem activity_act (held : story.isHeld = true) (deed : GuardDeed) :
    (story.act deed).activity = deed.change story.activity := by
  have still_held : (story.act deed).isHeld = true := held
  have id_eq : (story.act deed).id = story.id := rfl
  have title_eq : (story.act deed).title = story.title := rfl
  have began_eq : (story.act deed).began = story.began := rfl
  obtain ⟨action, text, now⟩ := deed
  simp only [activity, finishedSince?, description, status, heldState, state_of_isHeld held,
    state_of_isHeld still_held, stateTime_of_isHeld held, stateTime_of_isHeld still_held,
    renamed?_act, reported?_act, moved?_act, id_eq, title_eq, began_eq]
  cases action <;> rfl

/-- When the guard goes, an unfinished activity is aborted, and a finished one stays as it is. -/
theorem activity_drop (held : story.isHeld = true) (now : Nat) :
    (story.drop now).activity = story.activity.leave now := by
  have gone : (story.drop now).isHeld = false := rfl
  have same_state : (story.drop now).heldState = story.heldState := rfl
  have leaked_iff : (story.drop now).isLeaked = !story.heldState.isFinished := by
    rw [isLeaked, gone, same_state]
    rfl
  have state_eq : story.activity.state = story.heldState := state_of_isHeld held
  unfold Activity.leave
  rw [state_eq]
  cases finished : story.heldState.isFinished with
  | true =>
      rw [finished] at leaked_iff
      simp only [activity, finishedSince?, state, stateTime, leaked_iff, isLeaked_of_isHeld held]
      rfl
  | false =>
      rw [finished] at leaked_iff
      simp only [activity, finishedSince?, state, stateTime, leaked_iff]
      rfl

end ActivityStory

namespace Monitor

theorem act_entries (monitor : Monitor) (id : Nat) (deed : GuardDeed) :
    (monitor.act id deed.action deed.text deed.now).1.entries =
      monitor.entries.map fun entry => if entry.id = id then deed.change entry else entry := by
  obtain ⟨action, text, now⟩ := deed
  cases action <;> rfl

theorem act_guards (monitor : Monitor) (id : Nat) (deed : GuardDeed) :
    (monitor.act id deed.action deed.text deed.now).1.guards =
      if deed.action = .setDescription then
        monitor.guards.map fun held =>
          if held.id = id then { held with description := deed.text } else held
      else monitor.guards := by
  obtain ⟨action, text, now⟩ := deed
  cases action <;> rfl

/-- Neither the next number nor the limits have changed. -/
structure SameTerms (before after : Monitor) : Prop where
  next_eq : after.next = before.next
  capacity_eq : after.capacity = before.capacity
  expiration_eq : after.expiration = before.expiration

theorem sameTerms_act (monitor : Monitor) (id : Nat) (action : GuardAction) (text : String)
    (now : Nat) : monitor.SameTerms (monitor.act id action text now).1 := by
  cases action <;> exact ⟨rfl, rfl, rfl⟩

/-- Where no number is used twice, the loss of a guard changes the entry under its number. -/
theorem drop_entries {monitor : Monitor} (nodup : (monitor.entries.map (·.id)).Nodup)
    (id now : Nat) :
    (monitor.drop id now).1.entries =
      monitor.entries.map fun entry => if entry.id = id then entry.leave now else entry := by
  have unchanged (none_leaves : ∀ entry ∈ monitor.entries, entry.id = id →
      entry.leave now = entry) :
      monitor.entries.map (fun entry => if entry.id = id then entry.leave now else entry) =
        monitor.entries := by
    refine (List.map_congr_left fun entry mem => ?_).trans (List.map_id monitor.entries)
    split
    next eq => exact none_leaves entry mem eq
    next => rfl
  cases found : monitor.entry? id with
  | none =>
      have absent : ∀ entry ∈ monitor.entries, entry.id ≠ id := by simpa [ entry?] using found
      rw [unchanged fun entry mem eq => absurd eq (absent entry mem)]
      simp only [drop, found]
  | some one =>
      have mem : one ∈ monitor.entries := List.mem_of_find?_eq_some found
      have id_eq : one.id = id := by simpa using List.find?_some found
      have only : ∀ entry ∈ monitor.entries, entry.id = id → entry = one := fun entry there eq =>
        List.inj_on_of_nodup_map nodup there mem (eq.trans id_eq.symm)
      cases finished : one.state.isFinished with
      | true =>
          rw [unchanged fun entry there eq => by
            rw [only entry there eq, Activity.leave, finished]
            rfl]
          simp only [drop, found, finished, if_true]
      | false =>
          simp only [drop, found, finished, modify]
          refine List.map_congr_left fun entry there => ?_
          split
          next eq => rw [only entry there eq, Activity.leave, finished]; rfl
          next => rfl

theorem drop_guards (monitor : Monitor) (id now : Nat) :
    (monitor.drop id now).1.guards = monitor.guards.filter (·.id ≠ id) := by
  unfold drop
  split
  next => split <;> rfl
  next => rfl

theorem sameTerms_drop (monitor : Monitor) (id now : Nat) :
    monitor.SameTerms (monitor.drop id now).1 := by
  unfold drop
  split
  next => split <;> exact ⟨rfl, rfl, rfl⟩
  next => exact ⟨rfl, rfl, rfl⟩

/-- All that making room can do: nothing, a purge that is enough, or the loss of the oldest entry
after a purge that is not. -/
theorem makeRoom_cases {monitor : Monitor} (positive : 0 < monitor.capacity) (now : Nat) :
    (monitor.entries.length < monitor.capacity ∧ (monitor.makeRoom now).1 = monitor) ∨
    (monitor.capacity ≤ monitor.entries.length ∧
      (monitor.purge now).entries.length < monitor.capacity ∧
      (monitor.makeRoom now).1 = monitor.purge now) ∨
    (monitor.capacity ≤ monitor.entries.length ∧
      monitor.capacity ≤ (monitor.purge now).entries.length ∧
      ∃ oldest rest, (monitor.purge now).entries = oldest :: rest ∧
        (monitor.makeRoom now).1 = { monitor.purge now with entries := rest }) := by
  rcases Nat.lt_or_ge monitor.entries.length monitor.capacity with room | full
  · left
    refine ⟨room, ?_⟩
    simp only [makeRoom, if_neg (Nat.not_le.2 room)]
  · right
    have capacity_eq : (monitor.purge now).capacity = monitor.capacity := rfl
    rcases Nat.lt_or_ge (monitor.purge now).entries.length monitor.capacity with room | still_full
    · left
      refine ⟨full, room, ?_⟩
      simp only [makeRoom, if_pos full, capacity_eq, if_neg (Nat.not_le.2 room)]
    · right
      refine ⟨full, still_full, ?_⟩
      cases entries_eq : (monitor.purge now).entries with
      | nil =>
          rw [entries_eq] at still_full
          exact absurd still_full (Nat.not_le.2 positive)
      | cons oldest rest =>
          refine ⟨oldest, rest, rfl, ?_⟩
          rw [entries_eq] at still_full
          simp only [makeRoom, if_pos full, capacity_eq, evict, entries_eq, if_pos still_full]

theorem purge_sublist (monitor : Monitor) (now : Nat) :
    (monitor.purge now).entries.Sublist monitor.entries := List.filter_sublist

/-- After making room there is room, and nothing has changed but that some entries have gone. -/
theorem makeRoom_sublist {monitor : Monitor} (positive : 0 < monitor.capacity) (now : Nat) :
    (monitor.makeRoom now).1.entries.Sublist monitor.entries ∧
      (monitor.makeRoom now).1.guards = monitor.guards ∧
      monitor.SameTerms (monitor.makeRoom now).1 := by
  rcases makeRoom_cases positive now with ⟨-, eq⟩ | ⟨-, -, eq⟩ | ⟨-, -, oldest, rest, purged, eq⟩
  · rw [eq]
    exact ⟨List.Sublist.refl _, rfl, rfl, rfl, rfl⟩
  · rw [eq]
    exact ⟨monitor.purge_sublist now, rfl, rfl, rfl, rfl⟩
  · rw [eq]
    have rest_sublist : rest.Sublist monitor.entries :=
      (List.sublist_cons_self oldest rest).trans (purged ▸ monitor.purge_sublist now)
    exact ⟨rest_sublist, rfl, rfl, rfl, rfl⟩

theorem length_makeRoom_lt {monitor : Monitor} (positive : 0 < monitor.capacity)
    (length_le : monitor.entries.length ≤ monitor.capacity) (now : Nat) :
    (monitor.makeRoom now).1.entries.length < monitor.capacity := by
  rcases makeRoom_cases positive now with
    ⟨room, eq⟩ | ⟨-, room, eq⟩ | ⟨-, -, oldest, rest, purged, eq⟩
  · rwa [eq]
  · rwa [eq]
  · have purged_le := (monitor.purge_sublist now).length_le
    rw [purged, List.length_cons] at purged_le
    rw [eq]
    exact Nat.lt_of_succ_le (Nat.le_trans purged_le length_le)

end Monitor

namespace MonitorHistory

/-- A monitor is what the stories of its activities make of it. -/
structure Mirrors (history : MonitorHistory) : Prop where
  ids_eq : history.stories.map (·.id) = List.range' 1 history.stories.length
  next_eq : history.monitor.next = history.stories.length + 1
  entries_sublist :
    history.monitor.entries.Sublist (history.stories.map ActivityStory.activity)
  guards_eq : history.monitor.guards =
    (history.stories.filter ActivityStory.isHeld).map ActivityStory.guard
  positive : 0 < history.monitor.capacity
  length_le : history.monitor.entries.length ≤ history.monitor.capacity

namespace Mirrors

variable {history : MonitorHistory} (mirrors : history.Mirrors)
include mirrors

theorem ids_increase : (history.stories.map (·.id)).Pairwise (· < ·) := by
  rw [mirrors.ids_eq]
  exact List.pairwise_lt_range'

theorem entry_ids_sublist : (history.monitor.entries.map (·.id)).Sublist
    (history.stories.map (·.id)) := by
  have ids_sublist := mirrors.entries_sublist.map Activity.id
  rwa [List.map_map] at ids_sublist

theorem entry_ids_increase : (history.monitor.entries.map (·.id)).Pairwise (· < ·) :=
  mirrors.ids_increase.sublist mirrors.entry_ids_sublist

theorem nodup_entry_ids : (history.monitor.entries.map (·.id)).Nodup :=
  mirrors.entry_ids_increase.imp Nat.ne_of_lt

/-- Stories are told apart by their numbers. -/
theorem story_eq {one other : ActivityStory} (one_mem : one ∈ history.stories)
    (other_mem : other ∈ history.stories) (id_eq : one.id = other.id) : one = other :=
  List.inj_on_of_nodup_map (mirrors.ids_increase.imp Nat.ne_of_lt) one_mem other_mem id_eq

theorem exists_story {entry : Activity} (mem : entry ∈ history.monitor.entries) :
    ∃ story ∈ history.stories, story.activity = entry :=
  List.mem_map.1 (mirrors.entries_sublist.subset mem)

/-- What a guard belongs to is held. -/
theorem isHeld_of_guard {id : Nat} (guarded : (history.monitor.guard? id).isSome)
    {story : ActivityStory} (mem : story ∈ history.stories) (id_eq : story.id = id) :
    story.isHeld = true := by
  obtain ⟨guard, found⟩ := Option.isSome_iff_exists.1 guarded
  have guard_mem : guard ∈ history.monitor.guards := List.mem_of_find?_eq_some found
  have guard_id : guard.id = id := by simpa using List.find?_some found
  rw [mirrors.guards_eq] at guard_mem
  obtain ⟨holder, holder_mem, rfl⟩ := List.mem_map.1 guard_mem
  rw [List.mem_filter] at holder_mem
  rw [mirrors.story_eq mem holder_mem.1 (id_eq.trans guard_id.symm)]
  exact holder_mem.2

/-- A change of the activity under a guard is a change of its story. -/
theorem modify {monitor : Monitor} {id : Nat} {change : Activity → Activity}
    {turn : ActivityStory → ActivityStory} (guarded : (history.monitor.guard? id).isSome)
    (terms : history.monitor.SameTerms monitor)
    (entries_eq : monitor.entries =
      history.monitor.entries.map fun entry => if entry.id = id then change entry else entry)
    (guards_eq : monitor.guards =
      ((history.stories.map fun story => if story.id = id then turn story else story).filter
        ActivityStory.isHeld).map ActivityStory.guard)
    (id_turn : ∀ story, (turn story).id = story.id)
    (activity_turn : ∀ story, story.isHeld = true →
      (turn story).activity = change story.activity) :
    Mirrors ⟨monitor,
      history.stories.map fun story => if story.id = id then turn story else story⟩ where
  ids_eq := by
    rw [List.map_map, List.length_map, ← mirrors.ids_eq]
    refine List.map_congr_left fun story _ => ?_
    simp only [Function.comp_apply]
    split
    next => exact id_turn story
    next => rfl
  next_eq := by rw [terms.next_eq, mirrors.next_eq, List.length_map]
  entries_sublist := by
    have told : (history.stories.map fun story =>
        if story.id = id then turn story else story).map ActivityStory.activity =
          (history.stories.map ActivityStory.activity).map fun entry =>
            if entry.id = id then change entry else entry := by
      rw [List.map_map, List.map_map]
      refine List.map_congr_left fun story mem => ?_
      simp only [Function.comp_apply]
      change _ = if story.id = id then change story.activity else story.activity
      split
      next eq => exact activity_turn story (mirrors.isHeld_of_guard guarded mem eq)
      next => rfl
    rw [entries_eq, told]
    exact mirrors.entries_sublist.map _
  guards_eq := guards_eq
  positive := terms.capacity_eq.symm ▸ mirrors.positive
  length_le := by
    rw [entries_eq, List.length_map, terms.capacity_eq]
    exact mirrors.length_le

theorem act_guards (id : Nat) (deed : GuardDeed) :
    (history.monitor.act id deed.action deed.text deed.now).1.guards =
      ((history.stories.map fun story =>
        if story.id = id then story.act deed else story).filter ActivityStory.isHeld).map
          ActivityStory.guard := by
  have still_held : (ActivityStory.isHeld ∘ fun story =>
      if story.id = id then story.act deed else story) = ActivityStory.isHeld := by
    funext story
    simp only [Function.comp_apply]
    split <;> rfl
  rw [Monitor.act_guards, mirrors.guards_eq, List.filter_map, still_held]
  split
  next renames =>
    rw [List.map_map, List.map_map]
    refine List.map_congr_left fun story _ => ?_
    simp only [Function.comp_apply]
    by_cases same : story.id = id
    · rw [if_pos same, if_pos (show story.guard.id = id from same), ActivityStory.guard_act,
        if_pos renames]
      rfl
    · rw [if_neg same, if_neg (show story.guard.id ≠ id from same)]
  next keeps =>
    rw [List.map_map]
    refine List.map_congr_left fun story _ => ?_
    simp only [Function.comp_apply]
    split
    next => rw [ActivityStory.guard_act, if_neg keeps]
    next => rfl

theorem drop_guards (id now : Nat) :
    (history.monitor.drop id now).1.guards =
      ((history.stories.map fun story =>
        if story.id = id then story.drop now else story).filter ActivityStory.isHeld).map
          ActivityStory.guard := by
  have held_after : (ActivityStory.isHeld ∘ fun story =>
      if story.id = id then story.drop now else story) =
        fun story => decide (story.id ≠ id) && story.isHeld := by
    funext story
    simp only [Function.comp_apply]
    split
    next eq => simp [eq, ActivityStory.drop, ActivityStory.isHeld]
    next ne => simp [ne]
  have others_stay : (history.stories.map fun story =>
      if story.id = id then story.drop now else story).filter ActivityStory.isHeld =
        history.stories.filter fun story => decide (story.id ≠ id) && story.isHeld := by
    rw [List.filter_map, held_after]
    refine (List.map_congr_left fun story mem => ?_).trans (List.map_id _)
    have other : story.id ≠ id := by
      have := (List.mem_filter.1 mem).2
      simp only [Bool.and_eq_true, decide_eq_true_eq] at this
      exact this.1
    rw [if_neg other, id_eq]
  rw [Monitor.drop_guards, mirrors.guards_eq, others_stay, List.filter_map, List.filter_filter]
  rfl

theorem create (description : String) (now : Nat) :
    (history.step (.create description now)).Mirrors := by
  obtain ⟨sublist, guards_eq, terms⟩ := history.monitor.makeRoom_sublist mirrors.positive now
  have room := Monitor.length_makeRoom_lt mirrors.positive mirrors.length_le now
  have id_eq := terms.next_eq.trans mirrors.next_eq
  simp only [step, Monitor.create]
  constructor
  · simp only [List.map_append, List.map_singleton, List.length_append, List.length_singleton]
    rw [id_eq, mirrors.ids_eq, List.range'_concat, Nat.one_mul, Nat.add_comm 1]
  · simp only [List.length_append, List.length_singleton, id_eq]
  · rw [List.map_append]
    exact (sublist.trans mirrors.entries_sublist).append (List.Sublist.refl _)
  · simp only [List.filter_append, List.map_append, guards_eq, mirrors.guards_eq]
    rfl
  · exact terms.capacity_eq.symm ▸ mirrors.positive
  · simp only [List.length_append, List.length_singleton, terms.capacity_eq]
    exact room

theorem act {id : Nat} (guarded : (history.monitor.guard? id).isSome) (deed : GuardDeed) :
    (history.step (.act id deed)).Mirrors := by
  simp only [step, if_pos guarded]
  exact mirrors.modify guarded (Monitor.sameTerms_act _ _ _ _ _) (Monitor.act_entries _ _ _)
    (mirrors.act_guards id deed) (fun _ => rfl) fun _ held => ActivityStory.activity_act held deed

theorem drop {id : Nat} (guarded : (history.monitor.guard? id).isSome) (now : Nat) :
    (history.step (.drop id now)).Mirrors := by
  simp only [step, if_pos guarded]
  exact mirrors.modify guarded (Monitor.sameTerms_drop _ _ _)
    (Monitor.drop_entries mirrors.nodup_entry_ids id now) (mirrors.drop_guards id now)
    (fun _ => rfl) fun _ held => ActivityStory.activity_drop held now

theorem snapshot (now : Nat) : (history.step (.snapshot now)).Mirrors where
  ids_eq := mirrors.ids_eq
  next_eq := mirrors.next_eq
  entries_sublist := (history.monitor.purge_sublist now).trans mirrors.entries_sublist
  guards_eq := mirrors.guards_eq
  positive := mirrors.positive
  length_le := Nat.le_trans (history.monitor.purge_sublist now).length_le mirrors.length_le

theorem step (event : MonitorEvent) : (history.step event).Mirrors := by
  cases event with
  | create description now => exact mirrors.create description now
  | act id deed =>
      by_cases guarded : (history.monitor.guard? id).isSome
      · exact mirrors.act guarded deed
      · simpa only [MonitorHistory.step, if_neg guarded] using mirrors
  | drop id now =>
      by_cases guarded : (history.monitor.guard? id).isSome
      · exact mirrors.drop guarded now
      · simpa only [MonitorHistory.step, if_neg guarded] using mirrors
  | snapshot now => exact mirrors.snapshot now

theorem steps (events : List MonitorEvent) :
    (events.foldl MonitorHistory.step history).Mirrors := by
  induction events generalizing history with
  | nil => exact mirrors
  | cons event rest induction => exact induction (mirrors.step event)

end Mirrors

theorem mirrors_run (capacity expiration : Nat) (events : List MonitorEvent) :
    (run capacity expiration events).Mirrors := by
  have fresh : Mirrors ⟨.withLimits capacity expiration, []⟩ :=
    { ids_eq := rfl
      next_eq := rfl
      entries_sublist := List.Sublist.slnil
      guards_eq := rfl
      positive := Nat.lt_of_lt_of_le Nat.one_pos (Nat.le_max_right capacity 1)
      length_le := Nat.zero_le _ }
  exact fresh.steps events

end MonitorHistory
end ClusterMember
