import ClusterMember.Proofs.Lifecycle.Monitor.Consistency
import Mathlib.Data.List.Induction
import Mathlib.Data.List.Perm.Subperm
import Mathlib.Data.List.Sort

/-!
# What a monitor keeps

A monitor forgets an activity only when a purge finds it finished for long enough, or when it is the
oldest of too many.  So an activity with fewer newer ones than there are places is listed as long as
no purge has found it so, and the newest activities are listed as their stories tell them.
-/

namespace ClusterMember

/-- The first of a row of growing numbers leaves room for the others below a bound. -/
theorem add_length_le_of_increasing {first bound : Nat} {rest : List Nat}
    (increasing : (first :: rest).Pairwise (· < ·)) (bounded : ∀ id ∈ first :: rest, id ≤ bound) :
    first + rest.length ≤ bound := by
  induction rest generalizing first with
  | nil => exact bounded first List.mem_cons_self
  | cons next rest induction =>
      rw [List.pairwise_cons] at increasing
      have below : first < next := increasing.1 next List.mem_cons_self
      have later : next + rest.length ≤ bound :=
        induction increasing.2 fun id mem => bounded id (List.mem_cons_of_mem first mem)
      rw [List.length_cons]
      omega

theorem ActivityStory.isExpired_activity (story : ActivityStory) (expiration now : Nat) :
    Monitor.isExpired expiration now story.activity = story.isOver expiration now := by
  have finishedAt_eq : story.activity.finishedAt = story.finishedSince? := rfl
  rw [Monitor.isExpired, finishedAt_eq, isOver]
  cases story.finishedSince? <;> rfl

namespace MonitorHistory

/-- An event is a purge that finds an activity finished for long enough. -/
def FindsOver (expiration : Nat) (history : MonitorHistory) (event : MonitorEvent) (id : Nat) :
    Prop :=
  history.monitor.purges event = true ∧
    ∃ story ∈ history.stories, story.id = id ∧ story.isOver expiration event.now = true

/-- In the course of some events, a purge has found an activity finished for long enough. -/
def FoundOver (capacity expiration : Nat) (events : List MonitorEvent) (id : Nat) : Prop :=
  ∃ before event after, events = before ++ event :: after ∧
    FindsOver expiration (run capacity expiration before) event id

/-- In the course of some events, every purge has found an activity unfinished or lately finished. -/
def FoundRecent (capacity expiration : Nat) (events : List MonitorEvent) (id : Nat) : Prop :=
  ∀ before event after, events = before ++ event :: after →
    (run capacity expiration before).monitor.purges event = true →
      ∀ story ∈ (run capacity expiration before).stories, story.id = id →
        story.state.isFinished = false ∨ event.now - story.stateTime < expiration

theorem not_foundOver_of_foundRecent {capacity expiration : Nat} {events : List MonitorEvent}
    {id : Nat} (recent : FoundRecent capacity expiration events id) :
    ¬FoundOver capacity expiration events id := by
  rintro ⟨before, event, after, split, purges, story, story_mem, id_eq, isOver⟩
  obtain ⟨since, since_eq, long⟩ := (Option.any_eq_true _ _).1 isOver
  have long : expiration ≤ event.now - since := of_decide_eq_true long
  rw [ActivityStory.finishedSince?] at since_eq
  split at since_eq
  next finished =>
    obtain rfl := Option.some.inj since_eq
    rcases recent before event after split purges story story_mem id_eq with unfinished | lately
    · rw [finished] at unfinished
      cases unfinished
    · omega
  next => cases since_eq

theorem run_append_singleton (capacity expiration : Nat) (events : List MonitorEvent)
    (event : MonitorEvent) :
    run capacity expiration (events ++ [event]) = (run capacity expiration events).step event :=
  List.foldl_append

theorem foundOver_append_singleton_iff (capacity expiration : Nat) (events : List MonitorEvent)
    (event : MonitorEvent) (id : Nat) :
    FoundOver capacity expiration (events ++ [event]) id ↔
      FoundOver capacity expiration events id ∨
        FindsOver expiration (run capacity expiration events) event id := by
  constructor
  · rintro ⟨before, found, after, events_eq, finds⟩
    -- The purge is at the last event or before it.
    rcases List.eq_nil_or_concat after with rfl | ⟨rest, last, rfl⟩
    · obtain ⟨rfl, found_eq⟩ := List.append_inj' events_eq rfl
      cases found_eq
      exact .inr finds
    · have events_eq : events ++ [event] = (before ++ found :: rest) ++ [last] := by
        simpa using events_eq
      obtain ⟨rfl, -⟩ := List.append_inj' events_eq rfl
      exact .inl ⟨before, found, rest, rfl, finds⟩
  · rintro (⟨before, found, after, rfl, finds⟩ | finds)
    · exact ⟨before, found, after ++ [event], by simp, finds⟩
    · exact ⟨events, event, [], rfl, finds⟩

/-- Only the beginning of an activity adds a story. -/
theorem length_step (history : MonitorHistory) (event : MonitorEvent) :
    (history.step event).stories.length = history.stories.length ∨
      (∃ description now, event = .create description now) ∧
        (history.step event).stories.length = history.stories.length + 1 := by
  cases event with
  | create description now =>
      right
      refine ⟨⟨description, now, rfl⟩, ?_⟩
      simp only [step, List.length_append, List.length_singleton]
  | act id deed =>
      left
      simp only [MonitorHistory.step]
      split
      next => rw [List.length_map]
      next => rfl
  | drop id now =>
      left
      simp only [MonitorHistory.step]
      split
      next => rw [List.length_map]
      next => rfl
  | snapshot now => exact .inl rfl

/-- What a monitor keeps and what it forgets. -/
structure Retains (capacity expiration : Nat) (events : List MonitorEvent)
    (history : MonitorHistory) : Prop where
  /-- An entry goes when a purge finds it finished for long enough, or when it is the oldest entry
  of a table that is full after the purge, and one more activity begins. -/
  goes : ∀ event, ∀ entry ∈ history.monitor.entries,
    entry.id ∉ (history.step event).monitor.entries.map (·.id) →
      ((entry.state = .complete ∨ entry.state = .aborted) ∧
        FindsOver expiration history event entry.id) ∨
      ∃ description now, event = .create description now ∧
        max capacity 1 ≤ (history.monitor.purge now).entries.length ∧
        (history.monitor.purge now).entries.head? = some entry
  /-- A snapshot lists all entries that it leaves. -/
  listed_eq : ∀ now,
    (history.monitor.snapshot now).2 = (history.step (.snapshot now)).monitor.entries
  /-- A snapshot lists activities in the order in which they began, as their stories tell them. -/
  listed_sublist : ∀ now,
    (history.monitor.snapshot now).2.Sublist (history.stories.map ActivityStory.activity)
  /-- A snapshot lists nothing that is finished for long enough. -/
  listed_fresh : ∀ now, ∀ entry ∈ (history.monitor.snapshot now).2, ∀ finished,
    entry.finishedAt = some finished → now - finished < expiration
  /-- As long as there are fewer newer activities than places, an activity is listed exactly when no
  purge has found it finished for long enough. -/
  listed_iff : ∀ now older story newer, history.stories = older ++ story :: newer →
    newer.length < max capacity 1 →
      (story.activity ∈ (history.monitor.snapshot now).2 ↔
        ¬FoundOver capacity expiration (events ++ [.snapshot now]) story.id)
  /-- An activity that every purge has found unfinished or lately finished is listed until as many
  newer ones have begun as there are places. -/
  listed_recent : ∀ now older story newer, history.stories = older ++ story :: newer →
    newer.length < max capacity 1 →
      FoundRecent capacity expiration (events ++ [.snapshot now]) story.id →
        story.activity ∈ (history.monitor.snapshot now).2
  /-- When no purge has found one of the newest activities finished for long enough, they are what is
  listed. -/
  listed_newest : ∀ now,
    (∀ story ∈ history.stories.drop (history.stories.length - max capacity 1),
      ¬FoundOver capacity expiration (events ++ [.snapshot now]) story.id) →
    (history.monitor.snapshot now).2 =
      (history.stories.drop (history.stories.length - max capacity 1)).map ActivityStory.activity

namespace Mirrors

variable {history : MonitorHistory} (mirrors : history.Mirrors)
include mirrors

theorem mem_ids_iff {story : ActivityStory} (mem : story ∈ history.stories) :
    story.id ∈ history.monitor.entries.map (·.id) ↔ story.activity ∈ history.monitor.entries := by
  constructor
  · intro listed
    obtain ⟨entry, entry_mem, id_eq⟩ := List.mem_map.1 listed
    obtain ⟨other, other_mem, rfl⟩ := mirrors.exists_story entry_mem
    rwa [mirrors.story_eq mem other_mem id_eq.symm]
  · intro listed
    exact List.mem_map.2 ⟨story.activity, listed, rfl⟩

theorem id_le {id : Nat} (mem : id ∈ history.monitor.entries.map (·.id)) :
    id ≤ history.stories.length := by
  have given : id ∈ List.range' 1 history.stories.length :=
    mirrors.ids_eq ▸ mirrors.entry_ids_sublist.subset mem
  rw [List.mem_range'_1] at given
  omega

/-- A purge leaves what it does not find finished for long enough. -/
theorem mem_purge_iff (now id : Nat) :
    id ∈ (history.monitor.purge now).entries.map (·.id) ↔
      id ∈ history.monitor.entries.map (·.id) ∧
        ¬∃ story ∈ history.stories, story.id = id ∧
          story.isOver history.monitor.expiration now = true := by
  constructor
  · intro listed
    refine ⟨((history.monitor.purge_sublist now).map _).subset listed, ?_⟩
    rintro ⟨story, story_mem, rfl, isOver⟩
    obtain ⟨entry, entry_mem, id_eq⟩ := List.mem_map.1 listed
    obtain ⟨kept, unexpired⟩ := List.mem_filter.1 entry_mem
    obtain ⟨other, other_mem, rfl⟩ := mirrors.exists_story kept
    rw [mirrors.story_eq other_mem story_mem id_eq, ActivityStory.isExpired_activity, isOver]
      at unexpired
    cases unexpired
  · rintro ⟨listed, unfound⟩
    obtain ⟨entry, entry_mem, rfl⟩ := List.mem_map.1 listed
    obtain ⟨story, story_mem, rfl⟩ := mirrors.exists_story entry_mem
    refine List.mem_map.2 ⟨story.activity, List.mem_filter.2 ⟨entry_mem, ?_⟩, rfl⟩
    rw [ActivityStory.isExpired_activity]
    cases isOver : story.isOver history.monitor.expiration now with
    | false => rfl
    | true => exact absurd ⟨story, story_mem, rfl, isOver⟩ unfound

/-- What is oldest in a full table has as many newer ones as there are places. -/
theorem oldest_le {oldest : Activity} {rest : List Activity} {now : Nat}
    (full : history.monitor.capacity ≤ (history.monitor.purge now).entries.length)
    (purged : (history.monitor.purge now).entries = oldest :: rest) :
    oldest.id + history.monitor.capacity ≤ history.stories.length + 1 := by
  have ids_sublist := (history.monitor.purge_sublist now).map Activity.id
  rw [purged, List.map_cons] at ids_sublist
  have increasing := mirrors.entry_ids_increase.sublist ids_sublist
  have bound := add_length_le_of_increasing increasing fun id mem =>
    mirrors.id_le (ids_sublist.subset mem)
  rw [purged, List.length_cons] at full
  rw [List.length_map] at bound
  omega

/-- Making room keeps an activity with fewer newer ones than there are places, unless a purge finds
it finished for long enough. -/
theorem mem_makeRoom_iff {id : Nat} (description : String) (now : Nat)
    (recent : history.stories.length + 1 < id + history.monitor.capacity) :
    id ∈ (history.monitor.makeRoom now).1.entries.map (·.id) ↔
      id ∈ history.monitor.entries.map (·.id) ∧
        ¬FindsOver history.monitor.expiration history (.create description now) id := by
  rcases Monitor.makeRoom_cases mirrors.positive now with
    ⟨room, eq⟩ | ⟨full, -, eq⟩ | ⟨full, still_full, oldest, rest, purged, eq⟩
  · have purges_eq : history.monitor.purges (.create description now) = false :=
      decide_eq_false (Nat.not_le.2 room)
    rw [eq, FindsOver, purges_eq]
    simp
  · have purges_eq : history.monitor.purges (.create description now) = true := decide_eq_true full
    rw [eq, mirrors.mem_purge_iff, FindsOver, purges_eq]
    simp [MonitorEvent.now]
  · have purges_eq : history.monitor.purges (.create description now) = true := decide_eq_true full
    have oldest_le := mirrors.oldest_le still_full purged
    have id_ne : id ≠ oldest.id := by omega
    have rest_iff : id ∈ rest.map (·.id) ↔
        id ∈ (history.monitor.purge now).entries.map (·.id) := by
      rw [purged, List.map_cons, List.mem_cons, or_iff_right id_ne]
    rw [eq, rest_iff, mirrors.mem_purge_iff, FindsOver, purges_eq]
    simp [MonitorEvent.now]

/-- The entry of a new activity has the next number. -/
theorem ids_create (description : String) (now : Nat) :
    (history.step (.create description now)).monitor.entries.map (·.id) =
      (history.monitor.makeRoom now).1.entries.map (·.id) ++ [history.stories.length + 1] := by
  have terms := (Monitor.makeRoom_sublist mirrors.positive now).2.2
  simp only [MonitorHistory.step, Monitor.create, List.map_append, List.map_singleton,
    terms.next_eq, mirrors.next_eq]

/-- An event keeps an activity that began before it and has fewer newer ones than there are places,
unless it is a purge that finds the activity finished for long enough. -/
theorem mem_ids_step_iff {event : MonitorEvent} {id : Nat} (given : id ≤ history.stories.length)
    (recent : (history.step event).stories.length < id + history.monitor.capacity) :
    id ∈ (history.step event).monitor.entries.map (·.id) ↔
      id ∈ history.monitor.entries.map (·.id) ∧
        ¬FindsOver history.monitor.expiration history event id := by
  have unpurged (through : history.monitor.purges event = false) :
      ¬FindsOver history.monitor.expiration history event id := by
    rintro ⟨purges, -⟩
    rw [through] at purges
    cases purges
  cases event with
  | create description now =>
      have length_eq : (history.step (.create description now)).stories.length =
          history.stories.length + 1 := List.length_append
      have id_ne : id ≠ history.stories.length + 1 := by omega
      rw [mirrors.ids_create, List.mem_append, List.mem_singleton, or_iff_left id_ne]
      exact mirrors.mem_makeRoom_iff description now (length_eq ▸ recent)
  | act other deed => rw [mirrors.ids_of_guard rfl, and_iff_left (unpurged rfl)]
  | drop other now => rw [mirrors.ids_of_guard rfl, and_iff_left (unpurged rfl)]
  | snapshot now =>
      have finds_iff : FindsOver history.monitor.expiration history (.snapshot now) id ↔
          ∃ story ∈ history.stories, story.id = id ∧
            story.isOver history.monitor.expiration now = true := and_iff_right rfl
      rw [finds_iff]
      exact mirrors.mem_purge_iff now id

/-- The number of an activity is its place in the row of all. -/
theorem id_of_split {older newer : List ActivityStory} {story : ActivityStory}
    (split : history.stories = older ++ story :: newer) : story.id = older.length + 1 := by
  have place : (history.stories.map (·.id))[older.length]? = some story.id := by
    rw [split, List.getElem?_map, List.getElem?_append_right (Nat.le_refl _), Nat.sub_self]
    rfl
  have inside : older.length < history.stories.length := by
    rw [split, List.length_append, List.length_cons]
    omega
  rw [mirrors.ids_eq, List.getElem?_range' inside] at place
  have id_eq := Option.some.inj place
  omega

end Mirrors

theorem id_le_of_foundOver {capacity expiration : Nat} {events : List MonitorEvent} {id : Nat}
    (found : FoundOver capacity expiration events id) :
    id ≤ (run capacity expiration events).stories.length := by
  induction events using List.reverseRecOn with
  | nil =>
      obtain ⟨before, event, after, events_eq, -⟩ := found
      simp at events_eq
  | append_singleton events event induction =>
      have mirrors := mirrors_run capacity expiration events
      have given : id ≤ (run capacity expiration events).stories.length := by
        rcases (foundOver_append_singleton_iff _ _ _ _ _).1 found with earlier | now
        · exact induction earlier
        · obtain ⟨-, story, story_mem, rfl, -⟩ := now
          have below := mirrors.id_lt_next story_mem
          rw [mirrors.next_eq] at below
          omega
      rw [run_append_singleton]
      rcases (run capacity expiration events).length_step event with same | ⟨-, more⟩ <;> omega

/-- As long as an activity has fewer newer ones than there are places, its entry is there exactly
when no purge has found the activity finished for long enough. -/
theorem mem_ids_run_iff {capacity expiration : Nat} {events : List MonitorEvent} {id : Nat}
    (positive : 0 < id) (given : id ≤ (run capacity expiration events).stories.length)
    (recent : (run capacity expiration events).stories.length < id + max capacity 1) :
    id ∈ (run capacity expiration events).monitor.entries.map (·.id) ↔
      ¬FoundOver capacity expiration events id := by
  induction events using List.reverseRecOn with
  | nil =>
      have none_yet : (run capacity expiration []).stories.length = 0 := rfl
      omega
  | append_singleton events event induction =>
      have mirrors := mirrors_run capacity expiration events
      obtain ⟨capacity_eq, expiration_eq⟩ := limits_run capacity expiration events
      rw [run_append_singleton] at given recent ⊢
      rcases Nat.lt_or_ge (run capacity expiration events).stories.length id with new | old
      · -- The activity begins at this event.
        have unfound : ¬FoundOver capacity expiration (events ++ [event]) id := by
          rw [foundOver_append_singleton_iff, not_or]
          refine ⟨fun found => absurd (id_le_of_foundOver found) (Nat.not_le.2 new), ?_⟩
          rintro ⟨-, story, story_mem, rfl, -⟩
          have below := mirrors.id_lt_next story_mem
          rw [mirrors.next_eq] at below
          omega
        rcases (run capacity expiration events).length_step event with
          same | ⟨⟨description, now, rfl⟩, more⟩
        · omega
        · have id_eq : id = (run capacity expiration events).stories.length + 1 := by omega
          rw [mirrors.ids_create, id_eq]
          exact iff_of_true (List.mem_append_right _ List.mem_cons_self) (id_eq ▸ unfound)
      · have still_recent :
            (run capacity expiration events).stories.length < id + max capacity 1 := by
          rcases (run capacity expiration events).length_step event with same | ⟨-, more⟩ <;> omega
        rw [mirrors.mem_ids_step_iff old (capacity_eq.symm ▸ recent), expiration_eq,
          induction old still_recent, foundOver_append_singleton_iff, not_or]

/-! ## Snapshots -/

namespace Mirrors

variable {history : MonitorHistory} (mirrors : history.Mirrors)
include mirrors

/-- An entry that a purge takes away is finished for long enough. -/
theorem over_of_not_mem_purge {entry : Activity} (mem : entry ∈ history.monitor.entries) {now : Nat}
    (purged : entry.id ∉ (history.monitor.purge now).entries.map (·.id)) :
    (entry.state = .complete ∨ entry.state = .aborted) ∧
      ∃ story ∈ history.stories, story.id = entry.id ∧
        story.isOver history.monitor.expiration now = true := by
  have listed : entry.id ∈ history.monitor.entries.map (·.id) := List.mem_map_of_mem mem
  rw [mirrors.mem_purge_iff, and_iff_right listed, not_not] at purged
  obtain ⟨story, story_mem, id_eq, isOver⟩ := purged
  have told : story.activity = entry := by
    obtain ⟨other, other_mem, rfl⟩ := mirrors.exists_story mem
    rw [mirrors.story_eq story_mem other_mem id_eq]
  have finished : story.finishedSince?.isSome = true := by
    obtain ⟨since, since_eq, -⟩ := (Option.any_eq_true _ _).1 isOver
    rw [since_eq]
    rfl
  rw [ActivityStory.finishedSince?_isSome, ActivityState.isFinished_iff] at finished
  exact ⟨told ▸ finished, story, story_mem, id_eq, isOver⟩

/-- Entries go in a purge when they are finished for long enough, or because they are oldest. -/
theorem goes {event : MonitorEvent} {entry : Activity} (mem : entry ∈ history.monitor.entries)
    (gone : entry.id ∉ (history.step event).monitor.entries.map (·.id)) :
    ((entry.state = .complete ∨ entry.state = .aborted) ∧
      FindsOver history.monitor.expiration history event entry.id) ∨
    ∃ description now, event = .create description now ∧
      history.monitor.capacity ≤ (history.monitor.purge now).entries.length ∧
      (history.monitor.purge now).entries.head? = some entry := by
  have listed : entry.id ∈ history.monitor.entries.map (·.id) := List.mem_map_of_mem mem
  cases event with
  | act id deed =>
      have through : (MonitorEvent.act id deed).guard? = some id := rfl
      have same_ids := mirrors.ids_of_guard through
      rw [same_ids] at gone
      exact absurd listed gone
  | drop id now =>
      have through : (MonitorEvent.drop id now).guard? = some id := rfl
      have same_ids := mirrors.ids_of_guard through
      rw [same_ids] at gone
      exact absurd listed gone
  | snapshot now =>
      obtain ⟨finished, isOver⟩ := mirrors.over_of_not_mem_purge mem gone
      exact .inl ⟨finished, rfl, isOver⟩
  | create description now =>
      rw [mirrors.ids_create, List.mem_append, not_or] at gone
      rcases Monitor.makeRoom_cases mirrors.positive now with
        ⟨-, eq⟩ | ⟨full, -, eq⟩ | ⟨full, still_full, oldest, rest, purged, eq⟩
      · rw [eq] at gone
        exact absurd listed gone.1
      · rw [eq] at gone
        obtain ⟨finished, isOver⟩ := mirrors.over_of_not_mem_purge mem gone.1
        exact .inl ⟨finished, decide_eq_true full, isOver⟩
      · rw [eq] at gone
        by_cases kept : entry.id ∈ (history.monitor.purge now).entries.map (·.id)
        · right
          refine ⟨description, now, rfl, still_full, ?_⟩
          rw [purged, List.map_cons, List.mem_cons, or_iff_left gone.1] at kept
          have oldest_mem : oldest ∈ history.monitor.entries :=
            (history.monitor.purge_sublist now).subset (purged ▸ List.mem_cons_self)
          rw [purged, List.head?_cons,
            List.inj_on_of_nodup_map mirrors.nodup_entry_ids mem oldest_mem kept]
        · obtain ⟨finished, isOver⟩ := mirrors.over_of_not_mem_purge mem kept
          exact .inl ⟨finished, decide_eq_true full, isOver⟩

/-- When as many of the newest activities are in the table as it has places, there is no other. -/
theorem entries_eq_newest
    (newest : ∀ story ∈ history.stories.drop (history.stories.length - history.monitor.capacity),
      story.activity ∈ history.monitor.entries) :
    history.monitor.entries =
      (history.stories.drop (history.stories.length - history.monitor.capacity)).map
        ActivityStory.activity := by
  let last := (history.stories.drop (history.stories.length - history.monitor.capacity)).map
    ActivityStory.activity
  have increasing : (history.stories.map ActivityStory.activity).Pairwise (·.id < ·.id) := by
    rw [List.pairwise_map]
    exact List.pairwise_map.1 mirrors.ids_increase
  have last_increasing : last.Pairwise (·.id < ·.id) :=
    increasing.sublist ((List.drop_sublist _ _).map _)
  have entries_increasing : history.monitor.entries.Pairwise (·.id < ·.id) :=
    increasing.sublist mirrors.entries_sublist
  have inside : last ⊆ history.monitor.entries := by
    intro entry mem
    obtain ⟨story, story_mem, rfl⟩ := List.mem_map.1 mem
    exact newest story story_mem
  have last_nodup : last.Nodup := last_increasing.imp fun below same => by
    rw [same] at below
    exact absurd below (Nat.lt_irrefl _)
  have enough : history.monitor.entries.length ≤ last.length := by
    have at_most := mirrors.length_le
    have began := mirrors.entries_sublist.length_le
    simp only [List.length_map] at began
    simp only [last, List.length_map, List.length_drop]
    omega
  have perm : last.Perm history.monitor.entries :=
    (last_nodup.subperm inside).perm_of_length_le enough
  exact (perm.eq_of_pairwise (fun one other _ _ below above =>
    absurd (Nat.lt_trans below above) (Nat.lt_irrefl _)) last_increasing entries_increasing).symm

end Mirrors

/-- A snapshot lists what it leaves. -/
theorem snapshot_run (capacity expiration : Nat) (events : List MonitorEvent) (now : Nat) :
    ((run capacity expiration events).monitor.snapshot now).2 =
      (run capacity expiration (events ++ [.snapshot now])).monitor.entries := by
  rw [run_append_singleton]
  rfl

theorem stories_snapshot (capacity expiration : Nat) (events : List MonitorEvent) (now : Nat) :
    (run capacity expiration (events ++ [.snapshot now])).stories =
      (run capacity expiration events).stories := by
  rw [run_append_singleton]
  rfl

/-- As long as there are fewer newer activities than places, an activity is listed exactly when no
purge has found it finished for long enough. -/
theorem mem_snapshot_iff {capacity expiration : Nat} {events : List MonitorEvent} (now : Nat)
    {older newer : List ActivityStory} {story : ActivityStory}
    (split : (run capacity expiration events).stories = older ++ story :: newer)
    (recent : newer.length < max capacity 1) :
    story.activity ∈ ((run capacity expiration events).monitor.snapshot now).2 ↔
      ¬FoundOver capacity expiration (events ++ [.snapshot now]) story.id := by
  have after := mirrors_run capacity expiration (events ++ [.snapshot now])
  have story_mem : story ∈ (run capacity expiration (events ++ [.snapshot now])).stories := by
    rw [stories_snapshot, split]
    exact List.mem_append_right _ List.mem_cons_self
  have id_eq := (mirrors_run capacity expiration events).id_of_split split
  have length_eq := congrArg List.length split
  rw [List.length_append, List.length_cons] at length_eq
  rw [snapshot_run, ← after.mem_ids_iff story_mem]
  apply mem_ids_run_iff
  · omega
  · rw [stories_snapshot]
    omega
  · rw [stories_snapshot]
    omega

/-- When no purge has found one of the newest activities finished for long enough, they are what is
listed. -/
theorem snapshot_eq_newest {capacity expiration : Nat} {events : List MonitorEvent} (now : Nat)
    (unfound : ∀ story ∈ (run capacity expiration events).stories.drop
        ((run capacity expiration events).stories.length - max capacity 1),
      ¬FoundOver capacity expiration (events ++ [.snapshot now]) story.id) :
    ((run capacity expiration events).monitor.snapshot now).2 =
      ((run capacity expiration events).stories.drop
        ((run capacity expiration events).stories.length - max capacity 1)).map
          ActivityStory.activity := by
  have after := mirrors_run capacity expiration (events ++ [.snapshot now])
  have after_capacity := (limits_run capacity expiration (events ++ [.snapshot now])).1
  rw [snapshot_run, ← stories_snapshot capacity expiration events now, ← after_capacity]
  apply after.entries_eq_newest
  rw [stories_snapshot, after_capacity]
  intro story mem
  obtain ⟨front, back, drop_eq⟩ := List.append_of_mem mem
  have split : (run capacity expiration events).stories =
      ((run capacity expiration events).stories.take
        ((run capacity expiration events).stories.length - max capacity 1) ++ front) ++
          story :: back := by
    rw [List.append_assoc, ← drop_eq, List.take_append_drop]
  have length_eq := congrArg List.length drop_eq
  rw [List.length_drop, List.length_append, List.length_cons] at length_eq
  rw [← snapshot_run]
  exact (mem_snapshot_iff now split (by omega)).2 (unfound story mem)

/-- A monitor keeps what it must, and forgets only what it may. -/
theorem run_retains (capacity expiration : Nat) (events : List MonitorEvent) :
    (run capacity expiration events).Retains capacity expiration events := by
  have mirrors := mirrors_run capacity expiration events
  obtain ⟨capacity_eq, expiration_eq⟩ := limits_run capacity expiration events
  refine
    { goes := fun event entry mem gone => ?_
      listed_eq := fun _ => rfl
      listed_sublist := fun now => (Monitor.purge_sublist _ now).trans mirrors.entries_sublist
      listed_fresh := fun now entry mem finished finished_eq => ?_
      listed_iff := fun now _ _ _ split recent => mem_snapshot_iff now split recent
      listed_recent := fun now _ _ _ split recent foundRecent =>
        (mem_snapshot_iff now split recent).2 (not_foundOver_of_foundRecent foundRecent)
      listed_newest := fun now unfound => snapshot_eq_newest now unfound }
  · have went := mirrors.goes mem gone
    rw [capacity_eq, expiration_eq] at went
    exact went
  · have unexpired := (List.mem_filter.1 mem).2
    rw [Monitor.isExpired, finished_eq, expiration_eq] at unexpired
    simpa using unexpired

example :
    ((run 2 60 [.create "first" 0, .create "second" 1, .act 2 ⟨.complete, "done", 2⟩,
      .create "third" 3, .drop 3 4]).monitor.snapshot 5).2.map (fun entry =>
        (entry.description, entry.status, entry.state)) =
      [("second", "done", .complete), ("third", "", .aborted)] := by
  decide

end MonitorHistory
end ClusterMember
