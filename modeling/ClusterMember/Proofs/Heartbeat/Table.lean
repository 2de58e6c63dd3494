import ClusterMember.Heartbeat.Manager.History
import ClusterMember.Proofs.Identity.Place
import ClusterMember.Proofs.Keyed
import Mathlib.Data.Finset.Card

/-!
# The table of slaves and its history

Whatever reports and listeners a table was given, it holds the last record of each place and no
other, and each listener has heard all records since it was added.  What the log says about a report
is told by the last record from the same place.
-/

namespace ClusterMember
namespace Heartbeat

theorem Record.last?_append_singleton (condition : Record → Bool) (records : List Record)
    (record : Record) :
    last? condition (records ++ [record]) =
      if condition record then some record else last? condition records := by
  simp only [last?, List.reverse_append, List.reverse_cons, List.reverse_nil, List.nil_append,
    List.singleton_append, List.find?_cons]
  cases condition record <;> rfl

theorem Record.last?_eq_none_iff (condition : Record → Bool) (records : List Record) :
    last? condition records = none ↔ ∀ record ∈ records, condition record = false := by
  simp [last?]

/-- What the last record that a condition holds of is like. -/
theorem Record.of_last? {condition : Record → Bool} {records : List Record} {record : Record}
    (found : last? condition records = some record) :
    condition record = true ∧ record ∈ records :=
  ⟨List.find?_some found, List.mem_reverse.1 (List.mem_of_find?_eq_some found)⟩

namespace Manager

/-! ## Rows of records under keys -/

theorem lookup_insert (key : String) (record : Record) (table : List (String × Record))
    (other : String) :
    (insert key record table).lookup other =
      if other = key then some record else table.lookup other := by
  induction table with
  | nil =>
      simp only [insert, List.lookup_cons, List.lookup_nil]
      split <;> simp_all
  | cons entry rest induction =>
      obtain ⟨name, kept⟩ := entry
      simp only [insert]
      split
      next same =>
        subst same
        simp only [List.lookup_cons]
        split <;> simp_all
      next different =>
        simp only [List.lookup_cons, induction]
        split <;> simp_all

theorem keys_insert (key : String) (record : Record) (table : List (String × Record)) :
    (insert key record table).map Prod.fst =
      if key ∈ table.map Prod.fst then table.map Prod.fst else table.map Prod.fst ++ [key] := by
  induction table with
  | nil => rfl
  | cons entry rest induction =>
      obtain ⟨name, kept⟩ := entry
      simp only [insert]
      split
      next same => simp [same]
      next different =>
        have absent : key ≠ name := fun same => different same.symm
        simp only [List.map_cons, induction, List.mem_cons, absent, false_or]
        split <;> rfl

theorem nodup_keys_insert {table : List (String × Record)} (nodup : (table.map Prod.fst).Nodup)
    (key : String) (record : Record) : ((insert key record table).map Prod.fst).Nodup := by
  rw [keys_insert]
  split
  next => exact nodup
  next absent => exact nodup.append (List.nodup_singleton key) (by simpa using absent)

/-! ## What a table holds -/

/-- A table holds the last of some records from each place. -/
structure Reflects (manager : Manager) (records : List Record) : Prop where
  received_eq : manager.received = records.length
  latest?_eq : ∀ key, manager.latest? key =
    Record.last? (fun record => record.sender.hostAndPort = key) records
  /-- No place has two entries. -/
  nodup : (manager.slaves.map Prod.fst).Nodup

theorem reflects_empty : empty.Reflects [] := ⟨rfl, fun _ => rfl, List.nodup_nil⟩

namespace Reflects

variable {manager : Manager} {records : List Record} (reflects : manager.Reflects records)
include reflects

theorem accept (request : Request) (now : UInt64) :
    (manager.accept request now).manager.Reflects
      (records ++ [⟨request.sender, request.reportTime, now⟩]) where
  received_eq := by simp [Manager.accept, reflects.received_eq]
  latest?_eq key := by
    have kept := reflects.latest?_eq key
    simp only [latest?] at kept
    simp only [Manager.accept, latest?, lookup_insert, kept, Record.last?_append_singleton,
      decide_eq_true_eq, @eq_comm _ key]
  nodup := nodup_keys_insert reflects.nodup _ _

theorem listen (name : String) : (manager.listen name).Reflects records :=
  ⟨reflects.received_eq, reflects.latest?_eq, reflects.nodup⟩

/-- The last record from the place of a node, found by the text of that place. -/
theorem latest?_hostAndPort (identity : Identity) :
    manager.latest? identity.hostAndPort =
      Record.last? (fun record => record.sender.place = identity.place) records := by
  rw [reflects.latest?_eq]
  simp only [Identity.hostAndPort_eq_iff]

/-- The entries are the last records of their places. -/
theorem mem_slaves_iff (key : String) (record : Record) :
    (key, record) ∈ manager.slaves ↔
      key = record.sender.hostAndPort ∧
        Record.last? (fun other => other.sender.place = record.sender.place) records =
          some record := by
  rw [Keyed.mem_iff_lookup reflects.nodup, ← reflects.latest?_hostAndPort]
  constructor
  · intro found
    have key_eq := (Record.of_last? ((reflects.latest?_eq key).symm.trans found)).1
    rw [decide_eq_true_eq] at key_eq
    exact ⟨key_eq.symm, by rwa [key_eq]⟩
  · rintro ⟨rfl, found⟩
    exact found

/-- No two entries are of the same place. -/
theorem nodup_places : (manager.slaves.map fun entry => entry.2.sender.place).Nodup := by
  have keys := reflects.nodup
  rw [List.Nodup, List.pairwise_map] at keys ⊢
  refine keys.imp_of_mem fun {first second} first_mem second_mem keys_ne places_eq => keys_ne ?_
  rw [((reflects.mem_slaves_iff first.1 first.2).1 first_mem).1,
    ((reflects.mem_slaves_iff second.1 second.2).1 second_mem).1]
  exact (Identity.hostAndPort_eq_iff _ _).2 places_eq

/-- The places of the entries are those of the records. -/
theorem mem_places_iff (place : String × UInt16) :
    place ∈ (manager.slaves.map fun entry => entry.2.sender.place) ↔
      place ∈ records.map fun record => record.sender.place := by
  simp only [List.mem_map]
  constructor
  · rintro ⟨⟨key, record⟩, mem, rfl⟩
    exact ⟨record, (Record.of_last? ((reflects.mem_slaves_iff key record).1 mem).2).2, rfl⟩
  · rintro ⟨record, mem, rfl⟩
    cases found : Record.last? (fun other => other.sender.place = record.sender.place) records with
    | none =>
        have none_there := (Record.last?_eq_none_iff _ _).1 found record mem
        simp at none_there
    | some last =>
        have same := (Record.of_last? found).1
        rw [decide_eq_true_eq] at same
        exact ⟨(_, last), (reflects.mem_slaves_iff _ last).2 ⟨rfl, by rwa [same]⟩, same⟩

theorem count_eq :
    manager.count = (records.map fun record => record.sender.place).toFinset.card := by
  have same : (manager.slaves.map fun entry => entry.2.sender.place).toFinset =
      (records.map fun record => record.sender.place).toFinset := by
    ext place
    rw [List.mem_toFinset, List.mem_toFinset, reflects.mem_places_iff]
  rw [← same, List.toFinset_card_of_nodup reflects.nodup_places, List.length_map, count]

/-- Of each place there is at most one node alive. -/
theorem nodup_live (maxAge now : Nat) : ((manager.live maxAge now).map Identity.place).Nodup := by
  rw [live, List.map_map]
  exact reflects.nodup_places.sublist (List.filter_sublist.map _)

/-- The nodes alive are the senders of last records that are young enough. -/
theorem mem_live_iff (maxAge now : Nat) (identity : Identity) :
    identity ∈ manager.live maxAge now ↔
      ∃ record, Record.last? (fun other => other.sender.place = identity.place) records =
        some record ∧ record.sender = identity ∧ now ≤ record.receivedAt.toNat + maxAge := by
  simp only [live, List.mem_map, List.mem_filter, decide_eq_true_eq, Nat.sub_le_iff_le_add']
  constructor
  · rintro ⟨⟨key, record⟩, ⟨mem, young⟩, rfl⟩
    exact ⟨record, ((reflects.mem_slaves_iff key record).1 mem).2, rfl, young⟩
  · rintro ⟨record, found, rfl, young⟩
    exact ⟨(_, record), ⟨(reflects.mem_slaves_iff _ record).2 ⟨rfl, found⟩, young⟩, rfl⟩

end Reflects

/-! ## What the log says -/

/-- What the log says of a report, going by the last record from the same place. -/
structure Announces (last : Option Record) (sender : Identity) (line : LogLine) : Prop where
  first_iff : line = ⟨.info, "First heartbeat from slave " ++ sender.canonical⟩ ↔ last = none
  /-- The sender is another process at a known place. -/
  restarted_iff : ∀ was : Identity,
    line = ⟨.info, "Slave " ++ sender.canonical ++ " restarted (was " ++ was.canonical ++ ")"⟩ ↔
      ∃ record, last = some record ∧ record.sender.startTime ≠ sender.startTime ∧
        record.sender.canonical = was.canonical
  known_iff : line = ⟨.debug, "Heartbeat from " ++ sender.canonical⟩ ↔
    ∃ record, last = some record ∧ record.sender.startTime = sender.startTime

/-- A line about a newcomer is none about a restart. -/
theorem first_ne_restarted (one other : String) :
    "First heartbeat from slave " ++ one ≠ "Slave " ++ other := by
  intro same
  have chars := congrArg (fun text => text.toList.head?) same
  simp at chars

theorem announces_logOf {last : Option Record} {sender : Identity}
    (same_place : ∀ record, last = some record → record.sender.place = sender.place) :
    Announces last sender (logOf last sender) := by
  cases last with
  | none =>
      constructor
      · simp [logOf]
      · simpa [logOf, String.append_assoc] using fun was => first_ne_restarted _ _
      · simp [logOf]
  | some record =>
      have restart_iff : record.sender.isRestartOf sender = true ↔
          record.sender.startTime ≠ sender.startTime := by
        rw [Identity.isRestartOf_iff, and_iff_right (same_place record rfl)]
      by_cases restarted : record.sender.startTime = sender.startTime
      · have line_eq : logOf (some record) sender =
            ⟨.debug, "Heartbeat from " ++ sender.canonical⟩ := by
          rw [logOf, if_neg (by rw [restart_iff]; exact not_not.2 restarted)]
        rw [line_eq]
        constructor <;> simp [restarted]
      · have line_eq : logOf (some record) sender =
            ⟨.info, "Slave " ++ sender.canonical ++ " restarted (was " ++
              record.sender.canonical ++ ")"⟩ := by
          rw [logOf, if_pos (restart_iff.2 restarted)]
        rw [line_eq]
        constructor
        · simpa [String.append_assoc] using fun same => first_ne_restarted _ _ same.symm
        · simp [restarted]
        · simp [restarted]

end Manager

namespace ManagerCall

/-! ## What listeners hear -/

theorem length_of_mem_heardFrom {calls : List ManagerCall} {names : List String}
    {heard : List (String × Record)} (mem : heard ∈ heardFrom names calls) :
    heard.length ≤ names.length + (listeners calls).length := by
  induction calls generalizing names with
  | nil => cases mem
  | cons call rest induction =>
      cases call with
      | accept request now =>
          rcases List.mem_cons.1 mem with rfl | later
          · simp
          · exact induction later
      | listen name =>
          have bound := induction mem
          simp only [List.length_append, List.length_singleton] at bound
          simp only [listeners_listen, List.length_cons]
          omega

theorem heardFrom_append (names : List String) (before after : List ManagerCall) :
    heardFrom names (before ++ after) =
      heardFrom names before ++ heardFrom (names ++ listeners before) after := by
  induction before generalizing names with
  | nil => simp [heardFrom, listeners]
  | cons call rest induction =>
      cases call with
      | accept request now => simp [heardFrom, induction]
      | listen name => simp [heardFrom, induction]

/-- A listener that is there hears every record. -/
theorem heardFrom_at {names : List String} {place : Nat} {name : String}
    (there : names[place]? = some name) (calls : List ManagerCall) :
    (heardFrom names calls).filterMap (·[place]?) = (records calls).map (name, ·) := by
  induction calls generalizing names with
  | nil => rfl
  | cons call rest induction =>
      cases call with
      | accept request now => simp [heardFrom, there, induction there]
      | listen other =>
          have still : (names ++ [other])[place]? = some name := by
            rw [List.getElem?_append_left (List.getElem?_eq_some_iff.1 there).1, there]
          exact induction still

end ManagerCall

namespace ManagerHistory

open ManagerCall

theorem heard_foldl (history : ManagerHistory) (calls : List ManagerCall) :
    (calls.foldl call history).accepted.map (·.heard) =
      history.accepted.map (·.heard) ++ heardFrom history.manager.listeners calls := by
  induction calls generalizing history with
  | nil => simp [heardFrom]
  | cons next rest induction =>
      rw [List.foldl_cons, induction]
      cases next with
      | accept request now => simp [call, heardFrom, Manager.accept]
      | listen name => simp [call, heardFrom, Manager.listen]

theorem listeners_foldl (history : ManagerHistory) (calls : List ManagerCall) :
    (calls.foldl call history).manager.listeners =
      history.manager.listeners ++ listeners calls := by
  induction calls generalizing history with
  | nil => simp [listeners]
  | cons next rest induction =>
      rw [List.foldl_cons, induction]
      cases next with
      | accept request now => simp [call, Manager.accept]
      | listen name => simp [call, Manager.listen]

theorem reflects_foldl (history : ManagerHistory) (past : List Record)
    (reflects : history.manager.Reflects past) (calls : List ManagerCall) :
    (calls.foldl call history).manager.Reflects (past ++ records calls) := by
  induction calls generalizing history past with
  | nil => simpa [records] using reflects
  | cons next rest induction =>
      rw [List.foldl_cons]
      cases next with
      | accept request now =>
          rw [records_accept, List.append_cons]
          exact induction _ _ (reflects.accept request now)
      | listen name => exact induction _ _ (reflects.listen name)

theorem reflects_run (calls : List ManagerCall) : (run calls).manager.Reflects (records calls) :=
  reflects_foldl ⟨.empty, []⟩ [] Manager.reflects_empty calls

/-- A table and what it told others fit the calls that it was given. -/
structure Faithful (calls : List ManagerCall) (history : ManagerHistory) : Prop where
  received_eq : history.manager.received = (records calls).length
  count_eq : history.manager.count =
    ((records calls).map fun record => record.sender.place).toFinset.card
  latest?_eq : ∀ key, history.manager.latest? key =
    Record.last? (fun record => record.sender.hostAndPort = key) (records calls)
  /-- The next report is handed to all listeners in their order. -/
  heard_eq : ∀ request now, (history.manager.accept request now).heard =
    (listeners calls).map (·, ⟨request.sender, request.reportTime, now⟩)
  /-- A listener has heard all records since it was added, each once and in their order. -/
  heard_since : ∀ before name after, calls = before ++ .listen name :: after →
    history.accepted.filterMap (·.heard[(listeners before).length]?) =
      (records after).map (name, ·)
  /-- What the log says about the next report. -/
  announces : ∀ request now,
    Manager.Announces
      (Record.last? (fun record => record.sender.place = request.sender.place) (records calls))
      request.sender (history.manager.accept request now).log
  nodup_live : ∀ maxAge now, ((history.manager.live maxAge now).map Identity.place).Nodup
  /-- The nodes alive are the senders of the last records of their places that are young enough. -/
  mem_live_iff : ∀ maxAge now identity, identity ∈ history.manager.live maxAge now ↔
    ∃ record, Record.last? (fun other => other.sender.place = identity.place) (records calls) =
      some record ∧ record.sender = identity ∧ now ≤ record.receivedAt.toNat + maxAge

/-- A table of slaves fits whatever calls it was given. -/
theorem run_faithful (calls : List ManagerCall) : (run calls).Faithful calls := by
  have reflects := reflects_run calls
  have listeners_eq : (run calls).manager.listeners = listeners calls := listeners_foldl _ calls
  have heard_eq : (run calls).accepted.map (·.heard) = heardFrom [] calls := heard_foldl _ calls
  refine
    { received_eq := reflects.received_eq
      count_eq := reflects.count_eq
      latest?_eq := reflects.latest?_eq
      heard_eq := fun request now => by rw [← listeners_eq]; rfl
      heard_since := ?_
      announces := fun request now => ?_
      nodup_live := reflects.nodup_live
      mem_live_iff := reflects.mem_live_iff }
  · rintro before name after rfl
    have there : (listeners before ++ [name])[(listeners before).length]? = some name := by simp
    have unheard : (heardFrom [] before).filterMap (·[(listeners before).length]?) = [] := by
      rw [List.filterMap_eq_nil_iff]
      intro heard mem
      rw [List.getElem?_eq_none_iff]
      simpa using length_of_mem_heardFrom mem
    calc
      (run (before ++ .listen name :: after)).accepted.filterMap
          (·.heard[(listeners before).length]?) =
          ((run (before ++ .listen name :: after)).accepted.map (·.heard)).filterMap
            (·[(listeners before).length]?) := by rw [List.filterMap_map]; rfl
      _ = (heardFrom (listeners before ++ [name]) after).filterMap
            (·[(listeners before).length]?) := by
          rw [heard_eq, heardFrom_append, List.filterMap_append, unheard, List.nil_append]
          rfl
      _ = (records after).map (name, ·) := heardFrom_at there after
  · rw [Manager.accept, reflects.latest?_hostAndPort]
    exact Manager.announces_logOf fun record found => by simpa using (Record.of_last? found).1

end ManagerHistory
end Heartbeat
end ClusterMember
