import ClusterMember.Heartbeat.Receptor
import ClusterMember.Proofs.Heartbeat.Table
import ClusterMember.Proofs.Identity.Sources

/-!
# The keys of the table of slaves

Anyone may send bytes to a master.  What is stored is the sender of a report with a valid host name,
under a key that splits at its only colon into the host and the port of that sender; and the text of
a stored sender is read back.
-/

namespace ClusterMember
namespace Heartbeat

/-- What comes to a master. -/
inductive Arrival where
  /-- A body that is sent to a path, where bodies of more than `cap` bytes are too large. -/
  | body (cap : Nat) (at_ : String) (bytes : List UInt8) (now : UInt64)
  /-- A new listener. -/
  | listener (name : String)

/-- The call of the table that an arrival leads to, if it is not refused. -/
def Arrival.call? : Arrival → Option ManagerCall
  | .body cap at_ bytes now =>
    if at_ ≠ Manager.path ∨ cap < bytes.length then none
    else (Wire.decode Wire.readRequest bytes).toOption.map (.accept · now)
  | .listener name => some (.listen name)

namespace Manager

/-- The table after an arrival. -/
def take (manager : Manager) : Arrival → Manager
  | .body cap at_ bytes now => (manager.answer cap at_ bytes now).1
  | .listener name => manager.listen name

/-- The table after arrivals, one after the other. -/
def takeAll (manager : Manager) (arrivals : List Arrival) : Manager :=
  arrivals.foldl take manager

/-- A key is the text of the place of a node, and splits into its host and its port. -/
structure IsKeyOf (key : String) (sender : Identity) : Prop where
  count_eq : key.toList.count ':' = 1
  splits : ∃ port, Text.split ':' key.toList = [sender.host.toList, port] ∧
    Decimal.read word16Max port = .ok sender.port.toNat

/-- Every entry of a table stands under the key of its sender, and its sender has a text. -/
structure WellKeyed (manager : Manager) : Prop where
  isKeyOf : ∀ key record, (key, record) ∈ manager.slaves → IsKeyOf key record.sender
  /-- No two entries have the same host and port. -/
  nodup_places : (manager.slaves.map fun entry => entry.2.sender.place).Nodup
  /-- The text of a sender is read as that sender, of which it leaves out the address. -/
  reads_back : ∀ key record, (key, record) ∈ manager.slaves →
    ∃ identity, Identity.ofString record.sender.canonical = .ok identity ∧
      (identity == record.sender) = true

/-! ## Keys -/

theorem isKeyOf_hostAndPort (sender : Identity) : IsKeyOf sender.hostAndPort sender := by
  have toList_eq : sender.hostAndPort.toList =
      sender.host.toList ++ ':' :: Decimal.digits sender.port.toNat := by
    simp [Identity.hostAndPort, Decimal.toList_write]
  have port_absent : ':' ∉ Decimal.digits sender.port.toNat :=
    Decimal.not_mem_digits (by decide) _
  have split_eq : Text.split ':' sender.hostAndPort.toList =
      [sender.host.toList, Decimal.digits sender.port.toNat] := by
    rw [toList_eq, Text.split_eq_splitOn,
      List.splitOn_append_cons_self_of_not_mem sender.validHost.separates,
      List.splitOn_eq_singleton port_absent]
  refine ⟨?_, _, split_eq, Decimal.read_digits (Nat.le_pred_of_lt sender.port.toNat_lt)⟩
  have length_eq := Text.length_split ':' sender.hostAndPort.toList
  rw [split_eq] at length_eq
  exact (Nat.succ.inj length_eq).symm

theorem Reflects.wellKeyed {manager : Manager} {records : List Record}
    (reflects : manager.Reflects records) : manager.WellKeyed where
  isKeyOf key record mem := by
    rw [((reflects.mem_slaves_iff key record).1 mem).1]
    exact isKeyOf_hostAndPort record.sender
  nodup_places := reflects.nodup_places
  reads_back _ record _ :=
    ⟨_, Identity.ofString_canonical record.sender, (Identity.beq_iff_key_eq _ _).2 rfl⟩

/-! ## Arrivals -/

/-- An arrival leads to its call, and is without effect when it is refused. -/
theorem manager_call?_elim (history : ManagerHistory) (arrival : Arrival) :
    (arrival.call?.elim history history.call).manager = history.manager.take arrival := by
  cases arrival with
  | listener name => rfl
  | body cap at_ bytes now =>
      simp only [take, answer, Arrival.call?]
      by_cases elsewhere : at_ ≠ path
      · simp [elsewhere]
      by_cases large : cap < bytes.length
      · simp [elsewhere, large]
      · rw [if_neg elsewhere, if_neg large, if_neg (not_or.2 ⟨elsewhere, large⟩)]
        cases Wire.decode Wire.readRequest bytes <;> rfl

theorem manager_foldl_call (history : ManagerHistory) (arrivals : List Arrival) :
    ((arrivals.filterMap Arrival.call?).foldl ManagerHistory.call history).manager =
      history.manager.takeAll arrivals := by
  induction arrivals generalizing history with
  | nil => rfl
  | cons arrival rest induction =>
      have step := manager_call?_elim history arrival
      rw [takeAll, List.foldl_cons, ← takeAll, ← step, ← induction, List.filterMap_cons]
      cases arrival.call? <;> rfl

/-- The table after arrivals holds the last record of each place that came with them. -/
theorem reflects_takeAll (arrivals : List Arrival) :
    (empty.takeAll arrivals).Reflects
      (ManagerCall.records (arrivals.filterMap Arrival.call?)) := by
  have reflects := ManagerHistory.reflects_run (arrivals.filterMap Arrival.call?)
  rwa [ManagerHistory.run, manager_foldl_call] at reflects

/-- A record is that of a body which has the form of a report. -/
theorem exists_body_of_mem_records {arrivals : List Arrival} {record : Record}
    (mem : record ∈ ManagerCall.records (arrivals.filterMap Arrival.call?)) :
    ∃ cap at_ bytes now, Arrival.body cap at_ bytes now ∈ arrivals ∧
      (Identity.Source.report bytes).identity? = some record.sender := by
  obtain ⟨call, call_mem, record_eq⟩ := List.mem_filterMap.1 mem
  obtain ⟨arrival, arrival_mem, call_eq⟩ := List.mem_filterMap.1 call_mem
  cases arrival with
  | listener name =>
      cases call_eq
      cases record_eq
  | body cap at_ bytes now =>
      simp only [Arrival.call?] at call_eq
      split at call_eq
      · cases call_eq
      · obtain ⟨request, decoded, rfl⟩ := Option.map_eq_some_iff.1 call_eq
        cases record_eq
        exact ⟨cap, at_, bytes, now, arrival_mem, by rw [Identity.Source.identity?, decoded]; rfl⟩

/-- A report with a host name that is not valid leaves the table as it is. -/
theorem take_of_not_validHost (manager : Manager) (cap : Nat) (at_ : String) (bytes : List UInt8)
    (now : UInt64) {carried : IdentityFields}
    (carries : (Identity.Source.report bytes).Carries carried)
    (invalid : ¬ValidHost carried.host) :
    manager.take (.body cap at_ bytes now) = manager := by
  have refused : (Identity.Source.report bytes).identity?.isSome ≠ true :=
    mt ((Identity.Source.guarded _).isSome_iff carried carries).1 invalid
  have undecoded : (Wire.decode Wire.readRequest bytes).toOption = none := by
    simpa [Identity.Source.identity?] using refused
  have no_call : (Arrival.body cap at_ bytes now).call? = none := by
    rw [Arrival.call?, undecoded, Option.map_none, ite_self]
  have taken := manager_call?_elim ⟨manager, []⟩ (.body cap at_ bytes now)
  rw [no_call] at taken
  exact taken.symm

/-- Whatever anyone sends, and wherever identities are taken from, no host name gets in that is not
valid: every source gives what it carries or nothing, a report with another host name leaves the
table as it is, and after any reports each entry has come with one of them and stands under the key
of its sender. -/
theorem guards_identities :
    (∀ source : Identity.Source, source.Guarded) ∧
    (∀ calls, (ManagerHistory.run calls).manager.WellKeyed) ∧
    (∀ (manager : Manager) cap at_ bytes now carried,
      (Identity.Source.report bytes).Carries carried → ¬ValidHost carried.host →
        manager.take (.body cap at_ bytes now) = manager) ∧
    ∀ arrivals, (empty.takeAll arrivals).WellKeyed ∧
      ∀ key record, (key, record) ∈ (empty.takeAll arrivals).slaves →
        ∃ cap at_ bytes now, Arrival.body cap at_ bytes now ∈ arrivals ∧
          (Identity.Source.report bytes).identity? = some record.sender := by
  refine ⟨Identity.Source.guarded, fun calls => ?_, ?_, fun arrivals => ⟨?_, ?_⟩⟩
  · exact (ManagerHistory.reflects_run calls).wellKeyed
  · exact fun manager cap at_ bytes now carried carries invalid =>
      take_of_not_validHost manager cap at_ bytes now carries invalid
  · exact (reflects_takeAll arrivals).wellKeyed
  · intro key record mem
    have last_eq := (((reflects_takeAll arrivals).mem_slaves_iff key record).1 mem).2
    exact exists_body_of_mem_records (Record.of_last? last_eq).2

end Manager
end Heartbeat
end ClusterMember
