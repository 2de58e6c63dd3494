import ClusterMember.Proofs.Identity.Text
import ClusterMember.Proofs.Wire.Address
import ClusterMember.Wire.Message

/-!
# Messages are read back exactly

Every message is a row of numbers, texts and addresses, and its reader takes the same row.  The
reader of identities checks the host besides, which refuses no identity, because an identity has a
valid host.  From exactness follow all ways in which a form belongs to its value alone.
-/

namespace ClusterMember

namespace Wire

theorem toNat_toUInt16 {n : Nat} (small : n < 256 ^ 2) : n.toUInt16.toNat = n :=
  Nat.mod_eq_of_lt small

theorem toNat_toUInt64 {n : Nat} (small : n < 256 ^ 8) : n.toUInt64.toNat = n :=
  Nat.mod_eq_of_lt small

/-- The form of fields, which is that of an identity when the host name is valid. -/
def fields (value : IdentityFields) : List UInt8 :=
  text value.host ++ optional address value.ip ++ number 2 value.port.toNat ++
    number 8 value.startTime.toNat

/-- Take the fields of an identity. -/
def readFields : Reader IdentityFields :=
  readText.andThen fun host =>
  (readOptional readAddress).andThen fun ip =>
  (readNumber 2).andThen fun port =>
  (readNumber 8).andThen fun startTime =>
    .done ⟨host, ip, port.toUInt16, startTime.toUInt64⟩

/-- Make an identity of fields that have been taken. -/
def identify (fields : IdentityFields) : Reader Identity :=
  match fields.make with
  | .ok value => .done value
  | .error fault => .fail (.refused (IdentityFault.host fault).error.text)

/-- The host is checked last, and the fields have all been taken by then. -/
theorem readIdentity_eq : readIdentity = readFields.andThen identify := by
  simp only [readFields, andThen_assoc]
  rfl

theorem readFields_exact : Exact fields (fun value => TextFits value.host) readFields := by
  intro bytes value rest
  rw [readFields, readText_exact.andThen_eq_ok_iff]
  simp only [(readOptional_exact readAddress_exact).andThen_eq_ok_iff,
    (readNumber_exact _).andThen_eq_ok_iff]
  constructor
  · rintro ⟨host, _, ⟨rfl, fits⟩, ip, _, ⟨rfl, -⟩, port, _, ⟨rfl, smallPort⟩, startTime, after,
      ⟨rfl, smallStart⟩, done⟩
    rw [done_eq_ok_iff] at done
    cases done
    refine ⟨?_, fits⟩
    rw [fields, toNat_toUInt16 smallPort, toNat_toUInt64 smallStart]
    simp only [List.append_assoc]
  · rintro ⟨rfl, fits⟩
    refine ⟨value.host, _, ⟨?_, fits⟩, value.ip, _, ⟨rfl, fun _ _ => trivial⟩,
      value.port.toNat, _, ⟨rfl, value.port.toNat_lt⟩,
      value.startTime.toNat, rest, ⟨rfl, value.startTime.toNat_lt⟩, ?_⟩
    · simp only [fields, List.append_assoc]
    · rw [done_eq_ok_iff, Nat.toUInt16_eq, UInt16.ofNat_toNat, Nat.toUInt64_eq,
        UInt64.ofNat_toNat]

theorem readIdentity_exact :
    Exact identity (fun value => TextFits value.host) readIdentity := by
  intro bytes value rest
  rw [readIdentity_eq, readFields_exact.andThen_eq_ok_iff]
  constructor
  · rintro ⟨taken, after, ⟨rfl, fits⟩, identified⟩
    unfold identify at identified
    cases made : taken.make with
    | error fault =>
        rw [made] at identified
        exact absurd identified (fail_ne_ok _ _ _)
    | ok value' =>
        rw [made, done_eq_ok_iff] at identified
        cases identified
        obtain rfl := IdentityFields.fields_eq_of_make made
        exact ⟨rfl, fits⟩
  · rintro ⟨rfl, fits⟩
    refine ⟨value.fields, rest, ⟨rfl, fits⟩, ?_⟩
    rw [identify, IdentityFields.make_fields]
    rfl

theorem readRequest_exact :
    Exact request (fun value => TextFits value.sender.host) readRequest := by
  intro bytes value rest
  rw [readRequest, readIdentity_exact.andThen_eq_ok_iff]
  simp only [(readNumber_exact _).andThen_eq_ok_iff]
  constructor
  · rintro ⟨sender, _, ⟨rfl, fits⟩, reportTime, after, ⟨rfl, small⟩, done⟩
    rw [done_eq_ok_iff] at done
    cases done
    refine ⟨?_, fits⟩
    rw [request, toNat_toUInt64 small, List.append_assoc]
  · rintro ⟨rfl, fits⟩
    refine ⟨value.sender, _, ⟨?_, fits⟩, value.reportTime.toNat, rest,
      ⟨rfl, value.reportTime.toNat_lt⟩, ?_⟩
    · rw [request, List.append_assoc]
    · rw [done_eq_ok_iff, Nat.toUInt64_eq, UInt64.ofNat_toNat]

theorem readRecord_exact :
    Exact record (fun value => TextFits value.sender.host) readRecord := by
  intro bytes value rest
  rw [readRecord, readIdentity_exact.andThen_eq_ok_iff]
  simp only [(readNumber_exact _).andThen_eq_ok_iff]
  constructor
  · rintro ⟨sender, _, ⟨rfl, fits⟩, reportTime, _, ⟨rfl, smallReport⟩, receivedAt, after,
      ⟨rfl, smallReceived⟩, done⟩
    rw [done_eq_ok_iff] at done
    cases done
    refine ⟨?_, fits⟩
    rw [record, toNat_toUInt64 smallReport, toNat_toUInt64 smallReceived, List.append_assoc,
      List.append_assoc]
  · rintro ⟨rfl, fits⟩
    refine ⟨value.sender, _, ⟨?_, fits⟩, value.reportTime.toNat, _,
      ⟨rfl, value.reportTime.toNat_lt⟩, value.receivedAt.toNat, rest,
      ⟨rfl, value.receivedAt.toNat_lt⟩, ?_⟩
    · rw [record, List.append_assoc, List.append_assoc]
    · rw [done_eq_ok_iff, Nat.toUInt64_eq, UInt64.ofNat_toNat, Nat.toUInt64_eq,
        UInt64.ofNat_toNat]

/-- The types of what goes over the wire. -/
inductive Kind where
  | text
  | identity
  | request
  | record
  deriving DecidableEq

namespace Kind

def Value : Kind → Type
  | text => String
  | identity => Identity
  | request => Heartbeat.Request
  | record => Heartbeat.Record

def form : (kind : Kind) → kind.Value → List UInt8
  | text => Wire.text
  | identity => Wire.identity
  | request => Wire.request
  | record => Wire.record

def read : (kind : Kind) → Reader kind.Value
  | text => readText
  | identity => readIdentity
  | request => readRequest
  | record => readRecord

/-- The one text in a value. -/
def words : (kind : Kind) → kind.Value → String
  | text => fun s => s
  | identity => fun value => value.host
  | request => fun value => value.sender.host
  | record => fun value => value.sender.host

/-- Every text that exists in memory has a length of 64 bits, so every value fits. -/
def Fits (kind : Kind) (value : kind.Value) : Prop :=
  TextFits (kind.words value)

theorem exact : (kind : Kind) → Exact kind.form kind.Fits kind.read
  | text => readText_exact
  | identity => readIdentity_exact
  | request => readRequest_exact
  | record => readRecord_exact

end Kind

/-- Texts, identities, reports and arrived reports are read back with every field, their addresses
included, and nothing else is read as one of them. -/
theorem messages_faithful (kind : Kind) : Faithful kind.form kind.Fits kind.read :=
  kind.exact.faithful

end Wire
end ClusterMember
