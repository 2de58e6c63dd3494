import ClusterMember.Identity.Document
import ClusterMember.Identity.Origin
import ClusterMember.Proofs.Config.Spelling
import ClusterMember.Proofs.Identity.Grammar
import ClusterMember.Proofs.Wire.Message

/-!
# The sources of identities

An identity comes from bytes, from a document, from its canonical text, or from its fields.  Each
source carries four fields, whatever the host name in it is like.  The host name is checked behind
all of them, so that a source gives the identity of its fields when that name is valid, and no other
source gives one.
-/

namespace ClusterMember
namespace Identity

/-- What an identity is taken from. -/
inductive Source where
  /-- The bytes of an identity. -/
  | bytes (input : List UInt8)
  /-- The bytes of a report. -/
  | report (input : List UInt8)
  /-- The bytes of a report that has arrived. -/
  | record (input : List UInt8)
  | json (text : String)
  | canonical (text : String)
  | fields (given : IdentityFields)
  /-- A process that starts now. -/
  | starting (host : String) (port : UInt16) (now : UInt64)

namespace Source

/-- The identity that comes from a source, unless the source is refused. -/
def identity? : Source → Option Identity
  | .bytes input => (Wire.decode Wire.readIdentity input).toOption
  | .report input => (Wire.decode Wire.readRequest input).toOption.map (·.sender)
  | .record input => (Wire.decode Wire.readRecord input).toOption.map (·.sender)
  | .json text => (ofJson text).toOption
  | .canonical text => (ofString text).toOption
  | .fields given => given.make.toOption
  | .starting host port now => (Identity.starting host port now).toOption

/-- Bytes start with those of fields, and at least `more` bytes follow. -/
def StartsWith (input : List UInt8) (carried : IdentityFields) (more : Nat) : Prop :=
  Wire.TextFits carried.host ∧ ∃ tail, input = Wire.fields carried ++ tail ∧ more ≤ tail.length

/-- A document has the values of fields. -/
def Holds (document : Document) (carried : IdentityFields) : Prop :=
  ∃ ip port startTime, valuesOf? document = some (.str carried.host, ip, port, startTime) ∧
    addressOf? ip = some carried.ip ∧
    port.natural? word16Max = some carried.port.toNat ∧
    startTime.natural? word64Max = some carried.startTime.toNat

/-- A source has the form of an identity with the given fields, valid or not. -/
def Carries : Source → IdentityFields → Prop
  | .bytes input, carried => StartsWith input carried 0
  | .report input, carried => StartsWith input carried 8
  | .record input, carried => StartsWith input carried 16
  | .json text, carried => ∃ document, Json.read? text = some document ∧ Holds document carried
  | .canonical text, carried => carried.ip = none ∧ ∃ port startTime,
      Segments text carried.host.toList port startTime ∧
        Decimal.Numeral word16Max port carried.port.toNat ∧
        Decimal.Numeral word64Max startTime carried.startTime.toNat
  | .fields given, carried => carried = given
  | .starting host port now, carried => carried = ⟨host, IpAddress.ofHost? host, port, now⟩

end Source

/-! ## Results -/

theorem toOption_eq_some_iff {ε α : Type} {result : Except ε α} {value : α} :
    result.toOption = some value ↔ result = .ok value := by
  cases result <;> simp [Except.toOption]

theorem toOption_mapError {ε ε' α : Type} (change : ε → ε') (result : Except ε α) :
    (result.mapError change).toOption = result.toOption := by
  cases result <;> rfl

theorem isSome_make_iff (carried : IdentityFields) :
    carried.make.toOption.isSome = true ↔ ValidHost carried.host := by
  simp only [Option.isSome_iff_exists, toOption_eq_some_iff, IdentityFields.exists_make_iff]

/-! ## Bytes -/

section Bytes

open Wire

/-- All fields are taken, and then the host name is checked. -/
theorem readIdentity_fields {carried : IdentityFields} (fits : TextFits carried.host)
    (tail : List UInt8) : readIdentity (Wire.fields carried ++ tail) = identify carried tail := by
  have taken : readFields (Wire.fields carried ++ tail) = .ok (carried, tail) :=
    (readFields_exact _ _ _).2 ⟨rfl, fits⟩
  rw [readIdentity_eq, andThen_eq_of_ok taken]

/-- A number is taken from bytes that are long enough, whatever they are. -/
theorem exists_readNumber {width : Nat} {bytes : List UInt8} (enough : width ≤ bytes.length) :
    ∃ n rest, readNumber width bytes = .ok (n, rest) ∧ bytes.length = rest.length + width := by
  refine ⟨valueOf (bytes.take width), bytes.drop width, ?_, ?_⟩
  · have taken : readBytes width .cutField bytes = .ok (bytes.take width, bytes.drop width) :=
      if_neg (Nat.not_lt.2 enough)
    rw [readNumber, andThen_eq_of_ok taken]
    rfl
  · rw [List.length_drop, Nat.sub_add_cancel enough]

/-- What goes on behind an identity is read when there is one, and keeps it. -/
theorem decode_fields_andThen {α : Type} {sender : α → Identity} {next : Identity → Reader α}
    {carried : IdentityFields} (fits : TextFits carried.host) {tail : List UInt8}
    (goes_on : ∀ value, ∃ out rest, next value tail = .ok (out, rest) ∧ sender out = value) :
    (decode (readIdentity.andThen next) (Wire.fields carried ++ tail)).toOption.map sender =
      carried.make.toOption := by
  have taken := readIdentity_fields fits tail
  unfold identify at taken
  cases made : carried.make with
  | error fault =>
      rw [made] at taken
      rw [decode, andThen_eq_of_error taken]
      rfl
  | ok value =>
      rw [made] at taken
      obtain ⟨out, rest, goes_on, sender_eq⟩ := goes_on value
      rw [decode, andThen_eq_of_ok taken, goes_on, Except.toOption, Except.toOption,
        Option.map_some, sender_eq]

theorem decode_identity {bytes : List UInt8} {carried : IdentityFields}
    (starts : Source.StartsWith bytes carried 0) :
    (decode readIdentity bytes).toOption = carried.make.toOption := by
  obtain ⟨fits, tail, rfl, -⟩ := starts
  rw [decode, readIdentity_fields fits tail, identify]
  cases carried.make <;> rfl

theorem decode_request {bytes : List UInt8} {carried : IdentityFields}
    (starts : Source.StartsWith bytes carried 8) :
    (decode readRequest bytes).toOption.map (·.sender) = carried.make.toOption := by
  obtain ⟨fits, tail, rfl, enough⟩ := starts
  obtain ⟨reportTime, rest, time_taken, -⟩ := exists_readNumber enough
  exact decode_fields_andThen fits fun value => ⟨_, rest, andThen_eq_of_ok time_taken, rfl⟩

theorem decode_record {bytes : List UInt8} {carried : IdentityFields}
    (starts : Source.StartsWith bytes carried 16) :
    (decode readRecord bytes).toOption.map (·.sender) = carried.make.toOption := by
  obtain ⟨fits, tail, rfl, enough⟩ := starts
  obtain ⟨reportTime, after, report_taken, length_eq⟩ :=
    exists_readNumber (show 8 ≤ tail.length by omega)
  obtain ⟨receivedAt, rest, received_taken, -⟩ :=
    exists_readNumber (show 8 ≤ after.length by omega)
  have goes_on (value : Identity) : ∃ out rest,
      ((readNumber 8).andThen fun reportTime => (readNumber 8).andThen fun receivedAt =>
        .done (⟨value, reportTime.toUInt64, receivedAt.toUInt64⟩ : Heartbeat.Record)) tail =
          .ok (out, rest) ∧ out.sender = value := by
    rw [andThen_eq_of_ok report_taken, andThen_eq_of_ok received_taken]
    exact ⟨_, rest, rfl, rfl⟩
  exact decode_fields_andThen fits goes_on

end Bytes

/-! ## Documents and texts -/

theorem ofDocument_of_holds {document : Document} {carried : IdentityFields}
    (holds : Source.Holds document carried) :
    (ofDocument document).toOption = carried.make.toOption := by
  obtain ⟨ip, port, startTime, values_eq, ip_eq, port_eq, start_eq⟩ := holds
  simp only [ofDocument, values_eq, ip_eq, port_eq, start_eq, Document.string?, Option.bind_eq_bind,
    Option.bind_some, Option.pure_def, toOption_mapError, Nat.toUInt16_eq, UInt16.ofNat_toNat,
    Nat.toUInt64_eq, UInt64.ofNat_toNat]
  rfl

theorem holds_of_ofDocument {document : Document} {identity : Identity}
    (read : ofDocument document = .ok identity) : Source.Holds document identity.fields := by
  simp only [ofDocument] at read
  split at read
  next => cases read
  next host ip port startTime found =>
    simp only [Option.bind_eq_bind, Option.bind_eq_some_iff, Option.pure_def, Prod.exists,
      Option.some.injEq, Prod.mk.injEq] at found
    obtain ⟨hostValue, ipValue, portValue, startValue, values_eq, _, host_read, _, ip_read, _,
      port_read, _, start_read, rfl, rfl, rfl, rfl⟩ := found
    have host_value := Spelling.text.read_eq_some_iff.1 host_read
    have port_le := ((Spelling.natural _).read_eq_some_iff.1 port_read).2
    have start_le := ((Spelling.natural _).read_eq_some_iff.1 start_read).2
    rw [← toOption_eq_some_iff, toOption_mapError, toOption_eq_some_iff] at read
    obtain ⟨host_eq, ip_eq, port_eq, start_eq⟩ := (make_eq_ok_iff _ _ _ _ _).1 read
    have port_toNat := UInt16.toNat_ofNat_of_lt' (Nat.lt_succ_of_le port_le)
    have start_toNat := UInt64.toNat_ofNat_of_lt' (Nat.lt_succ_of_le start_le)
    refine ⟨ipValue, portValue, startValue, ?_, ?_, ?_, ?_⟩
    · rw [values_eq, host_value, fields, host_eq]
    · rw [ip_read, fields, ip_eq]
    · rw [port_read, fields, port_eq, Nat.toUInt16_eq, port_toNat]
    · rw [start_read, fields, start_eq, Nat.toUInt64_eq, start_toNat]

/-- A text gives the identity that its document is. -/
theorem ofJson_eq_ok_iff (text : String) (identity : Identity) :
    ofJson text = .ok identity ↔
      ∃ document, Json.read? text = some document ∧ ofDocument document = .ok identity := by
  unfold ofJson Json.read?
  cases Json.readFront text with
  | none => simp
  | some found =>
      obtain ⟨document, rest⟩ := found
      by_cases done : Json.skipSpace rest = []
      · cases read : ofDocument document <;> simp [done, read, bind, Except.bind, pure, Except.pure]
      · cases read : ofDocument document <;> simp [done, read, bind, Except.bind]

theorem ofString_of_numerals {text : String} {carried : IdentityFields} {port startTime : List Char}
    (ip_eq : carried.ip = none) (segments : Segments text carried.host.toList port startTime)
    (port_ok : Decimal.Numeral word16Max port carried.port.toNat)
    (start_ok : Decimal.Numeral word64Max startTime carried.startTime.toNat) :
    (ofString text).toOption = carried.make.toOption := by
  have port_read := (Decimal.read_eq_ok_iff _ _ _).2 port_ok
  have start_read := (Decimal.read_eq_ok_iff _ _ _).2 start_ok
  rw [segments.ofString_eq, port_read, start_read, String.ofList_toList, IdentityFields.make, ip_eq]
  change ((make carried.host none carried.port.toNat.toUInt16
    carried.startTime.toNat.toUInt64).mapError IdentityFault.host).toOption = _
  rw [toOption_mapError, Nat.toUInt16_eq, UInt16.ofNat_toNat, Nat.toUInt64_eq, UInt64.ofNat_toNat]

/-! ## What comes from a source -/

namespace Source

/-- A source that carries fields gives what they make. -/
theorem identity?_eq_of_carries {source : Source} {carried : IdentityFields}
    (carries : source.Carries carried) : source.identity? = carried.make.toOption := by
  cases source with
  | bytes input => exact decode_identity carries
  | report input => exact decode_request carries
  | record input => exact decode_record carries
  | json text =>
      obtain ⟨document, document_read, holds⟩ := carries
      rw [← ofDocument_of_holds holds]
      ext identity
      simp only [identity?, toOption_eq_some_iff, ofJson_eq_ok_iff, document_read,
        Option.some.injEq, exists_eq_left']
  | canonical text =>
      obtain ⟨ip_eq, port, startTime, segments, port_ok, start_ok⟩ := carries
      exact ofString_of_numerals ip_eq segments port_ok start_ok
  | fields given =>
      cases carries
      rfl
  | starting host port now =>
      cases carries
      rfl

theorem startsWith_of_prefix {input more : List UInt8} {identity : Identity}
    (fits : Wire.TextFits identity.host) (inside : Wire.identity identity ++ more <+: input) :
    StartsWith input identity.fields more.length := by
  obtain ⟨rest, rfl⟩ := inside
  exact ⟨fits, more ++ rest, List.append_assoc _ _ _, by simp⟩

/-- A source that gives an identity carries its fields. -/
theorem carries_of_identity? {source : Source} {identity : Identity}
    (given : source.identity? = some identity) : source.Carries identity.fields := by
  cases source with
  | bytes input =>
      have decoded := toOption_eq_some_iff.1 given
      obtain ⟨fits, inside⟩ := Wire.readIdentity_exact.of_decode decoded
      have whole : Wire.identity identity ++ [] <+: input := by rwa [List.append_nil]
      exact startsWith_of_prefix fits whole
  | report input =>
      obtain ⟨request, decoded, rfl⟩ := Option.map_eq_some_iff.1 given
      obtain ⟨fits, inside⟩ :=
        Wire.readRequest_exact.of_decode (toOption_eq_some_iff.1 decoded)
      exact startsWith_of_prefix fits inside
  | record input =>
      obtain ⟨record, decoded, rfl⟩ := Option.map_eq_some_iff.1 given
      obtain ⟨fits, inside⟩ := Wire.readRecord_exact.of_decode (toOption_eq_some_iff.1 decoded)
      rw [Wire.record, List.append_assoc] at inside
      exact startsWith_of_prefix fits inside
  | json text =>
      obtain ⟨document, document_read, read⟩ :=
        (ofJson_eq_ok_iff text identity).1 (toOption_eq_some_iff.1 given)
      exact ⟨document, document_read, holds_of_ofDocument read⟩
  | canonical text =>
      obtain ⟨spells, ip_eq⟩ :=
        (ofString_eq_ok_iff text identity).1 (toOption_eq_some_iff.1 given)
      obtain ⟨port, startTime, toList_eq, port_ok, start_ok⟩ := spells.numbers
      exact ⟨ip_eq, port, startTime, ⟨toList_eq, spells.validHost.separates,
        not_mem_of_numeral port_ok, not_mem_of_numeral start_ok⟩, port_ok, start_ok⟩
  | fields taken => exact IdentityFields.fields_eq_of_make (toOption_eq_some_iff.1 given)
  | starting host port now =>
      have made : IdentityFields.make ⟨host, IpAddress.ofHost? host, port, now⟩ = .ok identity :=
        toOption_eq_some_iff.1 given
      exact IdentityFields.fields_eq_of_make made

/-- What a source gives is what it carries, and it carries no host name that is not valid. -/
structure Guarded (source : Source) : Prop where
  /-- An identity comes from a source that carries its fields, and from no other. -/
  identity?_iff : ∀ identity,
    source.identity? = some identity ↔ source.Carries identity.fields
  /-- Fields are refused exactly for their host name. -/
  isSome_iff : ∀ carried, source.Carries carried →
    (source.identity?.isSome = true ↔ ValidHost carried.host)
  nonempty : ∀ identity, source.identity? = some identity → identity.host ≠ ""
  starts : ∀ identity, source.identity? = some identity →
    ∃ c rest, identity.host.toList = c :: rest ∧ isAlphanumeric c = true
  separates : ∀ identity, source.identity? = some identity → ':' ∉ identity.host.toList
  solid : ∀ identity, source.identity? = some identity →
    ∀ c ∈ identity.host.toList, Text.isBlank c = false

theorem guarded (source : Source) : source.Guarded where
  identity?_iff identity := by
    refine ⟨carries_of_identity?, fun carries => ?_⟩
    rw [identity?_eq_of_carries carries, IdentityFields.make_fields]
    rfl
  isSome_iff carried carries := by
    rw [identity?_eq_of_carries carries, isSome_make_iff]
  nonempty identity _ empty := by
    obtain ⟨c, rest, toList_eq, -⟩ := identity.validHost.starts
    rw [empty] at toList_eq
    cases toList_eq
  starts identity _ := identity.validHost.starts
  separates identity _ := identity.validHost.separates
  solid identity _ := identity.validHost.solid

end Source
end Identity
end ClusterMember
