import ClusterMember.Proofs.Identity.Text
import ClusterMember.Proofs.Text.Numeral

/-!
# The grammar of identities

A text names an identity when it is a host name, a port and a start time with colons between them.
Reading accepts these texts, and for every other one it reports the first of its faults: the number
of segments, the port, the start time, the host.
-/

namespace ClusterMember

namespace Identity

/-- A text is a host name, a port and a start time with colons between them. -/
structure Spells (s host : String) (port startTime : Nat) : Prop where
  validHost : ValidHost host
  numbers : ∃ portText startText,
    s.toList = host.toList ++ ':' :: (portText ++ ':' :: startText) ∧
      Decimal.Numeral 65535 portText port ∧
      Decimal.Numeral (2 ^ 64 - 1) startText startTime

/-- A text has three segments. -/
structure Segments (s : String) (host port startTime : List Char) : Prop where
  toList_eq : s.toList = host ++ ':' :: (port ++ ':' :: startTime)
  host_absent : ':' ∉ host
  port_absent : ':' ∉ port
  startTime_absent : ':' ∉ startTime

/-- The first fault of a text that keeps it from naming an identity. -/
inductive Refusal (s : String) : IdentityFault → Prop
  | segments (count_ne : s.toList.count ':' ≠ 2) : Refusal s (.segments s)
  | port {host port startTime : List Char} {cause : Decimal.Fault}
      (segments : Segments s host port startTime)
      (refused : Decimal.Refusal 65535 port cause) : Refusal s (.port s cause)
  | startTime {host port startTime : List Char} {portValue : Nat} {cause : Decimal.Fault}
      (segments : Segments s host port startTime)
      (port_ok : Decimal.Numeral 65535 port portValue)
      (refused : Decimal.Refusal (2 ^ 64 - 1) startTime cause) : Refusal s (.startTime s cause)
  | host {host port startTime : List Char} {portValue startValue : Nat} {cause : HostFault}
      (segments : Segments s host port startTime)
      (port_ok : Decimal.Numeral 65535 port portValue)
      (startTime_ok : Decimal.Numeral (2 ^ 64 - 1) startTime startValue)
      (refused : hostFault? (String.ofList host) = some cause) : Refusal s (.host cause)

/-- A text with three segments is read segment by segment, the host last. -/
theorem Segments.ofString_eq {s : String} {host port startTime : List Char}
    (segments : Segments s host port startTime) :
    ofString s = (do
      let port ← (Decimal.read word16Max port).mapError (.port s)
      let startTime ← (Decimal.read word64Max startTime).mapError (.startTime s)
      (make (String.ofList host) none port.toUInt16 startTime.toUInt64).mapError .host) := by
  have split_eq : Text.split ':' s.toList = [host, port, startTime] :=
    Text.split_eq_three_iff.2 ⟨segments.toList_eq, segments.host_absent, segments.port_absent,
      segments.startTime_absent⟩
  rw [ofString, split_eq]

/-- A text has three segments, or not two colons. -/
theorem segments_or_count_ne (s : String) :
    (∃ host port startTime, Segments s host port startTime) ∨
      s.toList.count ':' ≠ 2 ∧ ofString s = .error (.segments s) := by
  have length_eq := Text.length_split ':' s.toList
  by_cases three : ∃ host port startTime, Text.split ':' s.toList = [host, port, startTime]
  · obtain ⟨host, port, startTime, split_eq⟩ := three
    obtain ⟨toList_eq, host_absent, port_absent, startTime_absent⟩ :=
      Text.split_eq_three_iff.1 split_eq
    exact .inl ⟨host, port, startTime, toList_eq, host_absent, port_absent, startTime_absent⟩
  · refine .inr ⟨fun count_eq => three ?_, ?_⟩
    · rw [count_eq] at length_eq
      exact List.length_eq_three.1 length_eq
    · unfold ofString
      split
      next host port startTime split_eq => exact absurd ⟨host, port, startTime, split_eq⟩ three
      next => rfl

/-- What comes of a text with three segments. -/
theorem Segments.ofString_cases {s : String} {host port startTime : List Char}
    (segments : Segments s host port startTime) :
    (∃ fault, ofString s = .error fault ∧ Refusal s fault) ∨
      ∃ identity, ofString s = .ok identity ∧ identity.host = String.ofList host ∧
        Decimal.Numeral 65535 port identity.port.toNat ∧
        Decimal.Numeral (2 ^ 64 - 1) startTime identity.startTime.toNat ∧ identity.ip = none := by
  rw [segments.ofString_eq]
  cases port_read : Decimal.read word16Max port with
  | error cause =>
      have refused := (Decimal.read_eq_error_iff _ _ _).1 port_read
      exact .inl ⟨_, rfl, .port segments refused⟩
  | ok portValue =>
      have port_ok := (Decimal.read_eq_ok_iff _ _ _).1 port_read
      cases start_read : Decimal.read word64Max startTime with
      | error cause =>
          have refused := (Decimal.read_eq_error_iff _ _ _).1 start_read
          exact .inl ⟨_, rfl, .startTime segments port_ok refused⟩
      | ok startValue =>
          have start_ok := (Decimal.read_eq_ok_iff _ _ _).1 start_read
          cases made : make (String.ofList host) none portValue.toUInt16 startValue.toUInt64 with
          | error cause =>
              have refused := (make_eq_error_iff _ _ _ _ _).1 made
              exact .inl ⟨.host cause, by simp [Except.mapError, bind, Except.bind, made],
                .host segments port_ok start_ok refused⟩
          | ok identity =>
              obtain ⟨host_eq, ip_eq, port_eq, startTime_eq⟩ := (make_eq_ok_iff _ _ _ _ _).1 made
              have port_toNat : identity.port.toNat = portValue := by
                rw [port_eq]
                exact UInt16.toNat_ofNat_of_lt' (Nat.lt_succ_of_le port_ok.fits)
              have start_toNat : identity.startTime.toNat = startValue := by
                rw [startTime_eq]
                exact UInt64.toNat_ofNat_of_lt' (Nat.lt_succ_of_le start_ok.fits)
              refine .inr ⟨identity, by simp [Except.mapError, bind, Except.bind, made], host_eq,
                ?_, ?_, ip_eq⟩
              · rw [port_toNat]
                exact port_ok
              · rw [start_toNat]
                exact start_ok

theorem not_mem_of_numeral {largest value : Nat} {text : List Char}
    (numeral : Decimal.Numeral largest text value) : ':' ∉ text := by
  obtain ⟨digits, spelled, -, all, -⟩ := numeral.spelled
  have absent : ':' ∉ digits := by
    intro mem
    have digit := all ':' mem
    cases digit
  rcases spelled with rfl | rfl
  · exact absent
  · exact List.not_mem_cons_of_ne_of_not_mem (by decide) absent

/-- The texts that name identities are read, as what they name, without an address. -/
theorem ofString_eq_ok_iff (s : String) (identity : Identity) :
    ofString s = .ok identity ↔
      Spells s identity.host identity.port.toNat identity.startTime.toNat ∧
        identity.ip = none := by
  constructor
  · intro read
    rcases segments_or_count_ne s with ⟨host, port, startTime, segments⟩ | ⟨-, refused⟩
    · rcases segments.ofString_cases with
        ⟨fault, refused, -⟩ | ⟨other, other_eq, host_eq, port_ok, start_ok, ip_eq⟩
      · rw [read] at refused
        cases refused
      · rw [read] at other_eq
        cases other_eq
        refine ⟨⟨identity.validHost, port, startTime, ?_, port_ok, start_ok⟩, ip_eq⟩
        rw [host_eq, String.toList_ofList]
        exact segments.toList_eq
    · rw [read] at refused
      cases refused
  · rintro ⟨⟨validHost, port, startTime, toList_eq, port_ok, start_ok⟩, ip_eq⟩
    have segments : Segments s identity.host.toList port startTime :=
      ⟨toList_eq, validHost.separates, not_mem_of_numeral port_ok, not_mem_of_numeral start_ok⟩
    have port_read : Decimal.read word16Max port = .ok identity.port.toNat :=
      (Decimal.read_eq_ok_iff _ _ _).2 port_ok
    have start_read : Decimal.read word64Max startTime = .ok identity.startTime.toNat :=
      (Decimal.read_eq_ok_iff _ _ _).2 start_ok
    have made : make identity.host none identity.port identity.startTime = .ok identity :=
      (make_eq_ok_iff _ _ _ _ _).2 ⟨rfl, ip_eq, rfl, rfl⟩
    rw [segments.ofString_eq, port_read, start_read]
    simp [Except.mapError, bind, Except.bind, made]

theorem toList_canonical (identity : Identity) :
    identity.canonical.toList = identity.host.toList ++
      ':' :: (Decimal.digits identity.port.toNat ++
        ':' :: Decimal.digits identity.startTime.toNat) := by
  simp [canonical, hostAndPort, Decimal.toList_write]

/-- A canonical text reads as the identity without its address. -/
theorem ofString_canonical (identity : Identity) :
    ofString identity.canonical = .ok { identity with ip := none } := by
  have port_read : Decimal.read word16Max (Decimal.digits identity.port.toNat) =
      .ok identity.port.toNat :=
    Decimal.read_digits (Nat.le_pred_of_lt identity.port.toNat_lt)
  have start_read : Decimal.read word64Max (Decimal.digits identity.startTime.toNat) =
      .ok identity.startTime.toNat :=
    Decimal.read_digits (Nat.le_pred_of_lt identity.startTime.toNat_lt)
  have spells : Spells identity.canonical identity.host identity.port.toNat
      identity.startTime.toNat :=
    ⟨identity.validHost, _, _, identity.toList_canonical,
      (Decimal.read_eq_ok_iff _ _ _).1 port_read, (Decimal.read_eq_ok_iff _ _ _).1 start_read⟩
  exact (ofString_eq_ok_iff _ { identity with ip := none }).2 ⟨spells, rfl⟩

theorem Segments.count_eq {s : String} {host port startTime : List Char}
    (segments : Segments s host port startTime) : s.toList.count ':' = 2 := by
  have host_count := List.count_eq_zero.2 segments.host_absent
  have port_count := List.count_eq_zero.2 segments.port_absent
  have start_count := List.count_eq_zero.2 segments.startTime_absent
  rw [segments.toList_eq]
  simp [host_count, port_count, start_count]

/-- Every other text is refused for its first fault. -/
theorem ofString_eq_error_iff (s : String) (fault : IdentityFault) :
    ofString s = .error fault ↔ Refusal s fault := by
  constructor
  · intro refused
    rcases segments_or_count_ne s with ⟨host, port, startTime, segments⟩ | ⟨count_ne, known⟩
    · rcases segments.ofString_cases with ⟨other, other_eq, refusal⟩ | ⟨identity, read, -⟩
      · rw [refused] at other_eq
        cases other_eq
        exact refusal
      · rw [refused] at read
        cases read
    · rw [refused] at known
      cases known
      exact .segments count_ne
  · intro refusal
    cases refusal with
    | segments count_ne =>
        rcases segments_or_count_ne s with ⟨host, port, startTime, segments⟩ | ⟨-, refused⟩
        · exact absurd segments.count_eq count_ne
        · exact refused
    | port segments refused =>
        have port_read := (Decimal.read_eq_error_iff word16Max _ _).2 refused
        rw [segments.ofString_eq, port_read]
        rfl
    | startTime segments port_ok refused =>
        have port_read := (Decimal.read_eq_ok_iff word16Max _ _).2 port_ok
        have start_read := (Decimal.read_eq_error_iff word64Max _ _).2 refused
        rw [segments.ofString_eq, port_read, start_read]
        rfl
    | host segments port_ok start_ok refused =>
        have port_read := (Decimal.read_eq_ok_iff word16Max _ _).2 port_ok
        have start_read := (Decimal.read_eq_ok_iff word64Max _ _).2 start_ok
        rw [segments.ofString_eq, port_read, start_read]
        have made := fun port startTime => (make_eq_error_iff _ none port startTime _).2 refused
        simp [Except.mapError, bind, Except.bind, made]

/-- Reading accepts the texts that name identities, gives back what they name and reads the text
of that the same way; and it refuses every other text for its first fault. -/
theorem ofString_grammatical (s : String) :
    ((∃ identity, ofString s = .ok identity) ↔
      ∃ host port startTime, Spells s host port startTime) ∧
    (∀ identity, ofString s = .ok identity ↔
      Spells s identity.host identity.port.toNat identity.startTime.toNat ∧
        identity.ip = none) ∧
    (∀ identity, ofString s = .ok identity → ofString identity.canonical = .ok identity) ∧
    (∀ fault, ofString s = .error fault ↔ Refusal s fault) ∧
    ∀ fault, ofString s = .error fault → fault.error = .invalidIdentity fault.message := by
  refine ⟨⟨?_, ?_⟩, ofString_eq_ok_iff s, fun identity read => ?_, ofString_eq_error_iff s,
    fun _ _ => rfl⟩
  · rintro ⟨identity, read⟩
    exact ⟨_, _, _, ((ofString_eq_ok_iff s identity).1 read).1⟩
  · rintro ⟨host, port, startTime, spells⟩
    obtain ⟨portText, startText, -, port_ok, start_ok⟩ := spells.numbers
    let named : Identity := ⟨host, none, port.toUInt16, startTime.toUInt64, spells.validHost⟩
    have port_eq : named.port.toNat = port :=
      UInt16.toNat_ofNat_of_lt' (Nat.lt_succ_of_le port_ok.fits)
    have start_eq : named.startTime.toNat = startTime :=
      UInt64.toNat_ofNat_of_lt' (Nat.lt_succ_of_le start_ok.fits)
    refine ⟨named, (ofString_eq_ok_iff s named).2 ⟨?_, rfl⟩⟩
    rw [port_eq, start_eq]
    exact spells
  · rw [ofString_canonical, ← ((ofString_eq_ok_iff s identity).1 read).2]

end Identity
end ClusterMember
