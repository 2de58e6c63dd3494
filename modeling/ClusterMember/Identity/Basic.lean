import ClusterMember.Error
import ClusterMember.Net.Address
import ClusterMember.Text.Blank

/-!
# Identities of node processes

A node process is named by its host, its port and the time at which it started.  Its address is
known besides, and plays no part in comparisons.  The text of an identity is unambiguous because a
host name holds no separator.
-/

namespace ClusterMember

/-- A letter or a digit of ASCII. -/
def isAlphanumeric (c : Char) : Bool :=
  ('a' ≤ c && c ≤ 'z') || ('A' ≤ c && c ≤ 'Z') || ('0' ≤ c && c ≤ '9')

/-- What a host name may be: its first character is a letter or a digit of ASCII, and it holds
neither a colon nor white space. -/
structure ValidHost (host : String) : Prop where
  /-- The first character is a letter or a digit. -/
  starts : ∃ c rest, host.toList = c :: rest ∧ isAlphanumeric c = true
  /-- There is no colon. -/
  separates : ':' ∉ host.toList
  /-- There is no white space. -/
  solid : ∀ c ∈ host.toList, Text.isBlank c = false

/-- Why a host name is none. -/
inductive HostFault where
  /-- There is no character. -/
  | empty
  /-- The first character is neither a letter nor a digit. -/
  | badStart (host : String)
  /-- There is a colon or white space. -/
  | badCharacter (host : String)
  deriving DecidableEq

/-- The wording of a fault. -/
def HostFault.message : HostFault → String
  | .empty => "hostname is empty"
  | .badStart host => "hostname must start with a letter or digit: " ++ Text.quoted host
  | .badCharacter host => "hostname contains a separator or whitespace: " ++ Text.quoted host

/-- The first fault of a host name. -/
def hostFault? (host : String) : Option HostFault :=
  match host.toList with
  | [] => some .empty
  | first :: rest =>
    if isAlphanumeric first = false then some (.badStart host)
    else if (first :: rest).any (fun c => c == ':' || Text.isBlank c) then
      some (.badCharacter host)
    else none

/-- A host name without a fault is valid, and the other way round. -/
theorem hostFault?_eq_none_iff (host : String) : hostFault? host = none ↔ ValidHost host := by
  constructor
  · intro h
    unfold hostFault? at h
    split at h
    · cases h
    next first rest eq =>
      split at h
      · cases h
      next alnum =>
        split at h
        · cases h
        next clean =>
          have clean : ∀ c ∈ host.toList, ¬(c = ':' ∨ Text.isBlank c = true) := by
            intro c mem bad
            apply clean
            rw [← eq]
            simp only [List.any_eq_true, Bool.or_eq_true, beq_iff_eq]
            exact ⟨c, mem, bad⟩
          exact
            { starts := ⟨first, rest, eq, by simpa using alnum⟩
              separates := fun mem => clean ':' mem (.inl rfl)
              solid := fun c mem => by
                have := clean c mem
                simp only [not_or] at this
                simpa using this.2 }
  · rintro ⟨⟨first, rest, eq, alnum⟩, separates, solid⟩
    unfold hostFault?
    rw [eq]
    rw [eq] at separates solid
    simp only [alnum, Bool.true_eq_false, if_false]
    rw [if_neg]
    simp only [List.any_eq_true, Bool.or_eq_true, beq_iff_eq, not_exists, not_and, not_or]
    intro c mem
    exact ⟨fun h => separates (h ▸ mem), by simp [solid c mem]⟩

instance (host : String) : Decidable (ValidHost host) :=
  decidable_of_iff _ (hostFault?_eq_none_iff host)

/-- What takes in the values that are to be hashed, one after the other. -/
structure Hasher (σ : Type) where
  text : σ → String → σ
  word16 : σ → UInt16 → σ
  word64 : σ → UInt64 → σ

/-- A hasher that mixes each value into a word. -/
def Hasher.mixing : Hasher UInt64 where
  text state value := mixHash state (hash value)
  word16 state value := mixHash state (hash value)
  word64 state value := mixHash state (hash value)

/-- The name of one process of a node. -/
structure Identity where
  /-- The host it runs on. -/
  host : String
  /-- The address of the host, where known. -/
  ip : Option IpAddress
  /-- The port it listens on. -/
  port : UInt16
  /-- When it started, in milliseconds. -/
  startTime : UInt64
  /-- The host name is valid. -/
  validHost : ValidHost host

namespace Identity

/-- An identity, if the host name is valid. -/
def make (host : String) (ip : Option IpAddress) (port : UInt16) (startTime : UInt64) :
    Except HostFault Identity :=
  match h : hostFault? host with
  | some fault => .error fault
  | none => .ok ⟨host, ip, port, startTime, (hostFault?_eq_none_iff host).1 h⟩

/-- Host and port, as `host:port`. -/
def hostAndPort (identity : Identity) : String :=
  identity.host ++ ":" ++ Decimal.write identity.port.toNat

/-- The canonical text of an identity, `host:port:start`. -/
def canonical (identity : Identity) : String :=
  identity.hostAndPort ++ ":" ++ Decimal.write identity.startTime.toNat

/-- What distinguishes an identity from others. -/
def key (identity : Identity) : String × UInt16 × UInt64 :=
  (identity.host, identity.port, identity.startTime)

/-- Identities are compared without their addresses. -/
instance : BEq Identity where
  beq a b := a.key == b.key

/-- Hand the host, the port and the start time of an identity to what hashes them. -/
def feed {σ : Type} (identity : Identity) (hasher : Hasher σ) (state : σ) : σ :=
  let state := hasher.text state identity.host
  let state := hasher.word16 state identity.port
  hasher.word64 state identity.startTime

instance : Hashable Identity where
  hash identity := identity.feed .mixing 7

/-- Whether two identities name the same place, whenever they started. -/
def sameHostAndPort (a b : Identity) : Bool :=
  a.host == b.host && a.port == b.port

/-- Whether one identity is that of a later or earlier process at the place of the other. -/
def isRestartOf (a b : Identity) : Bool :=
  sameHostAndPort a b && a.startTime != b.startTime

theorem beq_iff_key_eq (a b : Identity) : (a == b) = true ↔ a.key = b.key := by
  change (a.key == b.key) = true ↔ _
  exact beq_iff_eq

instance : EquivBEq Identity where
  rfl := (beq_iff_key_eq _ _).2 rfl
  symm h := (beq_iff_key_eq _ _).2 ((beq_iff_key_eq _ _).1 h).symm
  trans h₁ h₂ := (beq_iff_key_eq _ _).2
    (((beq_iff_key_eq _ _).1 h₁).trans ((beq_iff_key_eq _ _).1 h₂))

theorem feed_eq_of_key_eq {a b : Identity} (same : a.key = b.key) {σ : Type} (hasher : Hasher σ)
    (state : σ) : a.feed hasher state = b.feed hasher state := by
  simp only [key, Prod.mk.injEq] at same
  obtain ⟨host_eq, port_eq, startTime_eq⟩ := same
  rw [feed, feed, host_eq, port_eq, startTime_eq]

instance : LawfulHashable Identity where
  hash_eq _ _ h := feed_eq_of_key_eq ((beq_iff_key_eq _ _).1 h) .mixing 7

end Identity
end ClusterMember
