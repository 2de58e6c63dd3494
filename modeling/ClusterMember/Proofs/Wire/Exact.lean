import ClusterMember.Proofs.Text.Utf8
import ClusterMember.Wire.Basic
import Mathlib.Algebra.Group.Nat.Defs

/-!
# Exact readers

A reader is exact for a form when it takes a value from the front of the bytes precisely when the
bytes start with the form of that value.  Exactness is kept by reading one value after another, so
it is enough to prove it for numbers, texts, optional values and addresses.
-/

namespace ClusterMember
namespace Wire

variable {α β : Type}

/-- A reader takes the values that fit, each from its own form and from nothing else. -/
def Exact (form : α → List UInt8) (Fits : α → Prop) (read : Reader α) : Prop :=
  ∀ bytes value rest, read bytes = .ok (value, rest) ↔ bytes = form value ++ rest ∧ Fits value

theorem andThen_assoc {γ : Type} (first : Reader α) (second : α → Reader β)
    (third : β → Reader γ) :
    (first.andThen second).andThen third =
      first.andThen fun value => (second value).andThen third := by
  funext bytes
  simp only [Reader.andThen]
  cases first bytes <;> rfl

theorem andThen_eq_of_ok {read : Reader α} {next : α → Reader β} {bytes rest : List UInt8}
    {value : α} (taken : read bytes = .ok (value, rest)) :
    read.andThen next bytes = next value rest := by
  rw [Reader.andThen, taken]

theorem andThen_eq_of_error {read : Reader α} {next : α → Reader β} {bytes : List UInt8}
    {fault : Fault} (refused : read bytes = .error fault) :
    read.andThen next bytes = .error fault := by
  rw [Reader.andThen, refused]

theorem andThen_eq_ok_iff (read : Reader α) (next : α → Reader β) (bytes : List UInt8)
    (out : β × List UInt8) :
    read.andThen next bytes = .ok out ↔
      ∃ value rest, read bytes = .ok (value, rest) ∧ next value rest = .ok out := by
  unfold Reader.andThen
  cases read bytes with
  | error fault => simp
  | ok taken =>
      constructor
      · intro ok
        exact ⟨taken.1, taken.2, rfl, ok⟩
      · rintro ⟨value, rest, eq, ok⟩
        cases eq
        exact ok

/-- An exact reader has to find a form, and then the next one reads on behind it. -/
theorem Exact.andThen_eq_ok_iff {form : α → List UInt8} {Fits : α → Prop} {read : Reader α}
    (exact : Exact form Fits read) (next : α → Reader β) (bytes : List UInt8)
    (out : β × List UInt8) :
    read.andThen next bytes = .ok out ↔
      ∃ value rest, (bytes = form value ++ rest ∧ Fits value) ∧ next value rest = .ok out := by
  simp only [Wire.andThen_eq_ok_iff, exact _ _ _]

theorem done_eq_ok_iff (value : α) (bytes : List UInt8) (out : α × List UInt8) :
    Reader.done value bytes = .ok out ↔ out = (value, bytes) := by
  rw [Reader.done, Except.ok.injEq, eq_comm]

theorem fail_ne_ok (fault : Fault) (bytes : List UInt8) (out : α × List UInt8) :
    Reader.fail fault bytes ≠ .ok out := by
  rw [Reader.fail]
  exact nofun

theorem readBytes_exact (width : Nat) (fault : Fault) :
    Exact id (fun taken => taken.length = width) (readBytes width fault) := by
  intro bytes taken rest
  unfold readBytes
  constructor
  · intro ok
    split at ok
    · cases ok
    · cases ok
      exact ⟨(List.take_append_drop width bytes).symm, List.length_take_of_le (by omega)⟩
  · rintro ⟨rfl, rfl⟩
    rw [if_neg (by simp), id, List.take_left, List.drop_left]

theorem length_number (width n : Nat) : (number width n).length = width := by
  induction width generalizing n with
  | zero => rfl
  | succ width induction => rw [number, List.length_cons, induction]

/-- The bytes of a number spell it, as far as their width reaches. -/
theorem valueOf_number (width n : Nat) : valueOf (number width n) = n % 256 ^ width := by
  induction width generalizing n with
  | zero => rw [number, valueOf, Nat.pow_zero, Nat.mod_one]
  | succ width induction =>
      rw [number, valueOf, induction, Nat.pow_succ', Nat.mod_mul]
      simp

theorem valueOf_lt (bytes : List UInt8) : valueOf bytes < 256 ^ bytes.length := by
  induction bytes with
  | nil => exact Nat.one_pos
  | cons b bytes induction =>
      have := b.toNat_lt
      rw [valueOf, List.length_cons, Nat.pow_succ']
      omega

theorem number_valueOf (bytes : List UInt8) : number bytes.length (valueOf bytes) = bytes := by
  induction bytes with
  | nil => rfl
  | cons b bytes induction =>
      have small := b.toNat_lt
      have quotient : (b.toNat + 256 * valueOf bytes) / 256 = valueOf bytes := by omega
      have lowest : (b.toNat + 256 * valueOf bytes).toUInt8 = b := by
        rw [← UInt8.toNat_inj]
        simp
      rw [valueOf, List.length_cons, number, quotient, lowest, induction]

theorem readNumber_exact (width : Nat) :
    Exact (number width) (· < 256 ^ width) (readNumber width) := by
  intro bytes n rest
  rw [readNumber, (readBytes_exact width .cutField).andThen_eq_ok_iff]
  constructor
  · rintro ⟨taken, after, ⟨rfl, rfl⟩, done⟩
    rw [done_eq_ok_iff] at done
    cases done
    exact ⟨by rw [number_valueOf, id], valueOf_lt taken⟩
  · rintro ⟨rfl, small⟩
    refine ⟨number width n, rest, ⟨rfl, length_number width n⟩, ?_⟩
    rw [done_eq_ok_iff, valueOf_number, Nat.mod_eq_of_lt small]

/-- Whether the length of a text is a number of 64 bits, as that of any text in memory is. -/
def TextFits (s : String) : Prop :=
  (Utf8.encode s).length < 256 ^ 8

theorem readText_exact : Exact text TextFits readText := by
  intro bytes s rest
  rw [readText, (readNumber_exact 8).andThen_eq_ok_iff]
  simp only [(readBytes_exact _ .cutText).andThen_eq_ok_iff]
  constructor
  · rintro ⟨length, _, ⟨rfl, small⟩, spelled, after, ⟨rfl, rfl⟩, read⟩
    cases decoded : Utf8.decode spelled with
    | error cause =>
        rw [decoded] at read
        exact absurd read (fail_ne_ok _ _ _)
    | ok s' =>
        rw [decoded, done_eq_ok_iff] at read
        cases read
        rw [Utf8.decode_eq_ok_iff] at decoded
        subst decoded
        exact ⟨by rw [text, List.append_assoc, id], small⟩
  · rintro ⟨rfl, small⟩
    refine ⟨_, Utf8.encode s ++ rest, ⟨?_, small⟩, Utf8.encode s, rest, ⟨rfl, rfl⟩, ?_⟩
    · rw [text, List.append_assoc]
    · rw [(Utf8.decode_eq_ok_iff _ s).2 rfl]
      rfl

theorem readOptional_exact {form : α → List UInt8} {Fits : α → Prop} {read : Reader α}
    (exact : Exact form Fits read) :
    Exact (optional form) (fun value? => ∀ value ∈ value?, Fits value) (readOptional read) := by
  intro bytes value? rest
  rw [readOptional, (readNumber_exact 1).andThen_eq_ok_iff]
  constructor
  · rintro ⟨tag, after, ⟨rfl, small⟩, taken⟩
    split at taken
    · rw [done_eq_ok_iff] at taken
      cases taken
      exact ⟨rfl, nofun⟩
    · rw [exact.andThen_eq_ok_iff] at taken
      obtain ⟨value, _, ⟨rfl, fits⟩, done⟩ := taken
      rw [done_eq_ok_iff] at done
      cases done
      refine ⟨rfl, ?_⟩
      rintro _ ⟨⟩
      exact fits
    · exact absurd taken (fail_ne_ok _ _ _)
  · rintro ⟨rfl, fits⟩
    cases value? with
    | none => exact ⟨0, rest, ⟨rfl, by decide⟩, rfl⟩
    | some value =>
        refine ⟨1, form value ++ rest, ⟨rfl, by decide⟩, ?_⟩
        exact (exact.andThen_eq_ok_iff _ _ _).2 ⟨value, rest, ⟨rfl, fits value rfl⟩, rfl⟩

namespace Exact

variable {form : α → List UInt8} {Fits : α → Prop} {read : Reader α}

/-- Bytes behind a form are not looked at. -/
theorem decode_append (exact : Exact form Fits read) {value : α} (fits : Fits value)
    (rest : List UInt8) : decode read (form value ++ rest) = .ok value := by
  have taken : read (form value ++ rest) = .ok (value, rest) :=
    (exact _ _ _).2 ⟨rfl, fits⟩
  rw [decode, taken]

theorem of_decode (exact : Exact form Fits read) {bytes : List UInt8} {value : α}
    (decoded : decode read bytes = .ok value) : Fits value ∧ form value <+: bytes := by
  unfold decode at decoded
  split at decoded
  · cases decoded
  · next taken rest found =>
      cases decoded
      obtain ⟨eq, fits⟩ := (exact _ _ _).1 found
      exact ⟨fits, rest, eq.symm⟩

/-- A form at the front of another one is that of the same value. -/
theorem eq_of_prefix (exact : Exact form Fits read) {a b : α} (fitsA : Fits a) (fitsB : Fits b)
    (inside : form a <+: form b) : a = b := by
  obtain ⟨rest, eq⟩ := inside
  have first : decode read (form b) = .ok a := eq ▸ exact.decode_append fitsA rest
  have second : decode read (form b) = .ok b := by
    simpa using exact.decode_append fitsB []
  rw [first] at second
  cases second
  rfl

/-- Reading a form that has been cut short fails: a value found in it would be the value itself,
whose form is longer. -/
theorem decode_truncated (exact : Exact form Fits read) {value : α} (fits : Fits value)
    {front : List UInt8} (inside : front <+: form value) (shorter : front ≠ form value) :
    ∃ fault, decode read front = .error fault := by
  cases decoded : decode read front with
  | error fault => exact ⟨fault, rfl⟩
  | ok found =>
      obtain ⟨fitsFound, start⟩ := exact.of_decode decoded
      have same : found = value := exact.eq_of_prefix fitsFound fits (start.trans inside)
      subst same
      have level : front.length = (form found).length :=
        Nat.le_antisymm inside.length_le start.length_le
      exact absurd (inside.eq_of_length level) shorter

end Exact

/-- What the forms of values are good for: each is read back whatever follows it, only forms are
read, a form has one value and does not go on where another one ends, and no part of a form is taken
for a value. -/
structure Faithful (form : α → List UInt8) (Fits : α → Prop) (read : Reader α) : Prop where
  returns : ∀ value rest, Fits value → decode read (form value ++ rest) = .ok value
  image : ∀ bytes value, decode read bytes = .ok value → Fits value ∧ form value <+: bytes
  injective : ∀ a b, Fits a → Fits b → form a = form b → a = b
  prefixFree : ∀ a b, Fits a → Fits b → form a <+: form b → form a = form b
  truncated : ∀ value front, Fits value → front <+: form value → front ≠ form value →
    ∃ reason, (decode read front).mapError Fault.transport = .error (.codec reason)

theorem Exact.faithful {form : α → List UInt8} {Fits : α → Prop} {read : Reader α}
    (exact : Exact form Fits read) : Faithful form Fits read where
  returns _ rest fits := exact.decode_append fits rest
  image _ _ decoded := exact.of_decode decoded
  injective a b fitsA fitsB eq := exact.eq_of_prefix fitsA fitsB (eq ▸ List.prefix_rfl)
  prefixFree a b fitsA fitsB inside := congrArg form (exact.eq_of_prefix fitsA fitsB inside)
  truncated value front fits inside shorter := by
    obtain ⟨fault, failed⟩ := exact.decode_truncated fits inside shorter
    exact ⟨fault.message, by rw [failed]; rfl⟩

end Wire
end ClusterMember
