import ClusterMember.Proofs.Text.Decimal
import Mathlib.Data.List.Induction
import Mathlib.Data.Nat.Digits.Defs

/-!
# Numerals

The grammar of numbers as text, and the first fault of a text that has not its form.  Reading
accepts the numerals whose value fits, and reports the fault of every other text.
-/

namespace ClusterMember
namespace Decimal

/-- The value of a row of digits, of which the last counts ones. -/
def valueOf (digits : List Char) : Nat :=
  Nat.ofDigits 10 (digits.reverse.map fun c => c.toNat - '0'.toNat)

/-- A numeral: an optional plus sign and at least one digit, with a value that fits. -/
structure Numeral (largest : Nat) (text : List Char) (value : Nat) : Prop where
  /-- The digits stand alone or behind a plus sign. -/
  spelled : ∃ digits, (text = digits ∨ text = '+' :: digits) ∧ digits ≠ [] ∧
    (∀ c ∈ digits, c.isDigit = true) ∧ valueOf digits = value
  fits : value ≤ largest

/-- A text without its plus sign. -/
def unsigned : List Char → List Char
  | '+' :: digits => digits
  | digits => digits

/-- The first fault of a text, from left to right, that keeps it from being a numeral. -/
inductive Refusal (largest : Nat) (text : List Char) : Fault → Prop
  | empty (text_eq : text = []) : Refusal largest text .empty
  /-- There is a sign without digits. -/
  | bare (text_eq : text = ['+']) : Refusal largest text .invalidDigit
  /-- Digits whose value fits are followed by something else. -/
  | invalidDigit {front back : List Char} {c : Char}
      (text_eq : unsigned text = front ++ c :: back)
      (digits : ∀ d ∈ front, d.isDigit = true) (fits : valueOf front ≤ largest)
      (odd : c.isDigit = false) : Refusal largest text .invalidDigit
  /-- Digits whose value fits are followed by one with which it does not fit any more. -/
  | tooLarge {front back : List Char} {c : Char}
      (text_eq : unsigned text = front ++ c :: back)
      (digits : ∀ d ∈ front ++ [c], d.isDigit = true) (fits : valueOf front ≤ largest)
      (large : largest < valueOf (front ++ [c])) : Refusal largest text .tooLarge

theorem valueOf_append_singleton (front : List Char) (c : Char) :
    valueOf (front ++ [c]) = valueOf front * 10 + (c.toNat - '0'.toNat) := by
  rw [valueOf, List.reverse_append, List.reverse_singleton, List.singleton_append, List.map_cons,
    Nat.ofDigits_cons, ← valueOf, Nat.add_comm, Nat.mul_comm]

theorem digitValue?_eq (c : Char) :
    digitValue? c = if c.isDigit then some (c.toNat - '0'.toNat) else none := by
  have same : ('0' ≤ c ∧ c ≤ '9') ↔ c.isDigit = true := by
    simp only [Char.isDigit, Bool.and_eq_true, decide_eq_true_eq, ge_iff_le]
    rfl
  rw [digitValue?]
  exact if_congr same rfl rfl

/-- What the last character adds to what was read before it. -/
theorem readDigits_append_singleton (largest : Nat) (front : List Char) (c : Char) :
    readDigits largest 0 (front ++ [c]) =
      (readDigits largest 0 front).bind fun value =>
        if c.isDigit then
          if value * 10 + (c.toNat - '0'.toNat) ≤ largest then
            .ok (value * 10 + (c.toNat - '0'.toNat))
          else .error .tooLarge
        else .error .invalidDigit := by
  rw [readDigits_append]
  cases readDigits largest 0 front with
  | error fault => rfl
  | ok value =>
      simp only [readDigits, digitValue?_eq, Except.bind]
      split
      next none_eq => split at none_eq <;> simp_all
      next d some_eq => split at some_eq <;> simp_all

theorem readDigits_eq_ok_iff (largest : Nat) (text : List Char) (value : Nat) :
    readDigits largest 0 text = .ok value ↔
      (∀ c ∈ text, c.isDigit = true) ∧ valueOf text = value ∧ value ≤ largest := by
  induction text using List.reverseRecOn generalizing value with
  | nil =>
      simp only [readDigits, Except.ok.injEq, List.not_mem_nil, false_implies, implies_true,
        true_and]
      change 0 = value ↔ 0 = value ∧ value ≤ largest
      omega
  | append_singleton front c induction =>
      rw [readDigits_append_singleton, valueOf_append_singleton]
      cases front_eq : readDigits largest 0 front with
      | error fault =>
          simp only [Except.bind, reduceCtorEq, false_iff]
          rintro ⟨digits, value_eq, fits⟩
          have front_ok := (induction (valueOf front)).2
            ⟨fun d mem => digits d (List.mem_append_left _ mem), rfl, by omega⟩
          rw [front_eq] at front_ok
          cases front_ok
      | ok before =>
          obtain ⟨digits, rfl, fits⟩ := (induction before).1 front_eq
          simp only [Except.bind, List.mem_append, List.mem_singleton]
          by_cases digit : c.isDigit = true
          · rw [if_pos digit]
            split
            next fits => grind
            next large => grind
          · rw [if_neg digit]
            grind

/-- Reading stops at the first character that is no digit or with which the value does not fit. -/
theorem readDigits_eq_error_iff (largest : Nat) (text : List Char) (fault : Fault) :
    readDigits largest 0 text = .error fault ↔ ∃ front c back, text = front ++ c :: back ∧
      (∀ d ∈ front, d.isDigit = true) ∧ valueOf front ≤ largest ∧
      (c.isDigit = false ∧ fault = .invalidDigit ∨
        c.isDigit = true ∧ largest < valueOf (front ++ [c]) ∧ fault = .tooLarge) := by
  constructor
  · intro stopped
    induction text using List.reverseRecOn with
    | nil => cases stopped
    | append_singleton front c induction =>
        rw [readDigits_append_singleton] at stopped
        cases front_eq : readDigits largest 0 front with
        | error earlier =>
            rw [front_eq] at stopped
            obtain ⟨before, d, back, rfl, rest⟩ := induction (front_eq.trans stopped)
            exact ⟨before, d, back ++ [c], by simp, rest⟩
        | ok value =>
            obtain ⟨digits, rfl, fits⟩ := (readDigits_eq_ok_iff largest front value).1 front_eq
            refine ⟨front, c, [], rfl, digits, fits, ?_⟩
            rw [valueOf_append_singleton]
            simp only [front_eq, Except.bind] at stopped
            split at stopped
            next digit =>
              split at stopped
              next => cases stopped
              next large => exact .inr ⟨digit, Nat.lt_of_not_le large, (Except.error.inj stopped).symm⟩
            next odd => exact .inl ⟨by simpa using odd, (Except.error.inj stopped).symm⟩
  · rintro ⟨front, c, back, rfl, digits, fits, stops⟩
    have front_eq := (readDigits_eq_ok_iff largest front _).2 ⟨digits, rfl, fits⟩
    rw [valueOf_append_singleton] at stops
    rw [readDigits_append, front_eq]
    rcases stops with ⟨odd, rfl⟩ | ⟨digit, large, rfl⟩
    · simp [readDigits, digitValue?_eq, odd]
    · simp only [readDigits, digitValue?_eq, digit, if_true]
      rw [if_neg (Nat.not_le.2 large)]

/-! ## Signs -/

theorem eq_unsigned_or (text : List Char) :
    text = unsigned text ∨ text = '+' :: unsigned text := by
  unfold unsigned
  split
  next => exact .inr rfl
  next => exact .inl rfl

/-- No digit is a sign. -/
theorem unsigned_of_digits {digits : List Char} (all : ∀ c ∈ digits, c.isDigit = true) :
    unsigned digits = digits := by
  unfold unsigned
  split
  next rest =>
    have digit := all '+' List.mem_cons_self
    cases digit
  next => rfl

theorem numeral_iff (largest : Nat) (text : List Char) (value : Nat) :
    Numeral largest text value ↔ unsigned text ≠ [] ∧
      (∀ c ∈ unsigned text, c.isDigit = true) ∧ valueOf (unsigned text) = value ∧
        value ≤ largest := by
  constructor
  · rintro ⟨⟨digits, rfl | rfl, nonempty, all, value_eq⟩, fits⟩
    · rw [unsigned_of_digits all]
      exact ⟨nonempty, all, value_eq, fits⟩
    · exact ⟨nonempty, all, value_eq, fits⟩
  · rintro ⟨nonempty, all, value_eq, fits⟩
    exact ⟨⟨unsigned text, eq_unsigned_or text, nonempty, all, value_eq⟩, fits⟩

/-! ## Reading -/

/-- A text with something behind its sign is read without the sign. -/
theorem read_eq_readDigits_unsigned {text : List Char} (nonempty : unsigned text ≠ [])
    (largest : Nat) : read largest text = readDigits largest 0 (unsigned text) := by
  unfold unsigned at nonempty ⊢
  unfold read
  split at nonempty
  next digits => cases digits <;> simp_all
  next => split <;> simp_all

/-- The numerals whose value fits are read, with their value. -/
theorem read_eq_ok_iff (largest : Nat) (text : List Char) (value : Nat) :
    read largest text = .ok value ↔ Numeral largest text value := by
  rw [numeral_iff]
  by_cases nothing : unsigned text = []
  · have refused : ∃ fault, read largest text = .error fault := by
      rcases eq_unsigned_or text with text_eq | text_eq
      · exact ⟨.empty, by rw [text_eq, nothing]; rfl⟩
      · exact ⟨.invalidDigit, by rw [text_eq, nothing]; rfl⟩
    obtain ⟨fault, refused⟩ := refused
    simp [refused, nothing]
  · rw [read_eq_readDigits_unsigned nothing, readDigits_eq_ok_iff]
    simp [nothing]

theorem refusal_iff_of_unsigned_eq_nil {largest : Nat} {text : List Char} {fault : Fault}
    (nothing : unsigned text = []) : Refusal largest text fault ↔
      text = [] ∧ fault = .empty ∨ text = ['+'] ∧ fault = .invalidDigit := by
  constructor
  · intro refusal
    cases refusal with
    | empty text_eq => exact .inl ⟨text_eq, rfl⟩
    | bare text_eq => exact .inr ⟨text_eq, rfl⟩
    | invalidDigit text_eq => simp [nothing] at text_eq
    | tooLarge text_eq => simp [nothing] at text_eq
  · rintro (⟨text_eq, rfl⟩ | ⟨text_eq, rfl⟩)
    · exact .empty text_eq
    · exact .bare text_eq

/-- Every other text is refused for its first fault. -/
theorem read_eq_error_iff (largest : Nat) (text : List Char) (fault : Fault) :
    read largest text = .error fault ↔ Refusal largest text fault := by
  by_cases nothing : unsigned text = []
  · rw [refusal_iff_of_unsigned_eq_nil nothing]
    rcases eq_unsigned_or text with text_eq | text_eq
    · rw [text_eq, nothing]
      simp [read, eq_comm]
    · rw [text_eq, nothing]
      simp [read, eq_comm]
  · rw [read_eq_readDigits_unsigned nothing, readDigits_eq_error_iff]
    constructor
    · rintro ⟨front, c, back, text_eq, digits, fits, ⟨odd, rfl⟩ | ⟨digit, large, rfl⟩⟩
      · exact .invalidDigit text_eq digits fits odd
      · refine .tooLarge text_eq (fun d mem => ?_) fits large
        rcases List.mem_append.1 mem with earlier | last
        · exact digits d earlier
        · rw [List.mem_singleton.1 last]
          exact digit
    · intro refusal
      cases refusal with
      | empty text_eq => exact absurd (by rw [text_eq]; rfl) nothing
      | bare text_eq => exact absurd (by rw [text_eq]; rfl) nothing
      | invalidDigit text_eq digits fits odd =>
          exact ⟨_, _, _, text_eq, digits, fits, .inl ⟨odd, rfl⟩⟩
      | tooLarge text_eq digits fits large =>
          exact ⟨_, _, _, text_eq, fun d mem => digits d (List.mem_append_left _ mem), fits,
            .inr ⟨digits _ (List.mem_append_right _ List.mem_cons_self), large, rfl⟩⟩

end Decimal
end ClusterMember
