import ClusterMember.Net.Address
import ClusterMember.Proofs.Text.Decimal
import Mathlib.Algebra.Group.Nat.Defs

/-!
# Numbers in digits

Decimal and hexadecimal numbers are rows of digits of a base, none to spare.  The longest row of
digits at the front of a text has the values of those that were written there, when what follows
them is no digit.
-/

namespace ClusterMember
namespace Text

/-! ## Digits of a base -/

/-- The values of the digits of a number, most significant first and none to spare. -/
def digitValues (base n : Nat) : List Nat :=
  if 2 ≤ base ∧ base ≤ n then digitValues base (n / base) ++ [n % base] else [n]
termination_by n
decreasing_by exact Nat.div_lt_self (by omega) (by omega)

variable {base n : Nat}

theorem digitValues_of_lt (small : n < base) : digitValues base n = [n] := by
  rw [digitValues, if_neg (by omega)]

theorem digitValues_of_le (two_le : 2 ≤ base) (large : base ≤ n) :
    digitValues base n = digitValues base (n / base) ++ [n % base] := by
  rw [digitValues, if_pos ⟨two_le, large⟩]

/-- Numbers are reached from those of one digit by adding digits behind. -/
theorem digits_induction (two_le : 2 ≤ base) {motive : Nat → Prop}
    (digit : ∀ n < base, motive n)
    (more : ∀ n, base ≤ n → motive (n / base) → motive n) (n : Nat) : motive n := by
  induction n using Nat.strongRecOn with
  | ind n induction =>
      by_cases small : n < base
      · exact digit n small
      · have large : base ≤ n := Nat.le_of_not_lt small
        exact more n large (induction _ (Nat.div_lt_self (by omega) two_le))

theorem digitValues_ne_nil (base n : Nat) : digitValues base n ≠ [] := by
  rw [digitValues]
  split <;> simp

theorem lt_of_mem_digitValues (two_le : 2 ≤ base) :
    ∀ d ∈ digitValues base n, d < base := by
  induction n using digits_induction two_le with
  | digit n small =>
      rw [digitValues_of_lt small]
      intro d mem
      rwa [List.mem_singleton.1 mem]
  | more n large induction =>
      rw [digitValues_of_le two_le large]
      intro d mem
      rcases List.mem_append.1 mem with front | last
      · exact induction d front
      · rw [List.mem_singleton.1 last]
        exact Nat.mod_lt _ (by omega)

/-- The digits of a number have its value. -/
theorem valueOf_digitValues (two_le : 2 ≤ base) (n : Nat) :
    IpAddress.valueOf base (digitValues base n) = n := by
  induction n using digits_induction two_le with
  | digit n small =>
      rw [digitValues_of_lt small, IpAddress.valueOf, List.foldl_cons, List.foldl_nil, Nat.zero_mul,
        Nat.zero_add]
  | more n large induction =>
      rw [IpAddress.valueOf] at induction
      rw [digitValues_of_le two_le large, IpAddress.valueOf, List.foldl_append, induction,
        List.foldl_cons, List.foldl_nil, Nat.div_add_mod']

/-- A number below a power of the base has at most as many digits as the power. -/
theorem length_digitValues_le (two_le : 2 ≤ base) {k : Nat} (small : n < base ^ (k + 1)) :
    (digitValues base n).length ≤ k + 1 := by
  induction k generalizing n with
  | zero =>
      rw [Nat.zero_add, Nat.pow_one] at small
      exact Nat.le_of_eq (congrArg List.length (digitValues_of_lt small))
  | succ k induction =>
      by_cases digit : n < base
      · rw [digitValues_of_lt digit, List.length_singleton]
        omega
      · have quotient : n / base < base ^ (k + 1) := by
          rwa [Nat.div_lt_iff_lt_mul (by omega), ← Nat.pow_succ]
        rw [digitValues_of_le two_le (by omega), List.length_append, List.length_singleton]
        exact Nat.succ_le_succ (induction quotient)

/-- Only zero itself begins with a zero. -/
theorem eq_zero_of_head?_digitValues (two_le : 2 ≤ base)
    (head_eq : (digitValues base n).head? = some 0) : n = 0 := by
  induction n using digits_induction two_le with
  | digit n small =>
      rw [digitValues_of_lt small] at head_eq
      exact Option.some.inj head_eq
  | more n large induction =>
      rw [digitValues_of_le two_le large, List.head?_append] at head_eq
      have quotient_pos : 0 < n / base := Nat.div_pos large (by omega)
      cases front : (digitValues base (n / base)).head? with
      | none => exact absurd (List.head?_eq_none_iff.1 front) (digitValues_ne_nil _ _)
      | some first =>
          rw [front, Option.some_or] at head_eq
          have zero := induction (front.trans head_eq)
          omega

theorem digits_eq_map (n : Nat) :
    Decimal.digits n = (digitValues 10 n).map Decimal.digitChar := by
  induction n using digits_induction (by decide : 2 ≤ 10) with
  | digit n small => rw [Decimal.digits, if_pos small, digitValues_of_lt small, List.map_singleton]
  | more n large induction =>
      rw [Decimal.digits, if_neg (Nat.not_lt.2 large), induction,
        digitValues_of_le (by decide) large, List.map_append, List.map_singleton]

theorem hexDigits_eq_map (n : Nat) : hexDigits n = (digitValues 16 n).map hexDigit := by
  induction n using digits_induction (by decide : 2 ≤ 16) with
  | digit n small => rw [hexDigits, if_pos small, digitValues_of_lt small, List.map_singleton]
  | more n large induction =>
      rw [hexDigits, if_neg (Nat.not_lt.2 large), induction, digitValues_of_le (by decide) large,
        List.map_append, List.map_singleton]

theorem hexValue?_hexDigit {d : Nat} (small : d < 16) : hexValue? (hexDigit d) = some d := by
  have all : ∀ d : Fin 16, hexValue? (hexDigit d) = some d.val := by decide +kernel
  exact all ⟨d, small⟩

/-! ## Digits at the front of a text -/

/-- A text does not go on with a digit. -/
def Stops (digit? : Char → Option Nat) (rest : List Char) : Prop :=
  ∀ c ∈ rest.head?, digit? c = none

theorem stops_nil (digit? : Char → Option Nat) : Stops digit? [] := by
  rintro c ⟨⟩

theorem stops_cons {digit? : Char → Option Nat} {c : Char} (odd : digit? c = none)
    (rest : List Char) : Stops digit? (c :: rest) := by
  rintro c ⟨⟩
  exact odd

/-- Reading takes the digits that were written, and no more. -/
theorem spanDigits_map_append {digit? : Char → Option Nat} {form : Nat → Char}
    (reads : ∀ d < base, digit? (form d) = some d) {values : List Nat}
    (digits : ∀ d ∈ values, d < base) {rest : List Char} (stops : Stops digit? rest) :
    IpAddress.spanDigits digit? (values.map form ++ rest) = (values, rest) := by
  induction values with
  | nil =>
      cases rest with
      | nil => rfl
      | cons c rest =>
          rw [List.map_nil, List.nil_append, IpAddress.spanDigits, stops c rfl]
  | cons d values induction =>
      rw [List.forall_mem_cons] at digits
      rw [List.map_cons, List.cons_append, IpAddress.spanDigits, reads d digits.1]
      simp only [induction digits.2]

theorem spanDigits_decimal (n : Nat) {rest : List Char}
    (stops : Stops Decimal.digitValue? rest) :
    IpAddress.spanDigits Decimal.digitValue? (Decimal.digits n ++ rest) =
      (digitValues 10 n, rest) := by
  rw [digits_eq_map]
  exact spanDigits_map_append (fun _ => Decimal.digitValue?_digitChar)
    (lt_of_mem_digitValues (by decide)) stops

theorem spanDigits_hexadecimal (n : Nat) {rest : List Char} (stops : Stops hexValue? rest) :
    IpAddress.spanDigits hexValue? (hexDigits n ++ rest) = (digitValues 16 n, rest) := by
  rw [hexDigits_eq_map]
  exact spanDigits_map_append (fun _ => hexValue?_hexDigit) (lt_of_mem_digitValues (by decide))
    stops

end Text
end ClusterMember
