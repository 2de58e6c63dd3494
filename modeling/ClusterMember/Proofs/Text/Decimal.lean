import ClusterMember.Text.Decimal

/-!
# Decimal numbers read back

The digits of a number read as that number, so that different numbers are written differently.
-/

namespace ClusterMember
namespace Decimal

theorem digitValue?_digitChar {d : Nat} (small : d < 10) : digitValue? (digitChar d) = some d := by
  have all : ∀ d : Fin 10, digitValue? (digitChar d) = some d.val := by decide +kernel
  exact all ⟨d, small⟩

/-- Digits are read from left to right. -/
theorem readDigits_append (largest : Nat) (front back : List Char) (acc : Nat) :
    readDigits largest acc (front ++ back) =
      match readDigits largest acc front with
      | .ok value => readDigits largest value back
      | .error fault => .error fault := by
  induction front generalizing acc with
  | nil => rfl
  | cons c front induction =>
      simp only [List.cons_append, readDigits]
      cases digitValue? c with
      | none => rfl
      | some d =>
          simp only
          split
          next fits => exact induction _
          next => rfl

theorem readDigits_digits {n largest : Nat} (fits : n ≤ largest) :
    readDigits largest 0 (digits n) = .ok n := by
  induction n using Nat.strongRecOn with
  | ind n induction =>
      have last : digitValue? (digitChar (n % 10)) = some (n % 10) :=
        digitValue?_digitChar (Nat.mod_lt n (by decide))
      have split_eq : n / 10 * 10 + n % 10 = n := Nat.div_add_mod' n 10
      rw [digits]
      split
      next small => simp [readDigits, digitValue?_digitChar small, fits]
      next large =>
        rw [readDigits_append, induction (n / 10) (by omega) (by omega)]
        simp [readDigits, last, split_eq, fits]

/-- A digit of a number is neither a sign nor a separator. -/
theorem digitValue?_of_mem_digits {n : Nat} {c : Char} (mem : c ∈ digits n) :
    ∃ d, digitValue? c = some d := by
  induction n using Nat.strongRecOn with
  | ind n induction =>
      rw [digits] at mem
      split at mem
      next small =>
        rw [List.mem_singleton] at mem
        exact ⟨n, mem ▸ digitValue?_digitChar small⟩
      next large =>
        rcases List.mem_append.1 mem with front | last
        · exact induction (n / 10) (by omega) front
        · rw [List.mem_singleton] at last
          exact ⟨n % 10, last ▸ digitValue?_digitChar (Nat.mod_lt n (by decide))⟩

theorem not_mem_digits {c : Char} (none : digitValue? c = none) (n : Nat) : c ∉ digits n := by
  intro mem
  obtain ⟨d, some_eq⟩ := digitValue?_of_mem_digits mem
  rw [none] at some_eq
  cases some_eq

theorem digits_ne_nil (n : Nat) : digits n ≠ [] := by
  rw [digits]
  split <;> simp

/-- A text that does not begin with a sign is read digit by digit. -/
theorem read_eq_readDigits {cs : List Char} (nonempty : cs ≠ []) (unsigned : '+' ∉ cs)
    (largest : Nat) : read largest cs = readDigits largest 0 cs := by
  cases cs with
  | nil => exact absurd rfl nonempty
  | cons c rest =>
      have c_ne : c ≠ '+' := fun eq => unsigned (eq ▸ List.mem_cons_self)
      rw [read.eq_def]
      split
      next eq => cases eq
      next eq => cases eq; exact absurd rfl c_ne
      next eq => cases eq; exact absurd rfl c_ne
      next => rfl

theorem read_digits {n largest : Nat} (fits : n ≤ largest) :
    read largest (digits n) = .ok n := by
  have unsigned : '+' ∉ digits n := not_mem_digits (by decide) n
  rw [read_eq_readDigits (digits_ne_nil n) unsigned, readDigits_digits fits]

theorem digits_injective {m n : Nat} (same : digits m = digits n) : m = n := by
  have left := readDigits_digits (Nat.le_max_left m n)
  rw [same, readDigits_digits (Nat.le_max_right m n)] at left
  exact (Except.ok.inj left).symm

theorem toList_write (n : Nat) : (write n).toList = digits n :=
  String.toList_ofList

end Decimal
end ClusterMember
