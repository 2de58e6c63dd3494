/-!
# Unsigned decimal numbers as text

A number is written with its digits and nothing else.  It is read from one or more digits behind an
optional plus sign, leading zeros allowed, up to a given largest value.  The faults are found from
left to right, so a text with two of them reports the one that is met first.
-/

namespace ClusterMember
namespace Decimal

/-- Why a text does not read as a number. -/
inductive Fault where
  | empty
  | invalidDigit
  | tooLarge
  deriving DecidableEq, Repr

/-- The wording of a fault. -/
def Fault.message : Fault → String
  | .empty => "cannot parse integer from empty string"
  | .invalidDigit => "invalid digit found in string"
  | .tooLarge => "number too large to fit in target type"

/-- The value of an ASCII decimal digit. -/
def digitValue? (c : Char) : Option Nat :=
  if '0' ≤ c ∧ c ≤ '9' then some (c.toNat - '0'.toNat) else none

/-- The ASCII digit of a value below ten. -/
def digitChar (d : Nat) : Char :=
  Char.ofNat ('0'.toNat + d)

/-- Continue a number whose digits so far have the value `acc`. -/
def readDigits (largest : Nat) : Nat → List Char → Except Fault Nat
  | acc, [] => .ok acc
  | acc, c :: rest =>
    match digitValue? c with
    | none => .error .invalidDigit
    | some d =>
      if acc * 10 + d ≤ largest then readDigits largest (acc * 10 + d) rest
      else .error .tooLarge

/-- Read a number that is at most `largest`. -/
def read (largest : Nat) : List Char → Except Fault Nat
  | [] => .error .empty
  | ['+'] => .error .invalidDigit
  | '+' :: digits => readDigits largest 0 digits
  | digits => readDigits largest 0 digits

/-- The digits of a number, most significant first. -/
def digits (n : Nat) : List Char :=
  if n < 10 then [digitChar n] else digits (n / 10) ++ [digitChar (n % 10)]

/-- The text of a number. -/
def write (n : Nat) : String :=
  String.ofList (digits n)

end Decimal

/-- The largest value of a 16-bit word. -/
def word16Max : Nat := UInt16.size - 1

/-- The largest value of a 32-bit word. -/
def word32Max : Nat := UInt32.size - 1

/-- The largest value of a 64-bit word. -/
def word64Max : Nat := UInt64.size - 1

end ClusterMember
