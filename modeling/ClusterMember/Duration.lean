import ClusterMember.Text.Decimal

/-!
# Spans of time

A span is a number of seconds and of nanoseconds below one second.  Its text uses the largest of
the units s, ms, µs and ns that is not below one, with an exact decimal fraction that ends in no
zero.
-/

namespace ClusterMember

/-- A span of time. -/
structure Duration where
  secs : Nat
  nanos : Nat
  nanos_lt : nanos < 1000000000
  deriving DecidableEq

namespace Duration

/-- No time at all. -/
def zero : Duration := ⟨0, 0, by decide⟩

/-- A number of milliseconds. -/
def ofMillis (ms : Nat) : Duration :=
  ⟨ms / 1000, ms % 1000 * 1000000, by omega⟩

/-- Whole milliseconds in a span. -/
def millis (d : Duration) : Nat :=
  d.secs * 1000 + d.nanos / 1000000

/-- The first `places` decimal places of a fraction, zeros at the end dropped. -/
def fractionDigits (places fraction : Nat) : List Char :=
  let digits := Decimal.digits fraction
  let padded := List.replicate (places - digits.length) '0' ++ digits
  (padded.reverse.dropWhile (· == '0')).reverse

/-- A whole number with a fraction of `places` decimal places and a unit. -/
def withFraction (whole places fraction : Nat) (unit : String) : String :=
  match fractionDigits places fraction with
  | [] => Decimal.write whole ++ unit
  | digits => Decimal.write whole ++ "." ++ String.ofList digits ++ unit

/-- The text of a span. -/
def text (d : Duration) : String :=
  if 0 < d.secs then withFraction d.secs 9 d.nanos "s"
  else if 1000000 ≤ d.nanos then withFraction (d.nanos / 1000000) 6 (d.nanos % 1000000) "ms"
  else if 1000 ≤ d.nanos then withFraction (d.nanos / 1000) 3 (d.nanos % 1000) "µs"
  else Decimal.write d.nanos ++ "ns"

@[simp]
theorem millis_ofMillis (ms : Nat) : (ofMillis ms).millis = ms := by
  simp only [ofMillis, millis]
  omega

theorem ofMillis_eq_zero_iff (ms : Nat) : ofMillis ms = zero ↔ ms = 0 := by
  constructor
  · intro eq
    have millis_eq := congrArg millis eq
    rwa [millis_ofMillis] at millis_eq
  · rintro rfl
    rfl

end Duration
end ClusterMember
