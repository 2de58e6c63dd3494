import ClusterMember.Text.Decimal

/-!
# The log

Lines of the log with their levels, and the names of the levels.
-/

namespace ClusterMember

/-- How much a node logs. -/
inductive LogLevel where
  | error
  | warn
  | info
  | debug
  | trace
  deriving DecidableEq, Repr

namespace LogLevel

/-- All levels, from little to much. -/
def all : List LogLevel := [.error, .warn, .info, .debug, .trace]

/-- The name of a level. -/
def name : LogLevel → String
  | .error => "ERROR"
  | .warn => "WARN"
  | .info => "INFO"
  | .debug => "DEBUG"
  | .trace => "TRACE"

/-- The rank of a level: 1 logs least. -/
def rank : LogLevel → Nat
  | .error => 1
  | .warn => 2
  | .info => 3
  | .debug => 4
  | .trace => 5

/-- Whether a node with this level logs lines of another one. -/
def shows (level line : LogLevel) : Bool :=
  line.rank ≤ level.rank

/-- An ASCII letter in upper case, any other character as it is. -/
def upper (c : Char) : Char :=
  if 'a' ≤ c ∧ c ≤ 'z' then Char.ofNat (c.toNat - 32) else c

/-- The level that a text names: its rank as a number, or its name in letters of either case. -/
def ofText? (text : String) : Option LogLevel :=
  match Decimal.read word64Max text.toList with
  | .ok n => all.find? (·.rank = n)
  | .error _ => all.find? (·.name.toList = text.toList.map upper)

end LogLevel

/-- A line of the log. -/
structure LogLine where
  level : LogLevel
  text : String
  deriving DecidableEq

end ClusterMember
