/-!
# Kinds of executor

Every pool of a node is of one of four kinds.  The kind `default` also takes the work of kinds
that have no pool of their own; the kind `scheduled` runs delayed and periodic work.
-/

namespace ClusterMember

/-- The kind of a pool. -/
inductive ExecutorType where
  | default
  | scheduled
  | archive
  | compact
  deriving DecidableEq, Repr

namespace ExecutorType

/-- All kinds in order. -/
def all : List ExecutorType := [.default, .scheduled, .archive, .compact]

/-- The name of a kind in configurations. -/
def name : ExecutorType → String
  | .default => "default"
  | .scheduled => "scheduled"
  | .archive => "archive"
  | .compact => "compact"

/-- The name of a kind in messages. -/
def title : ExecutorType → String
  | .default => "Default"
  | .scheduled => "Scheduled"
  | .archive => "Archive"
  | .compact => "Compact"

/-- What the names of the worker threads of a kind begin with. -/
def threadName : ExecutorType → String
  | .scheduled => "schedule"
  | other => other.name

/-- The kind of a name. -/
def ofName? (name : String) : Option ExecutorType :=
  all.find? (·.name = name)

theorem mem_all (type : ExecutorType) : type ∈ all := by
  cases type <;> decide

@[simp]
theorem ofName?_name (type : ExecutorType) : ofName? type.name = some type := by
  cases type <;> decide

end ExecutorType
end ClusterMember
