import ClusterMember.Heartbeat.Manager

/-!
# The history of a table of slaves

A table is given reports and listeners in any order.  What a table has become is told by the records
of the reports and by the names of the listeners, each in the order in which they came.
-/

namespace ClusterMember
namespace Heartbeat

/-- What a table of slaves is given. -/
inductive ManagerCall where
  | accept (request : Request) (now : UInt64)
  | listen (name : String)

namespace ManagerCall

/-- The record of the report that is accepted. -/
def record? : ManagerCall → Option Record
  | .accept request now => some ⟨request.sender, request.reportTime, now⟩
  | .listen _ => none

/-- The listener that is added. -/
def listener? : ManagerCall → Option String
  | .accept _ _ => none
  | .listen name => some name

/-- The records of all accepted reports, oldest first. -/
def records (calls : List ManagerCall) : List Record := calls.filterMap record?

/-- The names of all added listeners, oldest first. -/
def listeners (calls : List ManagerCall) : List String := calls.filterMap listener?

@[simp]
theorem records_accept (request : Request) (now : UInt64) (rest : List ManagerCall) :
    records (.accept request now :: rest) =
      ⟨request.sender, request.reportTime, now⟩ :: records rest := rfl

@[simp]
theorem records_listen (name : String) (rest : List ManagerCall) :
    records (.listen name :: rest) = records rest := rfl

@[simp]
theorem listeners_accept (request : Request) (now : UInt64) (rest : List ManagerCall) :
    listeners (.accept request now :: rest) = listeners rest := rfl

@[simp]
theorem listeners_listen (name : String) (rest : List ManagerCall) :
    listeners (.listen name :: rest) = name :: listeners rest := rfl

/-- What the listeners hear from a row of calls when some are there already: for each report, whom
its record is handed to. -/
def heardFrom (names : List String) : List ManagerCall → List (List (String × Record))
  | [] => []
  | .accept request now :: rest =>
    names.map (·, ⟨request.sender, request.reportTime, now⟩) :: heardFrom names rest
  | .listen name :: rest => heardFrom (names ++ [name]) rest

end ManagerCall

/-- The last of the records that a condition holds of. -/
def Record.last? (condition : Record → Bool) (records : List Record) : Option Record :=
  records.reverse.find? condition

/-- A table of slaves with what came of each report, oldest first. -/
structure ManagerHistory where
  manager : Manager
  accepted : List Manager.Accepted

namespace ManagerHistory

/-- One more call. -/
def call (history : ManagerHistory) : ManagerCall → ManagerHistory
  | .accept request now =>
    let accepted := history.manager.accept request now
    ⟨accepted.manager, history.accepted ++ [accepted]⟩
  | .listen name => { history with manager := history.manager.listen name }

/-- A new table after a row of calls. -/
def run (calls : List ManagerCall) : ManagerHistory := calls.foldl call ⟨.empty, []⟩

end ManagerHistory
end Heartbeat
end ClusterMember
