import ClusterMember.Lifecycle.Monitor

/-!
# Named guards

Guards of activities under names.  Under a name that is used again, the older guard goes after the
newer one has come.
-/

namespace ClusterMember

/-- A monitor whose guards go by names. -/
structure Holders where
  monitor : Monitor
  names : List (String × Nat) := []

namespace Holders

/-- The guard under a name. -/
def find? (holders : Holders) (name : String) : Option Nat := List.lookup name holders.names

/-- Begin an activity under a name: the result is the number of its guard. -/
def create (holders : Holders) (name description : String) : Holders × Nat × List LogLine :=
  match holders.monitor.create description 0 with
  | (monitor, id, log) =>
    match holders.find? name with
    | none => (⟨monitor, (name, id) :: holders.names⟩, id, log)
    | some old =>
      match monitor.drop old 0 with
      | (monitor, dropped) =>
        (⟨monitor, (name, id) :: holders.names.filter (·.1 ≠ name)⟩, id, log ++ dropped)

/-- Drop the guard under a name: the result says whether there was one. -/
def drop (holders : Holders) (name : String) : Holders × Bool × List LogLine :=
  match holders.find? name with
  | none => (holders, false, [])
  | some id =>
    match holders.monitor.drop id 0 with
    | (monitor, log) => (⟨monitor, holders.names.filter (·.1 ≠ name)⟩, true, log)

/-- Begin so many activities under a name with numbers behind it, and complete them at once if that
is asked for. -/
def fill (name : String) (isComplete : Bool) (count : Nat) (holders : Holders) : Holders :=
  (List.range count).foldl (fun holders i =>
    let name := name ++ Decimal.write i
    match holders.create name name with
    | (holders, id, _) =>
      if isComplete then { holders with monitor := (holders.monitor.complete id "filled" 0).1 }
      else holders) holders

end Holders
end ClusterMember
