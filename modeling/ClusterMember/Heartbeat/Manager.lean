import ClusterMember.Heartbeat.Message
import ClusterMember.Log

/-!
# The table of slaves

A master keeps the latest report of each slave under its host and port, counts all reports, and
hands each report to its listeners in the order in which they were added.
-/

namespace ClusterMember
namespace Heartbeat

/-- The table of slaves of a master. -/
structure Manager where
  /-- The latest reports, under host and port. -/
  slaves : List (String × Record)
  /-- The names of the listeners, in the order in which they were added. -/
  listeners : List String
  received : Nat

namespace Manager

/-- A table without slaves. -/
def empty : Manager := ⟨[], [], 0⟩

/-- Put a record under a key, in place of one that is there. -/
def insert (key : String) (record : Record) : List (String × Record) → List (String × Record)
  | [] => [(key, record)]
  | (other, kept) :: rest =>
    if other = key then (key, record) :: rest else (other, kept) :: insert key record rest

/-- The latest report under a key. -/
def latest? (manager : Manager) (key : String) : Option Record :=
  List.lookup key manager.slaves

/-- Add a listener. -/
def listen (manager : Manager) (name : String) : Manager :=
  { manager with listeners := manager.listeners ++ [name] }

/-- What the log says about a report. -/
def logOf (previous : Option Record) (sender : Identity) : LogLine :=
  match previous with
  | none => ⟨.info, "First heartbeat from slave " ++ sender.canonical⟩
  | some record =>
    if record.sender.isRestartOf sender then
      ⟨.info, "Slave " ++ sender.canonical ++ " restarted (was " ++ record.sender.canonical ++ ")"⟩
    else ⟨.debug, "Heartbeat from " ++ sender.canonical⟩

/-- What comes of a report. -/
structure Accepted where
  manager : Manager
  /-- Whom the record was handed to, in this order. -/
  heard : List (String × Record)
  log : LogLine

/-- Take a report that arrives now. -/
def accept (manager : Manager) (request : Request) (now : UInt64) : Accepted :=
  let record : Record := ⟨request.sender, request.reportTime, now⟩
  let key := request.sender.hostAndPort
  { manager :=
      { manager with
        slaves := insert key record manager.slaves, received := manager.received + 1 }
    heard := manager.listeners.map fun name => (name, record)
    log := logOf (manager.latest? key) request.sender }

/-- The slaves whose latest report is at most `maxAge` milliseconds old. -/
def live (manager : Manager) (maxAge now : Nat) : List Identity :=
  (manager.slaves.filter fun entry => now - entry.2.receivedAt.toNat ≤ maxAge).map
    (·.2.sender)

/-- How many slaves there are. -/
def count (manager : Manager) : Nat := manager.slaves.length

/-- What the log says when the master stops. -/
def stopLog (manager : Manager) : LogLine :=
  ⟨.info, "Heartbeat manager stopped, " ++ Decimal.write manager.count ++ " slaves known"⟩

end Manager
end Heartbeat
end ClusterMember
