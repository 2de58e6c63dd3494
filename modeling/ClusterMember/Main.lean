import ClusterMember.CommandLine.Run

/-!
# The program

A process of a node that is on its own: it listens as on a machine without addresses, reaches no
other node, and idles until the system ends it.
-/

open ClusterMember

/-- Why a file could not be read. -/
def reasonOf : IO.Error → Unreadable
  | .inappropriateType _ code _ => (Unreadable.all.find? (·.code = code.toNat)).getD .absent
  | _ => .absent

/-- The bytes of a file, or why it cannot be read. -/
def readFile (path : String) : IO (Except Unreadable (List UInt8)) := do
  try
    return .ok (← IO.FS.readBinFile path).toList
  catch error =>
    return .error (reasonOf error)

/-- The name that the machine gives itself. -/
def machineName? : IO (Option String) := do
  match ← IO.getEnv "HOSTNAME" with
  | some name => return hostNameOf name
  | none =>
    match ← readFile "/etc/hostname" with
    | .error _ => return none
    | .ok bytes =>
      match Utf8.decode bytes with
      | .ok name => return hostNameOf name
      | .error _ => return none

/-- The configuration file that arguments name, with its bytes. -/
def configFile (arguments : List String) : IO (String → Except Unreadable (List UInt8)) := do
  match Options.ofArguments arguments with
  | .ok { config := some path, .. } =>
    let bytes ← readFile path
    return fun name => if name = path then bytes else .error .absent
  | _ => return fun _ => .error .absent

/-- What the process finds around itself. -/
def machineOf (arguments : List String) : IO Machine := do
  let now ← IO.monoMsNow
  return {
    program := "cluster-node"
    hostName := ← machineName?
    file := ← configFile arguments
    around := .isolated now.toUInt64 }

/-- The processors that the machine tells. -/
def processorsOf : IO Processors := do
  match ← readFile "/proc/cpuinfo" with
  | .error _ => return .single
  | .ok bytes =>
    match Utf8.decode bytes with
    | .error _ => return .single
    | .ok text =>
      let count := (text.splitOn "\n").countP fun line => line.startsWith "processor"
      return if told : 0 < count ∧ 2 * count ≤ word64Max then ⟨count, told.1, told.2⟩ else .single

/-- Idle until the system ends the process. -/
partial def idle (period : UInt32) : IO Unit := do
  IO.sleep period
  idle period

/-- Run a node as the arguments say. -/
def main (arguments : List String) : IO UInt32 := do
  let _processors ← processorsOf
  match CommandLine.begin (← machineOf arguments) arguments with
  | .ended result =>
    for line in result.log do
      IO.println (line.level.name ++ " " ++ line.text)
    IO.eprint result.complaint
    return (result.exitCode.getD 1).toUInt32
  | .running _ node =>
    idle (node.config.lifecycle.sleepPeriodMs.toUInt32 + 1)
    return 0
