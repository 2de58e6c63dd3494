import ClusterMember.CommandLine.Options
import ClusterMember.Config.File
import ClusterMember.Lifecycle.Run

/-!
# The run of a command line

Arguments that are refused are answered with the usage.  A node that comes up runs until a signal
asks it to stop; a master leaves one of these signals to the system.
-/

namespace ClusterMember

/-- A signal that a process is sent. -/
inductive Signal where
  | terminate
  | interrupt
  /-- It is to end at once. -/
  | abort
  deriving DecidableEq, Repr

namespace Signal

/-- The number of a signal. -/
def number : Signal → Nat
  | .terminate => 15
  | .interrupt => 2
  | .abort => 6

/-- All signals. -/
def all : List Signal := [.terminate, .interrupt, .abort]

/-- The short name of a signal. -/
def shortName : Signal → String
  | .terminate => "TERM"
  | .interrupt => "INT"
  | .abort => "ABRT"

/-- The name of a signal. -/
def name (signal : Signal) : String := "SIG" ++ signal.shortName

/-- Whether nodes of a role stop cleanly at a signal. -/
def isHandled (signal : Signal) (role : Role) : Bool :=
  signal ≠ .abort ∨ role = .slave

end Signal

/-- How a process ends. -/
structure ProcessEnd where
  exitCode : Option Nat
  signal : Option Nat
  log : List LogLine
  complaint : String
  deriving DecidableEq

/-- What a process finds around itself. -/
structure Machine where
  program : String
  hostName : Option String
  /-- The bytes of a file, or why it cannot be read. -/
  file : String → Except Unreadable (List UInt8)
  around : Surroundings

/-- A process that has begun. -/
inductive Process where
  | ended (result : ProcessEnd)
  | running (options : Options) (node : Node)

namespace CommandLine

/-- How the command line is to be used. -/
def usage (program : String) : String :=
  "Usage: " ++ program ++ " --role master|slave [--config <path>] [--log-level <level>]\n" ++
    "Example: " ++ program ++ " --role master\n" ++
    "Example: " ++ program ++ " --role slave --config slave.toml --log-level debug\n"

/-- A text whose first line and whose other lines are indented. -/
def indented (first other text : String) : String :=
  first ++ ("\n" ++ other).intercalate (text.splitOn "\n")

/-- A numbered cause: the number stands at the end of five places. -/
def numbered (cause : String × Nat) : String :=
  let number := Decimal.write cause.2
  indented ("".pushn ' ' (5 - number.length) ++ number ++ ": ") "       " cause.1

/-- The causes of an error, each on a line of its own, with numbers when there are several. -/
def causesText : List String → String
  | [] => ""
  | [cause] => "\n\nCaused by:\n" ++ indented "    " "    " cause
  | causes => "\n\nCaused by:\n" ++ "\n".intercalate (causes.zipIdx.map numbered)

/-- The end of a process that complains. -/
def failure (complaint : String) : ProcessEnd := ⟨some 1, none, [], complaint⟩

/-- The end of a process that an error ends. -/
def errorEnd (error : Error) : ProcessEnd :=
  failure ("Error: " ++ error.text ++ causesText error.causes ++ "\n")

/-- The end of a process whose node crashed. -/
def crash : ProcessEnd := ⟨some 101, none, [], ""⟩

/-- The end of a process whose node has come to its end. -/
def cleanEnd (options : Options) : ProcessEnd :=
  ⟨some 0, none,
    [LogLine.mk .info "Node exited cleanly"].filter fun line => options.logLevel.shows line.level,
    ""⟩

/-- The process of a node that has run so far. -/
def afterRun (options : Options) : Node × RunEnd → Process
  | (_, .done) => .ended (cleanEnd options)
  | (_, .failed error) => .ended (errorEnd error)
  | (_, .panicked _) => .ended crash
  | (node, .idling) => .running options node

variable [Processors]

/-- The configuration that options name. -/
def configOf (machine : Machine) (options : Options) : Except ConfigFileFault NodeConfig :=
  match options.config with
  | none => .ok {}
  | some path => NodeConfig.load path (machine.file path)

/-- Begin a process with options. -/
def launch (machine : Machine) (options : Options) : Process :=
  match configOf machine options with
  | .error fault => .ended (errorEnd fault.error)
  | .ok config =>
    match Node.ofConfig options.role config machine.hostName machine.around.now with
    | .error (.refused error) => .ended (errorEnd error)
    | .error _ => .ended crash
    | .ok node => afterRun options (node.run machine.around [])

/-- Begin a process with arguments. -/
def begin (machine : Machine) (arguments : List String) : Process :=
  match Options.ofArguments arguments with
  | .error fault =>
    .ended (failure (fault.message ++ "\n" ++ usage machine.program))
  | .ok options => launch machine options

end CommandLine

open CommandLine in
/-- A process after a signal. -/
def Process.deliver (signal : Signal) : Process → Process
  | .ended result => .ended result
  | .running options node =>
    if signal.isHandled options.role then
      afterRun options
        ((node.serve [.stop ("received " ++ signal.name)]).endRun Node.outcome)
    else .ended ⟨none, some signal.number, [], ""⟩

end ClusterMember
