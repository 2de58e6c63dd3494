import ClusterMember.Config.Validation
import ClusterMember.Log

/-!
# Options of the command line

Arguments come in pairs of a flag and a value.  The last value of a flag counts, and any text is a
value, even one that looks like a flag.  The first pair that is wrong is reported, and a missing
role only when no pair is.
-/

namespace ClusterMember

/-- What the command line asks for. -/
structure Options where
  role : Role
  config : Option String
  logLevel : LogLevel
  deriving DecidableEq

/-- Why arguments are refused. -/
inductive UsageFault where
  /-- A flag is none, or its value is missing. -/
  | unexpected (argument : String)
  /-- A role is none. -/
  | role (cause : ConfigFault)
  /-- A level is none. -/
  | logLevel (text : String)
  | noRole
  deriving DecidableEq

namespace UsageFault

/-- The wording of a fault. -/
def message : UsageFault → String
  | .unexpected argument => "unexpected argument: " ++ argument
  | .role cause => cause.error.text
  | .logLevel text => "unknown log level: " ++ text
  | .noRole => "--role is required"

end UsageFault

namespace Options

/-- Options as far as they have been given. -/
structure Given where
  role : Option Role := none
  config : Option String := none
  logLevel : LogLevel := .info
  deriving DecidableEq

/-- Take one pair of a flag and a value. -/
def Given.take (given : Given) (flag value : String) : Except UsageFault Given :=
  if flag = "--role" then
    match Role.ofName value with
    | .ok role => .ok { given with role := some role }
    | .error fault => .error (.role fault)
  else if flag = "--config" then .ok { given with config := some value }
  else if flag = "--log-level" then
    match LogLevel.ofText? value with
    | some logLevel => .ok { given with logLevel }
    | none => .error (.logLevel value)
  else .error (.unexpected flag)

/-- Take all arguments. -/
def Given.takeAll (given : Given) : List String → Except UsageFault Given
  | [] => .ok given
  | [flag] => .error (.unexpected flag)
  | flag :: value :: rest =>
    match given.take flag value with
    | .ok given => given.takeAll rest
    | .error fault => .error fault

/-- The options that arguments give. -/
def ofArguments (arguments : List String) : Except UsageFault Options :=
  match ({} : Given).takeAll arguments with
  | .error fault => .error fault
  | .ok given =>
    match given.role with
    | some role => .ok ⟨role, given.config, given.logLevel⟩
    | none => .error .noRole

end Options
end ClusterMember
