import ClusterMember.Config.Document
import ClusterMember.Config.Validation
import ClusterMember.Document.Toml
import ClusterMember.Text.Utf8

/-!
# Configuration files

A configuration file is a TOML document that is laid over the defaults and then validated.
-/

namespace ClusterMember

/-- Why a file cannot be read. -/
inductive Unreadable where
  | absent
  | notFolder
  | isFolder
  deriving DecidableEq, Repr

namespace Unreadable

/-- All reasons. -/
def all : List Unreadable := [.absent, .notFolder, .isFolder]

/-- The number of a reason. -/
def code : Unreadable → Nat
  | .absent => 2
  | .notFolder => 20
  | .isFolder => 21

/-- The wording of a reason, without its number. -/
def wording : Unreadable → String
  | .absent => "No such file or directory"
  | .notFolder => "Not a directory"
  | .isFolder => "Is a directory"

/-- The text of a reason. -/
def text (reason : Unreadable) : String :=
  reason.wording ++ " (os error " ++ Decimal.write reason.code ++ ")"

end Unreadable

/-- Why a configuration file gives no configuration. -/
inductive ConfigFileFault where
  | unreadable (path : String) (reason : Unreadable)
  /-- The bytes of the file are not UTF-8. -/
  | notText (path : String)
  /-- The text is not TOML, or a setting has a value that it cannot take. -/
  | malformed
  | refused (cause : ConfigFault)
  deriving DecidableEq

namespace ConfigFileFault

/-- The wording of a fault. -/
def message : ConfigFileFault → String
  | .unreadable path reason => "cannot read " ++ path ++ ": " ++ reason.text
  | .notText path => "cannot read " ++ path ++ ": stream did not contain valid UTF-8"
  | .malformed => "failed to parse config"
  | .refused cause => cause.message

/-- A fault as an error of the node. -/
def error (fault : ConfigFileFault) : Error :=
  .configuration fault.message

end ConfigFileFault

namespace NodeConfig

/-- A configuration that has no fault. -/
def validated (config : NodeConfig) : Except ConfigFileFault NodeConfig :=
  match config.fault? with
  | some fault => .error (.refused fault)
  | none => .ok config

variable [Processors]

/-- The configuration that a TOML text spells. -/
def ofToml (text : String) : Except ConfigFileFault NodeConfig :=
  match Toml.read? text >>= NodeConfig.ofDocument? .toml with
  | none => .error .malformed
  | some config => config.validated

/-- The configuration in a file with these bytes, or which cannot be read. -/
def load (path : String) (file : Except Unreadable (List UInt8)) :
    Except ConfigFileFault NodeConfig :=
  match file with
  | .error reason => .error (.unreadable path reason)
  | .ok bytes =>
    match Utf8.decode bytes with
    | .error _ => .error (.notText path)
    | .ok text => ofToml text

end NodeConfig
end ClusterMember
