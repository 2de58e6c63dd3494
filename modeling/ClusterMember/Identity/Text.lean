import ClusterMember.Identity.Basic

/-!
# Reading identities from text

The canonical text `host:port:start` is split at its colons.  Its faults are reported in a fixed
order: the number of segments, the port, the start time, the host.
-/

namespace ClusterMember

namespace Text

/-- The parts of a text between separators; a text without one is a single part. -/
def split (separator : Char) : List Char → List (List Char)
  | [] => [[]]
  | c :: rest =>
    if c = separator then [] :: split separator rest
    else
      match split separator rest with
      | [] => [[c]]
      | part :: parts => (c :: part) :: parts

end Text

/-- Why a text is no identity. -/
inductive IdentityFault where
  /-- There are not exactly three segments. -/
  | segments (text : String)
  | port (text : String) (cause : Decimal.Fault)
  | startTime (text : String) (cause : Decimal.Fault)
  | host (cause : HostFault)
  deriving DecidableEq

namespace IdentityFault

/-- The wording of a fault. -/
def message : IdentityFault → String
  | .segments text => "expected host:port:start_time, got " ++ Text.quoted text
  | .port text cause => "bad port in " ++ Text.quoted text ++ ": " ++ cause.message
  | .startTime text cause => "bad start time in " ++ Text.quoted text ++ ": " ++ cause.message
  | .host cause => cause.message

/-- A fault as an error of the node. -/
def error (fault : IdentityFault) : Error :=
  .invalidIdentity fault.message

end IdentityFault

namespace Identity

/-- The identity that a canonical text spells. -/
def ofString (s : String) : Except IdentityFault Identity :=
  match Text.split ':' s.toList with
  | [host, port, startTime] => do
    let port ← (Decimal.read word16Max port).mapError (.port s)
    let startTime ← (Decimal.read word64Max startTime).mapError (.startTime s)
    (make (String.ofList host) none port.toUInt16 startTime.toUInt64).mapError .host
  | _ => .error (.segments s)

end Identity
end ClusterMember
