import ClusterMember.Document.Json
import ClusterMember.Identity.Basic

/-!
# Identities as documents

An identity is written as a table of four entries.  It is read from a table with these entries in
any order, each at most once and with any others between them, or from the list of the four values.
The address may be absent.
-/

namespace ClusterMember

/-- Why a document or its text gives no identity. -/
inductive IdentityDocumentFault where
  | malformed
  | host (cause : HostFault)
  deriving DecidableEq

namespace Document

/-- The values under a name. -/
def valuesOf (name : String) (entries : List (String × Document)) : List Document :=
  (entries.filter (·.1 = name)).map (·.2)

/-- The one value under a name. -/
def single? (name : String) (entries : List (String × Document)) : Option Document :=
  match valuesOf name entries with
  | [value] => some value
  | _ => none

end Document

namespace Identity

/-- An identity as a document. -/
def toDocument (identity : Identity) : Document :=
  .table
    [("host", .str identity.host), ("ip", .optional (fun ip => .str ip.text) identity.ip),
      ("port", .nat identity.port.toNat), ("start_time", .nat identity.startTime.toNat)]

/-- The compact text of an identity. -/
def json (identity : Identity) : String :=
  Json.write identity.toDocument

/-- The four values in their order: a missing address counts as an absent one. -/
def valuesOf? : Document → Option (Document × Document × Document × Document)
  | .list [host, ip, port, startTime] => some (host, ip, port, startTime)
  | .table entries => do
    let host ← Document.single? "host" entries
    let ip ← if (Document.valuesOf "ip" entries).isEmpty then some .null
      else Document.single? "ip" entries
    let port ← Document.single? "port" entries
    let startTime ← Document.single? "start_time" entries
    return (host, ip, port, startTime)
  | _ => none

/-- The address that a document is: the outer none is a fault, the inner one an absent address. -/
def addressOf? : Document → Option (Option IpAddress)
  | .null => some none
  | .str text => some <$> IpAddress.ofString? text
  | _ => none

/-- The identity that a document is. -/
def ofDocument (document : Document) : Except IdentityDocumentFault Identity :=
  let fields? := do
    let (host, ip, port, startTime) ← valuesOf? document
    return (← host.string?, ← addressOf? ip, ← port.natural? word16Max,
      ← startTime.natural? word64Max)
  match fields? with
  | none => .error .malformed
  | some (host, ip, port, startTime) =>
    (make host ip port.toUInt16 startTime.toUInt64).mapError .host

/-- The identity that a JSON text spells.  What follows the document is looked at last. -/
def ofJson (text : String) : Except IdentityDocumentFault Identity :=
  match Json.readFront text with
  | none => .error .malformed
  | some (document, rest) => do
    let identity ← ofDocument document
    if Json.skipSpace rest = [] then return identity else .error .malformed

end Identity
end ClusterMember
