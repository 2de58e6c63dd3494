import ClusterMember.Identity.Text

/-!
# Where identities come from

The host name that a machine gives itself, and the address that a numeric host name stands for
without asking anyone.
-/

namespace ClusterMember

namespace IpAddress

/-- The value of a number in one of the three bases that host names may use: a leading `0x` means
sixteen, another leading zero eight. -/
def readLoose (cs : List Char) : Option (Nat × List Char) :=
  let (base, digit?, cs) : Nat × (Char → Option Nat) × List Char :=
    match cs with
    | '0' :: 'x' :: rest => (16, Text.hexValue?, rest)
    | '0' :: 'X' :: rest => (16, Text.hexValue?, rest)
    | '0' :: rest => (8, fun c => (Decimal.digitValue? c).filter (· < 8), '0' :: rest)
    | rest => (10, Decimal.digitValue?, rest)
  let (values, rest) := spanDigits digit? cs
  if values = [] then none else some (valueOf base values, rest)

/-- Up to `room` numbers with dots between them, to the end of the text. -/
def readLooseParts : (room : Nat) → List Char → Option (List Nat)
  | 0, _ => none
  | room + 1, cs => do
    match ← readLoose cs with
    | (n, []) => some [n]
    | (n, '.' :: rest) => (n :: ·) <$> readLooseParts room rest
    | _ => none

/-- The number of four bytes that up to four numbers spell: all but the last are single bytes, and
the last fills the rest. -/
def packLoose : (room : Nat) → List Nat → Option Nat
  | _, [] => none
  | room, [n] => if n < Nat.pow 256 room then some n else none
  | room, n :: rest =>
    if n < 256 then (n * Nat.pow 256 (room - 1) + ·) <$> packLoose (room - 1) rest else none

/-- The IPv4 address of a numeric host name. -/
def ofHost? (host : String) : Option IpAddress :=
  match ofString? host with
  | some ip => some ip
  | none => do
    let n ← packLoose 4 (← readLooseParts 4 host.toList)
    return .v4 (n / 16777216).toUInt8 (n / 65536).toUInt8 (n / 256).toUInt8 n.toUInt8

end IpAddress

namespace Identity

/-- The identity of a process that starts now at a host that may be numeric. -/
def starting (host : String) (port : UInt16) (now : UInt64) : Except HostFault Identity :=
  make host (IpAddress.ofHost? host) port now

end Identity

/-- The name that a machine gives itself, if it is not blank. -/
def hostNameOf (text : String) : Option String :=
  let name := Text.trim text
  if name = "" then none else some name

end ClusterMember
