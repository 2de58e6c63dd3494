import ClusterMember.Text.Decimal
import ClusterMember.Text.Quoted

/-!
# Internet addresses

IPv4 and IPv6 addresses and the socket addresses made of them, with their usual texts.  An IPv6
address prints its longest run of two or more zero groups as `::`, the first of runs that are
equally long, and an address that maps an IPv4 address shows that address.
-/

namespace ClusterMember

/-- An address of a host. -/
inductive IpAddress where
  /-- Four bytes. -/
  | v4 (a b c d : UInt8)
  | v6 (groups : List UInt16) (length_eq : groups.length = 8)
  deriving DecidableEq

namespace IpAddress

/-- The dotted text of four bytes. -/
def dotted (a b c d : UInt8) : List Char :=
  Decimal.digits a.toNat ++ '.' :: (Decimal.digits b.toNat ++ '.' :: (Decimal.digits c.toNat ++
    '.' :: Decimal.digits d.toNat))

/-- Groups joined by colons. -/
def joined (groups : List UInt16) : List Char :=
  List.intercalate [':'] (groups.map fun g => Text.hexDigits g.toNat)

/-- Number of zero groups at the front. -/
def zeroRun : List UInt16 → Nat
  | [] => 0
  | g :: rest => if g = 0 then zeroRun rest + 1 else 0

/-- Start and length of the first longest run of zero groups. -/
def longestRun : List UInt16 → Nat × Nat
  | [] => (0, 0)
  | g :: rest =>
    let later := longestRun rest
    let here := zeroRun (g :: rest)
    if later.2 ≤ here then (0, here) else (later.1 + 1, later.2)

/-- The text of eight groups. -/
def groupsText (groups : List UInt16) : List Char :=
  match groups with
  | [0, 0, 0, 0, 0, 0xFFFF, hi, lo] =>
    [':', ':', 'f', 'f', 'f', 'f', ':'] ++ dotted (hi >>> 8).toUInt8 hi.toUInt8
      (lo >>> 8).toUInt8 lo.toUInt8
  | _ =>
    let run := longestRun groups
    if 2 ≤ run.2 then
      joined (groups.take run.1) ++ [':', ':'] ++ joined (groups.drop (run.1 + run.2))
    else joined groups

/-- The text of an address. -/
def text : IpAddress → String
  | .v4 a b c d => String.ofList (dotted a b c d)
  | .v6 groups _ => String.ofList (groupsText groups)

/-- The number that digits spell in a base. -/
def valueOf (base : Nat) (values : List Nat) : Nat :=
  values.foldl (fun acc d => acc * base + d) 0

/-- Split off the longest row of digits and give their values. -/
def spanDigits (digit? : Char → Option Nat) : List Char → List Nat × List Char
  | [] => ([], [])
  | c :: rest =>
    match digit? c with
    | none => ([], c :: rest)
    | some d => let (ds, rest) := spanDigits digit? rest; (d :: ds, rest)

/-- One byte of a dotted address: at most three digits, and no zero in front of others. -/
def readByte (cs : List Char) : Option (UInt8 × List Char) :=
  let (ds, rest) := spanDigits Decimal.digitValue? cs
  let n := valueOf 10 ds
  if ds = [] ∨ 3 < ds.length ∨ (ds.head? = some 0 ∧ 1 < ds.length) ∨ 255 < n then none
  else some (n.toUInt8, rest)

/-- Step over an expected character. -/
def expect (c : Char) : List Char → Option (List Char)
  | [] => none
  | d :: rest => if d = c then some rest else none

/-- Four bytes with dots between them. -/
def readDotted (cs : List Char) : Option ((UInt8 × UInt8 × UInt8 × UInt8) × List Char) := do
  let (a, cs) ← readByte cs
  let (b, cs) ← readByte (← expect '.' cs)
  let (c, cs) ← readByte (← expect '.' cs)
  let (d, cs) ← readByte (← expect '.' cs)
  return ((a, b, c, d), cs)

/-- One group: one to four hexadecimal digits. -/
def readGroup (cs : List Char) : Option (UInt16 × List Char) :=
  let (ds, rest) := spanDigits Text.hexValue? cs
  if ds = [] ∨ 4 < ds.length then none else some ((valueOf 16 ds).toUInt16, rest)

/-- Two bytes as a group. -/
def groupOf (hi lo : UInt8) : UInt16 :=
  hi.toUInt16 <<< 8 ||| lo.toUInt16

/-- Read up to `room` groups with colons between them.  A dotted address may stand for the last
two; the flag says that it did. -/
def readGroups : (room : Nat) → (first : Bool) → List Char → List UInt16 × Bool × List Char
  | 0, _, cs => ([], false, cs)
  | room + 1, first, cs =>
    match if first then some cs else expect ':' cs with
    | none => ([], false, cs)
    | some body =>
      match if room = 0 then none else readDotted body with
      | some ((a, b, c, d), rest) => ([groupOf a b, groupOf c d], true, rest)
      | none =>
        match readGroup body with
        | none => ([], false, cs)
        | some (g, rest) =>
          let (gs, isDotted, rest) := readGroups room false rest
          (g :: gs, isDotted, rest)

/-- Eight groups, of which one run of zeros may be left out behind `::`. -/
def readSixteen (cs : List Char) : Option (List UInt16 × List Char) :=
  let (front, isDotted, rest) := readGroups 8 true cs
  if front.length = 8 then some (front, rest)
  else if isDotted then none
  else
    match rest with
    | ':' :: ':' :: rest =>
      let (back, _, rest) := readGroups (7 - front.length) true rest
      some (front ++ List.replicate (8 - front.length - back.length) 0 ++ back, rest)
    | _ => none

/-- The IPv6 address at the front of a text. -/
def readV6 (cs : List Char) : Option (IpAddress × List Char) :=
  match readSixteen cs with
  | none => none
  | some (groups, rest) => if h : groups.length = 8 then some (.v6 groups h, rest) else none

/-- The address that a whole text spells. -/
def read? (cs : List Char) : Option IpAddress :=
  match readDotted cs with
  | some ((a, b, c, d), []) => some (.v4 a b c d)
  | _ =>
    match readV6 cs with
    | some (address, []) => some address
    | _ => none

/-- The address that a text spells. -/
def ofString? (s : String) : Option IpAddress :=
  read? s.toList

end IpAddress

/-- The address of an endpoint. -/
structure SocketAddress where
  ip : IpAddress
  /-- The zone of a link-local IPv6 address, zero for none. -/
  zone : Nat := 0
  port : UInt16
  deriving DecidableEq

namespace SocketAddress

/-- The text of an endpoint: an IPv6 address stands in brackets. -/
def text (address : SocketAddress) : String :=
  let port := Decimal.write address.port.toNat
  match address.ip with
  | .v4 .. => address.ip.text ++ ":" ++ port
  | .v6 .. =>
    let zone := if address.zone = 0 then "" else "%" ++ Decimal.write address.zone
    "[" ++ address.ip.text ++ zone ++ "]:" ++ port

/-- A decimal number of any length that is at most `largest`. -/
def readNumber (largest : Nat) (cs : List Char) : Option (Nat × List Char) :=
  let (ds, rest) := IpAddress.spanDigits Decimal.digitValue? cs
  let n := IpAddress.valueOf 10 ds
  if ds = [] ∨ largest < n then none else some (n, rest)

/-- A colon and a port, up to the end. -/
def readPort (cs : List Char) : Option UInt16 := do
  match ← readNumber word16Max (← IpAddress.expect ':' cs) with
  | (port, []) => some port.toUInt16
  | _ => none

/-- A zone behind a percent sign, zero when there is none. -/
def readZone (cs : List Char) : Nat × List Char :=
  match IpAddress.expect '%' cs >>= readNumber word32Max with
  | some (zone, rest) => (zone, rest)
  | none => (0, cs)

/-- The endpoint that a text spells. -/
def ofString? (s : String) : Option SocketAddress :=
  let cs := s.toList
  match IpAddress.readDotted cs with
  | some ((a, b, c, d), rest) => (readPort rest).map fun port => { ip := .v4 a b c d, port }
  | none => do
    let (ip, rest) ← IpAddress.readV6 (← IpAddress.expect '[' cs)
    let (zone, rest) := readZone rest
    let port ← readPort (← IpAddress.expect ']' rest)
    return { ip, zone, port }

end SocketAddress
end ClusterMember
