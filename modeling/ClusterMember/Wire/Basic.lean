import ClusterMember.Net.Address
import ClusterMember.Text.Utf8
import ClusterMember.Transport.Fault

/-!
# The binary format of messages

Numbers have a fixed width and start with their lowest byte; a text is its length in bytes as a
number of 64 bits, and then its bytes; an optional value starts with the byte 0 or 1; and an address
starts with a number of 32 bits that tells its kind.  What follows a message is not looked at.
-/

namespace ClusterMember
namespace Wire

/-- Why bytes are no message. -/
inductive Fault where
  | cutField
  | cutText
  | badText (cause : Utf8.Fault)
  | badTag (tag : Nat)
  | badAddress (kind : Nat)
  | refused (message : String)
  deriving DecidableEq

namespace Fault

/-- The wording of a fault. -/
def message : Fault → String
  | .cutField => "io error: unexpected end of file"
  | .cutText => "io error: "
  | .badText cause => "string is not valid utf8: " ++ cause.message
  | .badTag tag => "tag for enum is not valid, found " ++ Decimal.write tag
  | .badAddress kind =>
    "invalid value: integer `" ++ Decimal.write kind ++ "`, expected `V4` or `V6`"
  | .refused message => message

/-- A fault as one of the transport. -/
def transport (fault : Fault) : TransportFault :=
  .codec fault.message

end Fault

/-- Takes a value from the front of the bytes. -/
abbrev Reader (α : Type) := List UInt8 → Except Fault (α × List UInt8)

namespace Reader

/-- Take a value and go on with it. -/
def andThen {α β : Type} (first : Reader α) (next : α → Reader β) : Reader β := fun bytes =>
  match first bytes with
  | .error fault => .error fault
  | .ok (value, rest) => next value rest

/-- Take nothing. -/
def done {α : Type} (value : α) : Reader α := fun bytes => .ok (value, bytes)

/-- Fail. -/
def fail {α : Type} (fault : Fault) : Reader α := fun _ => .error fault

end Reader

/-- The lowest `width` bytes of a number, lowest first. -/
def number : (width : Nat) → Nat → List UInt8
  | 0, _ => []
  | width + 1, n => n.toUInt8 :: number width (n / 256)

/-- The number that bytes spell, lowest first. -/
def valueOf : List UInt8 → Nat
  | [] => 0
  | b :: rest => b.toNat + 256 * valueOf rest

/-- Take a number of bytes. -/
def readBytes (width : Nat) (fault : Fault) : Reader (List UInt8) := fun bytes =>
  if bytes.length < width then .error fault else .ok (bytes.take width, bytes.drop width)

/-- Take a number. -/
def readNumber (width : Nat) : Reader Nat :=
  (readBytes width .cutField).andThen fun bytes => .done (valueOf bytes)

/-- The form of a text. -/
def text (s : String) : List UInt8 :=
  let bytes := Utf8.encode s
  number 8 bytes.length ++ bytes

/-- Take a text. -/
def readText : Reader String :=
  (readNumber 8).andThen fun length =>
    (readBytes length .cutText).andThen fun bytes =>
      match Utf8.decode bytes with
      | .ok s => .done s
      | .error cause => .fail (.badText cause)

/-- The form of a value that may be absent. -/
def optional {α : Type} (form : α → List UInt8) : Option α → List UInt8
  | none => [0]
  | some value => 1 :: form value

/-- Take a value that may be absent. -/
def readOptional {α : Type} (read : Reader α) : Reader (Option α) :=
  (readNumber 1).andThen fun tag =>
    match tag with
    | 0 => .done none
    | 1 => read.andThen fun value => .done (some value)
    | _ => .fail (.badTag tag)

/-- The bytes of a group, highest first. -/
def groupBytes (group : UInt16) : List UInt8 :=
  [(group >>> 8).toUInt8, group.toUInt8]

/-- The form of an address. -/
def address : IpAddress → List UInt8
  | .v4 a b c d => number 4 0 ++ [a, b, c, d]
  | .v6 groups _ => number 4 1 ++ groups.flatMap groupBytes

/-- The groups of a row of bytes. -/
def groupsOf : List UInt8 → List UInt16
  | high :: low :: rest => IpAddress.groupOf high low :: groupsOf rest
  | _ => []

/-- Take the bytes of an address of four. -/
def readV4 : Reader IpAddress :=
  (readBytes 4 .cutField).andThen fun bytes =>
    match bytes with
    | [a, b, c, d] => .done (.v4 a b c d)
    | _ => .fail .cutField

/-- Take the bytes of an address of sixteen. -/
def readV6 : Reader IpAddress :=
  (readBytes 16 .cutField).andThen fun bytes =>
    if h : (groupsOf bytes).length = 8 then .done (.v6 (groupsOf bytes) h) else .fail .cutField

/-- Take an address. -/
def readAddress : Reader IpAddress :=
  (readNumber 4).andThen fun kind =>
    match kind with
    | 0 => readV4
    | 1 => readV6
    | _ => .fail (.badAddress kind)

/-- The message at the front of the bytes. -/
def decode {α : Type} (read : Reader α) (bytes : List UInt8) : Except Fault α :=
  match read bytes with
  | .error fault => .error fault
  | .ok (value, _) => .ok value

end Wire
end ClusterMember
