import ClusterMember.Net.Address

/-!
# Addresses that can be bound

A machine without addresses of its own still binds some addresses: any IPv4 address, since none is
known there to belong to another machine, and the IPv6 address that stands for all.  Whatever else
it is asked for, it says why it cannot.
-/

namespace ClusterMember

namespace IpAddress

/-- Whether an address is all zeros, and so stands for all addresses of a machine. -/
def isUnspecified : IpAddress → Bool
  | .v4 a b c d => a = 0 && b = 0 && c = 0 && d = 0
  | .v6 groups _ => groups.all (· = 0)

/-- Whether an IPv6 address maps an IPv4 address. -/
def isMapped : IpAddress → Bool
  | .v4 .. => false
  | .v6 groups _ => groups.take 6 = [0, 0, 0, 0, 0, 0xFFFF]

/-- Whether an IPv6 address names a group of machines. -/
def isGroup : IpAddress → Bool
  | .v4 .. => false
  | .v6 groups _ => groups.head?.any fun first => first &&& 0xFF00 = 0xFF00

/-- Whether an IPv6 address holds on one link only. -/
def isLinkLocal : IpAddress → Bool
  | .v4 .. => false
  | .v6 groups _ => groups.head?.any fun first => first &&& 0xFFC0 = 0xFE80

end IpAddress

/-- Why an address cannot be bound. -/
inductive BindFault where
  | improper
  /-- Its zone is none of the machine. -/
  | noZone
  | notOwn
  deriving DecidableEq, Repr

/-- The wording of a fault. -/
def BindFault.message : BindFault → String
  | .improper => "Invalid argument (os error 22)"
  | .noZone => "No such device (os error 19)"
  | .notOwn => "Cannot assign requested address (os error 99)"

namespace SocketAddress

/-- Why a machine without addresses, whose only zone has the number one, cannot bind an address. -/
def bindFault? (address : SocketAddress) : Option BindFault :=
  match address.ip with
  | .v4 .. => none
  | ip =>
    if ip.isUnspecified ∨ ip.isMapped then none
    else if ip.isGroup ∨ (ip.isLinkLocal ∧ address.zone = 0) then some .improper
    else if ip.isLinkLocal ∧ address.zone ≠ 1 then some .noZone
    else some .notOwn

/-- What a machine without addresses binds an address to, or why it cannot. -/
def bind (address : SocketAddress) : Except String SocketAddress :=
  match address.bindFault? with
  | none => .ok address
  | some fault => .error fault.message

end SocketAddress
end ClusterMember
