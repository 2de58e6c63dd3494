import ClusterMember.Identity.Basic
import Std.Data.HashSet

/-!
# Sets of identities

Identities are put into a set one after the other; one that equals a member is not put in again.
-/

namespace ClusterMember
namespace Identity

/-- Put identities into a set, one after the other: the set, and for each identity whether it is
new. -/
def insertAll : List Identity → Std.HashSet Identity → Std.HashSet Identity × List Bool
  | [], set => (set, [])
  | identity :: rest, set =>
    match insertAll rest (set.insert identity) with
    | (final, news) => (final, (!set.contains identity) :: news)

end Identity
end ClusterMember
