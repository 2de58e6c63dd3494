import ClusterMember.Config.Basic
import ClusterMember.Identity.Text
import ClusterMember.Log

/-!
# Where the master is

A slave finds its master at the address that is configured, which can be replaced and cleared.  A
configured host that is no host counts as none.
-/

namespace ClusterMember
namespace Heartbeat

/-- A known master, or none. -/
structure Resolver where
  master : Option Identity

namespace Resolver

/-- The master that a configuration names, with an unknown start time. -/
def ofConfig (config : HeartbeatConfig) : Resolver × List LogLine :=
  match config.masterHost with
  | none => (⟨none⟩, [])
  | some host =>
    match Identity.make host none config.masterPort.toUInt16 0 with
    | .ok master => (⟨some master⟩, [])
    | .error fault =>
      (⟨none⟩, [⟨.error, "Ignoring configured master: " ++ (IdentityFault.host fault).error.text⟩])

/-- Replace the master. -/
def set (_ : Resolver) (master : Identity) : Resolver := ⟨some master⟩

/-- Forget the master. -/
def clear (_ : Resolver) : Resolver := ⟨none⟩

end Resolver
end Heartbeat
end ClusterMember
