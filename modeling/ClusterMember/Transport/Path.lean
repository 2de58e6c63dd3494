import ClusterMember.Transport.Fault

/-!
# Paths of remote operations

A service is mounted at a path of its own, and each of its methods lies below that path.
-/

namespace ClusterMember
namespace Transport

/-- Where all services are mounted. -/
def root : String := "/rpc"

/-- The path of a service. -/
def servicePath (service : String) : String :=
  root ++ "/" ++ service

/-- The path of a method. -/
def rpcPath (service method : String) : String :=
  servicePath service ++ "/" ++ method

/-- A service that stubs can be built for. -/
structure ServiceDescriptor where
  service : String
  methods : List String
  deriving DecidableEq

/-- The services that stubs can be built for. -/
def knownServices : List ServiceDescriptor :=
  [⟨"heartbeat", ["report"]⟩]

/-- Find a service that stubs can be built for. -/
def lookup (service : String) : Except TransportFault ServiceDescriptor :=
  match knownServices.find? (·.service = service) with
  | some descriptor => .ok descriptor
  | none => .error (.unknownService service)

end Transport
end ClusterMember
