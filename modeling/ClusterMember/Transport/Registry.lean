import ClusterMember.Error
import ClusterMember.Log
import ClusterMember.Transport.Path

/-!
# The registry of services

Services are registered under their names, once and for ever, and each is mounted at the path of its
name.
-/

namespace ClusterMember

/-- Services of a type under their names, in the order in which they were registered. -/
structure Registry (σ : Type) where
  entries : List (String × σ)

namespace Registry

variable {σ : Type}

/-- A registry without services. -/
def empty : Registry σ := ⟨[]⟩

/-- The service under a name. -/
def find? (registry : Registry σ) (name : String) : Option σ :=
  List.lookup name registry.entries

/-- Whether a name is taken. -/
def has (registry : Registry σ) (name : String) : Bool :=
  (registry.find? name).isSome

/-- The refusal of a name that is taken. -/
def duplicateFault (name : String) : Error := .duplicateRegistration "rpc service" name

/-- Register a service under a name, unless the name is taken. -/
def register (registry : Registry σ) (name : String) (service : σ) :
    Except Error (Registry σ) :=
  if registry.has name then .error (duplicateFault name)
  else .ok ⟨registry.entries ++ [(name, service)]⟩

/-- What the log says about an attempt to register under a name. -/
def logOf (registry : Registry σ) (name : String) : LogLine :=
  if registry.has name then ⟨.error, "RPC service " ++ name ++ " is already registered"⟩
  else ⟨.info, "Registered RPC service: " ++ name⟩

/-- The names that are taken, in order. -/
def names (registry : Registry σ) : List String :=
  (registry.entries.map (·.1)).mergeSort fun a b => decide (a ≤ b)

/-- How many names are taken. -/
def count (registry : Registry σ) : Nat := registry.entries.length

/-- Whether a name holds a star.  In a path a star stands for any rest, so that no path below such a
name could be told from it, and the services cannot be mounted. -/
def hasStar (registry : Registry σ) : Bool :=
  registry.entries.any fun entry => entry.1.any (· = '*')

/-- What mounting services panics with when a name holds a star. -/
def starMessage : String := "Invalid route: nested routes cannot contain wildcards (*)"

/-- The services with the paths that they are mounted at. -/
def mounts (registry : Registry σ) : List (String × σ) :=
  registry.entries.map fun entry => (Transport.servicePath entry.1, entry.2)

end Registry
end ClusterMember
