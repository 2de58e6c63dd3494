import ClusterMember.Transport.Registry

/-!
# The course of a registry

Every service that was offered to a registry under a name, with what came of each offer.
-/

namespace ClusterMember

/-- A registry with its answers to the offers of services. -/
structure RegistryCourse (σ : Type) where
  registry : Registry σ
  /-- The answers, oldest first. -/
  answers : List (Except Error Unit)

namespace RegistryCourse

variable {σ : Type}

/-- Offer a service under a name.  An offer that is refused leaves the registry as it is. -/
def offer (course : RegistryCourse σ) (call : String × σ) : RegistryCourse σ :=
  match course.registry.register call.1 call.2 with
  | .error error => { course with answers := course.answers ++ [.error error] }
  | .ok registry => ⟨registry, course.answers ++ [.ok ()]⟩

/-- A new registry after a row of offers. -/
def run (calls : List (String × σ)) : RegistryCourse σ := calls.foldl offer ⟨.empty, []⟩

end RegistryCourse
end ClusterMember
