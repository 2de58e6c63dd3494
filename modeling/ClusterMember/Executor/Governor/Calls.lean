import ClusterMember.Executor.Governor

/-!
# Calls of a governor

A governor is asked to register pools and to stop all of them, in any order and any number of times.
Each call is a row of steps.  A history goes with the governor and keeps the calls that were
accepted.
-/

namespace ClusterMember

/-- What is asked of a governor. -/
inductive GovernorCall where
  | register (descriptor : PoolDescriptor)
  | registerScheduled (core : Nat) (daemon : Bool)
  /-- Stop all pools, whose bodies have run for a time. -/
  | stop (elapsed : Duration)

namespace GovernorCall

/-- Core threads of the normal pool that a call is about. -/
def normalCore : GovernorCall → Nat
  | .register descriptor => descriptor.core
  | _ => 0

/-- How many tasks the normal pool that a call is about runs at once. -/
def normalMax : GovernorCall → Nat
  | .register descriptor => descriptor.max
  | _ => 0

/-- Core threads of the scheduled pool that a call is about. -/
def scheduledCore : GovernorCall → Nat
  | .registerScheduled core _ => core
  | _ => 0

/-- The permits that the pool of a call is built with. -/
def permits : GovernorCall → Nat
  | .register descriptor => descriptor.capacity
  | .registerScheduled core _ => core
  | .stop _ => 0

/-- What is looked at before a call is accepted. -/
def checks : GovernorCall → List (Governor → Option RegistrationFault)
  | .register descriptor => Governor.poolChecks descriptor
  | .registerScheduled core _ => Governor.scheduledChecks core
  | .stop _ => []

/-- What a call changes once it is accepted. -/
def changes : GovernorCall → List (Governor → Governor)
  | .register descriptor => [Governor.enterPool descriptor, Governor.countPool descriptor]
  | .registerScheduled core daemon =>
    [Governor.enterScheduled core daemon, Governor.countScheduled core]
  | .stop elapsed => [fun governor => governor.stop elapsed]

/-- The steps of a call. -/
def steps : GovernorCall → List RegistrationStep
  | .register descriptor => Governor.poolSteps descriptor
  | .registerScheduled core daemon => Governor.scheduledSteps core daemon
  | .stop elapsed => [.change fun governor => governor.stop elapsed]

end GovernorCall

/-- The answer to a call, and the governor after it. -/
def Governor.perform (governor : Governor) (call : GovernorCall) :
    Except RegistrationFault Unit × Governor :=
  RegistrationStep.takeAll call.steps governor

/-- A governor with the calls that it has accepted. -/
structure GovernorHistory where
  governor : Governor
  /-- The accepted calls, oldest first. -/
  accepted : List GovernorCall

namespace GovernorHistory

/-- A new governor. -/
def start (caps : ResourceCaps) : GovernorHistory := ⟨.empty caps, []⟩

/-- One more call. -/
def call (history : GovernorHistory) (call : GovernorCall) : GovernorHistory :=
  match history.governor.perform call with
  | (.ok (), governor) => ⟨governor, history.accepted ++ [call]⟩
  | (.error _, governor) => { history with governor }

/-- A new governor after a row of calls. -/
def run (caps : ResourceCaps) (calls : List GovernorCall) : GovernorHistory :=
  calls.foldl GovernorHistory.call (start caps)

end GovernorHistory
end ClusterMember
