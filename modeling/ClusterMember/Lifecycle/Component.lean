import ClusterMember.Error
import ClusterMember.Lifecycle.Control

/-!
# Components

A component of a node is told to register its services, to initialize itself and to stop.  Each of
these ends well, in an error or in a panic, and while it initializes or stops, a component may ask
the node to stop or to abort.
-/

namespace ClusterMember

/-- What a component may ask of its node. -/
inductive ControlRequest where
  | stop (why : String)
  | abort (why : String)
  deriving DecidableEq

namespace Control

/-- Do what a component asks. -/
def serve (control : Control) : ControlRequest → Control
  | .stop why => (control.requestStop why).1
  | .abort why => (control.abort why).1

/-- Do what components ask, one after the other. -/
def serveAll (control : Control) (requests : List ControlRequest) : Control :=
  requests.foldl serve control

end Control

/-- How a step of a component, or a phase of a node, ends. -/
inductive StepEnd where
  | done
  | failed (error : Error)
  /-- In a panic: its message, if it has one. -/
  | panicked (message : Option String)
  deriving DecidableEq

/-- A component that is added to a node. -/
structure Component where
  name : String
  /-- Whether it has anything to do when services are registered. -/
  offers : Bool := true
  services : List String := []
  /-- How registering ends, when all its services could be registered. -/
  registering : StepEnd := .done
  initRequests : List ControlRequest := []
  initializing : StepEnd := .done
  stopRequests : List ControlRequest := []
  stopping : StepEnd := .done
  deriving DecidableEq

end ClusterMember
