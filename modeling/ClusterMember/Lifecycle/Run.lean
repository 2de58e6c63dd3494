import ClusterMember.Lifecycle.Startup
import ClusterMember.Lifecycle.Teardown

/-!
# The run of a node

A node starts, idles until it is to stop, and is torn down.  A failed start counts as an abort.  The
run of a node that was aborted ends in an error.
-/

namespace ClusterMember

/-- How the run of a node ends. -/
inductive RunEnd where
  | done
  | failed (error : Error)
  | panicked (message : Option String)
  /-- It does not: the node idles. -/
  | idling
  deriving DecidableEq

namespace Node

/-- The text of a panic. -/
def panicText (message : Option String) : String :=
  message.getD "non-string panic payload"

/-- What a failed start means: the reason for the abort, and the error of the run. -/
def startFailure? : StepEnd → Option (String × Error)
  | .done => none
  | .failed error => some ("startup failed: " ++ error.text, error)
  | .panicked message =>
    let reason := "startup panicked: " ++ panicText message
    some (reason, .fault [reason])

/-- Tear down a node whose run is to end in a certain way. -/
def endRun (node : Node) (ending : Node → RunEnd) : Node × RunEnd :=
  match node.shutdown with
  | (node, .panicked message) => (node, .panicked message)
  | (node, _) => (node, ending node)

/-- How the run of a node that has come up ends. -/
def outcome (node : Node) : RunEnd :=
  match node.control.flags.reason with
  | some reason =>
    if node.control.flags.aborted then .failed (.fault ["node aborted: " ++ reason]) else .done
  | none => .done

/-- Run a node: what components ask for while it idles is given. -/
def run (node : Node) (around : Surroundings) (requests : List ControlRequest) : Node × RunEnd :=
  match node.start around with
  | (node, ending) =>
    match startFailure? ending with
    | some (reason, error) =>
      { node with control := (node.control.abort reason).1 }.endRun fun _ => .failed error
    | none =>
      let node := node.serve requests
      if node.control.flags.stopped then node.endRun outcome else (node, .idling)

end Node
end ClusterMember
