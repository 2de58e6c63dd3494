import ClusterMember.Lifecycle.Component

/-!
# What comes of requests

However many components ask for a stop or an abort, and in whatever order, all that counts is
whether anything was asked, whether an abort was among it, and why the first one was.
-/

namespace ClusterMember

namespace ControlRequest

/-- The reason that a request gives for an abort. -/
def reason? : ControlRequest → Option String
  | .stop _ => none
  | .abort why => some why

/-- The reasons that requests give for an abort, in order. -/
def reasons (requests : List ControlRequest) : List String := requests.filterMap reason?

@[simp]
theorem reasons_nil : reasons [] = [] := rfl

@[simp]
theorem reasons_stop (why : String) (rest : List ControlRequest) :
    reasons (.stop why :: rest) = reasons rest := rfl

@[simp]
theorem reasons_abort (why : String) (rest : List ControlRequest) :
    reasons (.abort why :: rest) = why :: reasons rest := rfl

end ControlRequest

namespace Control

@[simp]
theorem serveAll_nil (control : Control) : control.serveAll [] = control := rfl

@[simp]
theorem serveAll_cons (control : Control) (request : ControlRequest)
    (rest : List ControlRequest) :
    control.serveAll (request :: rest) = (control.serve request).serveAll rest := rfl

theorem serveAll_append (control : Control) (first second : List ControlRequest) :
    control.serveAll (first ++ second) = (control.serveAll first).serveAll second :=
  List.foldl_append

/-- What requests make of the flags of a node. -/
theorem serveAll_flags (control : Control) (requests : List ControlRequest) :
    (control.serveAll requests).flags =
      { control.flags with
        stopped := control.flags.stopped || !requests.isEmpty
        aborted := control.flags.aborted || !(ControlRequest.reasons requests).isEmpty
        reason :=
          if control.flags.aborted then control.flags.reason
          else (ControlRequest.reasons requests).head?.or control.flags.reason } := by
  induction requests generalizing control with
  | nil => simp
  | cons request rest induction =>
      rw [serveAll_cons, induction]
      -- The first abort leaves its reason; after it, none does.
      by_cases already : control.flags.aborted = true
      · cases request with
        | stop why => simp [serve, requestStop, set, wake, Flags.set, already]
        | abort why => simp [serve, abort, wake, Flags.abort, already]
      · cases request with
        | stop why => simp [serve, requestStop, set, wake, Flags.set, already]
        | abort why => simp [serve, abort, wake, Flags.abort, already]

end Control
end ClusterMember
