import ClusterMember.Executor.Session
import ClusterMember.Form.Value
import ClusterMember.Lifecycle.Component

/-!
# Work in forms

The forms of bodies of tasks, which answer documents, and of components.
-/

namespace ClusterMember
namespace Form

/-- The body of a task: it fails, panics, or answers a value with the thread that it ran on and the
given entries.  A failure without messages has one that is empty. -/
def body (form : Document) (more : List (String × Document)) : Reading (Body Document) := do
  let gate ← text? form "gate"
  if (given? form "error").isSome then
    let chain ← texts form "error"
    return { gate, run := fun _ => .error (if chain.isEmpty then [""] else chain) }
  if (given? form "panic").isSome then
    let message ← text form "panic"
    let payload ← text? form "payload"
    return { gate, run := fun _ => .panic (if payload = some "other" then none else some message) }
  let value := (given? form "value").getD .null
  return {
    gate
    run := fun worker =>
      .value (.table ([("value", value), ("thread", .str worker.thread)] ++ more)) }

/-- How stopping ends, described by a word and a text: well, or in a panic. -/
def stopEnd (word : Option String) (text : String) : StepEnd :=
  match word with
  | some "panic" => .panicked (some text)
  | some "panic_static" => .panicked (some text)
  | some "panic_other" => .panicked none
  | _ => .done

/-- How registering ends, described by a word and a text: also in an error. -/
def registerEnd (word : Option String) (text : String) : StepEnd :=
  if word = some "error" then .failed (.configuration text) else stopEnd word text

/-- How initializing ends, described by a word and a text: also in an unforeseen error. -/
def initEnd (word : Option String) (text : String) : StepEnd :=
  if word = some "fault" then .failed (.fault ["component fault", text]) else registerEnd word text

/-- What a component asks for that is described by a word and a text. -/
def requests (word : Option String) (text : String) : List ControlRequest :=
  match word with
  | some "stop" => [.stop text]
  | some "abort" => [.abort text]
  | _ => []

/-- A component. -/
def component (form : Document) : Reading Component := do
  let name ← text form "name"
  let rpc ← text? form "rpc"
  let init ← text? form "init"
  let stop ← text? form "stop"
  let text ← textOr form "text" ""
  let offers := !(← flagged form "plain")
  return {
    name, offers
    services := if offers ∧ rpc = some "register" then [text] else []
    registering := if offers then registerEnd rpc text else .done
    initRequests := requests init text
    initializing := initEnd init text
    stopping := stopEnd stop text }

end Form
end ClusterMember
