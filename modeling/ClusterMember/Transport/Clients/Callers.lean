import ClusterMember.Transport.Clients

/-!
# Callers at the clients of a node

Many callers ask the clients of a node for a client at the same time, and someone closes them.
Everyone goes on in small steps, and the steps mix in any way.  A caller that has seen that the
clients are not closed goes on, whatever happens in between.
-/

namespace ClusterMember

/-- Where a caller for a client is. -/
inductive AskerPhase where
  /-- It has to see whether the clients are closed. -/
  | begun
  /-- The clients were not closed, and it has to look for the set of its endpoint. -/
  | admitted
  /-- No set was kept, and it has to build one unless there is one by now. -/
  | missing
  /-- It has the set at a place, and has to take the next client. -/
  | holding (set : Nat)
  /-- It is done, with a client or, from clients that are closed, with a refusal. -/
  | returned (place : Option Nat)
  deriving DecidableEq

/-- A caller for a client. -/
structure Asker where
  /-- The endpoint that the client is for. -/
  endpoint : Endpoint
  /-- Where it is. -/
  phase : AskerPhase
  deriving DecidableEq

/-- Where the closing of clients is. -/
inductive ClosingPhase where
  /-- It has to see to it that nothing is built any more. -/
  | begun
  /-- It has to shut down every kept client. -/
  | marked
  /-- It has to forget every kept set. -/
  | shut
  /-- It is done. -/
  | returned
  deriving DecidableEq, Repr

/-- The clients of a node with all who are at them. -/
structure ClientCrowd where
  /-- The clients. -/
  clients : Clients
  /-- The callers. -/
  askers : List Asker
  /-- The closing. -/
  closing : ClosingPhase
  deriving DecidableEq

/-- Who goes on by a step. -/
inductive ClientStep where
  /-- A caller. -/
  | asker (number : Nat)
  /-- The one who closes. -/
  | closing
  deriving DecidableEq, Repr

namespace ClientCrowd

/-- Callers for clients of some endpoints gather, and someone who closes. -/
def gather (clients : Clients) (endpoints : List Endpoint) : ClientCrowd where
  clients := clients
  askers := endpoints.map (⟨·, .begun⟩)
  closing := .begun

/-- The next step of a caller, with the clients after it; none when it is done. -/
def stepAsker (clients : Clients) (asker : Asker) : Option (Clients × AskerPhase) :=
  match asker.phase with
  | .begun => some (clients, if clients.isClosed then .returned none else .admitted)
  | .admitted => some (clients, (clients.place? asker.endpoint).elim .missing .holding)
  | .missing =>
    match clients.setFor asker.endpoint with
    | (clients, set) => some (clients, .holding set)
  | .holding set =>
    match clients.takeFrom set with
    | none => some (clients, .returned none)
    | some (clients, place) => some (clients, .returned (some place))
  | .returned _ => none

/-- The next step of the closing, with the clients after it; none when it is done. -/
def stepClosing (clients : Clients) : ClosingPhase → Option (Clients × ClosingPhase)
  | .begun => some (clients.markClosed, .marked)
  | .marked => some (clients.shutKept, .shut)
  | .shut => some (clients.forgetAll, .returned)
  | .returned => none

/-- A crowd after a step; none when nobody can go on by it. -/
def step (crowd : ClientCrowd) : ClientStep → Option ClientCrowd
  | .asker number => do
    let asker ← crowd.askers[number]?
    let (clients, phase) ← stepAsker crowd.clients asker
    return { crowd with clients, askers := crowd.askers.set number { asker with phase } }
  | .closing => do
    let (clients, closing) ← stepClosing crowd.clients crowd.closing
    return { crowd with clients, closing }

/-- A crowd after a row of steps, of which those that nobody can take change nothing. -/
def run (crowd : ClientCrowd) (steps : List ClientStep) : ClientCrowd :=
  steps.foldl (fun crowd next => (crowd.step next).getD crowd) crowd

/-- Whether all callers and the closing are done. -/
def isOver (crowd : ClientCrowd) : Bool :=
  crowd.closing = .returned ∧ crowd.askers.all fun asker =>
    match asker.phase with
    | .returned _ => true
    | _ => false

end ClientCrowd
end ClusterMember
