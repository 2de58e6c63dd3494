import ClusterMember.Transport.Clients

/-!
# Look-ups of stubs

Stubs are looked up for endpoints in any mixture, and nothing else is done with the clients.  Each
look-up takes a channel, also one whose service is not known.
-/

namespace ClusterMember

/-- A look-up of a stub. -/
structure Lookup where
  service : String
  style : CallStyle
  endpoint : Endpoint
  /-- The runtime of the thread that looks the stub up. -/
  runtime : RuntimeKind
  deriving DecidableEq

namespace Clients

/-- Clients after a look-up, and what comes of it. -/
def lookUp (clients : Clients) (lookup : Lookup) :
    Clients × Except TransportFault (Stub ChannelRef) :=
  clients.getStub lookup.service lookup.style lookup.endpoint.1 lookup.endpoint.2 lookup.runtime

/-- Clients after a row of look-ups. -/
def lookUpAll (clients : Clients) (lookups : List Lookup) : Clients :=
  lookups.foldl (fun clients lookup => (clients.lookUp lookup).1) clients

/-- The set that is kept for an endpoint. -/
def setOf? (clients : Clients) (endpoint : Endpoint) : Option ClientSet :=
  clients.place? endpoint >>= (clients.builtSets[·]?)

/-- All that is kept for an endpoint: how often its clients were handed out, and the clients. -/
def shown? (clients : Clients) (endpoint : Endpoint) : Option (Nat × List (Option ChannelPool)) :=
  (clients.setOf? endpoint).map fun set => (set.cursor, set.pools.map clients.client?)

/-- The channel that a look-up for an endpoint takes, whatever comes of the look-up. -/
def taken? (clients : Clients) (endpoint : Endpoint) : Option ChannelRef :=
  match clients.getClient endpoint.1 endpoint.2 with
  | .error _ => none
  | .ok (clients, place) => (clients.getChannel place).toOption.map (·.2)

/-- Where a channel of an endpoint is: the number of its client, and its slot there. -/
def locate? (clients : Clients) (endpoint : Endpoint) (ref : ChannelRef) : Option (Nat × Nat) := do
  let set ← clients.setOf? endpoint
  let pool ← clients.client? ref.client
  return (← set.pools.idxOf? ref.client, ← pool.slots.idxOf? ref.channel)

/-- The places of the channels that the look-ups for an endpoint take, one after the other. -/
def turns (clients : Clients) (endpoint : Endpoint) : List Lookup → List (Option (Nat × Nat))
  | [] => []
  | lookup :: rest =>
    let after := (clients.lookUp lookup).1
    if lookup.endpoint = endpoint then
      (clients.taken? endpoint >>= after.locate? endpoint) :: after.turns endpoint rest
    else after.turns endpoint rest

end Clients
end ClusterMember
