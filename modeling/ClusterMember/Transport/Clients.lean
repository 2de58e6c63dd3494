import ClusterMember.Transport.ChannelPool
import ClusterMember.Transport.Stub

/-!
# Clients

For each endpoint a node keeps a set of channel pools, its clients of that endpoint, which it builds
when the endpoint is first asked for and hands out in turn.  Closing shuts down every kept pool and
forgets them all; nothing is built afterwards.
-/

namespace ClusterMember

/-- The endpoint that clients are for: host and port. -/
abbrev Endpoint := String × UInt16

/-- The clients of one endpoint. -/
structure ClientSet where
  pools : List Nat
  /-- How often a client was handed out, which wraps around at 64 bits. -/
  cursor : Nat
  deriving DecidableEq

/-- A channel of a client. -/
structure ChannelRef where
  client : Nat
  channel : Nat
  deriving DecidableEq

/-- The clients of a node. -/
structure Clients where
  /-- The largest message, in bytes. -/
  maxMessageSize : Nat
  /-- Channels of each client, at least one. -/
  channelsPerClient : Nat
  /-- Clients for each endpoint, at least one. -/
  clientsPerHost : Nat
  /-- Every pool that was ever built, in order. -/
  built : List ChannelPool
  /-- Every set that was ever built, in order. -/
  builtSets : List ClientSet
  /-- The endpoints that sets are kept for, with the places of their sets. -/
  table : List (Endpoint × Nat)
  /-- Whether they are closed. -/
  isClosed : Bool
  deriving DecidableEq

namespace Clients

/-- No clients yet. -/
def empty (maxMessageSize channelsPerClient clientsPerHost : Nat) : Clients where
  maxMessageSize := maxMessageSize
  channelsPerClient := max channelsPerClient 1
  clientsPerHost := max clientsPerHost 1
  built := []
  builtSets := []
  table := []
  isClosed := false

/-- No clients yet, with the configured limits. -/
def ofConfig (config : RpcConfig) : Clients :=
  empty config.maxMessageSize config.channelsPerClient config.clientsPerHost

/-- For how many endpoints clients are kept. -/
def cachedHosts (clients : Clients) : Nat := clients.table.length

/-- The place of the set that is kept for an endpoint. -/
def place? (clients : Clients) (endpoint : Endpoint) : Option Nat :=
  List.lookup endpoint clients.table

/-- Build a set for an endpoint, and keep it. -/
def buildSet (clients : Clients) (endpoint : Endpoint) : Clients :=
  let pool := ChannelPool.build endpoint.1 endpoint.2 clients.channelsPerClient
    clients.maxMessageSize
  let pools := (List.range clients.clientsPerHost).map (clients.built.length + ·)
  { clients with
    built := clients.built ++ List.replicate clients.clientsPerHost pool
    builtSets := clients.builtSets ++ [⟨pools, 0⟩]
    table := clients.table ++ [(endpoint, clients.builtSets.length)] }

/-- The place of the set of an endpoint, which is built when none is kept. -/
def setFor (clients : Clients) (endpoint : Endpoint) : Clients × Nat :=
  match clients.place? endpoint with
  | some place => (clients, place)
  | none => (clients.buildSet endpoint, clients.builtSets.length)

/-- The next client of a set. -/
def ClientSet.next? (set : ClientSet) : Option Nat :=
  set.pools[set.cursor % set.pools.length]?

/-- Count that a client of a set was handed out. -/
def ClientSet.advance (set : ClientSet) : ClientSet :=
  { set with cursor := ChannelPool.after set.cursor }

/-- Hand out the next client of the set at a place: its place among the built pools. -/
def takeFrom (clients : Clients) (place : Nat) : Option (Clients × Nat) :=
  match clients.builtSets[place]? >>= ClientSet.next? with
  | none => none
  | some pool =>
    some ({ clients with builtSets := clients.builtSets.modify place ClientSet.advance }, pool)

/-- Hand out the next client of an endpoint: its place among the built pools. -/
def getClient (clients : Clients) (host : String) (port : UInt16) :
    Except TransportFault (Clients × Nat) :=
  if clients.isClosed then .error (ChannelPool.closedFault host port)
  else
    match clients.setFor (host, port) with
    | (clients, set) =>
      match clients.takeFrom set with
      | none => .error (ChannelPool.closedFault host port)
      | some taken => .ok taken

/-- The built pool at a place. -/
def client? (clients : Clients) (place : Nat) : Option ChannelPool := clients.built[place]?

/-- Change the built pool at a place. -/
def setClient (clients : Clients) (place : Nat) (pool : ChannelPool) : Clients :=
  { clients with built := clients.built.set place pool }

/-- The channel that a reference names. -/
def channel? (clients : Clients) (ref : ChannelRef) : Option Channel :=
  clients.client? ref.client >>= fun pool => pool.channel? ref.channel

/-- Hand out the next channel of a client. -/
def getChannel (clients : Clients) (place : Nat) : Except TransportFault (Clients × ChannelRef) :=
  match clients.client? place with
  | none => .error (.channelShutdown "")
  | some pool =>
    match pool.getChannel with
    | .error fault => .error fault
    | .ok (pool, channel) => .ok (clients.setClient place pool, ⟨place, channel⟩)

/-- Shut down a channel: the result says whether it took calls before. -/
def shutdownChannel (clients : Clients) (ref : ChannelRef) : Clients × Bool :=
  match clients.client? ref.client with
  | none => (clients, false)
  | some pool =>
    match pool.shutdownChannel ref.channel with
    | (pool, wasUsable) => (clients.setClient ref.client pool, wasUsable)

/-- Shut down a client. -/
def shutdownClient (clients : Clients) (place : Nat) : Clients :=
  { clients with built := clients.built.modify place ChannelPool.shutdown }

/-- Build a stub for a service of an endpoint on the next channel of its next client; a stub that
cannot be built uses them up all the same. -/
def getStub (clients : Clients) (service : String) (style : CallStyle) (host : String)
    (port : UInt16) (runtime : RuntimeKind) :
    Clients × Except TransportFault (Stub ChannelRef) :=
  match clients.getClient host port with
  | .error fault => (clients, .error fault)
  | .ok (clients, place) =>
    match clients.getChannel place with
    | .error fault => (clients, .error fault)
    | .ok (clients, ref) => (clients, Stub.build service style ref runtime)

/-- The stub with its channel as it is now. -/
def withChannel? (clients : Clients) (stub : Stub ChannelRef) : Option (Stub Channel) :=
  (clients.channel? stub.channel).map fun channel => ⟨stub.service, stub.style, channel⟩

/-- The clients of all kept sets: their places among the built pools. -/
def kept (clients : Clients) : List Nat :=
  clients.table.flatMap fun entry => (clients.builtSets[entry.2]?).elim [] (·.pools)

/-- Build nothing any more. -/
def markClosed (clients : Clients) : Clients := { clients with isClosed := true }

/-- Shut down every kept client. -/
def shutKept (clients : Clients) : Clients := clients.kept.foldl shutdownClient clients

/-- Forget every kept set. -/
def forgetAll (clients : Clients) : Clients := { clients with table := [] }

/-- Build nothing any more, shut down every kept client and forget them all. -/
def close (clients : Clients) : Clients := clients.markClosed.shutKept.forgetAll

end Clients
end ClusterMember
