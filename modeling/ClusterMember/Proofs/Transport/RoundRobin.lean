import ClusterMember.Proofs.Transport.ChannelPool
import ClusterMember.Transport.Clients.Lookups
import Mathlib.Data.Int.CardIntervalMod
import Mathlib.Data.List.Nodup
import Mathlib.Data.List.ProdSigma

/-!
# Look-ups take turns

The clients of an endpoint take turns, and so do the channels of each client.  Together they make
one round: as long as no number wraps around, as many look-ups for an endpoint as it has channels
take each of its channels once, whatever is looked up for other endpoints in between.
-/

namespace ClusterMember

/-! ## Rounds of two levels -/

/-- The place that is taken by the look-up with a number, of `clients` clients with `channels`
channels each. -/
def turnOf (clients channels number : Nat) : Nat × Nat :=
  (number % clients, number / clients % channels)

/-- How often a client was handed out among the first `handed` times. -/
def handouts (clients handed client : Nat) : Nat :=
  Nat.count (· ≡ client [MOD clients]) handed

theorem handouts_succ (clients handed client : Nat) :
    handouts clients (handed + 1) client =
      handouts clients handed client + if handed ≡ client [MOD clients] then 1 else 0 :=
  Nat.count_succ _ _

/-- The client whose turn it is was handed out once in each full round before. -/
theorem handouts_mod {clients : Nat} (pos : 0 < clients) (handed : Nat) :
    handouts clients handed (handed % clients) = handed / clients := by
  rw [handouts, Nat.count_modEq_card _ pos, Nat.mod_mod, if_neg (Nat.lt_irrefl _), Nat.add_zero]

/-- Two look-ups of one place are a whole number of rounds apart. -/
theorem mod_eq_of_turnOf_eq {clients channels first second : Nat}
    (same : turnOf clients channels first = turnOf clients channels second) :
    first % (clients * channels) = second % (clients * channels) := by
  obtain ⟨client_eq, channel_eq⟩ := Prod.mk.inj same
  rw [Nat.mod_mul, Nat.mod_mul, client_eq, channel_eq]

/-- One round takes each place once, wherever it starts. -/
theorem map_turnOf_perm {clients channels : Nat} (clients_pos : 0 < clients)
    (channels_pos : 0 < channels) (start : Nat) :
    ((List.range' start (clients * channels)).map (turnOf clients channels)).Perm
      (List.range clients ×ˢ List.range channels) := by
  have injective : ∀ first ∈ List.range' start (clients * channels),
      ∀ second ∈ List.range' start (clients * channels),
        turnOf clients channels first = turnOf clients channels second → first = second := by
    intro first first_mem second second_mem same
    rw [List.mem_range'_1] at first_mem second_mem
    exact Nat.ModEq.eq_of_abs_lt (mod_eq_of_turnOf_eq same) (by rw [abs_lt]; omega)
  have nodup := List.Nodup.map_on injective List.nodup_range'
  have subset : (List.range' start (clients * channels)).map (turnOf clients channels) ⊆
      List.range clients ×ˢ List.range channels := by
    intro place mem
    obtain ⟨number, -, rfl⟩ := List.mem_map.1 mem
    exact List.mem_product.2 ⟨List.mem_range.2 (Nat.mod_lt _ clients_pos),
      List.mem_range.2 (Nat.mod_lt _ channels_pos)⟩
  refine (List.subperm_of_subset nodup subset).perm_of_length_le ?_
  rw [List.length_product, List.length_range, List.length_range, List.length_map,
    List.length_range']

/-- Places of different clients, or of clients of different sets, are different. -/
theorem mul_add_inj {width first second low high : Nat} (low_lt : low < width)
    (high_lt : high < width) (same : first * width + low = second * width + high) :
    first = second ∧ low = high := by
  have first_eq : (first * width + low) / width = first := by
    rw [Nat.mul_comm, Nat.mul_add_div (Nat.zero_lt_of_lt low_lt), Nat.div_eq_of_lt low_lt,
      Nat.add_zero]
  have second_eq : (second * width + high) / width = second := by
    rw [Nat.mul_comm, Nat.mul_add_div (Nat.zero_lt_of_lt high_lt), Nat.div_eq_of_lt high_lt,
      Nat.add_zero]
  have sets_eq : first = second := by rw [← first_eq, same, second_eq]
  subst sets_eq
  exact ⟨rfl, Nat.add_left_cancel same⟩

/-! ## Channels in turn -/

namespace ChannelPool

/-- A pool whose channels were handed out some times, and with which nothing else was done. -/
def rotated (endpoint : Endpoint) (size maxMessageSize handed : Nat) : ChannelPool :=
  { build endpoint.1 endpoint.2 size maxMessageSize with cursor := handed }

theorem getChannel_rotated (endpoint : Endpoint) {size : Nat} (pos : 0 < size)
    (maxMessageSize handed : Nat) :
    (rotated endpoint size maxMessageSize handed).getChannel =
      .ok (rotated endpoint size maxMessageSize (after handed), handed % size) := by
  have slots_eq : (rotated endpoint size maxMessageSize handed).slots = List.range size := by
    rw [rotated, build, Nat.max_eq_left pos]
  have slot_lt : handed % size < size := Nat.mod_lt _ pos
  have stored : (rotated endpoint size maxMessageSize handed).slots[handed % size]? =
      some (handed % size) := by
    rw [slots_eq, List.getElem?_range slot_lt]
  have usable : (rotated endpoint size maxMessageSize handed).isUsable (handed % size) = true := by
    rw [isUsable, channel?, rotated, build, Nat.max_eq_left pos]
    rw [List.getElem?_replicate_of_lt slot_lt]
    rfl
  have at_cursor : (rotated endpoint size maxMessageSize handed).slots[
      (rotated endpoint size maxMessageSize handed).cursor %
        (rotated endpoint size maxMessageSize handed).slots.length]? = some (handed % size) := by
    rw [show (rotated endpoint size maxMessageSize handed).slots.length = size by
      rw [slots_eq, List.length_range]]
    exact stored
  rw [getChannel_of_open rfl at_cursor, if_pos usable]
  rfl

end ChannelPool

namespace Clients

variable {clients : Clients} {perHost perClient maxMessageSize : Nat} {count : Endpoint → Nat}
  {endpoint other : Endpoint} {place client : Nat}

/-! ## What look-ups leave behind -/

/-- Clients with which nothing was done but that stubs were looked up, as often as `count` says for
each endpoint.  The pools of the set at a place stand together. -/
structure Rotated (clients : Clients) (perHost perClient maxMessageSize : Nat)
    (count : Endpoint → Nat) : Prop where
  isOpen : clients.isClosed = false
  maxMessageSize_eq : clients.maxMessageSize = maxMessageSize
  perHost_eq : clients.clientsPerHost = perHost
  perClient_eq : clients.channelsPerClient = perClient
  length_built : clients.built.length = clients.builtSets.length * perHost
  fresh : ∀ endpoint, clients.place? endpoint = none → count endpoint = 0
  set : ∀ endpoint place, clients.place? endpoint = some place →
    clients.builtSets[place]? =
      some ⟨(List.range perHost).map (place * perHost + ·), count endpoint⟩
  client : ∀ endpoint place, clients.place? endpoint = some place → ∀ client < perHost,
    clients.built[place * perHost + client]? = some (.rotated endpoint perClient maxMessageSize
      (handouts perHost (count endpoint) client))
  apart : ∀ endpoint other place,
    clients.place? endpoint = some place → clients.place? other = some place → endpoint = other

theorem rotated_empty (maxMessageSize : Nat) (perHost_pos : 0 < perHost)
    (perClient_pos : 0 < perClient) :
    (empty maxMessageSize perClient perHost).Rotated perHost perClient maxMessageSize
      fun _ => 0 where
  isOpen := rfl
  maxMessageSize_eq := rfl
  perHost_eq := Nat.max_eq_left perHost_pos
  perClient_eq := Nat.max_eq_left perClient_pos
  length_built := (Nat.zero_mul perHost).symm
  fresh _ _ := rfl
  set _ _ found := by cases found
  client _ _ found := by cases found
  apart _ _ _ found := by cases found

/-- The set of an endpoint that is built stands behind all others. -/
theorem place?_buildSet (clients : Clients) (endpoint other : Endpoint) :
    (clients.buildSet endpoint).place? other =
      (clients.place? other).or
        (if other = endpoint then some clients.builtSets.length else none) := by
  rw [place?, buildSet, List.lookup_append, ← place?]
  congr 1
  by_cases same : other = endpoint
  · simp [same]
  · simp [List.lookup_cons, beq_false_of_ne same, same]

/-- What is handed out for an endpoint without a set is the same once its set is built. -/
theorem getClient_buildSet (isOpen : clients.isClosed = false)
    (missing : clients.place? endpoint = none) :
    (clients.buildSet endpoint).getClient endpoint.1 endpoint.2 =
      clients.getClient endpoint.1 endpoint.2 := by
  have found : (clients.buildSet endpoint).place? endpoint = some clients.builtSets.length := by
    rw [place?_buildSet, missing, if_pos rfl, Option.none_or]
  have still_open : (clients.buildSet endpoint).isClosed = false := isOpen
  simp only [getClient, isOpen, still_open, setFor, missing, found]

/-- A look-up takes a channel of a client, and then sees whether a stub can be built. -/
theorem lookUp_of_taken {taken served : Clients} {place : Nat} {ref : ChannelRef} {lookup : Lookup}
    (client_eq : clients.getClient lookup.endpoint.1 lookup.endpoint.2 = .ok (taken, place))
    (channel_eq : taken.getChannel place = .ok (served, ref)) :
    clients.lookUp lookup =
        (served, Stub.build lookup.service lookup.style ref lookup.runtime) ∧
      clients.taken? lookup.endpoint = some ref := by
  constructor
  · simp only [lookUp, getStub, client_eq, channel_eq]
  · simp only [taken?, client_eq, channel_eq]
    rfl

/-- Clients after the next client of the set at a place was handed out, and became a pool by
handing out a channel. -/
def handOut (clients : Clients) (place client : Nat) (pool : ChannelPool) : Clients :=
  ({ clients with builtSets := clients.builtSets.modify place ClientSet.advance } :
    Clients).setClient client pool

namespace Rotated

variable (rotated : clients.Rotated perHost perClient maxMessageSize count)
include rotated

theorem place_lt (found : clients.place? endpoint = some place) :
    place < clients.builtSets.length :=
  (List.getElem?_eq_some_iff.1 (rotated.set endpoint place found)).1

theorem buildSet (missing : clients.place? endpoint = none) :
    (clients.buildSet endpoint).Rotated perHost perClient maxMessageSize count where
  isOpen := rotated.isOpen
  maxMessageSize_eq := rotated.maxMessageSize_eq
  perHost_eq := rotated.perHost_eq
  perClient_eq := rotated.perClient_eq
  length_built := by
    rw [Clients.buildSet, List.length_append, List.length_replicate, List.length_append,
      List.length_singleton, rotated.length_built, rotated.perHost_eq, Nat.succ_mul]
  fresh other absent := by
    rw [place?_buildSet, Option.or_eq_none_iff] at absent
    exact rotated.fresh other absent.1
  set other place found := by
    rw [place?_buildSet, Option.or_eq_some_iff] at found
    rcases found with old | ⟨-, new⟩
    · rw [Clients.buildSet, List.getElem?_append_left (rotated.place_lt old),
        rotated.set other place old]
    · split at new <;> cases new
      next same =>
      rw [Clients.buildSet, List.getElem?_concat_length, same, rotated.fresh _ missing,
        rotated.perHost_eq, rotated.length_built]
  client other place found client client_lt := by
    rw [place?_buildSet, Option.or_eq_some_iff] at found
    rcases found with old | ⟨-, new⟩
    · have there := rotated.client other place old client client_lt
      rw [Clients.buildSet, List.getElem?_append_left (List.getElem?_eq_some_iff.1 there).1, there]
    · split at new <;> cases new
      next same =>
      rw [Clients.buildSet, ← rotated.length_built,
        List.getElem?_append_right (Nat.le_add_right _ _), Nat.add_sub_cancel_left,
        rotated.perHost_eq, List.getElem?_replicate_of_lt client_lt, same,
        rotated.fresh _ missing, rotated.perClient_eq, rotated.maxMessageSize_eq]
      rfl
  apart first second place first_found second_found := by
    rw [place?_buildSet, Option.or_eq_some_iff] at first_found second_found
    rcases first_found with first_old | ⟨-, first_new⟩
    · rcases second_found with second_old | ⟨-, second_new⟩
      · exact rotated.apart first second place first_old second_old
      · split at second_new <;> cases second_new
        exact absurd (rotated.place_lt first_old) (Nat.lt_irrefl _)
    · split at first_new <;> cases first_new
      next first_same =>
      rcases second_found with second_old | ⟨-, second_new⟩
      · exact absurd (rotated.place_lt second_old) (Nat.lt_irrefl _)
      · split at second_new <;> cases second_new
        next second_same => exact first_same.trans second_same.symm

/-- All that is kept for an endpoint is told by how often stubs were looked up for it. -/
theorem shown?_eq (endpoint : Endpoint) :
    clients.shown? endpoint = (clients.place? endpoint).map fun _ =>
      (count endpoint, (List.range perHost).map fun client =>
        some (.rotated endpoint perClient maxMessageSize
          (handouts perHost (count endpoint) client))) := by
  cases found : clients.place? endpoint with
  | none => rw [shown?, setOf?, found]; rfl
  | some place =>
      have set_eq := rotated.set endpoint place found
      simp only [shown?, setOf?, found, Option.bind_eq_bind, Option.bind_some, set_eq,
        Option.map_some, List.map_map, Option.some.injEq, Prod.mk.injEq, true_and]
      refine List.map_congr_left fun client mem => ?_
      exact rotated.client endpoint place found client (List.mem_range.1 mem)

theorem locate?_eq (found : clients.place? endpoint = some place) {channel : Nat}
    (client_lt : client < perHost) (channel_lt : channel < perClient) :
    clients.locate? endpoint ⟨place * perHost + client, channel⟩ = some (client, channel) := by
  have set_eq := rotated.set endpoint place found
  have pool_eq : clients.client? (place * perHost + client) = _ :=
    rotated.client endpoint place found client client_lt
  have client_index : ((List.range perHost).map (place * perHost + ·)).idxOf?
      (place * perHost + client) = some client := by
    rw [List.idxOf?_eq_some_iff]
    refine ⟨by simpa using client_lt, by simp, fun other other_lt => ?_⟩
    simp only [List.getElem_map, List.getElem_range]
    omega
  have channel_index : (List.range (max perClient 1)).idxOf? channel = some channel := by
    rw [List.idxOf?_eq_some_iff]
    refine ⟨by simp; omega, by simp, fun other other_lt => ?_⟩
    simp only [List.getElem_range]
    omega
  simp [locate?, setOf?, found, set_eq, pool_eq, client_index, ChannelPool.rotated,
    ChannelPool.build, channel_index]

/-! ## One look-up -/

/-- The next client of an endpoint that has a set. -/
theorem getClient_eq (perHost_pos : 0 < perHost) (found : clients.place? endpoint = some place) :
    clients.getClient endpoint.1 endpoint.2 =
      .ok ({ clients with builtSets := clients.builtSets.modify place ClientSet.advance },
        place * perHost + count endpoint % perHost) := by
  have turn_lt : count endpoint % perHost < perHost := Nat.mod_lt _ perHost_pos
  have next_eq : (clients.builtSets[place]? >>= ClientSet.next?) =
      some (place * perHost + count endpoint % perHost) := by
    rw [rotated.set endpoint place found]
    simp [ClientSet.next?, turn_lt]
  simp [getClient, rotated.isOpen, setFor, found, takeFrom, next_eq]

/-- The next channel of a client. -/
theorem getChannel_eq (perClient_pos : 0 < perClient)
    (found : clients.place? endpoint = some place) (client_lt : client < perHost)
    (builtSets : List ClientSet) :
    ({ clients with builtSets } : Clients).getChannel (place * perHost + client) =
      .ok (({ clients with builtSets } : Clients).setClient (place * perHost + client)
          (.rotated endpoint perClient maxMessageSize
            (ChannelPool.after (handouts perHost (count endpoint) client))),
        ⟨place * perHost + client, handouts perHost (count endpoint) client % perClient⟩) := by
  have there : ({ clients with builtSets } : Clients).client? (place * perHost + client) =
      some (.rotated endpoint perClient maxMessageSize
        (handouts perHost (count endpoint) client)) :=
    rotated.client endpoint place found client client_lt
  simp only [getChannel, there, ChannelPool.getChannel_rotated endpoint perClient_pos]

/-- Handing out the next client of one endpoint leaves the sets of all others as they are. -/
theorem set_handOut (small : count endpoint + 1 < UInt64.size)
    (found : clients.place? endpoint = some place) {elsewhere : Nat}
    (there : clients.place? other = some elsewhere) :
    (clients.builtSets.modify place ClientSet.advance)[elsewhere]? =
      some ⟨(List.range perHost).map (elsewhere * perHost + ·),
        Function.update count endpoint (count endpoint + 1) other⟩ := by
  rw [List.getElem?_modify, rotated.set other elsewhere there]
  by_cases same : other = endpoint
  · subst same
    cases Option.some.inj (found.symm.trans there)
    simp only [if_true, Option.map_eq_map, Option.map_some, ClientSet.advance, ChannelPool.after,
      Nat.mod_eq_of_lt small, Function.update_self]
  · have apart : place ≠ elsewhere := by
      rintro rfl
      exact same (rotated.apart other endpoint place there found)
    simp only [if_neg apart, Option.map_eq_map, Option.map_some, Function.update_of_ne same]

/-- Handing out the next channel of one client leaves all other clients as they are. -/
theorem client_handOut (perHost_pos : 0 < perHost) (small : count endpoint + 1 < UInt64.size)
    (found : clients.place? endpoint = some place) {elsewhere : Nat}
    (there : clients.place? other = some elsewhere) (client_lt : client < perHost) :
    (clients.built.set (place * perHost + count endpoint % perHost)
        (.rotated endpoint perClient maxMessageSize
          (ChannelPool.after (count endpoint / perHost))))[elsewhere * perHost + client]? =
      some (.rotated other perClient maxMessageSize
        (handouts perHost (Function.update count endpoint (count endpoint + 1) other) client)) := by
  have turn_lt : count endpoint % perHost < perHost := Nat.mod_lt _ perHost_pos
  have old := rotated.client other elsewhere there client client_lt
  by_cases same : other = endpoint
  · subst same
    cases Option.some.inj (found.symm.trans there)
    rw [Function.update_self, handouts_succ]
    by_cases turn : count other % perHost = client
    · subst turn
      have modEq : count other ≡ count other % perHost [MOD perHost] := (Nat.mod_modEq _ _).symm
      have quotient_le : count other / perHost ≤ count other := Nat.div_le_self _ _
      rw [List.getElem?_set_self (List.getElem?_eq_some_iff.1 old).1, handouts_mod perHost_pos,
        if_pos modEq, ChannelPool.after, Nat.mod_eq_of_lt (by omega)]
    · have not_modEq : ¬count other ≡ client [MOD perHost] := fun modEq =>
        turn (Nat.mod_eq_of_modEq modEq client_lt)
      rw [List.getElem?_set_ne (by omega), old, if_neg not_modEq, Nat.add_zero]
  · have apart : place * perHost + count endpoint % perHost ≠ elsewhere * perHost + client := by
      intro equal
      obtain ⟨rfl, -⟩ := mul_add_inj turn_lt client_lt equal
      exact same (rotated.apart other endpoint place there found)
    rw [List.getElem?_set_ne apart, old, Function.update_of_ne same]

theorem rotated_handOut (perHost_pos : 0 < perHost) (small : count endpoint + 1 < UInt64.size)
    (found : clients.place? endpoint = some place) :
    (clients.handOut place (place * perHost + count endpoint % perHost)
      (.rotated endpoint perClient maxMessageSize
        (ChannelPool.after (count endpoint / perHost)))).Rotated perHost perClient maxMessageSize
          (Function.update count endpoint (count endpoint + 1)) where
  isOpen := rotated.isOpen
  maxMessageSize_eq := rotated.maxMessageSize_eq
  perHost_eq := rotated.perHost_eq
  perClient_eq := rotated.perClient_eq
  length_built := by
    simp only [handOut, setClient, List.length_set, List.length_modify]
    exact rotated.length_built
  fresh other absent := by
    have absent_before : clients.place? other = none := absent
    have other_ne : other ≠ endpoint := by
      rintro rfl
      rw [found] at absent_before
      cases absent_before
    rw [Function.update_of_ne other_ne]
    exact rotated.fresh other absent_before
  set _ _ there := rotated.set_handOut small found there
  client _ _ there _ client_lt := rotated.client_handOut perHost_pos small found there client_lt
  apart := rotated.apart

/-- Without a set of its own, an endpoint is served as if its set were there already. -/
theorem exists_set (endpoint : Endpoint) : ∃ (ready : Clients) (place : Nat),
    ready.Rotated perHost perClient maxMessageSize count ∧
      ready.place? endpoint = some place ∧
      ready.getClient endpoint.1 endpoint.2 = clients.getClient endpoint.1 endpoint.2 ∧
      ∀ other ≠ endpoint, ready.place? other = clients.place? other := by
  cases found : clients.place? endpoint with
  | some place => exact ⟨clients, place, rotated, found, rfl, fun _ _ => rfl⟩
  | none =>
      refine ⟨_, clients.builtSets.length, rotated.buildSet found, ?_,
        getClient_buildSet rotated.isOpen found, fun other other_ne => ?_⟩
      · rw [place?_buildSet, found, if_pos rfl, Option.none_or]
      · rw [place?_buildSet, if_neg other_ne, Option.or_none]

/-- A look-up takes the channel whose turn it is, and it is the turn of the next one after it. -/
theorem takesTurn (perHost_pos : 0 < perHost) (perClient_pos : 0 < perClient) (lookup : Lookup)
    (small : count lookup.endpoint + 1 < UInt64.size) :
    ∃ after ref, clients.lookUp lookup =
        (after, Stub.build lookup.service lookup.style ref lookup.runtime) ∧
      clients.taken? lookup.endpoint = some ref ∧
      after.locate? lookup.endpoint ref =
        some (turnOf perHost perClient (count lookup.endpoint)) ∧
      after.Rotated perHost perClient maxMessageSize
        (Function.update count lookup.endpoint (count lookup.endpoint + 1)) ∧
      ∀ other ≠ lookup.endpoint, after.shown? other = clients.shown? other := by
  have turn_lt : count lookup.endpoint % perHost < perHost := Nat.mod_lt _ perHost_pos
  obtain ⟨ready, place, ready_rotated, found, client_eq, elsewhere⟩ :=
    rotated.exists_set lookup.endpoint
  have taken_eq := ready_rotated.getClient_eq perHost_pos found
  have channel_eq := ready_rotated.getChannel_eq perClient_pos found turn_lt
    (ready.builtSets.modify place ClientSet.advance)
  rw [handouts_mod perHost_pos] at channel_eq
  have served := ready_rotated.rotated_handOut perHost_pos small found
  obtain ⟨lookUp_eq, taken?_eq⟩ := lookUp_of_taken (client_eq.symm.trans taken_eq) channel_eq
  refine ⟨_, _, lookUp_eq, taken?_eq,
    served.locate?_eq found turn_lt (Nat.mod_lt _ perClient_pos), served,
    fun other other_ne => (served.shown?_eq other).trans ?_⟩
  rw [rotated.shown?_eq, Function.update_of_ne other_ne, ← elsewhere other other_ne]
  rfl

/-! ## Rows of look-ups -/

/-- How often stubs were looked up for each endpoint after some more look-ups. -/
theorem rotated_lookUpAll (perHost_pos : 0 < perHost) (perClient_pos : 0 < perClient)
    (lookups : List Lookup) (small : ∀ endpoint, count endpoint + lookups.length < UInt64.size) :
    (clients.lookUpAll lookups).Rotated perHost perClient maxMessageSize
      fun endpoint => count endpoint + lookups.countP (·.endpoint = endpoint) := by
  induction lookups generalizing clients count with
  | nil => exact rotated
  | cons lookup rest induction =>
      simp only [List.length_cons] at small
      have small_here := small lookup.endpoint
      obtain ⟨after, ref, lookUp_eq, -, -, after_rotated, -⟩ :=
        rotated.takesTurn perHost_pos perClient_pos lookup (by omega)
      have later := induction after_rotated fun endpoint => by
        have small_there := small endpoint
        rw [Function.update_apply]
        split <;> grind
      have counts_eq : (fun endpoint => Function.update count lookup.endpoint
          (count lookup.endpoint + 1) endpoint + rest.countP (·.endpoint = endpoint)) =
          fun endpoint => count endpoint + (lookup :: rest).countP (·.endpoint = endpoint) := by
        funext endpoint
        rw [Function.update_apply, List.countP_cons]
        grind
      rw [← counts_eq, lookUpAll, List.foldl_cons, lookUp_eq]
      exact later

theorem turns_eq (perHost_pos : 0 < perHost) (perClient_pos : 0 < perClient)
    (lookups : List Lookup) (small : ∀ endpoint, count endpoint + lookups.length < UInt64.size)
    (endpoint : Endpoint) :
    clients.turns endpoint lookups =
      (List.range' (count endpoint) (lookups.countP (·.endpoint = endpoint))).map fun number =>
        some (turnOf perHost perClient number) := by
  induction lookups generalizing clients count with
  | nil => rfl
  | cons lookup rest induction =>
      simp only [List.length_cons] at small
      have small_here := small lookup.endpoint
      obtain ⟨after, ref, lookUp_eq, taken_eq, locate_eq, after_rotated, -⟩ :=
        rotated.takesTurn perHost_pos perClient_pos lookup (by omega)
      have later := induction after_rotated fun endpoint => by
        have small_there := small endpoint
        rw [Function.update_apply]
        split <;> grind
      rw [turns, lookUp_eq]
      by_cases same : lookup.endpoint = endpoint
      · subst same
        rw [Function.update_self] at later
        simp only [if_true, taken_eq, Option.bind_eq_bind, Option.bind_some, locate_eq, later]
        rw [List.countP_cons_of_pos (by simp), List.range'_succ, List.map_cons]
      · rw [Function.update_of_ne (Ne.symm same)] at later
        simp only [if_neg same, later]
        rw [List.countP_cons_of_neg (by simpa using same)]

end Rotated

/-- Look-ups for an endpoint go through its channels in rounds, and leave all other endpoints
alone. -/
structure TakesTurns (perHost perClient : Nat) (clients : Clients) (lookups : List Lookup) :
    Prop where
  /-- The clients take turns, and each hands out its channels in turn. -/
  turns_eq : ∀ endpoint, clients.turns endpoint lookups =
    (List.range (lookups.countP (·.endpoint = endpoint))).map fun number =>
      some (number % perHost, number / perHost % perClient)
  /-- As many look-ups in a row as an endpoint has channels take each of its channels once. -/
  even : ∀ endpoint before window after,
    clients.turns endpoint lookups = before ++ window ++ after →
      window.length = perHost * perClient →
        window.Perm ((List.range perHost ×ˢ List.range perClient).map some)
  /-- These are all channels of the endpoint. -/
  whole : ∀ endpoint handed shown,
    (clients.lookUpAll lookups).shown? endpoint = some (handed, shown) →
      shown.length = perHost ∧ ∀ client ∈ shown, ∃ pool, client = some pool ∧ pool.size = perClient
  /-- Every look-up takes a channel, and a stub on it is built unless the service is not known or
  there is no runtime. -/
  answered : ∀ earlier lookup later, lookups = earlier ++ lookup :: later →
    ∃ ref, (clients.lookUpAll earlier).taken? lookup.endpoint = some ref ∧
      ((clients.lookUpAll earlier).lookUp lookup).2 =
        Stub.build lookup.service lookup.style ref lookup.runtime
  apart : ∀ earlier lookup later, lookups = earlier ++ lookup :: later →
    ∀ other ≠ lookup.endpoint, ((clients.lookUpAll earlier).lookUp lookup).1.shown? other =
      (clients.lookUpAll earlier).shown? other

/-- Part of a row of turns is a round when it is as long as one. -/
theorem perm_of_turns (perHost_pos : 0 < perHost) (perClient_pos : 0 < perClient) {number : Nat}
    {before window after : List (Option (Nat × Nat))}
    (turns : ((List.range number).map fun number => some (turnOf perHost perClient number)) =
      before ++ window ++ after) (round : window.length = perHost * perClient) :
    window.Perm ((List.range perHost ×ˢ List.range perClient).map some) := by
  obtain ⟨front, rest, range_eq, front_eq, -⟩ := List.map_eq_append_iff.1 turns
  obtain ⟨start, middle, rfl, -, middle_eq⟩ := List.map_eq_append_iff.1 front_eq
  rw [List.range_eq_range', List.range'_eq_append_iff] at range_eq
  obtain ⟨_, -, split_eq, -⟩ := range_eq
  obtain ⟨first, _, -, rfl⟩ := List.range'_eq_append_iff.1 split_eq.symm
  rw [← middle_eq, List.length_map, List.length_range'] at round
  have perm := (map_turnOf_perm perHost_pos perClient_pos (0 + first * 1)).map some
  rw [List.map_map] at perm
  rwa [← middle_eq, round]

/-- Look-ups of stubs take turns. -/
theorem lookups_take_turns (maxMessageSize : Nat) (perHost_pos : 0 < perHost)
    (perClient_pos : 0 < perClient) (lookups : List Lookup)
    (few : lookups.length < UInt64.size) :
    (empty maxMessageSize perClient perHost).TakesTurns perHost perClient lookups := by
  have start := rotated_empty maxMessageSize perHost_pos perClient_pos
  have turns_eq (endpoint : Endpoint) := start.turns_eq perHost_pos perClient_pos
    lookups (fun _ => by omega) endpoint
  simp only [← List.range_eq_range'] at turns_eq
  have rotated_after (lookups : List Lookup) (few : lookups.length < UInt64.size) :=
    start.rotated_lookUpAll perHost_pos perClient_pos lookups fun _ => by omega
  have takes {earlier later : List Lookup} {lookup : Lookup}
      (lookups_eq : lookups = earlier ++ lookup :: later) := by
    have length_eq := congrArg List.length lookups_eq
    have counted := List.countP_le_length (p := fun other => other.endpoint = lookup.endpoint)
      (l := earlier)
    simp only [List.length_append, List.length_cons] at length_eq
    exact (rotated_after earlier (by omega)).takesTurn perHost_pos perClient_pos lookup (by omega)
  refine
    { turns_eq := turns_eq
      even := fun endpoint before window after split round =>
        perm_of_turns perHost_pos perClient_pos ((turns_eq endpoint).symm.trans split) round
      whole := fun endpoint handed shown shown_eq => ?_
      answered := fun earlier lookup later lookups_eq => ?_
      apart := fun earlier lookup later lookups_eq other other_ne => ?_ }
  · rw [(rotated_after lookups few).shown?_eq, Option.map_eq_some_iff] at shown_eq
    obtain ⟨place, -, shown_eq⟩ := shown_eq
    cases shown_eq
    refine ⟨by rw [List.length_map, List.length_range], fun client mem => ?_⟩
    obtain ⟨number, -, rfl⟩ := List.mem_map.1 mem
    refine ⟨_, rfl, ?_⟩
    rw [ChannelPool.size, ChannelPool.rotated, ChannelPool.build, List.length_range,
      Nat.max_eq_left perClient_pos]
  · obtain ⟨after, ref, lookUp_eq, taken_eq, -⟩ := takes lookups_eq
    exact ⟨ref, taken_eq, congrArg Prod.snd lookUp_eq⟩
  · obtain ⟨after, ref, lookUp_eq, -, -, -, elsewhere⟩ := takes lookups_eq
    rw [lookUp_eq]
    exact elsewhere other other_ne

/-- Look-ups for two endpoints, of which one asks for a service that is not known. -/
def mixedLookups : List Lookup :=
  [⟨"heartbeat", .async, ("index", 10050), .multiThread⟩,
    ⟨"search", .future, ("index", 10050), .multiThread⟩,
    ⟨"heartbeat", .blocking, ("writer", 10060), .multiThread⟩,
    ⟨"heartbeat", .async, ("index", 10050), .currentThread⟩,
    ⟨"heartbeat", .async, ("index", 10050), .multiThread⟩]

/-- Two clients with two channels each: four look-ups for one endpoint are a round. -/
theorem lookups_take_turns_of_four :
    0 < 2 ∧ mixedLookups.length < UInt64.size ∧ (empty 1024 2 2).TakesTurns 2 2 mixedLookups ∧
      (empty 1024 2 2).turns ("index", 10050) mixedLookups =
        [some (0, 0), some (1, 0), some (0, 1), some (1, 1)] :=
  have takes := lookups_take_turns 1024 (by decide) (by decide) mixedLookups (by decide)
  ⟨by decide, by decide, takes, takes.turns_eq ("index", 10050)⟩

end Clients
end ClusterMember
