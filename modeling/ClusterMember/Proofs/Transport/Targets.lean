import ClusterMember.Proofs.Transport.Clients
import ClusterMember.Transport.Clients.Course
import Mathlib.Data.List.Basic

/-!
# Where channels lead

Every channel of a pool leads to the endpoint of the pool, and every pool that clients keep for an
endpoint is one of that endpoint.  Pools and channels are never forgotten, and a channel never
changes its target, so a stub leads for ever to the endpoint that it was built for.  A pool is kept
until it is shut down, and then stays so.
-/

namespace ClusterMember

namespace ChannelPool

variable {pool before after last served : ChannelPool}

/-- All channels of a pool lead to its endpoint. -/
def Aimed (pool : ChannelPool) : Prop :=
  ∀ channel ∈ pool.built, channel.target = Channel.targetOf pool.host pool.port

/-- One pool is another one some time later. -/
structure Grows (before after : ChannelPool) : Prop where
  host_eq : after.host = before.host
  port_eq : after.port = before.port
  /-- The channels that were there lead to where they led. -/
  targets : before.built.map (·.target) <+: after.built.map (·.target)
  aimed : before.Aimed → after.Aimed
  /-- What takes calls is still in its slots. -/
  sound : before.Sound → after.Sound
  /-- What is shut down stays so. -/
  closed : before.isClosed = true → after.isClosed = true

theorem aimed_build (host : String) (port : UInt16) (size maxMessageSize : Nat) :
    (build host port size maxMessageSize).Aimed := by
  intro channel mem
  rw [List.eq_of_mem_replicate mem]
  rfl

theorem Grows.refl (pool : ChannelPool) : pool.Grows pool :=
  ⟨rfl, rfl, List.prefix_rfl, id, id, id⟩

theorem Grows.trans (first : before.Grows after) (second : after.Grows last) :
    before.Grows last where
  host_eq := second.host_eq.trans first.host_eq
  port_eq := second.port_eq.trans first.port_eq
  targets := first.targets.trans second.targets
  aimed aimed := second.aimed (first.aimed aimed)
  sound sound := second.sound (first.sound sound)
  closed closed := second.closed (first.closed closed)

/-- A channel is there for ever, and leads to where it led. -/
theorem Grows.target_eq (grows : before.Grows after) {place : Nat} {channel : Channel}
    (there : before.channel? place = some channel) :
    ∃ still, after.channel? place = some still ∧ still.target = channel.target := by
  obtain ⟨rest, targets_eq⟩ := grows.targets
  have target_still : (after.built.map (·.target))[place]? = some channel.target := by
    rw [channel?] at there
    rw [← targets_eq, List.getElem?_append_left
      (by simpa using (List.getElem?_eq_some_iff.1 there).1), List.getElem?_map, there]
    rfl
  rwa [List.getElem?_map, Option.map_eq_some_iff] at target_still

theorem Wears.grows (wears : before.Wears after) (sound : before.Sound → after.Sound)
    (closed : before.isClosed = true → after.isClosed = true) : before.Grows after where
  host_eq := wears.host_eq
  port_eq := wears.port_eq
  targets := ⟨[], by rw [List.append_nil, wears.targets_eq]⟩
  aimed aimed channel mem := by
    have target_mem : channel.target ∈ after.built.map (·.target) := List.mem_map_of_mem mem
    rw [wears.targets_eq] at target_mem
    obtain ⟨old, old_mem, target_eq⟩ := List.mem_map.1 target_mem
    rw [← target_eq, aimed old old_mem, wears.host_eq, wears.port_eq]
  sound := sound
  closed := closed

theorem grows_modify (pool : ChannelPool) (place : Nat) {change : Channel → Channel}
    (fades : Channel.Fades change) : pool.Grows (pool.modify place change) :=
  have wears := wears_modify pool place fades
  wears.grows (fun sound => sound.wears_open wears rfl) id

theorem grows_shutdown (pool : ChannelPool) : pool.Grows pool.shutdown :=
  (wears_shutdown pool).grows Sound.shutdown fun _ => pool.isClosed_shutdown

theorem grows_visit (pool : ChannelPool) : pool.Grows pool.visit.1 :=
  ⟨rfl, rfl, List.prefix_rfl, id, Sound.visit, id⟩

theorem grows_rebuild {slot : Nat} (isOpen : pool.isClosed = false)
    (there : pool.Sound → ∃ old, pool.slots[slot]? = some old ∧ pool.isUsable old = false) :
    pool.Grows (pool.rebuild slot) where
  host_eq := rfl
  port_eq := rfl
  targets := by
    rw [rebuild, List.map_append]
    exact List.prefix_append _ _
  aimed aimed channel mem := by
    rcases List.mem_append.1 mem with old | new
    · exact aimed channel old
    · rw [List.mem_singleton.1 new]
      rfl
  sound sound := by
    obtain ⟨old, old_there, closed⟩ := there sound
    exact sound.rebuild isOpen old_there closed
  closed := id

/-- What a pool hands out is one of its channels. -/
theorem grows_getChannel {place : Nat} (handed : pool.getChannel = .ok (served, place)) :
    pool.Grows served ∧ ∃ channel, served.channel? place = some channel := by
  unfold getChannel at handed
  split at handed
  next => cases handed
  next notClosed =>
    split at handed
    next visited slot visit_eq =>
    have visited_eq : pool.visit.1 = visited := congrArg Prod.fst visit_eq
    subst visited_eq
    split at handed
    next ready =>
      cases handed
      refine ⟨pool.grows_visit, ?_⟩
      obtain ⟨-, usable⟩ := Option.filter_eq_some_iff.1 ready
      obtain ⟨channel, there, -⟩ := (isUsable_iff _ _).1 usable
      exact ⟨channel, there⟩
    next unready =>
      cases handed
      refine ⟨pool.grows_visit.trans ?_, _, List.getElem?_concat_length⟩
      refine grows_rebuild (Bool.eq_false_iff.2 notClosed) fun sound => ?_
      have slot_eq : pool.cursor % pool.slots.length = slot := congrArg Prod.snd visit_eq
      have inside : slot < pool.slots.length := slot_eq ▸ Nat.mod_lt _ sound.slots_pos
      refine ⟨pool.slots[slot], List.getElem?_eq_getElem inside, ?_⟩
      rw [← Bool.not_eq_true]
      intro usable
      have ready := Option.filter_eq_some_iff.2 ⟨List.getElem?_eq_getElem inside, usable⟩
      exact absurd (unready.symm.trans ready) nofun

end ChannelPool

theorem Stub.channel_of_build {κ : Type} {service : String} {style : CallStyle} {channel : κ}
    {runtime : RuntimeKind} {stub : Stub κ}
    (built : Stub.build service style channel runtime = .ok stub) : stub.channel = channel := by
  unfold Stub.build at built
  split at built
  next => cases built
  next =>
    split at built
    next => cases built
    next =>
      cases built
      rfl

namespace Clients

variable {clients before after last : Clients}

/-! ## What others do with clients -/

/-- Clients whose pools lead to the endpoints that they are kept for. -/
structure Sound (clients : Clients) : Prop where
  aimed : ∀ pool ∈ clients.built, pool.Aimed
  kept : ∀ endpoint place, (endpoint, place) ∈ clients.table →
    ∃ set, clients.builtSets[place]? = some set ∧
      ∀ client ∈ set.pools, ∃ pool, clients.client? client = some pool ∧
        (pool.host, pool.port) = endpoint

/-- Clients are others some time later. -/
structure Grows (before after : Clients) : Prop where
  sound : before.Sound → after.Sound
  /-- Every pool that was built is kept until it is shut down. -/
  held : before.Held → after.Held
  client : ∀ place pool, before.client? place = some pool →
    ∃ grown, after.client? place = some grown ∧ pool.Grows grown

theorem sound_ofConfig (config : RpcConfig) : (ofConfig config).Sound where
  aimed pool mem := by cases mem
  kept endpoint place mem := by cases mem

theorem Grows.refl (clients : Clients) : clients.Grows clients :=
  ⟨id, id, fun _ pool there => ⟨pool, there, .refl pool⟩⟩

theorem Grows.trans (first : before.Grows after) (second : after.Grows last) :
    before.Grows last where
  sound sound := second.sound (first.sound sound)
  held held := second.held (first.held held)
  client place pool there := by
    obtain ⟨grown, still, grows⟩ := first.client place pool there
    obtain ⟨later, for_ever, grows_later⟩ := second.client place grown still
    exact ⟨later, for_ever, grows.trans grows_later⟩

/-- The channel that a reference names leads to where it led. -/
theorem Grows.target_eq (grows : before.Grows after) {ref : ChannelRef} {channel : Channel}
    (there : before.channel? ref = some channel) :
    ∃ still, after.channel? ref = some still ∧ still.target = channel.target := by
  obtain ⟨pool, pool_there, there⟩ := Option.bind_eq_some_iff.1 there
  obtain ⟨grown, pool_still, pool_grows⟩ := grows.client _ pool pool_there
  obtain ⟨still, channel_still, target_eq⟩ := pool_grows.target_eq there
  exact ⟨still, Option.bind_eq_some_iff.2 ⟨grown, pool_still, channel_still⟩, target_eq⟩

/-- Nothing is kept that was not kept before, and the sets hold what they held. -/
theorem Sound.mono (sound : before.Sound) (aimed : ∀ pool ∈ after.built, pool.Aimed)
    (client : ∀ place pool, before.client? place = some pool →
      ∃ grown, after.client? place = some grown ∧ pool.Grows grown)
    (table : after.table ⊆ before.table)
    (pools_eq : after.builtSets.map (·.pools) = before.builtSets.map (·.pools)) :
    after.Sound where
  aimed := aimed
  kept endpoint place mem := by
    obtain ⟨set, set_there, pools⟩ := sound.kept endpoint place (table mem)
    have pools_there : (after.builtSets.map (·.pools))[place]? = some set.pools := by
      rw [pools_eq, List.getElem?_map, set_there]
      rfl
    rw [List.getElem?_map, Option.map_eq_some_iff] at pools_there
    obtain ⟨now, now_there, same⟩ := pools_there
    refine ⟨now, now_there, fun place mem => ?_⟩
    obtain ⟨pool, pool_there, at_endpoint⟩ := pools place (same ▸ mem)
    obtain ⟨grown, grown_there, grows⟩ := client place pool pool_there
    exact ⟨grown, grown_there, by rw [grows.host_eq, grows.port_eq, at_endpoint]⟩

theorem grows_modify (clients : Clients) (place : Nat) {change : ChannelPool → ChannelPool}
    (grows : ∀ pool, clients.client? place = some pool → pool.Grows (change pool)) :
    clients.Grows { clients with built := clients.built.modify place change } := by
  have client : ∀ other pool, clients.client? other = some pool →
      ∃ grown, (clients.built.modify place change)[other]? = some grown ∧ pool.Grows grown := by
    intro other pool there
    rw [List.getElem?_modify, show clients.built[other]? = some pool from there]
    refine ⟨_, rfl, ?_⟩
    split
    next same => exact grows pool (same ▸ there)
    next => exact .refl pool
  have grown_mem : ∀ grown ∈ clients.built.modify place change,
      ∃ pool ∈ clients.built, pool.Grows grown := by
    intro grown mem
    obtain ⟨other, grown_there⟩ := List.mem_iff_getElem?.1 mem
    have old_there := grown_there
    rw [List.getElem?_modify] at old_there
    obtain ⟨pool, there, -⟩ := Option.map_eq_some_iff.1 old_there
    obtain ⟨same, same_there, grows⟩ := client other pool there
    cases Option.some.inj (grown_there.symm.trans same_there)
    exact ⟨pool, List.mem_of_getElem? there, grows⟩
  refine ⟨fun sound => sound.mono ?_ client (List.Subset.refl _) rfl, fun held => ?_, client⟩
  · intro grown mem
    obtain ⟨pool, pool_mem, grows⟩ := grown_mem grown mem
    exact grows.aimed (sound.aimed pool pool_mem)
  · have keeps : clients.Keeps { clients with built := clients.built.modify place change } :=
      ⟨List.length_modify .., rfl, rfl, rfl, rfl⟩
    refine keeps.held held (fun grown mem => ?_) fun other shut => ?_
    · obtain ⟨pool, pool_mem, grows⟩ := grown_mem grown mem
      exact grows.sound (held.sound pool pool_mem)
    · obtain ⟨pool, there, closed⟩ := shut
      obtain ⟨grown, grown_there, grows⟩ := client other pool there
      exact ⟨grown, grown_there, grows.closed closed⟩

theorem grows_setClient {place : Nat} {pool grown : ChannelPool}
    (there : clients.client? place = some pool) (grows : pool.Grows grown) :
    clients.Grows (clients.setClient place grown) := by
  rw [setClient, List.set_eq_modify]
  refine grows_modify clients place fun other other_there => ?_
  rwa [Option.some.inj (other_there.symm.trans there)]

theorem grows_modifyChannel (clients : Clients) (ref : ChannelRef) {change : Channel → Channel}
    (fades : Channel.Fades change) : clients.Grows (clients.modifyChannel ref change) :=
  grows_modify clients ref.client fun pool _ => pool.grows_modify ref.channel fades

theorem grows_shutdownChannel (clients : Clients) (ref : ChannelRef) :
    clients.Grows (clients.shutdownChannel ref).1 := by
  unfold shutdownChannel
  split
  next => exact .refl clients
  next pool there =>
    exact grows_setClient there (pool.grows_modify ref.channel Channel.fades_shutdown)

/-- What is kept does not depend on whether clients are closed. -/
theorem grows_mark (clients : Clients) (isClosed : Bool) :
    clients.Grows { clients with isClosed } :=
  have client := (Grows.refl clients).client
  ⟨fun sound => sound.mono sound.aimed client (List.Subset.refl _) rfl,
    fun held => ⟨held.sound, held.held⟩, client⟩

theorem grows_shutKept (clients : Clients) : clients.Grows clients.shutKept := by
  rw [shutKept]
  generalize clients.kept = kept
  induction kept generalizing clients with
  | nil => exact .refl clients
  | cons place rest induction =>
      have shut : clients.Grows (clients.shutdownClient place) :=
        grows_modify clients place fun pool _ => pool.grows_shutdown
      exact shut.trans (induction _)

theorem grows_close (clients : Clients) : clients.Grows clients.close := by
  have shut := (grows_mark clients true).trans (grows_shutKept clients.markClosed)
  have client := (Grows.refl clients.close).client
  refine ⟨fun sound => ?_, Held.close, shut.client⟩
  have shut_sound := shut.sound sound
  exact shut_sound.mono shut_sound.aimed client (List.nil_subset _) rfl

/-! ## Stubs -/

theorem grows_buildSet (clients : Clients) (endpoint : Endpoint) :
    clients.Grows (clients.buildSet endpoint) := by
  have client : ∀ place pool, clients.client? place = some pool →
      ∃ grown, (clients.buildSet endpoint).client? place = some grown ∧ pool.Grows grown :=
    fun place pool there => ⟨pool, by
      rw [client?] at there ⊢
      rw [buildSet, List.getElem?_append_left (List.getElem?_eq_some_iff.1 there).1, there],
      .refl pool⟩
  refine ⟨fun sound => ⟨?_, ?_⟩, fun held => held_buildSet held endpoint, client⟩
  · intro pool mem
    rcases List.mem_append.1 mem with old | new
    · exact sound.aimed pool old
    · rw [List.eq_of_mem_replicate new]
      exact ChannelPool.aimed_build _ _ _ _
  · intro other place mem
    rcases List.mem_append.1 mem with old | new
    · obtain ⟨set, set_there, pools⟩ := sound.kept other place old
      refine ⟨set, ?_, fun place mem => ?_⟩
      · rw [buildSet, List.getElem?_append_left (List.getElem?_eq_some_iff.1 set_there).1,
          set_there]
      · obtain ⟨pool, there, at_endpoint⟩ := pools place mem
        obtain ⟨grown, still, grows⟩ := client place pool there
        exact ⟨grown, still, by rw [grows.host_eq, grows.port_eq, at_endpoint]⟩
    · cases List.mem_singleton.1 new
      refine ⟨_, List.getElem?_concat_length, fun place mem => ?_⟩
      obtain ⟨index, index_mem, rfl⟩ := List.mem_map.1 mem
      refine ⟨ChannelPool.build endpoint.1 endpoint.2 clients.channelsPerClient
        clients.maxMessageSize, ?_, rfl⟩
      rw [client?, buildSet, List.getElem?_append_right (Nat.le_add_right _ _),
        Nat.add_sub_cancel_left, List.getElem?_replicate_of_lt (List.mem_range.1 index_mem)]

/-- The set of an endpoint is kept for it. -/
theorem grows_setFor (clients : Clients) (endpoint : Endpoint) :
    clients.Grows (clients.setFor endpoint).1 ∧
      (endpoint, (clients.setFor endpoint).2) ∈ (clients.setFor endpoint).1.table := by
  unfold setFor
  split
  next place found =>
    obtain ⟨before, after, table_eq, -⟩ := List.lookup_eq_some_iff.1 found
    exact ⟨.refl clients, by simp [table_eq]⟩
  next => exact ⟨grows_buildSet clients endpoint, by simp [buildSet]⟩

/-- What a set hands out is one of its clients. -/
theorem grows_takeFrom {taken : Clients} {place client : Nat}
    (handed : clients.takeFrom place = some (taken, client)) :
    clients.Grows taken ∧ taken.client? = clients.client? ∧
      ∃ set, clients.builtSets[place]? = some set ∧ client ∈ set.pools := by
  obtain ⟨keeps, -, -⟩ := keeps_takeFrom handed
  unfold takeFrom at handed
  split at handed
  next => cases handed
  next found =>
    cases handed
    obtain ⟨set, there, next⟩ := Option.bind_eq_some_iff.1 found
    have client := (Grows.refl clients).client
    refine ⟨⟨fun sound => ?_, fun held => ?_, client⟩, rfl, set, there, List.mem_of_getElem? next⟩
    · exact sound.mono sound.aimed client (List.Subset.refl _) keeps.setPools_eq
    · exact keeps.held held held.sound fun _ => id

/-- A client that is handed out is one of the endpoint. -/
theorem grows_getClient {taken : Clients} {host : String} {port : UInt16} {place : Nat}
    (handed : clients.getClient host port = .ok (taken, place)) :
    clients.Grows taken ∧ (clients.Sound →
      ∃ pool, taken.client? place = some pool ∧ pool.host = host ∧ pool.port = port) := by
  unfold getClient at handed
  split at handed
  next => cases handed
  next =>
    obtain ⟨set_grows, kept⟩ := grows_setFor clients (host, port)
    split at handed
    next with_set set_place set_eq =>
    rw [set_eq] at set_grows kept
    split at handed
    next => cases handed
    next taken_eq =>
      cases handed
      obtain ⟨grows, client?_eq, set, there, mem⟩ := grows_takeFrom taken_eq
      refine ⟨set_grows.trans grows, fun sound => ?_⟩
      obtain ⟨same, same_there, pools⟩ := (set_grows.sound sound).kept _ _ kept
      cases Option.some.inj (there.symm.trans same_there)
      obtain ⟨pool, pool_there, at_endpoint⟩ := pools place mem
      rw [client?_eq]
      exact ⟨pool, pool_there, congrArg Prod.fst at_endpoint, congrArg Prod.snd at_endpoint⟩

theorem grows_getChannel {taken : Clients} {place : Nat} {ref : ChannelRef}
    (handed : clients.getChannel place = .ok (taken, ref)) :
    clients.Grows taken ∧ ∀ pool, clients.client? place = some pool → pool.Aimed →
      ∃ channel, taken.channel? ref = some channel ∧
        channel.target = Channel.targetOf pool.host pool.port := by
  unfold getChannel at handed
  split at handed
  next => cases handed
  next pool there =>
    split at handed
    next => cases handed
    next served channel served_eq =>
      cases handed
      obtain ⟨grows, handed_out, channel_there⟩ := ChannelPool.grows_getChannel served_eq
      refine ⟨grows_setClient there grows, fun same same_there aimed => ?_⟩
      cases Option.some.inj (there.symm.trans same_there)
      refine ⟨handed_out, ?_, ?_⟩
      · have inside : place < clients.built.length := (List.getElem?_eq_some_iff.1 there).1
        simp [channel?, client?, setClient, List.getElem?_set_self inside, channel_there]
      · rw [← grows.host_eq, ← grows.port_eq]
        exact grows.aimed aimed handed_out (List.mem_of_getElem? channel_there)

/-- Asking for a stub leaves what was there, and a stub that is built leads to its endpoint. -/
theorem grows_getStub (clients : Clients) (service : String) (style : CallStyle) (host : String)
    (port : UInt16) (runtime : RuntimeKind) :
    clients.Grows (clients.getStub service style host port runtime).1 ∧
      ∀ stub, (clients.getStub service style host port runtime).2 = .ok stub → clients.Sound →
        ∃ channel, (clients.getStub service style host port runtime).1.channel? stub.channel =
          some channel ∧ channel.target = Channel.targetOf host port := by
  unfold getStub
  split
  next => exact ⟨.refl clients, nofun⟩
  next with_client place client_eq =>
    obtain ⟨client_grows, client⟩ := grows_getClient client_eq
    split
    next => exact ⟨client_grows, nofun⟩
    next with_channel ref channel_eq =>
      obtain ⟨channel_grows, channel⟩ := grows_getChannel channel_eq
      refine ⟨client_grows.trans channel_grows, fun stub built sound => ?_⟩
      have channel_of_stub : stub.channel = ref := Stub.channel_of_build built
      obtain ⟨pool, pool_there, rfl, rfl⟩ := client sound
      have aimed := (client_grows.sound sound).aimed pool (List.mem_of_getElem? pool_there)
      rw [channel_of_stub]
      exact channel pool pool_there aimed

/-- Whatever others do with clients, channels stay and lead to where they led. -/
theorem grows_step (clients : Clients) (event : Event) : clients.Grows (clients.step event) := by
  cases event with
  | getStub service style endpoint runtime => exact (grows_getStub clients _ _ _ _ _).1
  | channelShutdown ref => exact grows_shutdownChannel clients ref
  | callBegins ref size => exact grows_modifyChannel clients ref (Channel.fades_begin size)
  | callEnds ref => exact grows_modifyChannel clients ref Channel.fades_finish
  | close => exact grows_close clients
  | outage => exact grows_mark clients true
  | recovery => exact grows_mark clients false

theorem grows_run (clients : Clients) (events : List Event) :
    clients.Grows (clients.run events) := by
  induction events generalizing clients with
  | nil => exact .refl clients
  | cons event rest induction => exact (grows_step clients event).trans (induction _)

end Clients
end ClusterMember
