import ClusterMember.Proofs.Transport.ChannelPool
import ClusterMember.Transport.Clients.Callers
import Mathlib.Data.List.Basic
import Mathlib.Data.List.Induction

/-!
# Closing clients that are in use

Until the closing shuts the kept pools down, every pool that was built is kept, so that it shuts
them all.  A caller that has seen open clients before may still build a set after that: its pools
are never shut down, and when all has been forgotten already, its set is kept for ever.  Nothing
else goes wrong.
-/

namespace ClusterMember

namespace Clients

variable {clients before after : Clients}

/-- The built pool at a place hands out nothing any more. -/
def IsShut (clients : Clients) (place : Nat) : Prop :=
  ∃ pool, clients.client? place = some pool ∧ pool.isClosed = true

/-- Every pool that was built is kept. -/
def AllKept (clients : Clients) : Prop := ∀ place < clients.built.length, place ∈ clients.kept

/-- Every pool that was built is shut down. -/
def AllShut (clients : Clients) : Prop := ∀ place < clients.built.length, clients.IsShut place

theorem AllShut.of_built_eq (shut : before.AllShut) (built_eq : after.built = before.built) :
    after.AllShut := by
  unfold AllShut IsShut client? at *
  rwa [built_eq]

/-- The pools of all sets that were built. -/
def setPools (clients : Clients) : List (List Nat) := clients.builtSets.map ClientSet.pools

/-- The pools of the next set that is built. -/
def nextPools (clients : Clients) : List Nat :=
  (List.range clients.clientsPerHost).map (clients.built.length + ·)

/-- Sets are made of pools that were built, at least one. -/
structure Formed (clients : Clients) : Prop where
  bounded : ∀ pools ∈ clients.setPools, ∀ place ∈ pools, place < clients.built.length
  perHost : 0 < clients.clientsPerHost

/-- Nothing is built and nothing is forgotten. -/
structure Keeps (before after : Clients) : Prop where
  length_eq : after.built.length = before.built.length
  setPools_eq : after.setPools = before.setPools
  table_eq : after.table = before.table
  isClosed_eq : after.isClosed = before.isClosed
  perHost_eq : after.clientsPerHost = before.clientsPerHost

theorem Keeps.refl (clients : Clients) : clients.Keeps clients := ⟨rfl, rfl, rfl, rfl, rfl⟩

theorem mem_kept_iff (clients : Clients) (place : Nat) : place ∈ clients.kept ↔
    ∃ entry ∈ clients.table, ∃ pools, clients.setPools[entry.2]? = some pools ∧ place ∈ pools := by
  rw [kept, List.mem_flatMap]
  refine exists_congr fun entry => and_congr_right fun _ => ?_
  rw [setPools, List.getElem?_map]
  cases clients.builtSets[entry.2]? with
  | none => simp
  | some set => simp

theorem Keeps.mem_kept (keeps : before.Keeps after) {place : Nat} (mem : place ∈ before.kept) :
    place ∈ after.kept := by
  obtain ⟨entry, entry_mem, known⟩ := (mem_kept_iff before place).1 mem
  refine (mem_kept_iff after place).2 ⟨entry, ?_, ?_⟩
  · rwa [keeps.table_eq]
  · rwa [keeps.setPools_eq]

theorem Keeps.allKept (keeps : before.Keeps after) (kept : before.AllKept) : after.AllKept := by
  intro place small
  rw [keeps.length_eq] at small
  exact keeps.mem_kept (kept place small)

theorem Keeps.formed (keeps : before.Keeps after) (formed : before.Formed) : after.Formed where
  bounded pools mem place pool_mem := by
    rw [keeps.setPools_eq] at mem
    rw [keeps.length_eq]
    exact formed.bounded pools mem place pool_mem
  perHost := by
    rw [keeps.perHost_eq]
    exact formed.perHost

/-- Taking a client from a set changes nothing but its turn. -/
theorem keeps_takeFrom {set place : Nat} (taken : clients.takeFrom set = some (after, place)) :
    clients.Keeps after ∧ after.built = clients.built ∧
      ∃ pools ∈ clients.setPools, place ∈ pools := by
  unfold takeFrom at taken
  split at taken
  next => cases taken
  next pool found =>
    cases taken
    obtain ⟨known, there, next⟩ := Option.bind_eq_some_iff.1 found
    refine ⟨⟨rfl, ?_, rfl, rfl, rfl⟩, rfl, known.pools, ?_, List.mem_of_getElem? next⟩
    · refine List.ext_getElem? fun index => ?_
      simp only [setPools, List.getElem?_map, List.getElem?_modify]
      split <;> cases clients.builtSets[index]? <;> rfl
    · exact List.mem_map_of_mem (List.mem_of_getElem? there)

/-! ## Building -/

theorem mem_nextPools_iff (clients : Clients) (place : Nat) : place ∈ clients.nextPools ↔
    clients.built.length ≤ place ∧ place < clients.built.length + clients.clientsPerHost := by
  simp only [nextPools, List.mem_map, List.mem_range]
  constructor
  · rintro ⟨index, small, rfl⟩
    omega
  · rintro ⟨lower, upper⟩
    exact ⟨place - clients.built.length, by omega, by omega⟩

theorem setPools_buildSet (clients : Clients) (endpoint : Endpoint) :
    (clients.buildSet endpoint).setPools = clients.setPools ++ [clients.nextPools] := by
  rw [setPools, buildSet, List.map_append]
  rfl

theorem length_built_buildSet (clients : Clients) (endpoint : Endpoint) :
    (clients.buildSet endpoint).built.length =
      clients.built.length + clients.clientsPerHost := by
  rw [buildSet, List.length_append, List.length_replicate]

/-- A set that is built is kept, and what is kept stays so. -/
theorem mem_kept_buildSet (endpoint : Endpoint) {place : Nat}
    (known : place ∈ clients.kept ∨ place ∈ clients.nextPools) :
    place ∈ (clients.buildSet endpoint).kept := by
  refine (mem_kept_iff _ place).2 ?_
  rw [setPools_buildSet]
  rcases known with old | new
  · obtain ⟨entry, mem, pools, there, pool_mem⟩ := (mem_kept_iff clients place).1 old
    refine ⟨entry, List.mem_append_left _ mem, pools, ?_, pool_mem⟩
    rw [List.getElem?_append_left (List.getElem?_eq_some_iff.1 there).1, there]
  · refine ⟨(endpoint, clients.builtSets.length), List.mem_append_right _ List.mem_cons_self,
      clients.nextPools, ?_, new⟩
    rw [setPools, ← List.length_map ClientSet.pools, List.getElem?_concat_length]

/-- A pool of clients that build a set is one that there was or one of the set. -/
theorem old_or_next {place : Nat} {endpoint : Endpoint}
    (small : place < (clients.buildSet endpoint).built.length) :
    place < clients.built.length ∨ place ∈ clients.nextPools := by
  rw [length_built_buildSet] at small
  rw [mem_nextPools_iff]
  omega

theorem allKept_buildSet (kept : clients.AllKept) (endpoint : Endpoint) :
    (clients.buildSet endpoint).AllKept := by
  intro place small
  apply mem_kept_buildSet endpoint
  exact (old_or_next small).imp_left (kept place)

theorem formed_buildSet (formed : clients.Formed) (endpoint : Endpoint) :
    (clients.buildSet endpoint).Formed where
  bounded pools mem place pool_mem := by
    rw [setPools_buildSet] at mem
    rw [length_built_buildSet]
    rcases List.mem_append.1 mem with old | new
    · have small := formed.bounded pools old place pool_mem
      omega
    · rw [List.mem_singleton.1 new] at pool_mem
      exact ((mem_nextPools_iff clients place).1 pool_mem).2
  perHost := formed.perHost

/-- A set is built with pools that are not shut down. -/
theorem exists_open_buildSet (formed : clients.Formed) (endpoint : Endpoint) :
    ∃ pool ∈ (clients.buildSet endpoint).built, pool.isClosed = false := by
  refine ⟨ChannelPool.build endpoint.1 endpoint.2 clients.channelsPerClient clients.maxMessageSize,
    List.mem_append_right _ ?_, rfl⟩
  exact List.mem_replicate.2 ⟨Nat.pos_iff_ne_zero.1 formed.perHost, rfl⟩

/-! ## Shutting down -/

theorem isShut_shutdownClient {place other : Nat}
    (known : clients.IsShut other ∨ other = place ∧ other < clients.built.length) :
    (clients.shutdownClient place).IsShut other := by
  simp only [IsShut, client?, shutdownClient, List.getElem?_modify] at known ⊢
  rcases known with ⟨pool, there, closed⟩ | ⟨rfl, small⟩
  · rw [there]
    split
    next => exact ⟨_, rfl, pool.isClosed_shutdown⟩
    next => exact ⟨pool, rfl, closed⟩
  · rw [List.getElem?_eq_getElem small]
    exact ⟨_, rfl, by simp [ChannelPool.isClosed_shutdown]⟩

theorem keeps_shutAll (clients : Clients) (places : List Nat) :
    clients.Keeps (places.foldl shutdownClient clients) ∧
      ∀ place, (clients.IsShut place ∨ place ∈ places ∧ place < clients.built.length) →
        (places.foldl shutdownClient clients).IsShut place := by
  induction places generalizing clients with
  | nil => exact ⟨.refl clients, fun place known => by simpa using known⟩
  | cons first rest induction =>
      obtain ⟨keeps, rest_shut⟩ := induction (clients.shutdownClient first)
      have length_eq : (clients.shutdownClient first).built.length = clients.built.length := by
        rw [shutdownClient, List.length_modify]
      refine ⟨⟨keeps.length_eq.trans length_eq, keeps.setPools_eq, keeps.table_eq,
        keeps.isClosed_eq, keeps.perHost_eq⟩, fun place known => rest_shut place ?_⟩
      rw [length_eq]
      rcases known with shut | ⟨mem, small⟩
      · exact .inl (isShut_shutdownClient (.inl shut))
      · rcases List.mem_cons.1 mem with eq | later
        · exact .inl (isShut_shutdownClient (.inr ⟨eq, small⟩))
        · exact .inr ⟨later, small⟩

theorem keeps_shutKept (clients : Clients) : clients.Keeps clients.shutKept :=
  (keeps_shutAll clients clients.kept).1

/-- When every pool is kept, all are shut down. -/
theorem allShut_shutKept (kept : clients.AllKept) : clients.shutKept.AllShut := by
  intro place small
  rw [(keeps_shutKept clients).length_eq] at small
  exact (keeps_shutAll clients clients.kept).2 place (.inr ⟨kept place small, small⟩)

/-! ## Pools that are kept until they are shut down -/

/-- Every pool that was built is kept unless it was shut down. -/
structure Held (clients : Clients) : Prop where
  /-- The channels of a pool that take calls are in its slots, where its shutdown finds them. -/
  sound : ∀ pool ∈ clients.built, pool.Sound
  held : ∀ place < clients.built.length, clients.IsShut place ∨ place ∈ clients.kept

/-- Every pool that was built is shut down, and no channel of it takes calls. -/
def Silent (clients : Clients) : Prop :=
  ∀ pool ∈ clients.built, pool.isClosed = true ∧ ∀ place, pool.isUsable place = false

theorem held_ofConfig (config : RpcConfig) : (ofConfig config).Held where
  sound pool mem := by cases mem
  held place small := absurd small (Nat.not_lt_zero place)

theorem Keeps.held (keeps : before.Keeps after) (held : before.Held)
    (sound : ∀ pool ∈ after.built, pool.Sound)
    (shut : ∀ place, before.IsShut place → after.IsShut place) : after.Held where
  sound := sound
  held place small := by
    rw [keeps.length_eq] at small
    exact (held.held place small).imp (shut place) keeps.mem_kept

theorem held_buildSet (held : clients.Held) (endpoint : Endpoint) :
    (clients.buildSet endpoint).Held where
  sound pool mem := by
    rcases List.mem_append.1 mem with old | new
    · exact held.sound pool old
    · rw [List.eq_of_mem_replicate new]
      exact ChannelPool.sound_build _ _ _ _
  held place small := by
    rcases old_or_next small with old | new
    · refine (held.held place old).imp ?_ fun kept => mem_kept_buildSet endpoint (.inl kept)
      rintro ⟨pool, there, closed⟩
      exact ⟨pool, (List.getElem?_append_left old).trans there, closed⟩
    · exact .inr (mem_kept_buildSet endpoint (.inr new))

theorem sound_shutAll (clients : Clients) (places : List Nat)
    (sound : ∀ pool ∈ clients.built, pool.Sound) :
    ∀ pool ∈ (places.foldl shutdownClient clients).built, pool.Sound := by
  induction places generalizing clients with
  | nil => exact sound
  | cons first rest induction =>
      apply induction
      intro pool mem
      obtain ⟨place, there⟩ := List.mem_iff_getElem?.1 mem
      rw [shutdownClient, List.getElem?_modify] at there
      obtain ⟨old, old_there, rfl⟩ := Option.map_eq_some_iff.1 there
      have old_sound := sound old (List.mem_of_getElem? old_there)
      split
      next => exact old_sound.shutdown
      next => exact old_sound

/-- When the clients are closed, every pool is shut down, whether it was kept or not. -/
theorem Held.silent_close (held : clients.Held) : clients.close.Silent := by
  intro pool mem
  have pool_sound := sound_shutAll clients.markClosed clients.markClosed.kept held.sound pool mem
  obtain ⟨keeps, shut⟩ := keeps_shutAll clients.markClosed clients.markClosed.kept
  obtain ⟨place, there⟩ := List.mem_iff_getElem?.1 mem
  have small : place < clients.built.length :=
    keeps.length_eq ▸ (List.getElem?_eq_some_iff.1 there).1
  have known : clients.markClosed.IsShut place ∨
      place ∈ clients.markClosed.kept ∧ place < clients.built.length :=
    (held.held place small).imp_right fun kept => ⟨kept, small⟩
  obtain ⟨same, same_there, closed⟩ := shut place known
  cases Option.some.inj (there.symm.trans same_there)
  exact ⟨closed, pool_sound.closed closed⟩

theorem Held.close (held : clients.Held) : clients.close.Held where
  sound := sound_shutAll clients.markClosed clients.markClosed.kept held.sound
  held place small := by
    have mem := List.getElem_mem small
    exact .inl ⟨_, List.getElem?_eq_getElem small, (held.silent_close _ mem).1⟩

end Clients

namespace ClientCrowd

open Clients

variable {crowd next : ClientCrowd}

/-! ## One step -/

/-- What a step of a caller does to the clients: a caller that found no set builds one when none is
kept by then, and nothing else is built. -/
theorem stepAsker_cases {clients after : Clients} {asker : Asker} {phase : AskerPhase}
    (stepped : stepAsker clients asker = some (after, phase)) :
    (asker.phase = .missing ∧ clients.place? asker.endpoint = none ∧
        after = clients.buildSet asker.endpoint ∧ ∀ place, phase ≠ .returned (some place)) ∨
      clients.Keeps after ∧ after.built = clients.built ∧
        ∀ place, phase = .returned (some place) → ∃ pools ∈ clients.setPools, place ∈ pools := by
  unfold stepAsker at stepped
  split at stepped
  next =>
    cases stepped
    refine .inr ⟨.refl clients, rfl, fun place eq => ?_⟩
    split at eq <;> cases eq
  next =>
    cases stepped
    refine .inr ⟨.refl clients, rfl, fun place eq => ?_⟩
    cases known : clients.place? asker.endpoint <;> rw [known] at eq <;> cases eq
  next missing =>
    unfold setFor at stepped
    cases known : clients.place? asker.endpoint with
    | some place =>
        rw [known] at stepped
        cases stepped
        exact .inr ⟨.refl clients, rfl, nofun⟩
    | none =>
        rw [known] at stepped
        cases stepped
        exact .inl ⟨missing, rfl, rfl, nofun⟩
  next set =>
    split at stepped
    next =>
      cases stepped
      exact .inr ⟨.refl clients, rfl, nofun⟩
    next taken place found =>
      cases stepped
      obtain ⟨keeps, built_eq, known⟩ := keeps_takeFrom found
      refine .inr ⟨keeps, built_eq, fun other eq => ?_⟩
      cases eq
      exact known
  next => cases stepped

/-- The three steps of the closing. -/
theorem stepClosing_cases {clients after : Clients} {closing later : ClosingPhase}
    (stepped : stepClosing clients closing = some (after, later)) :
    (closing = .begun ∧ after = clients.markClosed ∧ later = .marked) ∨
      (closing = .marked ∧ after = clients.shutKept ∧ later = .shut) ∨
        closing = .shut ∧ after = clients.forgetAll ∧ later = .returned := by
  cases closing with
  | begun =>
      cases stepped
      exact .inl ⟨rfl, rfl, rfl⟩
  | marked =>
      cases stepped
      exact .inr (.inl ⟨rfl, rfl, rfl⟩)
  | shut =>
      cases stepped
      exact .inr (.inr ⟨rfl, rfl, rfl⟩)
  | returned => cases stepped

/-- What a step is: one of a caller, or the next of the closing. -/
theorem step_cases {step : ClientStep} (stepped : crowd.step step = some next) :
    (∃ number asker clients phase, step = .asker number ∧ crowd.askers[number]? = some asker ∧
        stepAsker crowd.clients asker = some (clients, phase) ∧
        next = { crowd with clients, askers := crowd.askers.set number { asker with phase } }) ∨
      step = .closing ∧ ∃ clients closing,
        stepClosing crowd.clients crowd.closing = some (clients, closing) ∧
        next = { crowd with clients, closing } := by
  cases step with
  | asker number =>
      obtain ⟨asker, there, rest⟩ := Option.bind_eq_some_iff.1 stepped
      obtain ⟨⟨clients, phase⟩, asker_eq, next_eq⟩ := Option.bind_eq_some_iff.1 rest
      cases next_eq
      exact .inl ⟨number, asker, clients, phase, rfl, there, asker_eq, rfl⟩
  | closing =>
      obtain ⟨⟨clients, closing⟩, closing_eq, next_eq⟩ := Option.bind_eq_some_iff.1 stepped
      cases next_eq
      exact .inr ⟨rfl, clients, closing, closing_eq, rfl⟩

/-- What is the case in a crowd at any time. -/
structure Sound (crowd : ClientCrowd) : Prop where
  formed : crowd.clients.Formed
  /-- Whoever was handed a pool was handed one that was built. -/
  handed : ∀ asker ∈ crowd.askers, ∀ place, asker.phase = .returned (some place) →
    place < crowd.clients.built.length

/-- How far the closing has come, as long as nobody builds after it has shut the pools down. -/
def Orderly (crowd : ClientCrowd) : Prop :=
  match crowd.closing with
  | .begun => crowd.clients.AllKept
  | .marked => crowd.clients.AllKept
  | .shut => crowd.clients.AllShut
  | .returned => crowd.clients.AllShut ∧ crowd.clients.table = []

/-- The closing has shut the kept pools down. -/
def IsPast (crowd : ClientCrowd) : Prop := crowd.closing = .shut ∨ crowd.closing = .returned

/-- The closing has shut the kept pools down, but not all that were built. -/
def Leaks (crowd : ClientCrowd) : Prop :=
  crowd.IsPast ∧ ∃ pool ∈ crowd.clients.built, pool.isClosed = false

/-- A caller builds a set when it goes on, after the closing has shut the kept pools down. -/
def BuildsLate (crowd : ClientCrowd) (number : Nat) : Prop :=
  crowd.IsPast ∧ ∃ asker, crowd.askers[number]? = some asker ∧ asker.phase = .missing ∧
    crowd.clients.place? asker.endpoint = none

theorem sound_step (sound : crowd.Sound) {step : ClientStep}
    (stepped : crowd.step step = some next) : next.Sound := by
  rcases step_cases stepped with
    ⟨number, asker, clients, phase, -, there, asker_eq, rfl⟩ | ⟨-, clients, closing, closing_eq, rfl⟩
  · rcases stepAsker_cases asker_eq with ⟨-, -, rfl, nothing⟩ | ⟨keeps, built_eq, known⟩
    · refine ⟨formed_buildSet sound.formed asker.endpoint, fun other mem place eq => ?_⟩
      rcases List.mem_or_eq_of_mem_set mem with old | rfl
      · have small := sound.handed other old place eq
        simp only [length_built_buildSet]
        omega
      · exact absurd eq (nothing place)
    · refine ⟨keeps.formed sound.formed, fun other mem place eq => ?_⟩
      simp only [built_eq]
      rcases List.mem_or_eq_of_mem_set mem with old | rfl
      · exact sound.handed other old place eq
      · obtain ⟨pools, pools_mem, mem⟩ := known place eq
        exact sound.formed.bounded pools pools_mem place mem
  · obtain ⟨length_eq, formed⟩ : clients.built.length = crowd.clients.built.length ∧
        clients.Formed := by
      rcases stepClosing_cases closing_eq with ⟨-, rfl, -⟩ | ⟨-, rfl, -⟩ | ⟨-, rfl, -⟩
      · exact ⟨rfl, sound.formed.bounded, sound.formed.perHost⟩
      · have keeps := keeps_shutKept crowd.clients
        exact ⟨keeps.length_eq, keeps.formed sound.formed⟩
      · exact ⟨rfl, sound.formed.bounded, sound.formed.perHost⟩
    refine ⟨formed, fun other mem place eq => ?_⟩
    simp only [length_eq]
    exact sound.handed other mem place eq

theorem orderly_step (orderly : crowd.Orderly) {step : ClientStep}
    (stepped : crowd.step step = some next)
    (punctual : ∀ number, step = .asker number → ¬ crowd.BuildsLate number) : next.Orderly := by
  rcases step_cases stepped with
    ⟨number, asker, clients, phase, rfl, there, asker_eq, rfl⟩ |
      ⟨-, clients, closing, closing_eq, rfl⟩
  · unfold Orderly at *
    rcases stepAsker_cases asker_eq with ⟨missing, absent, rfl, -⟩ | ⟨keeps, built_eq, -⟩
    · have early : ¬ crowd.IsPast := fun past =>
        punctual number rfl ⟨past, asker, there, missing, absent⟩
      cases at_closing : crowd.closing <;> rw [at_closing] at orderly
      case begun => exact allKept_buildSet orderly asker.endpoint
      case marked => exact allKept_buildSet orderly asker.endpoint
      case shut => exact absurd (.inl at_closing) early
      case returned => exact absurd (.inr at_closing) early
    · cases at_closing : crowd.closing <;> rw [at_closing] at orderly
      case begun => exact keeps.allKept orderly
      case marked => exact keeps.allKept orderly
      case shut => exact orderly.of_built_eq built_eq
      case returned => exact ⟨orderly.1.of_built_eq built_eq, keeps.table_eq.trans orderly.2⟩
  · rcases stepClosing_cases closing_eq with
      ⟨at_closing, rfl, rfl⟩ | ⟨at_closing, rfl, rfl⟩ | ⟨at_closing, rfl, rfl⟩
    · rw [Orderly, at_closing] at orderly
      exact orderly
    · rw [Orderly, at_closing] at orderly
      exact allShut_shutKept orderly
    · rw [Orderly, at_closing] at orderly
      exact ⟨orderly, rfl⟩

theorem leaks_step (leaks : crowd.Leaks) {step : ClientStep}
    (stepped : crowd.step step = some next) : next.Leaks := by
  obtain ⟨past, pool, mem, opened⟩ := leaks
  rcases step_cases stepped with
    ⟨number, asker, clients, phase, -, -, asker_eq, rfl⟩ | ⟨-, clients, closing, closing_eq, rfl⟩
  · refine ⟨past, pool, ?_, opened⟩
    rcases stepAsker_cases asker_eq with ⟨-, -, rfl, -⟩ | ⟨-, built_eq, -⟩
    · exact List.mem_append_left _ mem
    · rwa [built_eq]
  · rcases past with shut | returned
    · rw [shut] at closing_eq
      cases closing_eq
      exact ⟨.inr rfl, pool, mem, opened⟩
    · rw [returned] at closing_eq
      cases closing_eq

/-- A set that is built late is left with pools that are not shut down. -/
theorem leaks_of_buildsLate (sound : crowd.Sound) {number : Nat} (late : crowd.BuildsLate number) :
    ∃ next, crowd.step (.asker number) = some next ∧ next.Leaks := by
  obtain ⟨past, asker, there, missing, absent⟩ := late
  obtain ⟨pool, mem, opened⟩ := exists_open_buildSet sound.formed asker.endpoint
  have asker_eq : stepAsker crowd.clients asker =
      some (crowd.clients.buildSet asker.endpoint, .holding crowd.clients.builtSets.length) := by
    rw [stepAsker, missing]
    simp only [setFor, absent]
  let next : ClientCrowd :=
    { crowd with
      clients := crowd.clients.buildSet asker.endpoint
      askers := crowd.askers.set number
        { asker with phase := .holding crowd.clients.builtSets.length } }
  refine ⟨next, ?_, past, pool, mem, opened⟩
  simp only [step, there, Option.bind_eq_bind, Option.bind_some, asker_eq]
  rfl

/-! ## A whole run -/

theorem run_cons (crowd : ClientCrowd) (step : ClientStep) (rest : List ClientStep) :
    crowd.run (step :: rest) = ((crowd.step step).getD crowd).run rest := rfl

theorem run_append (crowd : ClientCrowd) (first second : List ClientStep) :
    crowd.run (first ++ second) = (crowd.run first).run second :=
  List.foldl_append

/-- What every step of a run keeps holds after each first part of it. -/
theorem run_keeps {holds : ClientCrowd → Prop} {steps : List ClientStep} (start : holds crowd)
    (keeps : ∀ earlier step later next, steps = earlier ++ step :: later →
      holds (crowd.run earlier) → (crowd.run earlier).step step = some next → holds next) :
    ∀ earlier later, steps = earlier ++ later → holds (crowd.run earlier) := by
  intro earlier
  induction earlier using List.reverseRecOn with
  | nil => exact fun _ _ => start
  | append_singleton earlier step induction =>
      intro later split_eq
      rw [List.append_assoc, List.singleton_append] at split_eq
      have known := induction _ split_eq
      rw [run_append, run_cons]
      cases stepped : (crowd.run earlier).step step with
      | none => exact known
      | some next => exact keeps earlier step later next split_eq known stepped

theorem sound_run (sound : crowd.Sound) (steps : List ClientStep) : (crowd.run steps).Sound := by
  refine run_keeps sound ?_ steps [] (List.append_nil steps).symm
  intro earlier step later next _ known stepped
  exact sound_step known stepped

theorem leaks_run (leaks : crowd.Leaks) (steps : List ClientStep) : (crowd.run steps).Leaks := by
  refine run_keeps leaks ?_ steps [] (List.append_nil steps).symm
  intro earlier step later next _ known stepped
  exact leaks_step known stepped

/-- No caller builds a set after the closing has shut the kept pools down. -/
def Punctual (crowd : ClientCrowd) (steps : List ClientStep) : Prop :=
  ∀ earlier number later, steps = earlier ++ .asker number :: later →
    ¬ (crowd.run earlier).BuildsLate number

theorem orderly_run (orderly : crowd.Orderly) {steps : List ClientStep}
    (punctual : crowd.Punctual steps) : (crowd.run steps).Orderly := by
  refine run_keeps orderly ?_ steps [] (List.append_nil steps).symm
  intro earlier step later next split_eq known stepped
  refine orderly_step known stepped fun number eq => ?_
  rw [eq] at split_eq
  exact punctual earlier number later split_eq

/-- Nothing is left of the clients. -/
structure Emptied (crowd : ClientCrowd) : Prop where
  /-- Every pool that was ever built is shut down. -/
  shut : ∀ pool ∈ crowd.clients.built, pool.isClosed = true
  /-- So is every pool that was handed out. -/
  handed : ∀ asker ∈ crowd.askers, ∀ place, asker.phase = .returned (some place) →
    ∃ pool, crowd.clients.client? place = some pool ∧ pool.isClosed = true
  /-- No set is kept. -/
  forgotten : crowd.clients.table = []

theorem sound_gather (maxMessageSize channels clients : Nat) (endpoints : List Endpoint) :
    (gather (.empty maxMessageSize channels clients) endpoints).Sound where
  formed := ⟨nofun, Nat.lt_of_lt_of_le Nat.zero_lt_one (Nat.le_max_right clients 1)⟩
  handed asker mem place eq := by
    obtain ⟨endpoint, -, rfl⟩ := List.mem_map.1 mem
    cases eq

theorem orderly_gather (maxMessageSize channels clients : Nat) (endpoints : List Endpoint) :
    (gather (.empty maxMessageSize channels clients) endpoints).Orderly :=
  fun _ small => absurd small (Nat.not_lt_zero _)

/-- Once all callers and the closing are done, nothing is left of the clients exactly when no caller
has built a set after the closing had shut the kept pools down. -/
theorem emptied_iff_punctual (maxMessageSize channels clients : Nat) (endpoints : List Endpoint)
    (steps : List ClientStep)
    (settled : ((gather (.empty maxMessageSize channels clients) endpoints).run steps).isOver = true) :
    ((gather (.empty maxMessageSize channels clients) endpoints).run steps).Emptied ↔
      (gather (.empty maxMessageSize channels clients) endpoints).Punctual steps := by
  have sound := sound_gather maxMessageSize channels clients endpoints
  constructor
  · intro emptied earlier number later split_eq late
    obtain ⟨next, stepped, leaks⟩ := leaks_of_buildsLate (sound_run sound earlier) late
    have left := leaks_run leaks later
    have run_eq : (gather (.empty maxMessageSize channels clients) endpoints).run steps =
        next.run later := by
      rw [split_eq, run_append, run_cons, stepped]
      rfl
    rw [← run_eq] at left
    obtain ⟨-, pool, mem, opened⟩ := left
    exact Bool.false_ne_true (opened.symm.trans (emptied.shut pool mem))
  · intro punctual
    have orderly := orderly_run (orderly_gather maxMessageSize channels clients endpoints) punctual
    have ended : ((gather (.empty maxMessageSize channels clients) endpoints).run steps).closing =
        .returned := by
      simp only [isOver, decide_eq_true_eq] at settled
      exact settled.1
    rw [Orderly, ended] at orderly
    obtain ⟨all_shut, forgotten⟩ := orderly
    refine ⟨fun pool mem => ?_, fun asker mem place eq => ?_, forgotten⟩
    · obtain ⟨place, small, rfl⟩ := List.mem_iff_getElem.1 mem
      obtain ⟨known, there, closed⟩ := all_shut place small
      rw [client?, List.getElem?_eq_getElem small] at there
      cases there
      exact closed
    · exact all_shut place ((sound_run sound steps).handed asker mem place eq)

/-- Two callers, of which one is done before the closing and the other comes after it. -/
theorem emptied_iff_punctual_late_caller :
    let crowd := gather (.empty 1024 2 2) [("index", 10050), ("index", 10050)]
    let steps : List ClientStep :=
      [.asker 0, .asker 0, .asker 0, .asker 0, .closing, .closing, .closing, .asker 1]
    (crowd.run steps).isOver = true ∧ ((crowd.run steps).Emptied ↔ crowd.Punctual steps) :=
  have settled : ((gather (.empty 1024 2 2) [("index", 10050), ("index", 10050)]).run
      [.asker 0, .asker 0, .asker 0, .asker 0, .closing, .closing, .closing, .asker 1]).isOver =
        true := by decide
  ⟨settled, emptied_iff_punctual 1024 2 2 _ _ settled⟩

/-- A caller that has seen open clients goes on when they are closed: it builds a set that is kept
for ever, and is handed a pool of it that is not shut down. -/
theorem not_emptied_admitted_caller :
    let crowd := (gather (.empty 1024 1 1) [("index", 10050)]).run
      [.asker 0, .closing, .closing, .closing, .asker 0, .asker 0, .asker 0]
    crowd.isOver = true ∧ ¬ crowd.Emptied ∧ crowd.clients.cachedHosts = 1 ∧
      crowd.askers = [⟨("index", 10050), .returned (some 0)⟩] ∧
      (crowd.clients.client? 0).map (·.isClosed) = some false := by
  refine ⟨by decide, fun emptied => ?_, by decide, by decide, by decide⟩
  exact absurd emptied.forgotten (by decide)

end ClientCrowd
end ClusterMember
