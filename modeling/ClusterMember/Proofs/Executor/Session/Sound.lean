import ClusterMember.Proofs.Executor.Session.Later
import ClusterMember.Proofs.Executor.Table
import Mathlib.Logic.Relation

/-!
# Sound cores

A pool holds exactly the unfinished tasks that stand in it, and each task stands where it can.  All
moves keep this up.
-/

namespace ClusterMember

variable {α : Type}

/-- A pool knows the unfinished tasks that stand in it. -/
structure Pool.Agrees (pool : Pool) (place : Nat) (standing? : Nat → Option (Standing α)) :
    Prop where
  balanced : pool.Balanced
  max_pos : 0 < pool.descriptor.max
  holds_iff : ∀ id, pool.Holds id ↔
    ∃ type body, standing? id = some ⟨type, .pool place body, none⟩
  /-- Its guests run with their submitters. -/
  hosted : ∀ id, pool.Hosts id →
    ∃ type host body result, standing? id = some ⟨type, .caller place host body, result⟩
  hosts : ∀ id type host body, standing? id = some ⟨type, .caller place host body, none⟩ →
    pool.Hosts id

namespace Pool.Agrees

variable {pool after : Pool} {place : Nat} {standing? : Nat → Option (Standing α)}

/-- No guest holds a permit. -/
theorem apart (agrees : pool.Agrees place standing?) (id : Nat) (held : pool.Holds id) :
    ¬pool.Hosts id := by
  intro hosted
  obtain ⟨type, body, known⟩ := (agrees.holds_iff id).1 held
  obtain ⟨guestType, host, guest, result, known_guest⟩ := agrees.hosted id hosted
  cases known.symm.trans known_guest

/-- The pool has changed without its tasks. -/
theorem congr (agrees : pool.Agrees place standing?)
    (descriptor_eq : after.descriptor = pool.descriptor) (balanced : after.Balanced)
    (holds : ∀ id, after.Holds id ↔ pool.Holds id) (hosts : ∀ id, after.Hosts id ↔ pool.Hosts id) :
    after.Agrees place standing? where
  balanced := balanced
  max_pos := descriptor_eq ▸ agrees.max_pos
  holds_iff id := (holds id).trans (agrees.holds_iff id)
  hosted id hosted := agrees.hosted id ((hosts id).1 hosted)
  hosts id type host body known := (hosts id).2 (agrees.hosts id type host body known)

/-- The pool and the standing of one task have changed together. -/
theorem update (agrees : pool.Agrees place standing?) {id : Nat} {standing : Standing α}
    (descriptor_eq : after.descriptor = pool.descriptor) (balanced : after.Balanced)
    (others : ∀ other, other ≠ id →
      (after.Holds other ↔ pool.Holds other) ∧ (after.Hosts other ↔ pool.Hosts other))
    (holds_iff : after.Holds id ↔ ∃ type body, standing = ⟨type, .pool place body, none⟩)
    (hosted : after.Hosts id →
      ∃ type host body result, standing = ⟨type, .caller place host body, result⟩)
    (hosts : ∀ type host body, standing = ⟨type, .caller place host body, none⟩ →
      after.Hosts id) :
    after.Agrees place (Function.update standing? id (some standing)) where
  balanced := balanced
  max_pos := descriptor_eq ▸ agrees.max_pos
  holds_iff other := by
    rw [Function.update_apply]
    split
    next eq => simpa [eq] using holds_iff
    next ne => exact (others other ne).1.trans (agrees.holds_iff other)
  hosted other hosts_other := by
    rw [Function.update_apply]
    split
    next eq => simpa using hosted (eq ▸ hosts_other)
    next ne => exact agrees.hosted other ((others other ne).2.1 hosts_other)
  hosts other type host body known := by
    rw [Function.update_apply] at known
    split at known
    next eq => exact eq ▸ hosts type host body (Option.some.inj known)
    next ne => exact (others other ne).2.2 (agrees.hosts other type host body known)

/-- A task changes that does not stand in the pool, neither before nor after. -/
theorem update_outside (agrees : pool.Agrees place standing?) {id : Nat} {standing : Standing α}
    (notHeld : ¬pool.Holds id) (notHosted : ¬pool.Hosts id)
    (elsewhere : standing.site.place? ≠ some place ∨ standing.result ≠ none) :
    pool.Agrees place (Function.update standing? id (some standing)) := by
  refine agrees.update rfl agrees.balanced (fun _ _ => ⟨Iff.rfl, Iff.rfl⟩)
    (iff_of_false notHeld ?_) (fun hosted => absurd hosted notHosted) ?_
  · rintro ⟨type, body, rfl⟩
    exact elsewhere.elim (fun ne => ne rfl) fun ne => ne rfl
  · rintro type host body rfl
    exact (elsewhere.elim (fun ne => ne rfl) fun ne => ne rfl).elim

/-- The pool forgets a task, which has its result. -/
theorem forgets (agrees : pool.Agrees place standing?) {id : Nat} (forgets : pool.Forgets id after)
    (type : ExecutorType) (site : Site α) (result : Except Error α) :
    after.Agrees place (Function.update standing? id (some ⟨type, site, some result⟩)) := by
  refine agrees.update forgets.descriptor_eq (forgets.balanced agrees.balanced)
    (fun other ne => ?_) (iff_of_false ?_ ?_) ?_ ?_
  · rw [Pool.Holds, Pool.Hosts, forgets.phase?_eq, forgets.guestPhase?_eq, if_neg ne, if_neg ne]
    exact ⟨Iff.rfl, Iff.rfl⟩
  · rw [Pool.Holds, forgets.phase?_eq, if_pos rfl]
    exact Bool.false_ne_true
  · rintro ⟨_, _, eq⟩
    cases eq
  · intro hosts
    rw [Pool.Hosts, forgets.guestPhase?_eq, if_pos rfl] at hosts
    cases hosts
  · intro _ _ _ eq
    cases eq

/-- The pool takes a new task, or knows that it runs with its submitter, or drops it. -/
theorem submit (agrees : pool.Agrees place standing?) {id : Nat}
    (fresh : ¬pool.Holds id ∧ ¬pool.Hosts id) {callerCanRun : Bool} {admission : Admission}
    (spawned : pool.spawn id callerCanRun = .ok (after, admission)) (type : ExecutorType)
    (host : Option Nat) (body : Body α) :
    after.Agrees place
      (Function.update standing? id (some (admission.standing type place host body))) := by
  obtain ⟨notHeld, notHosted⟩ := fresh
  obtain ⟨-, ⟨room, rfl, rfl⟩ | ⟨-, -, rfl, rfl⟩ | ⟨-, -, rfl, rfl⟩⟩ := Pool.spawn_cases spawned
  · refine agrees.update rfl (agrees.balanced.take notHeld room) (fun other ne => ⟨?_, Iff.rfl⟩)
      (iff_of_true ?_ ⟨type, body, rfl⟩) (fun hosted => absurd hosted notHosted)
      (fun _ _ _ eq => by cases eq)
    · simp [Pool.Holds, Pool.phase?, ne]
    · simp [Pool.Holds, Pool.phase?]
  · exact agrees.update_outside notHeld notHosted (.inr (Option.some_ne_none _))
  · have balanced := agrees.balanced
    refine agrees.update rfl ⟨balanced.nodup, balanced.permits_add, balanced.slots_add⟩
      (fun other ne => ⟨Iff.rfl, ?_⟩) (iff_of_false notHeld ?_)
      (fun _ => ⟨type, host, body, none, rfl⟩) fun _ _ _ _ => ?_
    · simp [Pool.Hosts, Pool.guestPhase?, ne]
    · rintro ⟨_, _, eq⟩
      cases eq
    · simp [Pool.Hosts, Pool.guestPhase?]

end Pool.Agrees

theorem Pool.Lasts.of_spawn {pool taken : Pool} {task : Nat} {callerCanRun : Bool}
    {admission : Admission} (spawned : pool.spawn task callerCanRun = .ok (taken, admission)) :
    pool.Lasts taken := by
  obtain ⟨-, ⟨-, -, rfl⟩ | ⟨-, -, -, rfl⟩ | ⟨-, -, -, rfl⟩⟩ := Pool.spawn_cases spawned <;>
    exact ⟨rfl, id⟩

theorem Pool.Lasts.of_start {pool begun : Pool} {id : Nat} (begins : pool.start id = some begun) :
    pool.Lasts begun := by
  obtain ⟨descriptor_eq, isShut_eq, -⟩ := Pool.start_spec begins
  exact ⟨descriptor_eq, isShut_eq.trans⟩

theorem Pool.Lasts.of_forgets {pool left : Pool} {id : Nat} (forgets : pool.Forgets id left) :
    pool.Lasts left :=
  ⟨forgets.descriptor_eq, forgets.isShut_eq.trans⟩

namespace Core

variable {core after : Core α} {aborted : Nat → Prop}

/-- All pools agree with the tasks, and all tasks stand where they can. -/
structure Sound (aborted : Nat → Prop) (core : Core α) : Prop where
  /-- No two tasks have the same number, and the numbers from the next one on are free. -/
  nodup : core.ids.Nodup
  ids_lt : ∀ id ∈ core.ids, id < core.next
  fresh : ∀ id, core.next ≤ id → core.standing? id = none
  agrees : ∀ (place : Nat) (pool : Pool), core.pools[place]? = some pool →
    pool.Agrees place core.standing?
  /-- The table names open pools. -/
  registered : ∀ type place, (type, place) ∈ core.table →
    ∃ pool, core.pools[place]? = some pool ∧ pool.type = type ∧ pool.isShut = false
  fits : ∀ id standing, core.standing? id = some standing → core.Fits aborted id standing

/-! ## What each change leaves -/

theorem getElem?_set_eq {pools : List Pool} {place : Nat} {pool : Pool}
    (found : pools[place]? = some pool) (changed : Pool) (other : Nat) :
    (pools.set place changed)[other]? = if other = place then some changed else pools[other]? := by
  have bound := (List.getElem?_eq_some_iff.1 found).1
  rw [List.getElem?_set]
  simp only [bound, if_true, eq_comm]

theorem lasts_set {place : Nat} {pool changed : Pool} (found : core.pools[place]? = some pool)
    (lasts : pool.Lasts changed) : core.Lasts (core.set place changed) where
  pool other known found_other := by
    rw [pools_set, getElem?_set_eq found]
    split
    next eq =>
      rw [eq, found] at found_other
      cases found_other
      exact ⟨changed, rfl, lasts⟩
    next => exact ⟨known, found_other, .refl known⟩
  standing _ standing known := ⟨standing, known, .refl standing⟩

theorem lasts_put {id : Nat} {standing changed : Standing α}
    (known : core.standing? id = some standing) (lasts : standing.Lasts changed) :
    core.Lasts (core.put id changed) where
  pool _ pool found := ⟨pool, found, .refl pool⟩
  standing other before known_other := by
    rw [standing?_put]
    split
    next eq =>
      rw [eq, known] at known_other
      cases known_other
      exact ⟨changed, rfl, lasts⟩
    next => exact ⟨before, known_other, .refl before⟩

/-- A task of a pool, or of a submitter, gets its result and leaves the pool. -/
theorem lasts_leave {id place : Nat} {type : ExecutorType} {site : Site α} {pool left : Pool}
    {result : Except Error α} (known : core.standing? id = some ⟨type, site, none⟩)
    (found : core.pools[place]? = some pool) (forgets : pool.Forgets id left) :
    core.Lasts ((core.set place left).put id ⟨type, site, some result⟩) :=
  (lasts_set found (.of_forgets forgets)).trans
    (lasts_put known ⟨rfl, .same _, nofun⟩)

/-- The next number and the table may change. -/
theorem lasts_frame (core : Core α) (next : Nat) (table : List (ExecutorType × Nat)) :
    core.Lasts { core with next, table } :=
  ⟨fun _ pool found => ⟨pool, found, .refl pool⟩,
    fun _ standing known => ⟨standing, known, .refl standing⟩⟩

theorem lasts_enter (fresh : core.standing? core.next = none) (standing : Standing α) :
    core.Lasts (core.enter standing) where
  pool _ pool found := ⟨pool, found, .refl pool⟩
  standing other before known := by
    rw [standing?_enter, if_neg]
    · exact ⟨before, known, .refl before⟩
    · rintro rfl
      rw [fresh] at known
      cases known

/-- A pool at some of the places is shut down, and another one stays as it is. -/
theorem shutPools_spec {place : Nat} {pool : Pool} {pools : List Pool} {places : List Nat}
    (found : pools[place]? = some pool) (apart : ∀ task, pool.Holds task → ¬pool.Hosts task) :
    ∃ later, (Governor.shutPools .zero places pools)[place]? = some later ∧
      (place ∈ places → pool.Shuts later) ∧ (place ∉ places → later = pool) := by
  induction places generalizing pools pool with
  | nil => exact ⟨pool, found, nofun, fun _ => rfl⟩
  | cons first places induction =>
      have found_next : (pools.modify first fun pool => pool.shutdown .zero)[place]? =
          some (if first = place then pool.shutdown .zero else pool) := by
        rw [List.getElem?_modify, found]
        rfl
      by_cases eq : first = place
      · rw [if_pos eq] at found_next
        have shuts := Pool.shuts_shutdown pool .zero apart
        obtain ⟨later, found_later, again, same⟩ := induction found_next shuts.apart
        refine ⟨later, found_later, fun _ => ?_, fun notMem => absurd (by simp [eq]) notMem⟩
        by_cases mem : place ∈ places
        · exact shuts.trans (again mem)
        · exact same mem ▸ shuts
      · rw [if_neg eq] at found_next
        obtain ⟨later, found_later, shuts, same⟩ := induction found_next apart
        have mem_iff : place ∈ first :: places ↔ place ∈ places := by simp [Ne.symm eq]
        exact ⟨later, found_later, fun mem => shuts (mem_iff.1 mem),
          fun notMem => same (mem_iff.not.1 notMem)⟩

theorem lasts_register (core : Core α) (descriptor : PoolDescriptor)
    (table : List (ExecutorType × Nat)) :
    core.Lasts { core with pools := core.pools ++ [Pool.build descriptor], table } where
  pool _ pool found :=
    ⟨pool, (List.getElem?_append_left (List.getElem?_eq_some_iff.1 found).1).trans found,
      .refl pool⟩
  standing _ standing known := ⟨standing, known, .refl standing⟩

theorem lasts_close (core : Core α) (place : Nat) :
    core.Lasts { core with pools := core.pools.modify place Pool.close } where
  pool other pool found := by
    rw [List.getElem?_modify, found]
    refine ⟨_, rfl, ?_⟩
    split
    next => exact ⟨rfl, fun _ => rfl⟩
    next => exact .refl pool
  standing _ standing known := ⟨standing, known, .refl standing⟩

/-- A core without pools and tasks. -/
theorem sound_of_empty {next : Nat} :
    Sound aborted (⟨[], [], next, [], fun _ => none⟩ : Core α) where
  nodup := List.nodup_nil
  ids_lt := nofun
  fresh _ _ := rfl
  agrees _ _ found := by cases found
  registered := nofun
  fits _ _ known := by cases known

theorem CutOff.mono {aborted' : Nat → Prop} {id : Nat} {standing : Standing α}
    {result : Except Error α} (mono : aborted id → aborted' id)
    (cause : core.CutOff aborted id standing result) : core.CutOff aborted' id standing result := by
  cases cause with
  | aborted isAborted => exact .aborted (mono isAborted)
  | lost scheduled closed isLost => exact .lost scheduled closed isLost
  | turnedAway label site_eq closed => exact .turnedAway label site_eq closed

theorem Fits.mono {aborted' : Nat → Prop} {id : Nat} {standing : Standing α}
    (mono : aborted id → aborted' id) (fits : core.Fits aborted id standing) :
    core.Fits aborted' id standing := by
  cases fits with
  | live isAt found => exact .live isAt found
  | finished isAt found ends => exact .finished isAt found ends
  | cut isAt found cause => exact .cut isAt found (cause.mono mono)
  | delayed => exact .delayed _ _ _ _ _
  | nowhere => exact .nowhere _ _
  | underWay found isDefault underWay => exact .underWay found isDefault underWay
  | ended found isDefault ended => exact .ended found isDefault ended
  | cutChain found isDefault underWay cause =>
      exact .cutChain found isDefault underWay (cause.mono mono)

namespace Sound

variable (sound : Sound aborted core)
include sound

/-- A core stays sound as long as no task that it knows loses its excuse. -/
theorem mono {aborted' : Nat → Prop} (mono : ∀ id < core.next, aborted id → aborted' id) :
    Sound aborted' core :=
  { sound with
    fits := fun id standing known => by
      have lt : id < core.next := by
        by_contra le
        rw [sound.fresh id (Nat.le_of_not_lt le)] at known
        cases known
      exact (sound.fits id standing known).mono (mono id lt) }

theorem nodup_concat : (core.ids ++ [core.next]).Nodup := by
  rw [List.nodup_append]
  refine ⟨sound.nodup, List.nodup_singleton _, fun id mem other isNew eq => ?_⟩
  rw [List.mem_singleton] at isNew
  exact Nat.ne_of_lt (sound.ids_lt id mem) (eq.trans isNew)

theorem ids_lt_concat : ∀ id ∈ core.ids ++ [core.next], id < core.next + 1 := by
  intro id mem
  rw [List.mem_append, List.mem_singleton] at mem
  rcases mem with mem | rfl
  · exact Nat.lt_succ_of_lt (sound.ids_lt id mem)
  · exact Nat.lt_succ_self _

theorem lt_next {id : Nat} {standing : Standing α} (known : core.standing? id = some standing) :
    id < core.next := by
  by_contra le
  rw [sound.fresh id (Nat.le_of_not_lt le)] at known
  cases known

/-- A task with a number that is not known is in no pool. -/
theorem not_holds_fresh {place : Nat} {pool : Pool} (found : core.pools[place]? = some pool)
    {id : Nat} (fresh : core.standing? id = none) : ¬pool.Holds id ∧ ¬pool.Hosts id := by
  have agrees := sound.agrees place pool found
  constructor
  · intro held
    obtain ⟨type, body, known⟩ := (agrees.holds_iff id).1 held
    rw [fresh] at known
    cases known
  · intro hosted
    obtain ⟨type, host, body, result, known⟩ := agrees.hosted id hosted
    rw [fresh] at known
    cases known

/-- A task that stands elsewhere is not in a pool. -/
theorem not_holds_elsewhere {place : Nat} {pool : Pool} (found : core.pools[place]? = some pool)
    {id : Nat} {standing : Standing α} (known : core.standing? id = some standing)
    (elsewhere : standing.site.place? ≠ some place) : ¬pool.Holds id ∧ ¬pool.Hosts id := by
  have agrees := sound.agrees place pool found
  constructor
  · intro held
    obtain ⟨type, body, known_held⟩ := (agrees.holds_iff id).1 held
    cases known.symm.trans known_held
    exact elsewhere rfl
  · intro hosted
    obtain ⟨type, host, body, result, known_hosted⟩ := agrees.hosted id hosted
    cases known.symm.trans known_hosted
    exact elsewhere rfl

/-- A registered pool has changed, and is the same pool and open as before. -/
theorem registered_set {place : Nat} {pool changed : Pool}
    (found : core.pools[place]? = some pool) (descriptor_eq : changed.descriptor = pool.descriptor)
    (isShut_eq : changed.isShut = pool.isShut) (type : ExecutorType) (other : Nat)
    (mem : (type, other) ∈ core.table) :
    ∃ known, (core.pools.set place changed)[other]? = some known ∧ known.type = type ∧
      known.isShut = false := by
  obtain ⟨known, found_known, type_eq, isOpen⟩ := sound.registered type other mem
  rw [getElem?_set_eq found]
  split
  next eq =>
    rw [eq, found] at found_known
    cases found_known
    exact ⟨changed, rfl, by rw [Pool.type, descriptor_eq, ← type_eq, Pool.type],
      isShut_eq.trans isOpen⟩
  next => exact ⟨known, found_known, type_eq, isOpen⟩

/-! ## Each move keeps a core sound -/

section

variable {id : Nat} {changed : Standing α}
  (standing?_eq : ∀ other,
    after.standing? other = if other = id then some changed else core.standing? other)
include standing?_eq

theorem fresh_of_update {next : Nat} (le : core.next ≤ next) (lt : id < next) (other : Nat)
    (le_other : next ≤ other) : after.standing? other = none := by
  rw [standing?_eq, if_neg (Nat.ne_of_gt (Nat.lt_of_lt_of_le lt le_other))]
  exact sound.fresh other (Nat.le_trans le le_other)

/-- When one task has changed, it is enough to look where that stands. -/
theorem fits_of_update (lasts : core.Lasts after) (fits : after.Fits aborted id changed)
    (other : Nat) (standing : Standing α) (known : after.standing? other = some standing) :
    after.Fits aborted other standing := by
  rw [standing?_eq] at known
  split at known
  next eq =>
    cases known
    exact eq ▸ fits
  next => exact lasts.fits (sound.fits other standing known)

end

/-- A task outside the pools changes. -/
theorem put {id : Nat} {standing changed : Standing α}
    (known : core.standing? id = some standing) (outside : standing.site.place? = none)
    (lasts : standing.Lasts changed)
    (fits : (core.put id changed).Fits aborted id changed) :
    (core.put id changed).Sound aborted where
  nodup := sound.nodup
  ids_lt := sound.ids_lt
  fresh := sound.fresh_of_update (standing?_put core id changed) (Nat.le_refl _)
    (sound.lt_next known)
  agrees place pool found := by
    obtain ⟨notHeld, notHosted⟩ := sound.not_holds_elsewhere found known (by simp [outside])
    refine (sound.agrees place pool found).update_outside notHeld notHosted (.inl ?_)
    simp [lasts.site.place?_eq, outside]
  registered := sound.registered
  fits := sound.fits_of_update (standing?_put core id changed) (lasts_put known lasts) fits

/-- A task in a pool or with a submitter has its result. -/
theorem leave {id place : Nat} {type : ExecutorType} {site : Site α} {pool left : Pool}
    {result : Except Error α} (known : core.standing? id = some ⟨type, site, none⟩)
    (at_place : site.place? = some place) (found : core.pools[place]? = some pool)
    (forgets : pool.Forgets id left)
    (fits : ((core.set place left).put id ⟨type, site, some result⟩).Fits aborted id
      ⟨type, site, some result⟩) :
    ((core.set place left).put id ⟨type, site, some result⟩).Sound aborted where
  nodup := sound.nodup
  ids_lt := sound.ids_lt
  fresh := sound.fresh_of_update (standing?_put (core.set place left) id _) (Nat.le_refl _)
    (sound.lt_next known)
  agrees other pool_other found_other := by
    rw [pools_put, pools_set, getElem?_set_eq found] at found_other
    split at found_other
    next eq =>
      cases found_other
      exact eq ▸ (sound.agrees place pool found).forgets forgets type site result
    next ne =>
      obtain ⟨notHeld, notHosted⟩ := sound.not_holds_elsewhere found_other known (by
        simpa [at_place] using Ne.symm ne)
      have agrees := sound.agrees other pool_other found_other
      exact agrees.update_outside notHeld notHosted (.inr nofun)
  registered := sound.registered_set found forgets.descriptor_eq forgets.isShut_eq
  fits := sound.fits_of_update (standing?_put (core.set place left) id _)
    (lasts_leave known found forgets) fits

/-- A task outside the pools gets the next number. -/
theorem enter {standing : Standing α} (outside : standing.site.place? = none)
    (fits : (core.enter standing).Fits aborted core.next standing) :
    (core.enter standing).Sound aborted where
  nodup := sound.nodup_concat
  ids_lt := sound.ids_lt_concat
  fresh := sound.fresh_of_update (standing?_enter core standing) (Nat.le_succ _)
    (Nat.lt_succ_self _)
  agrees place pool found := by
    obtain ⟨notHeld, notHosted⟩ := sound.not_holds_fresh found (sound.fresh _ (Nat.le_refl _))
    exact (sound.agrees place pool found).update_outside notHeld notHosted
      (.inl (by simp [outside]))
  registered := sound.registered
  fits := sound.fits_of_update (standing?_enter core standing)
    (lasts_enter (sound.fresh _ (Nat.le_refl _)) standing) fits

/-- A pool deals with a new task. -/
theorem submit {place : Nat} {host : Option Nat} {pool taken : Pool} {callerCanRun : Bool}
    {admission : Admission} (own : ∀ other, host = some other → other = place) (body : Body α)
    (found : core.pools[place]? = some pool)
    (spawned : pool.spawn core.next callerCanRun = .ok (taken, admission)) :
    ((core.set place taken).enter (admission.standing pool.type place host body)).Sound
      aborted where
  nodup := sound.nodup_concat
  ids_lt := sound.ids_lt_concat
  fresh := sound.fresh_of_update (standing?_enter (core.set place taken) _) (Nat.le_succ _)
    (Nat.lt_succ_self _)
  agrees other pool_other found_other := by
    have fresh := sound.fresh _ (Nat.le_refl _)
    rw [pools_enter, pools_set, getElem?_set_eq found] at found_other
    split at found_other
    next eq =>
      cases found_other
      exact eq ▸ (sound.agrees place pool found).submit (sound.not_holds_fresh found fresh) spawned
        pool.type host body
    next ne =>
      obtain ⟨notHeld, notHosted⟩ := sound.not_holds_fresh found_other fresh
      refine (sound.agrees other pool_other found_other).update_outside notHeld notHosted (.inl ?_)
      cases admission <;> simp [Admission.standing, Site.place?, Ne.symm ne]
  registered := by
    obtain ⟨-, ⟨-, -, rfl⟩ | ⟨-, -, -, rfl⟩ | ⟨-, -, -, rfl⟩⟩ := Pool.spawn_cases spawned <;>
      exact sound.registered_set found rfl rfl
  fits := by
    have pool_lasts := Pool.Lasts.of_spawn spawned
    have fresh : (core.set place taken).standing? (core.set place taken).next = none :=
      sound.fresh _ (Nat.le_refl _)
    refine sound.fits_of_update (standing?_enter (core.set place taken) _)
      ((lasts_set found pool_lasts).trans (lasts_enter fresh _)) ?_
    have found_taken : ((core.set place taken).enter
        (admission.standing pool.type place host body)).pools[place]? = some taken := by
      rw [pools_enter, pools_set, getElem?_set_eq found, if_pos rfl]
    rw [← pool_lasts.type_eq]
    cases admission with
    | admitted => exact .live (.pool body) found_taken
    | discarded => exact .nowhere _ _
    | byCaller =>
        refine .live ?_ found_taken
        cases host with
        | none => exact .outside body
        | some other => exact own other rfl ▸ .inside body

theorem start {place id : Nat} {pool begun : Pool} (found : core.pools[place]? = some pool)
    (begins : pool.start id = some begun) : (core.set place begun).Sound aborted where
  nodup := sound.nodup
  ids_lt := sound.ids_lt
  fresh := sound.fresh
  agrees other pool_other found_other := by
    rw [pools_set, getElem?_set_eq found] at found_other
    split at found_other
    next eq =>
      cases found_other
      obtain ⟨descriptor_eq, -, holds, hosts, balanced⟩ := Pool.start_spec begins
      have agrees := sound.agrees place pool found
      exact eq ▸ agrees.congr descriptor_eq (balanced agrees.balanced) holds hosts
    next => exact sound.agrees other pool_other found_other
  registered := by
    obtain ⟨descriptor_eq, isShut_eq, -⟩ := Pool.start_spec begins
    exact sound.registered_set found descriptor_eq isShut_eq
  fits id standing known :=
    (lasts_set found (.of_start begins)).fits (sound.fits id standing known)

theorem skip {next : Nat} (le : core.next ≤ next) :
    ({ core with next } : Core α).Sound aborted where
  nodup := sound.nodup
  ids_lt id mem := Nat.lt_of_lt_of_le (sound.ids_lt id mem) le
  fresh id le_id := sound.fresh id (Nat.le_trans le le_id)
  agrees := sound.agrees
  registered := sound.registered
  fits id standing known := (lasts_frame core next core.table).fits (sound.fits id standing known)

theorem withdraw : ({ core with table := [] } : Core α).Sound aborted where
  nodup := sound.nodup
  ids_lt := sound.ids_lt
  fresh := sound.fresh
  agrees := sound.agrees
  registered := nofun
  fits id standing known := (lasts_frame core core.next []).fits (sound.fits id standing known)

/-- An unfinished task of a pool, or of a submitter, stands where that pool is. -/
theorem isAt_of_place? {id place : Nat} {type : ExecutorType} {site : Site α} {pool : Pool}
    (known : core.standing? id = some ⟨type, site, none⟩) (at_place : site.place? = some place)
    (found : core.pools[place]? = some pool) : site.IsAt place ∧ pool.type = type := by
  cases sound.fits id _ known with
  | live isAt found_own =>
      cases at_place.symm.trans isAt.place?_eq
      cases found.symm.trans found_own
      exact ⟨isAt, rfl⟩
  | delayed => cases at_place
  | underWay => cases at_place

/-- No unfinished task stands where no pool is. -/
theorem not_live_of_absent {place id : Nat} {type : ExecutorType} {site : Site α}
    (absent : core.pools[place]? = none) (at_place : site.place? = some place) :
    core.standing? id ≠ some ⟨type, site, none⟩ := by
  intro known
  cases sound.fits id _ known with
  | live isAt found =>
      cases at_place.symm.trans isAt.place?_eq
      rw [absent] at found
      cases found
  | delayed => cases at_place
  | underWay => cases at_place

/-- How a task of a pool, or of a submitter, has got its result. -/
theorem finished_or_cut {id place : Nat} {type : ExecutorType} {site : Site α} {pool : Pool}
    {result : Except Error α} (known : core.standing? id = some ⟨type, site, some result⟩)
    (at_place : site.place? = some place) (found : core.pools[place]? = some pool) :
    site.IsAt place ∧ pool.type = type ∧
      ((∃ ending, core.ending? id site = some ending ∧ result = ending.result type id) ∨
        core.CutOff aborted id ⟨type, site, none⟩ result) := by
  cases sound.fits id _ known with
  | finished isAt found_own ends =>
      cases at_place.symm.trans isAt.place?_eq
      cases found.symm.trans found_own
      exact ⟨isAt, rfl, .inl ⟨_, ends, rfl⟩⟩
  | cut isAt found_own cause =>
      cases at_place.symm.trans isAt.place?_eq
      cases found.symm.trans found_own
      exact ⟨isAt, rfl, .inr cause⟩
  | delayed => cases at_place
  | nowhere => cases at_place
  | ended => cases at_place
  | cutChain => cases at_place

/-- A pool can cancel each unfinished task of its own. -/
theorem exists_abort {id place : Nat} {type : ExecutorType} {site : Site α}
    (known : core.standing? id = some ⟨type, site, none⟩) (at_place : site.place? = some place) :
    ∃ pool left, core.pools[place]? = some pool ∧ pool.abort id .zero = some left := by
  cases found : core.pools[place]? with
  | none => exact (sound.not_live_of_absent found at_place known).elim
  | some pool =>
      have agrees := sound.agrees place pool found
      cases site with
      | pool own body =>
          cases at_place
          obtain ⟨left, leaves⟩ :=
            Pool.exists_abort_of_holds ((agrees.holds_iff id).2 ⟨type, body, known⟩) .zero
          exact ⟨pool, left, rfl, leaves⟩
      | caller own host body =>
          cases at_place
          obtain ⟨left, leaves⟩ :=
            Pool.exists_abort_of_hosts (agrees.hosts id type host body known) .zero
          exact ⟨pool, left, rfl, leaves⟩
      | delayed => cases at_place
      | chain => cases at_place
      | nowhere => cases at_place

/-- The body of a task ends. -/
theorem finish {id place : Nat} {type : ExecutorType} {site : Site α} {pool left : Pool}
    {ending : Ending α} (known : core.standing? id = some ⟨type, site, none⟩)
    (at_place : site.place? = some place) (found : core.pools[place]? = some pool)
    (forgets : pool.Forgets id left) (ends : core.ending? id site = some ending) :
    ((core.set place left).put id ⟨type, site, some (ending.result type id)⟩).Sound aborted := by
  obtain ⟨isAt, rfl⟩ := sound.isAt_of_place? known at_place found
  have lasts : core.Lasts
      ((core.set place left).put id ⟨pool.type, site, some (ending.result pool.type id)⟩) :=
    lasts_leave known found forgets
  refine sound.leave known at_place found forgets ?_
  rw [← (Pool.Lasts.of_forgets forgets).type_eq] at lasts ⊢
  refine .finished isAt ?_ ((lasts.ending?_eq isAt found).trans ends)
  rw [pools_put, pools_set, getElem?_set_eq found, if_pos rfl]

/-- A task is cut off. -/
theorem cut {id place : Nat} {type : ExecutorType} {site : Site α} {pool left : Pool}
    {result : Except Error α} (known : core.standing? id = some ⟨type, site, none⟩)
    (at_place : site.place? = some place) (found : core.pools[place]? = some pool)
    (forgets : pool.Forgets id left)
    (cause : core.CutOff aborted id ⟨type, site, none⟩ result) :
    ((core.set place left).put id ⟨type, site, some result⟩).Sound aborted := by
  obtain ⟨isAt, rfl⟩ := sound.isAt_of_place? known at_place found
  have lasts : core.Lasts ((core.set place left).put id ⟨pool.type, site, some result⟩) :=
    lasts_leave known found forgets
  refine sound.leave known at_place found forgets ?_
  have cause_later := lasts.cutOff cause
  rw [← (Pool.Lasts.of_forgets forgets).type_eq] at cause_later ⊢
  refine .cut isAt ?_ cause_later
  rw [pools_put, pools_set, getElem?_set_eq found, if_pos rfl]

/-- A task outside the pools is cut off. -/
theorem drop {id : Nat} {type : ExecutorType} {site : Site α} {result : Except Error α}
    (known : core.standing? id = some ⟨type, site, none⟩) (outside : site.place? = none)
    (cause : core.CutOff aborted id ⟨type, site, none⟩ result) :
    (core.put id ⟨type, site, some result⟩).Sound aborted := by
  have lasts : core.Lasts (core.put id ⟨type, site, some result⟩) :=
    lasts_put known ⟨rfl, .same _, nofun⟩
  refine sound.put known outside ⟨rfl, .same _, nofun⟩ ?_
  cases sound.fits id _ known with
  | live isAt => cases outside.symm.trans isAt.place?_eq
  | delayed => exact .delayed _ _ _ _ _
  | underWay found isDefault underWay =>
      exact .cutChain found isDefault (lasts.underWay underWay) (lasts.cutOff cause)

/-- The default pool of a chain. -/
theorem exists_default {id place first : Nat} {type : ExecutorType} {next : α → Stage α}
    {given : List α} {second : Option Nat} {result : Option (Except Error α)}
    (known : core.standing? id = some ⟨type, .chain place first next given second, result⟩) :
    ∃ pool, core.pools[place]? = some pool ∧ pool.type = .default := by
  cases sound.fits id _ known with
  | live isAt => cases isAt
  | finished isAt => cases isAt
  | cut isAt => cases isAt
  | underWay found isDefault | ended found isDefault | cutChain found isDefault =>
      exact ⟨_, found, isDefault⟩

/-- A chain that has no result is under way. -/
theorem underWay {id place first : Nat} {type : ExecutorType} {next : α → Stage α}
    {given : List α} {second : Option Nat}
    (known : core.standing? id = some ⟨type, .chain place first next given second, none⟩) :
    type = .default ∧ core.UnderWay id place first next given second := by
  cases sound.fits id _ known with
  | live isAt => cases isAt
  | underWay _ _ underWay => exact ⟨rfl, underWay⟩

/-- A chain submits its second stage. -/
theorem pass {id place first second : Nat} {next : α → Stage α} {given : List α}
    (known : core.standing? id = some ⟨.default, .chain place first next [] none, none⟩)
    (underWay : core.UnderWay id place first next given (some second)) :
    (core.put id ⟨.default, .chain place first next given (some second), none⟩).Sound
      aborted := by
  have standing_lasts : Standing.Lasts ⟨.default, .chain place first next [] none, none⟩
      ⟨.default, .chain place first next given (some second), none⟩ := ⟨rfl, .chain .., nofun⟩
  obtain ⟨pool, found, isDefault⟩ := sound.exists_default known
  exact sound.put known rfl standing_lasts
    (.underWay found isDefault ((lasts_put known standing_lasts).underWay underWay))

/-- A chain ends. -/
theorem conclude {id place first : Nat} {next : α → Stage α} {before given : List α}
    {secondBefore second : Option Nat} {result : Except Error α}
    (known : core.standing? id =
      some ⟨.default, .chain place first next before secondBefore, none⟩)
    (ended : core.Ended id place first next given second result) :
    (core.put id ⟨.default, .chain place first next given second, some result⟩).Sound
      aborted := by
  have standing_lasts : Standing.Lasts
      ⟨.default, .chain place first next before secondBefore, none⟩
      ⟨.default, .chain place first next given second, some result⟩ := ⟨rfl, .chain .., nofun⟩
  obtain ⟨pool, found, isDefault⟩ := sound.exists_default known
  exact sound.put known rfl standing_lasts
    (.ended found isDefault ((lasts_put known standing_lasts).ended ended))

/-- A new pool is registered behind the others. -/
theorem register {descriptor : PoolDescriptor} (max_pos : 0 < descriptor.max) :
    ({ core with
        pools := core.pools ++ [Pool.build descriptor]
        table := core.table ++ [(descriptor.type, core.pools.length)] } : Core α).Sound
      aborted where
  nodup := sound.nodup
  ids_lt := sound.ids_lt
  fresh := sound.fresh
  agrees place pool found := by
    rw [List.getElem?_append] at found
    split at found
    next => exact sound.agrees place pool found
    next behind =>
      have absent : core.pools[place]? = none := List.getElem?_eq_none (Nat.le_of_not_lt behind)
      obtain rfl : Pool.build descriptor = pool := by
        rw [List.getElem?_singleton] at found
        split at found
        next => exact Option.some.inj found
        next => cases found
      refine ⟨Pool.balanced_build descriptor, max_pos, fun id => iff_of_false ?_ ?_, ?_, ?_⟩
      · exact Bool.false_ne_true
      · rintro ⟨type, body, known⟩
        exact sound.not_live_of_absent absent rfl known
      · intro id hosts
        cases hosts
      · intro id type host body known
        exact (sound.not_live_of_absent absent rfl known).elim
  registered type place mem := by
    rw [List.mem_append, List.mem_singleton] at mem
    rcases mem with mem | eq
    · obtain ⟨pool, found, type_eq, isOpen⟩ := sound.registered type place mem
      exact ⟨pool, (List.getElem?_append_left (List.getElem?_eq_some_iff.1 found).1).trans found,
        type_eq, isOpen⟩
    · cases eq
      exact ⟨Pool.build descriptor, List.getElem?_concat_length .., rfl, rfl⟩
  fits id standing known := (lasts_register core descriptor _).fits (sound.fits id standing known)

/-- A pool that is not in the table takes no more tasks. -/
theorem close {place : Nat} (withdrawn : place ∉ core.table.map Prod.snd) :
    ({ core with pools := core.pools.modify place Pool.close } : Core α).Sound aborted where
  nodup := sound.nodup
  ids_lt := sound.ids_lt
  fresh := sound.fresh
  agrees other pool found := by
    rw [List.getElem?_modify, Option.map_eq_map, Option.map_eq_some_iff] at found
    obtain ⟨before, found, rfl⟩ := found
    have agrees := sound.agrees other before found
    split
    next => exact agrees.congr rfl agrees.balanced.close (fun _ => Iff.rfl) fun _ => Iff.rfl
    next => exact agrees
  registered type other mem := by
    obtain ⟨pool, found, type_eq, isOpen⟩ := sound.registered type other mem
    refine ⟨pool, ?_, type_eq, isOpen⟩
    rw [List.getElem?_modify_ne, found]
    rintro rfl
    exact withdrawn (List.mem_map_of_mem mem)
  fits id standing known := (lasts_close core place).fits (sound.fits id standing known)

/-- What becomes of a pool when all registered ones are shut down. -/
theorem exists_shutDown {place : Nat} {pool : Pool} (found : core.pools[place]? = some pool)
    (normal scheduled : List Nat) :
    ∃ later, (core.shutDown normal scheduled).pools[place]? = some later ∧
      (place ∈ normal → pool.Shuts later) ∧ (place ∉ normal → later = pool) :=
  shutPools_spec found (sound.agrees place pool found).apart

theorem lasts_shutDown (normal scheduled : List Nat) :
    core.Lasts (core.shutDown normal scheduled) where
  pool place pool found := by
    obtain ⟨later, found_later, shuts, same⟩ := sound.exists_shutDown found normal scheduled
    refine ⟨later, found_later, ?_⟩
    by_cases mem : place ∈ normal
    · exact ⟨(shuts mem).descriptor_eq, fun _ => (shuts mem).isShut⟩
    · exact same mem ▸ .refl later
  standing id standing known :=
    ⟨_, congrArg (Option.map _) known, standing.lasts_lose normal scheduled⟩

omit sound in
/-- What is unfinished after a shutdown was unfinished before, and has kept its runtime. -/
theorem standing?_shutDown_iff (normal scheduled : List Nat) (id : Nat) (type : ExecutorType)
    (site : Site α) :
    (core.shutDown normal scheduled).standing? id = some ⟨type, site, none⟩ ↔
      core.standing? id = some ⟨type, site, none⟩ ∧ site.isLost normal scheduled = false := by
  refine Option.map_eq_some_iff.trans ⟨?_, ?_⟩
  · rintro ⟨standing, known, eq⟩
    obtain ⟨rfl, goesOn⟩ := Standing.eq_of_lose eq
    exact ⟨known, goesOn⟩
  · rintro ⟨known, goesOn⟩
    exact ⟨_, known, if_neg (by simp [goesOn])⟩

/-- All registered pools are shut down, and their tasks are lost. -/
theorem shutDown (scheduled : List Nat) :
    (core.shutDown (core.table.map Prod.snd) scheduled).Sound aborted where
  nodup := sound.nodup
  ids_lt := sound.ids_lt
  fresh id le := congrArg (Option.map _) (sound.fresh id le)
  agrees place later found_later := by
    obtain ⟨pool, found, -, -⟩ := Governor.exists_of_getElem?_shutPools found_later
    obtain ⟨after, found_after, shuts, same⟩ :=
      sound.exists_shutDown found (core.table.map Prod.snd) scheduled
    obtain rfl : later = after := Option.some.inj (found_later.symm.trans found_after)
    have agrees := sound.agrees place pool found
    have hosts_iff : ∀ id, later.Hosts id ↔ pool.Hosts id := by
      intro id
      by_cases mem : place ∈ core.table.map Prod.snd
      · rw [Pool.Hosts, (shuts mem).guestPhase?_eq, Pool.Hosts]
      · rw [same mem]
    have descriptor_eq : later.descriptor = pool.descriptor := by
      by_cases mem : place ∈ core.table.map Prod.snd
      · exact (shuts mem).descriptor_eq
      · rw [same mem]
    refine ⟨?_, descriptor_eq ▸ agrees.max_pos, fun id => ?_, fun id hosts => ?_,
      fun id type host body known => ?_⟩
    · by_cases mem : place ∈ core.table.map Prod.snd
      · exact (shuts mem).balanced agrees.balanced
      · exact same mem ▸ agrees.balanced
    · simp only [standing?_shutDown_iff, Site.isLost, decide_eq_false_iff_not]
      by_cases mem : place ∈ core.table.map Prod.snd
      · simp [Pool.Holds, (shuts mem).phase?_eq, mem]
      · simp [same mem, agrees.holds_iff, mem]
    · obtain ⟨type, host, body, result, known⟩ := agrees.hosted id ((hosts_iff id).1 hosts)
      obtain ⟨⟨typeLater, siteLater, resultLater⟩, known_later, type_eq, site_lasts, -⟩ :=
        (sound.lasts_shutDown (core.table.map Prod.snd) scheduled).standing id _ known
      cases site_lasts
      exact ⟨typeLater, host, body, resultLater, known_later⟩
    · exact (hosts_iff id).2 (agrees.hosts id type host body
        ((standing?_shutDown_iff _ _ id type _).1 known).1)
  registered := nofun
  fits id later known := by
    have lasts := sound.lasts_shutDown (core.table.map Prod.snd) scheduled
    have closed : ∀ place ∈ core.table.map Prod.snd,
        (core.shutDown (core.table.map Prod.snd) scheduled).IsClosed place := by
      intro place mem
      obtain ⟨⟨type, _⟩, mem_table, rfl⟩ := List.mem_map.1 mem
      obtain ⟨pool, found, -, -⟩ := sound.registered type _ mem_table
      obtain ⟨after, found_after, shuts, -⟩ :=
        sound.exists_shutDown found (core.table.map Prod.snd) scheduled
      exact ⟨after, found_after, (shuts mem).isShut⟩
    obtain ⟨⟨type, site, result⟩, known_before, rfl⟩ := Option.map_eq_some_iff.1 known
    have fits := lasts.fits (sound.fits id _ known_before)
    cases result with
    | some result => exact (Standing.lose_of_result _ _ type site result).symm ▸ fits
    | none =>
        unfold Standing.lose
        split
        next isLost =>
          have cause : (core.shutDown (core.table.map Prod.snd) scheduled).CutOff aborted id
              ⟨type, site, none⟩ (cancelled type) := .lost scheduled closed isLost
          cases fits with
          | live isAt found => exact .cut isAt found cause
          | delayed => exact .delayed _ _ _ _ _
          | underWay found isDefault underWay => exact .cutChain found isDefault underWay cause
        next => exact fits

end Sound

/-- Each move keeps a core sound. -/
theorem Move.sound (move : Move aborted core after) (sound : Sound aborted core) :
    Sound aborted after := by
  cases move with
  | skip next le => exact sound.skip le
  | register descriptor max_pos => exact sound.register max_pos
  | withdraw => exact sound.withdraw
  | close place withdrawn => exact sound.close withdrawn
  | start found begins => exact sound.start found begins
  | submit own callerCanRun body found spawned => exact sound.submit own body found spawned
  | delay place due body => exact sound.enter rfl (.delayed place due body _ _)
  | chain next found isDefault => exact sound.enter rfl (.underWay found isDefault .before)
  | finish known at_place found finished ends =>
      have forgets := Pool.forgets_of_finish ((sound.agrees _ _ found).apart _) finished
      exact sound.finish known at_place found forgets ends
  | finishDelayed known result =>
      exact sound.put known rfl ⟨rfl, .same _, nofun⟩ (.delayed _ _ _ _ _)
  | cut known at_place found leaves cause =>
      have forgets := Pool.forgets_of_abort ((sound.agrees _ _ found).apart _) leaves
      exact sound.cut known at_place found forgets cause
  | drop known outside cause => exact sound.drop known outside cause
  | pass known underWay => exact sound.pass known underWay
  | conclude known ended => exact sound.conclude known ended
  | shutDown scheduled => exact sound.shutDown scheduled

/-- Each move leaves all that lasts. -/
theorem Move.lasts (move : Move aborted core after) (sound : Sound aborted core) :
    core.Lasts after := by
  have fresh := sound.fresh _ (Nat.le_refl _)
  cases move with
  | skip next le => exact lasts_frame core next core.table
  | register descriptor max_pos => exact lasts_register core descriptor _
  | withdraw => exact lasts_frame core core.next []
  | close place withdrawn => exact lasts_close core place
  | start found begins => exact lasts_set found (.of_start begins)
  | submit own callerCanRun body found spawned =>
      have set_lasts := lasts_set found (.of_spawn spawned)
      exact set_lasts.trans (lasts_enter (by rwa [standing?_set, next_set]) _)
  | delay place due body => exact lasts_enter fresh _
  | chain next found isDefault => exact lasts_enter fresh _
  | finish known at_place found finished ends =>
      exact lasts_leave known found
        (Pool.forgets_of_finish ((sound.agrees _ _ found).apart _) finished)
  | finishDelayed known result => exact lasts_put known ⟨rfl, .same _, nofun⟩
  | cut known at_place found leaves cause =>
      exact lasts_leave known found
        (Pool.forgets_of_abort ((sound.agrees _ _ found).apart _) leaves)
  | drop known outside cause => exact lasts_put known ⟨rfl, .same _, nofun⟩
  | pass known underWay => exact lasts_put known ⟨rfl, .chain .., nofun⟩
  | conclude known ended => exact lasts_put known ⟨rfl, .chain .., nofun⟩
  | shutDown scheduled => exact sound.lasts_shutDown _ scheduled

/-- One core comes of another by moves. -/
def Moves (aborted : Nat → Prop) : Core α → Core α → Prop :=
  Relation.ReflTransGen (Move aborted)

theorem Moves.single (move : Move aborted core after) : Moves aborted core after :=
  Relation.ReflTransGen.single move

theorem Moves.sound_and_lasts (moves : Moves aborted core after) (sound : Sound aborted core) :
    Sound aborted after ∧ core.Lasts after := by
  induction moves with
  | refl => exact ⟨sound, .refl core⟩
  | tail _ move induction =>
      obtain ⟨sound_middle, lasts⟩ := induction
      exact ⟨move.sound sound_middle, lasts.trans (move.lasts sound_middle)⟩

end Core
end ClusterMember
