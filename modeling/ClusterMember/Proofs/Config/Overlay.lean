import ClusterMember.Proofs.Config.Pools
import ClusterMember.Proofs.Config.Sections

/-!
# Configurations laid over the defaults

A document changes the settings that it names and no others.  The table of pools is laid over the
pools that every node has, and each of its pools over the defaults of a pool.
-/

namespace ClusterMember

open Document

/-! ## The table of pools -/

namespace PoolTable

variable {format : Format} {entries : List (String × Document)} {table : PoolTable}

/-- Pools, laid over the defaults of a pool. -/
abbrev poolSpelling (format : Format) : Spelling PoolConfig :=
  (PoolConfig.layout format).spelling format

/-- Entries lay pools over those that every node has. -/
structure IsLaid (format : Format) (entries : List (String × Document)) (table : PoolTable) :
    Prop where
  ordered : table.Ordered
  /-- Every entry is a pool. -/
  typed : ∀ entry ∈ entries, (poolSpelling format).IsTyped entry.2
  /-- The names are those of the pools that every node has and those of the entries. -/
  has_iff : ∀ name, table.has name = true ↔ builtIn.has name = true ∨ name ∈ entries.map Prod.fst
  /-- A pool that an entry names is what the entry spells. -/
  named : ∀ name document, Document.find? name entries = some document →
    ∃ pool, table.find? name = some pool ∧ (poolSpelling format).Spells document pool
  /-- A pool that no entry names is as every node has it. -/
  unnamed : ∀ name, Document.find? name entries = none → table.find? name = builtIn.find? name

theorem IsLaid.exists_spelled (laid : table.IsLaid format entries) {name : String}
    {pool : PoolConfig} (found : table.find? name = some pool) :
    ∃ document, (poolSpelling format).Spells document pool := by
  cases named : Document.find? name entries with
  | some document =>
      obtain ⟨other, other_found, spelled⟩ := laid.named name document named
      rw [found] at other_found
      cases other_found
      exact ⟨document, spelled⟩
  | none =>
      rw [laid.unnamed name named] at found
      obtain rfl : pool = (PoolConfig.layout format).default := by
        have mem := mem_of_find?_eq_some found
        simp only [builtIn, List.mem_cons, Prod.mk.injEq, List.not_mem_nil, or_false] at mem
        rcases mem with ⟨-, eq⟩ | ⟨-, eq⟩ | ⟨-, eq⟩ <;> exact eq
      exact ⟨_, (PoolConfig.layout format).spelling_fits_default format⟩

/-- Two tables on which the same entries lay pools are the same. -/
theorem IsLaid.unique {other : PoolTable} (laid : table.IsLaid format entries)
    (other_laid : other.IsLaid format entries) : table = other := by
  refine laid.ordered.ext other_laid.ordered fun name => ?_
  cases named : Document.find? name entries with
  | none => rw [laid.unnamed name named, other_laid.unnamed name named]
  | some document =>
      obtain ⟨pool, found, spelled⟩ := laid.named name document named
      obtain ⟨second, second_found, second_spelled⟩ := other_laid.named name document named
      rw [found, second_found, ← (poolSpelling format).read_eq_some_iff.2 spelled,
        (poolSpelling format).read_eq_some_iff.2 second_spelled]

theorem isLaid_of_overlay (laid : overlay format entries builtIn = some table) :
    table.IsLaid format entries := by
  have read := exists_read_of_overlay laid
  have shown := find?_overlay laid
  have named : ∀ name document, Document.find? name entries = some document →
      ∃ pool, table.find? name = some pool ∧ (poolSpelling format).Spells document pool := by
    intro name document found
    obtain ⟨pool, pool_read⟩ := read _ (Document.mem_of_find?_eq_some found)
    refine ⟨pool, ?_, (poolSpelling format).read_eq_some_iff.1 pool_read⟩
    rw [shown, found]
    exact pool_read
  have unnamed : ∀ name, Document.find? name entries = none →
      table.find? name = builtIn.find? name := by
    intro name found
    rw [shown, found]
  refine ⟨ordered_builtIn.overlay laid, fun entry mem => ?_, fun name => ?_, named, unnamed⟩
  · obtain ⟨pool, pool_read⟩ := read entry mem
    have spelled := (poolSpelling format).read_eq_some_iff.1 pool_read
    exact (poolSpelling format).isTyped_iff.2 ⟨pool, spelled⟩
  · rw [has_eq_true_iff, has_eq_true_iff]
    cases found : Document.find? name entries with
    | none =>
        have absent := (Document.find?_eq_none_iff name entries).1 found
        rw [unnamed name found, or_iff_left absent]
    | some document =>
        obtain ⟨pool, pool_found, -⟩ := named name document found
        have mem := List.mem_map_of_mem (f := Prod.fst) (Document.mem_of_find?_eq_some found)
        exact iff_of_true (by rw [pool_found]; nofun) (.inr mem)

theorem exists_overlay_of_typed
    (typed : ∀ entry ∈ entries, (poolSpelling format).IsTyped entry.2) :
    ∃ last, overlay format entries builtIn = some last := by
  refine exists_overlay (fun entry mem => ?_) builtIn
  obtain ⟨pool, spelled⟩ := (poolSpelling format).isTyped_iff.1 (typed entry mem)
  exact ⟨pool, (poolSpelling format).read_eq_some_iff.2 spelled⟩

theorem overlay_eq_some_iff :
    overlay format entries builtIn = some table ↔ table.IsLaid format entries := by
  refine ⟨isLaid_of_overlay, fun laid => ?_⟩
  obtain ⟨last, overlaid⟩ := exists_overlay_of_typed laid.typed
  rw [overlaid, laid.unique (isLaid_of_overlay overlaid)]

theorem Ordered.find?_map (ordered : table.Ordered) (shown : PoolConfig → Document)
    (name : String) :
    Document.find? name (table.map fun entry => (entry.1, shown entry.2)) =
      (table.find? name).map shown := by
  have names : (table.map fun entry => (entry.1, shown entry.2)).map Prod.fst =
      table.map Prod.fst := by rw [List.map_map]; rfl
  cases found : table.find? name with
  | none =>
      refine (Document.find?_eq_none_iff name _).2 ?_
      rw [names]
      exact (find?_eq_none_iff table name).1 found
  | some pool =>
      refine Document.find?_of_mem (names ▸ ordered.nodup) ?_
      exact List.mem_map_of_mem (mem_of_find?_eq_some found)

/-- The pools of a table, each written so that it spells itself, lay the same table. -/
theorem IsLaid.written (laid : table.IsLaid format entries) (shown : PoolConfig → Document)
    (spelled : ∀ document pool, (poolSpelling format).Spells document pool →
      (poolSpelling format).Spells (shown pool) pool) :
    table.IsLaid format (table.map fun entry => (entry.1, shown entry.2)) where
  ordered := laid.ordered
  typed entry mem := by
    obtain ⟨⟨name, pool⟩, pool_mem, rfl⟩ := List.mem_map.1 mem
    obtain ⟨document, pool_spelled⟩ := laid.exists_spelled ((laid.ordered.mem_iff _ _).1 pool_mem)
    exact (poolSpelling format).isTyped_iff.2 ⟨pool, spelled document pool pool_spelled⟩
  has_iff name := by
    have own : table.has name = true ↔ name ∈ table.map Prod.fst := by simp [has]
    rw [List.map_map]
    exact ⟨fun known => .inr (own.1 known), fun known =>
      known.elim (fun builtIn => (laid.has_iff name).2 (.inl builtIn)) own.2⟩
  named name document found := by
    rw [laid.ordered.find?_map, Option.map_eq_some_iff] at found
    obtain ⟨pool, found, rfl⟩ := found
    obtain ⟨document, pool_spelled⟩ := laid.exists_spelled found
    exact ⟨pool, found, spelled document pool pool_spelled⟩
  unnamed name found := by
    rw [laid.ordered.find?_map, Option.map_eq_none_iff] at found
    have absent : ¬builtIn.has name = true := fun known =>
      (has_eq_true_iff table name).1 ((laid.has_iff name).2 (.inl known)) found
    rw [has_eq_true_iff, not_not] at absent
    rw [found, absent]

theorem strippedEntries_map (table : PoolTable) :
    strippedEntries (table.map fun entry => (entry.1, entry.2.toDocument)) =
      table.map fun entry => (entry.1, entry.2.toDocument.stripped) := by
  induction table with
  | nil => rfl
  | cons entry rest induction =>
      rw [List.map_cons, strippedEntries_cons, induction]
      rfl

/-- A table of pools as a setting. -/
def spelling (format : Format) : Spelling PoolTable where
  Spells document table := ∃ entries, document = .table entries ∧ table.IsLaid format entries
  IsTyped document := ∃ entries, document = .table entries ∧
    ∀ entry ∈ entries, (poolSpelling format).IsTyped entry.2
  read := PoolTable.ofDocument? format
  write table := .table (table.map fun entry => (entry.1, entry.2.toDocument))
  isTyped_iff {document} := by
    constructor
    · rintro ⟨entries, rfl, typed⟩
      obtain ⟨last, overlaid⟩ := exists_overlay_of_typed typed
      exact ⟨last, entries, rfl, isLaid_of_overlay overlaid⟩
    · rintro ⟨table, entries, rfl, laid⟩
      exact ⟨entries, rfl, laid.typed⟩
  read_eq_some_iff {document table} := by
    cases document with
    | table entries =>
        refine overlay_eq_some_iff.trans ⟨fun laid => ⟨entries, rfl, laid⟩, ?_⟩
        rintro ⟨_, ⟨⟩, laid⟩
        exact laid
    | null | bool | int | str | list | other =>
        exact iff_of_false nofun fun ⟨_, eq, _⟩ => nomatch eq
  spells_write := by
    rintro document table ⟨entries, rfl, laid⟩
    refine ⟨⟨_, rfl, laid.written _ fun document pool spelled => ?_⟩, _,
      congrArg Document.table (strippedEntries_map table),
      laid.written (fun pool => pool.toDocument.stripped) fun document pool spelled => ?_⟩
    · exact ((poolSpelling format).spells_write spelled).1
    · exact ((poolSpelling format).spells_write spelled).2

@[simp]
theorem spelling_fits_builtIn (format : Format) : (spelling format).Fits builtIn := by
  have laid : (spelling format).Spells (.table []) builtIn :=
    ⟨[], rfl, overlay_eq_some_iff.1 rfl⟩
  exact Spelling.fits_of_spells laid

@[simp]
theorem not_spelling_null (format : Format) (table : PoolTable) :
    ¬(spelling format).Spells .null table := nofun

end PoolTable

/-- The settings of the pools. -/
def ExecutorConfig.layout [Processors] (format : Format) : Layout ExecutorConfig where
  default := .default
  settings :=
    [⟨"caps", _, (·.caps), fun caps executor => { executor with caps },
        ResourceCaps.layout.spelling format⟩,
      ⟨"scheduled", _, (·.scheduled), fun scheduled executor => { executor with scheduled },
        ScheduledPoolConfig.layout.spelling format⟩,
      ⟨"pools", _, (·.pools), fun pools executor => { executor with pools },
        PoolTable.spelling format⟩]
  default_fits := by
    simp only [List.forall_mem_cons]
    exact ⟨ResourceCaps.layout.spelling_fits_default format,
      ScheduledPoolConfig.layout.spelling_fits_default format,
      PoolTable.spelling_fits_builtIn format, nofun⟩

/-- The settings of a node. -/
def NodeConfig.layout [Processors] (format : Format) : Layout NodeConfig where
  default := .default
  settings :=
    [⟨"host_name", _, (·.hostName), fun hostName config => { config with hostName },
        .optional .text Spelling.not_text_null⟩,
      ⟨"rpc", _, (·.rpc), fun rpc config => { config with rpc }, RpcConfig.layout.spelling format⟩,
      ⟨"executor", _, (·.executor), fun executor config => { config with executor },
        (ExecutorConfig.layout format).spelling format⟩,
      ⟨"heartbeat", _, (·.heartbeat), fun heartbeat config => { config with heartbeat },
        HeartbeatConfig.layout.spelling format⟩,
      ⟨"lifecycle", _, (·.lifecycle), fun lifecycle config => { config with lifecycle },
        LifecycleConfig.layout.spelling format⟩]
  default_fits := by
    simp only [List.forall_mem_cons]
    exact ⟨Spelling.optional_fits_none _ _, RpcConfig.layout.spelling_fits_default format,
      (ExecutorConfig.layout format).spelling_fits_default format,
      HeartbeatConfig.layout.spelling_fits_default format,
      LifecycleConfig.layout.spelling_fits_default format, nofun⟩
  default_of_null := by simp [NodeConfig.default]

namespace NodeConfig

section AnyMachine

variable [Processors]

/-- Configurations, laid over the defaults of a node. -/
abbrev spelling (format : Format) : Spelling NodeConfig := (layout format).spelling format

theorem read_spelling (format : Format) :
    (spelling format).read = NodeConfig.ofDocument? format := rfl

theorem write_spelling (format : Format) :
    (spelling format).write = NodeConfig.toDocument := rfl

/-- A configuration lies over the defaults as a document says, and is what is read back from all
that it is written as. -/
structure IsOverlay (format : Format) (document : Document) (config : NodeConfig) : Prop where
  decoded : NodeConfig.ofDocument? format document = some config
  /-- In every section the named settings are what the document spells, and the others are at their
  defaults. -/
  laid : (spelling format).Spells document config
  full : NodeConfig.ofDocument? format config.toDocument = some config
  /-- Absent values may as well be left out. -/
  sparse : NodeConfig.ofDocument? format config.toDocument.stripped = some config

/-- A document whose named settings are all of their types lies over the defaults. -/
theorem exists_isOverlay {format : Format} {document : Document}
    (typed : (spelling format).IsTyped document) : ∃ config, IsOverlay format document config := by
  obtain ⟨config, laid⟩ := (spelling format).isTyped_iff.1 typed
  obtain ⟨full, sparse⟩ := (spelling format).spells_write laid
  refine ⟨config, ?_, laid, ?_, ?_⟩ <;> rw [← read_spelling]
  · exact (spelling format).read_eq_some_iff.2 laid
  · rw [← write_spelling format]
    exact (spelling format).read_eq_some_iff.2 full
  · rw [← write_spelling format]
    exact (spelling format).read_eq_some_iff.2 sparse

end AnyMachine

/-- A few settings in any order, one of them of no section, lie over the defaults of a machine with
eight processors. -/
theorem exists_isOverlay_few_settings :
    letI : Processors := ⟨8, by decide, by decide⟩
    let archive : Document := .table [("rejection", .str "caller_runs"), ("queue_size", .int 0),
      ("max_threads", .nat 8), ("core_threads", .nat 4)]
    let document : Document := .table [("colour", .other), ("host_name", .str "slave-3"),
      ("executor", .table [("pools", .table [("archive", archive)])]),
      ("rpc", .table [("port", .nat 20000)])]
    let archivePool : PoolConfig :=
      { coreThreads := 4, maxThreads := 8, queueSize := 0, rejection := .callerRuns }
    let config : NodeConfig :=
      { hostName := some "slave-3"
        rpc := { port := some 20000, serverThreads := 16 }
        executor :=
          { scheduled := { coreThreads := 8 }
            pools := [("archive", archivePool), ("compact", {}), ("default", {})] } }
    (spelling .toml).IsTyped document ∧ config.IsOverlay .toml document := by
  let _ : Processors := ⟨8, by decide, by decide⟩
  intro archive document archivePool config
  have decoded : NodeConfig.ofDocument? .toml document = some config := by rfl
  have typed : (spelling .toml).IsTyped document :=
    (spelling .toml).isTyped_iff.2 ⟨config, (spelling .toml).read_eq_some_iff.1 decoded⟩
  obtain ⟨other, overlay⟩ := exists_isOverlay typed
  obtain rfl := Option.some.inj (decoded.symm.trans overlay.decoded)
  exact ⟨typed, overlay⟩

end NodeConfig
end ClusterMember
