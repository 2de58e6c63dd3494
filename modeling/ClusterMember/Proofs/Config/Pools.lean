import ClusterMember.Config.Document
import Mathlib.Data.List.Nodup

/-!
# Tables of pools

A table is kept in the order of the names, and is known by what it shows under each of them.  Laying
entries over a table changes what it shows under their names and nothing else.
-/

namespace ClusterMember
namespace PoolTable

variable {table : PoolTable}

/-- The names of a table stand in order, and none stands twice. -/
def Ordered (table : PoolTable) : Prop :=
  table.Pairwise fun first second => first.1 < second.1

instance (table : PoolTable) : Decidable table.Ordered :=
  inferInstanceAs (Decidable (table.Pairwise _))

theorem find?_cons (entry : String × PoolConfig) (rest : PoolTable) (name : String) :
    find? (entry :: rest) name = if name = entry.1 then some entry.2 else rest.find? name := by
  rw [find?, List.lookup_cons]
  by_cases same : name = entry.1
  · simp [same]
  · rw [beq_eq_false_iff_ne.2 same, if_neg same]
    rfl

theorem find?_eq_none_iff (table : PoolTable) (name : String) :
    table.find? name = none ↔ name ∉ table.map Prod.fst := by
  induction table with
  | nil => exact iff_of_true rfl List.not_mem_nil
  | cons entry rest induction =>
      rw [find?_cons, List.map_cons, List.mem_cons, not_or, ← induction]
      by_cases same : name = entry.1 <;> simp [same]

theorem has_eq_true_iff (table : PoolTable) (name : String) :
    table.has name = true ↔ table.find? name ≠ none := by
  rw [Ne, find?_eq_none_iff, not_not]
  simp [has]

theorem mem_of_find?_eq_some {name : String} {pool : PoolConfig}
    (found : table.find? name = some pool) : (name, pool) ∈ table := by
  induction table with
  | nil => cases found
  | cons entry rest induction =>
      rw [find?_cons] at found
      split at found
      next same =>
        cases found
        exact same ▸ List.mem_cons_self
      next => exact List.mem_cons_of_mem _ (induction found)

theorem find?_insert (table : PoolTable) (name : String) (pool : PoolConfig) (wanted : String) :
    (table.insert name pool).find? wanted =
      if wanted = name then some pool else table.find? wanted := by
  induction table with
  | nil => rw [insert, find?_cons]
  | cons entry rest induction =>
      obtain ⟨other, kept⟩ := entry
      rw [insert]
      split
      next same =>
        rw [find?_cons, find?_cons]
        by_cases wanted_eq : wanted = name
        · rw [if_pos wanted_eq, if_pos wanted_eq]
        · rw [if_neg wanted_eq, if_neg wanted_eq, if_neg (same ▸ wanted_eq)]
      next =>
        split
        next => rw [find?_cons]
        next different _ =>
          rw [find?_cons, find?_cons, induction]
          by_cases wanted_eq : wanted = other
          · rw [if_pos wanted_eq, if_pos wanted_eq, if_neg]
            exact fun same => different (same.symm.trans wanted_eq)
          · rw [if_neg wanted_eq, if_neg wanted_eq]

theorem mem_insert {name : String} {pool : PoolConfig} {entry : String × PoolConfig}
    (mem : entry ∈ table.insert name pool) : entry = (name, pool) ∨ entry ∈ table := by
  induction table with
  | nil => exact .inl (List.mem_singleton.1 mem)
  | cons first rest induction =>
      obtain ⟨other, kept⟩ := first
      rw [insert] at mem
      split at mem
      next =>
        rcases List.mem_cons.1 mem with eq | mem
        · exact .inl eq
        · exact .inr (List.mem_cons_of_mem _ mem)
      next =>
        split at mem
        next => exact List.mem_cons.1 mem
        next =>
          rcases List.mem_cons.1 mem with rfl | mem
          · exact .inr List.mem_cons_self
          · exact (induction mem).imp_right (List.mem_cons_of_mem _)

theorem Ordered.insert (ordered : table.Ordered) (name : String) (pool : PoolConfig) :
    (table.insert name pool).Ordered := by
  induction table with
  | nil => exact List.pairwise_singleton _ _
  | cons first rest induction =>
      obtain ⟨other, kept⟩ := first
      obtain ⟨least, rest_ordered⟩ := List.pairwise_cons.1 ordered
      rw [PoolTable.insert]
      split
      next same => exact List.pairwise_cons.2 ⟨same ▸ least, rest_ordered⟩
      next different =>
        split
        next before =>
          refine List.pairwise_cons.2 ⟨fun entry mem => ?_, ordered⟩
          rcases List.mem_cons.1 mem with rfl | mem
          · exact before
          · exact String.lt_trans before (least entry mem)
        next notBefore =>
          refine List.pairwise_cons.2 ⟨fun entry mem => ?_, induction rest_ordered⟩
          rcases mem_insert mem with rfl | mem
          · exact Std.lt_of_le_of_ne (String.not_lt.1 notBefore) (Ne.symm different)
          · exact least entry mem

theorem Ordered.nodup (ordered : table.Ordered) : (table.map Prod.fst).Nodup := by
  rw [List.Nodup, List.pairwise_map]
  refine ordered.imp fun before same => ?_
  rw [same] at before
  exact String.lt_irrefl _ before

theorem Ordered.mem_iff (ordered : table.Ordered) (name : String) (pool : PoolConfig) :
    (name, pool) ∈ table ↔ table.find? name = some pool := by
  refine ⟨fun mem => ?_, mem_of_find?_eq_some⟩
  cases found : table.find? name with
  | none => exact absurd (List.mem_map_of_mem mem) ((find?_eq_none_iff table name).1 found)
  | some kept =>
      have same := List.inj_on_of_nodup_map ordered.nodup (mem_of_find?_eq_some found) mem rfl
      rw [(Prod.mk.inj same).2]

/-- Tables in order that show the same are the same. -/
theorem Ordered.ext {other : PoolTable} (ordered : table.Ordered) (other_ordered : other.Ordered)
    (same : ∀ name, table.find? name = other.find? name) : table = other := by
  refine List.Perm.eq_of_pairwise ?_ ordered other_ordered ?_
  · exact fun first second _ _ before after => absurd after (String.lt_asymm before)
  · rw [List.perm_ext_iff_of_nodup ordered.nodup.of_map other_ordered.nodup.of_map]
    rintro ⟨name, pool⟩
    rw [ordered.mem_iff, other_ordered.mem_iff, same]

theorem ordered_builtIn : builtIn.Ordered := by decide

/-! ## Laying entries over a table -/

/-- When every entry is a pool, they can be laid over any table. -/
theorem exists_overlay {format : Format} {entries : List (String × Document)}
    (read : ∀ entry ∈ entries, ∃ pool, PoolConfig.ofDocument? format entry.2 = some pool)
    (table : PoolTable) : ∃ last, overlay format entries table = some last := by
  induction entries generalizing table with
  | nil => exact ⟨table, rfl⟩
  | cons entry rest induction =>
      rw [List.forall_mem_cons] at read
      obtain ⟨⟨pool, first_read⟩, others⟩ := read
      obtain ⟨last, laid⟩ := induction others (table.insert entry.1 pool)
      exact ⟨last, Option.bind_eq_some_iff.2 ⟨pool, first_read, laid⟩⟩

/-- What a table shows once entries are laid over it: under their names the last entry of each, and
else what it showed before. -/
theorem find?_overlay {format : Format} {entries : List (String × Document)} {last : PoolTable}
    (laid : overlay format entries table = some last) (name : String) :
    last.find? name =
      match Document.find? name entries with
      | none => table.find? name
      | some document => PoolConfig.ofDocument? format document := by
  induction entries generalizing table with
  | nil =>
      cases laid
      rfl
  | cons entry rest induction =>
      obtain ⟨key, document⟩ := entry
      obtain ⟨pool, read, laid⟩ := Option.bind_eq_some_iff.1 laid
      rw [induction laid, Document.find?]
      cases Document.find? name rest with
      | some found => rfl
      | none =>
          rw [find?_insert]
          by_cases same : key = name
          · simp [same, read]
          · simp [same, Ne.symm same]

theorem Ordered.overlay {format : Format} {entries : List (String × Document)} {last : PoolTable}
    (ordered : table.Ordered) (laid : overlay format entries table = some last) : last.Ordered := by
  induction entries generalizing table with
  | nil =>
      cases laid
      exact ordered
  | cons entry rest induction =>
      obtain ⟨pool, -, laid⟩ := Option.bind_eq_some_iff.1 laid
      exact induction (ordered.insert entry.1 pool) laid

/-- Only pools can be laid over a table. -/
theorem exists_read_of_overlay {format : Format} {entries : List (String × Document)}
    {last : PoolTable} (laid : overlay format entries table = some last) :
    ∀ entry ∈ entries, ∃ pool, PoolConfig.ofDocument? format entry.2 = some pool := by
  induction entries generalizing table with
  | nil => exact nofun
  | cons entry rest induction =>
      obtain ⟨pool, read, laid⟩ := Option.bind_eq_some_iff.1 laid
      exact List.forall_mem_cons.2 ⟨⟨pool, read⟩, induction laid⟩

end PoolTable
end ClusterMember
