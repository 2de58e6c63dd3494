/-!
# Rows of values under keys

What can be found under the keys of a row and what stands under them, and what stays when an entry
is replaced.
-/

namespace ClusterMember
namespace Keyed

variable {κ ν : Type} [BEq κ] [LawfulBEq κ]

/-- Something is found under the keys of a row, and under no others. -/
theorem isSome_lookup_iff (key : κ) (row : List (κ × ν)) :
    (row.lookup key).isSome = true ↔ key ∈ row.map Prod.fst := by
  simp [List.lookup_isSome_iff]

/-- In a row without a key twice, what is found under a key is what stands under it. -/
theorem mem_iff_lookup {row : List (κ × ν)} (nodup : (row.map Prod.fst).Nodup) (key : κ)
    (value : ν) : (key, value) ∈ row ↔ row.lookup key = some value := by
  induction row with
  | nil => simp
  | cons entry rest induction =>
      obtain ⟨name, kept⟩ := entry
      rw [List.map_cons, List.nodup_cons] at nodup
      rw [List.mem_cons, List.lookup_cons, induction nodup.2]
      cases same : key == name with
      | true =>
          rw [beq_iff_eq] at same
          subst same
          have absent : rest.lookup key = none := by
            rw [List.lookup_eq_none_iff]
            rintro ⟨other, value⟩ mem
            rw [bne_iff_ne]
            rintro rfl
            exact nodup.1 (List.mem_map.2 ⟨_, mem, rfl⟩)
          simp [absent, eq_comm]
      | false =>
          rw [beq_eq_false_iff_ne] at same
          simp [same]

/-- A row shows the same when an entry of it is replaced by one that shows the same. -/
theorem map_set_of_eq {α β : Type} {row : List α} {place : Nat} {old new : α} {shown : α → β}
    (there : row[place]? = some old) (shown_eq : shown new = shown old) :
    (row.set place new).map shown = row.map shown := by
  obtain ⟨small, rfl⟩ := List.getElem?_eq_some_iff.1 there
  have inside : place < (row.map shown).length := by rwa [List.length_map]
  have there_eq : (row.map shown)[place] = shown row[place] := List.getElem_map _
  rw [List.map_set, shown_eq, ← there_eq, List.set_getElem_self]

end Keyed
end ClusterMember
