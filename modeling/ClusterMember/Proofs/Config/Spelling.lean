import ClusterMember.Config.Document
import Mathlib.Algebra.Group.Int.Defs
import Mathlib.Data.List.Nodup

/-!
# Values that documents spell

A setting is of a type, and a document of that type spells one of its values.  What is read is what
is spelled, and every value that can be spelled is spelled by what is written for it, whether or not
absent values are left out of tables.
-/

namespace ClusterMember

namespace Document

/-! ## Tables -/

theorem find?_cons_of_ne {name key : String} (key_ne : key ≠ name) (document : Document)
    (rest : List (String × Document)) :
    find? name ((key, document) :: rest) = find? name rest := by
  rw [find?, if_neg key_ne]
  cases find? name rest <;> rfl

theorem mem_of_find?_eq_some {name : String} {entries : List (String × Document)}
    {document : Document} (found : find? name entries = some document) :
    (name, document) ∈ entries := by
  induction entries with
  | nil => cases found
  | cons entry rest induction =>
      obtain ⟨key, value⟩ := entry
      rw [find?] at found
      split at found
      next inner behind =>
        cases found
        exact List.mem_cons_of_mem _ (induction behind)
      next =>
        split at found
        next same =>
          cases found
          exact same ▸ List.mem_cons_self
        next => cases found

theorem find?_eq_none_iff (name : String) (entries : List (String × Document)) :
    find? name entries = none ↔ name ∉ entries.map Prod.fst := by
  induction entries with
  | nil => exact iff_of_true rfl List.not_mem_nil
  | cons entry rest induction =>
      obtain ⟨key, value⟩ := entry
      rw [find?, List.map_cons, List.mem_cons, not_or, ← induction]
      cases find? name rest with
      | some found => simp
      | none => simp [eq_comm]

theorem find?_of_mem {name : String} {entries : List (String × Document)} {document : Document}
    (nodup : (entries.map Prod.fst).Nodup) (mem : (name, document) ∈ entries) :
    find? name entries = some document := by
  cases found : find? name entries with
  | none => exact absurd (List.mem_map_of_mem mem) ((find?_eq_none_iff name entries).1 found)
  | some last =>
      have same := List.inj_on_of_nodup_map nodup (mem_of_find?_eq_some found) mem rfl
      rw [(Prod.mk.inj same).2]

mutual

/-- A document without the absent values of its tables. -/
def stripped : Document → Document
  | .table entries => .table (strippedEntries entries)
  | document => document

/-- Entries without those that are absent. -/
def strippedEntries : List (String × Document) → List (String × Document)
  | [] => []
  | (_, .null) :: rest => strippedEntries rest
  | (name, document) :: rest => (name, document.stripped) :: strippedEntries rest

end

/-- What is left of a value: nothing when it is absent. -/
def left? : Document → Option Document
  | .null => none
  | document => some document.stripped

theorem left?_of_ne_null {document : Document} (present : document ≠ .null) :
    document.left? = some document.stripped := by
  cases document with
  | null => exact absurd rfl present
  | bool | int | str | list | table | other => rfl

theorem strippedEntries_cons (name : String) (document : Document)
    (rest : List (String × Document)) :
    strippedEntries ((name, document) :: rest) =
      match document.left? with
      | none => strippedEntries rest
      | some kept => (name, kept) :: strippedEntries rest := by
  cases document <;> rfl

/-- What a table shows under a name when it is without its absent values. -/
theorem find?_strippedEntries {entries : List (String × Document)}
    (nodup : (entries.map Prod.fst).Nodup) (name : String) :
    find? name (strippedEntries entries) = find? name entries >>= left? := by
  induction entries with
  | nil => rfl
  | cons entry rest induction =>
      obtain ⟨key, document⟩ := entry
      rw [List.map_cons, List.nodup_cons, ← find?_eq_none_iff] at nodup
      have behind := induction nodup.2
      rw [strippedEntries_cons]
      by_cases same : key = name
      · subst same
        rw [nodup.1] at behind
        rw [find?, nodup.1, if_pos rfl]
        cases left : document.left? with
        | none => exact behind.trans left.symm
        | some kept =>
            simp only [find?, behind, if_pos]
            exact left.symm
      · rw [find?_cons_of_ne same, ← behind]
        cases document.left? with
        | none => rfl
        | some kept => exact find?_cons_of_ne same kept _

end Document

theorem RejectionPolicy.ofName?_eq_some_iff (name : String) (policy : RejectionPolicy) :
    ofName? name = some policy ↔ policy.name = name := by
  constructor
  · intro found
    simpa using List.find?_some found
  · rintro rfl
    exact ofName?_name policy

/-- How the values of a type are spelled. -/
structure Spelling (α : Type) where
  /-- Whether a document spells a value. -/
  Spells : Document → α → Prop
  /-- Whether a document is of the type. -/
  IsTyped : Document → Prop := fun document => ∃ value, Spells document value
  read : Document → Option α
  write : α → Document
  isTyped_iff : ∀ {document}, IsTyped document ↔ ∃ value, Spells document value := by
    exact Iff.rfl
  read_eq_some_iff : ∀ {document value}, read document = some value ↔ Spells document value
  /-- What is written for a value that can be spelled spells it. -/
  spells_write : ∀ {document value}, Spells document value →
    Spells (write value) value ∧ Spells (write value).stripped value

namespace Spelling

open Document

/-- A value can be written. -/
def Fits {α : Type} (spelling : Spelling α) (value : α) : Prop :=
  spelling.Spells (spelling.write value) value

theorem fits_of_spells {α : Type} {spelling : Spelling α} {document : Document} {value : α}
    (spelled : spelling.Spells document value) : spelling.Fits value :=
  (spelling.spells_write spelled).1

/-- Numbers up to a largest one. -/
def natural (largest : Nat) : Spelling Nat where
  Spells document n := document = .nat n ∧ n ≤ largest
  read := natural? largest
  write := .nat
  read_eq_some_iff {document value} := by
    unfold natural?
    split
    next n =>
      rw [Option.ite_none_right_eq_some, Option.some.injEq, Document.nat, Document.int.injEq]
      constructor
      · rintro ⟨small, rfl⟩
        exact ⟨rfl, small⟩
      · rintro ⟨same, small⟩
        obtain rfl := Int.ofNat.inj same
        exact ⟨small, rfl⟩
    next noNumber =>
      refine iff_of_false nofun ?_
      rintro ⟨rfl, -⟩
      exact noNumber value rfl
  spells_write := fun ⟨_, small⟩ => ⟨⟨rfl, small⟩, rfl, small⟩

@[simp]
theorem natural_fits_iff (largest n : Nat) : (natural largest).Fits n ↔ n ≤ largest :=
  and_iff_right rfl

@[simp]
theorem not_natural_null (largest n : Nat) : ¬(natural largest).Spells .null n := nofun

/-- Whole numbers of 64 bits with a sign. -/
def signed64 : Spelling Int where
  Spells document n := document = .int n ∧ -2 ^ 63 ≤ n ∧ n < 2 ^ 63
  read := signed64?
  write := .int
  read_eq_some_iff {document value} := by
    unfold signed64?
    split
    next n =>
      rw [Option.ite_none_right_eq_some, Option.some.injEq, Document.int.injEq]
      constructor
      · rintro ⟨inside, rfl⟩
        exact ⟨rfl, by omega⟩
      · rintro ⟨rfl, inside⟩
        exact ⟨by omega, rfl⟩
    next noNumber =>
      refine iff_of_false nofun ?_
      rintro ⟨rfl, -⟩
      exact noNumber value rfl
  spells_write := fun ⟨_, inside⟩ => ⟨⟨rfl, inside⟩, rfl, inside⟩

@[simp]
theorem signed64_fits_iff (n : Int) : signed64.Fits n ↔ -2 ^ 63 ≤ n ∧ n < 2 ^ 63 :=
  and_iff_right rfl

@[simp]
theorem not_signed64_null (n : Int) : ¬signed64.Spells .null n := nofun

/-- Texts. -/
def text : Spelling String where
  Spells document value := document = .str value
  read := string?
  write := .str
  read_eq_some_iff {document value} := by cases document <;> simp [string?]
  spells_write _ := ⟨rfl, rfl⟩

@[simp]
theorem text_fits (value : String) : text.Fits value := rfl

@[simp]
theorem not_text_null (value : String) : ¬text.Spells .null value := nofun

/-- Truth values. -/
def flag : Spelling Bool where
  Spells document value := document = .bool value
  read := bool?
  write := .bool
  read_eq_some_iff {document value} := by cases document <;> simp [bool?]
  spells_write _ := ⟨rfl, rfl⟩

@[simp]
theorem flag_fits (value : Bool) : flag.Fits value := rfl

@[simp]
theorem not_flag_null (value : Bool) : ¬flag.Spells .null value := nofun

/-- Values that may be absent, of a type none of whose values is spelled by an absent one. -/
def optional {α : Type} (spelling : Spelling α)
    (present : ∀ value, ¬spelling.Spells .null value) : Spelling (Option α) where
  Spells document
    | none => document = .null
    | some value => spelling.Spells document value
  IsTyped document := document = .null ∨ spelling.IsTyped document
  read := optional? spelling.read
  write := .optional spelling.write
  isTyped_iff {document} := by
    rw [spelling.isTyped_iff]
    constructor
    · rintro (absent | ⟨value, spelled⟩)
      · exact ⟨none, absent⟩
      · exact ⟨some value, spelled⟩
    · rintro ⟨none | value, spelled⟩
      · exact .inl spelled
      · exact .inr ⟨value, spelled⟩
  read_eq_some_iff {document value} := by
    unfold optional?
    split
    next =>
      cases value with
      | none => exact iff_of_true rfl rfl
      | some value => exact iff_of_false nofun (present value)
    next isPresent =>
      rw [Option.map_eq_some_iff]
      cases value with
      | none => exact iff_of_false nofun isPresent
      | some value => simp [spelling.read_eq_some_iff]
  spells_write {document value} spelled := by
    cases value with
    | none => exact ⟨rfl, rfl⟩
    | some value => exact spelling.spells_write spelled

@[simp]
theorem optional_fits_none {α : Type} (spelling : Spelling α)
    (present : ∀ value, ¬spelling.Spells .null value) : (optional spelling present).Fits none := rfl

@[simp]
theorem optional_null_iff {α : Type} (spelling : Spelling α)
    (present : ∀ value, ¬spelling.Spells .null value) (value : Option α) :
    (optional spelling present).Spells .null value ↔ value = none := by
  cases value with
  | none => exact iff_of_true rfl rfl
  | some value => exact iff_of_false (present value) nofun

/-- Rejection policies: the name of one, or a table with nothing under that name. -/
def rejection (format : Format) : Spelling RejectionPolicy where
  Spells document policy := document = .str policy.name ∨
    ∃ nothing, document = .table [(policy.name, nothing)] ∧ isNothing format nothing = true
  read := rejection? format
  write policy := .str policy.name
  read_eq_some_iff {document policy} := by
    unfold rejection?
    split
    next name =>
      rw [RejectionPolicy.ofName?_eq_some_iff, eq_comm]
      simp
    next name nothing =>
      rw [Option.ite_none_right_eq_some, RejectionPolicy.ofName?_eq_some_iff, eq_comm (b := name)]
      simp [and_comm]
    next noText noTable =>
      refine iff_of_false nofun ?_
      rintro (rfl | ⟨nothing, rfl, -⟩)
      · exact noText _ rfl
      · exact noTable _ _ rfl
  spells_write _ := ⟨.inl rfl, .inl rfl⟩

@[simp]
theorem rejection_fits (format : Format) (policy : RejectionPolicy) :
    (rejection format).Fits policy := .inl rfl

@[simp]
theorem not_rejection_null (format : Format) (policy : RejectionPolicy) :
    ¬(rejection format).Spells .null policy := by
  rintro (nothing | ⟨_, nothing, _⟩) <;> cases nothing

end Spelling
end ClusterMember
