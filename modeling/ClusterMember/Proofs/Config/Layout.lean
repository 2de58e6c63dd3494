import ClusterMember.Proofs.Config.Spelling
import Mathlib.Data.List.Pairwise

/-!
# Sections of settings

A section is a row of settings over their defaults.  A document that is read as a section changes
the settings that it names to what it spells, and leaves the others at their defaults.
-/

namespace ClusterMember

open Document

/-- A setting of a section: its name, where it is, and how its values are spelled. -/
structure Setting (σ : Type) where
  name : String
  Value : Type
  get : σ → Value
  put : Value → σ → σ
  spelling : Spelling Value

/-- Fields lay a setting over its default: it is what they spell under its name, and else the
default. -/
def Setting.IsLaid {σ : Type} (setting : Setting σ) (fields : Fields) (default value : σ) : Prop :=
  match fields setting.name with
  | none => setting.get value = setting.get default
  | some document => setting.spelling.Spells document (setting.get value)

/-- Neither of two settings changes the other. -/
def Setting.Apart {σ : Type} (first second : Setting σ) : Prop :=
  (∀ value held, second.get (first.put value held) = second.get held) ∧
    ∀ value held, first.get (second.put value held) = first.get held

/-- All settings of a section with their defaults. -/
structure Layout (σ : Type) where
  settings : List (Setting σ)
  default : σ
  names_nodup : (settings.map (·.name)).Nodup := by simp
  get_put : ∀ setting ∈ settings, ∀ value held,
    setting.get (setting.put value held) = value := by simp
  apart : settings.Pairwise Setting.Apart := by simp [Setting.Apart]
  /-- There is nothing in a section but its settings. -/
  ext : ∀ {a b}, (∀ setting ∈ settings, setting.get a = setting.get b) → a = b := by
    rintro ⟨⟩ ⟨⟩ same
    simpa using same
  default_fits : ∀ setting ∈ settings, setting.spelling.Fits (setting.get default)
  /-- An absent value spells the default, if anything. -/
  default_of_null : ∀ setting ∈ settings, ∀ value, setting.spelling.Spells .null value →
    value = setting.get default := by simp

variable {σ : Type}

/-- Read settings one after the other. -/
def Layout.decode (fields : Fields) : List (Setting σ) → σ → Option σ
  | [], held => some held
  | first :: rest, held => do
    let value ← setting fields first.name first.spelling.read (first.get held)
    decode fields rest (first.put value held)

theorem Setting.isLaid_iff (first : Setting σ) (fields : Fields) (default value : σ) :
    Document.setting fields first.name first.spelling.read (first.get default) =
        some (first.get value) ↔
      first.IsLaid fields default value := by
  unfold Document.setting IsLaid
  cases fields first.name with
  | none => simp [eq_comm]
  | some document => exact first.spelling.read_eq_some_iff

namespace Layout

/-- What is read is laid, and nothing else changes. -/
theorem get_of_decode {fields : Fields} {settings : List (Setting σ)} {held value : σ}
    (get_put : ∀ setting ∈ settings, ∀ value held, setting.get (setting.put value held) = value)
    (apart : settings.Pairwise Setting.Apart)
    (decoded : decode fields settings held = some value) :
    (∀ setting ∈ settings, setting.IsLaid fields held value) ∧
      ∀ other : Setting σ,
        (∀ setting ∈ settings, ∀ value held, other.get (setting.put value held) = other.get held) →
          other.get value = other.get held := by
  induction settings generalizing held with
  | nil =>
      cases decoded
      exact ⟨nofun, fun _ _ => rfl⟩
  | cons first rest induction =>
      obtain ⟨named, read, decoded⟩ := Option.bind_eq_some_iff.1 decoded
      rw [List.forall_mem_cons] at get_put
      rw [List.pairwise_cons] at apart
      obtain ⟨laid, kept⟩ := induction get_put.2 apart.2 decoded
      refine ⟨List.forall_mem_cons.2 ⟨?_, fun setting mem => ?_⟩, fun other foreign => ?_⟩
      · have first_kept := kept first fun setting mem => (apart.1 setting mem).2
        rw [get_put.1] at first_kept
        rw [← first.isLaid_iff, read, first_kept]
      · have default_eq := (apart.1 setting mem).1 named held
        have setting_laid := laid setting mem
        unfold Setting.IsLaid at setting_laid ⊢
        rwa [default_eq] at setting_laid
      · rw [List.forall_mem_cons] at foreign
        rw [kept other foreign.2, foreign.1]

theorem exists_decode (fields : Fields) {settings : List (Setting σ)} (held : σ)
    (apart : settings.Pairwise Setting.Apart)
    (named : ∀ first ∈ settings, ∃ value,
      setting fields first.name first.spelling.read (first.get held) = some value) :
    ∃ value, decode fields settings held = some value := by
  induction settings generalizing held with
  | nil => exact ⟨held, rfl⟩
  | cons first rest induction =>
      rw [List.forall_mem_cons] at named
      rw [List.pairwise_cons] at apart
      obtain ⟨⟨value, read⟩, others⟩ := named
      obtain ⟨last, decoded⟩ := induction (first.put value held) apart.2
        fun setting mem => by
          rw [(apart.1 setting mem).1]
          exact others setting mem
      exact ⟨last, Option.bind_eq_some_iff.2 ⟨value, read, decoded⟩⟩

variable (layout : Layout σ)

theorem decode_eq_some_iff (fields : Fields) (value : σ) :
    decode fields layout.settings layout.default = some value ↔
      ∀ setting ∈ layout.settings, setting.IsLaid fields layout.default value := by
  constructor
  · intro decoded
    exact (get_of_decode layout.get_put layout.apart decoded).1
  · intro laid
    obtain ⟨last, decoded⟩ := exists_decode fields layout.default layout.apart
      fun first mem => ⟨_, (first.isLaid_iff _ _ _).2 (laid first mem)⟩
    have last_laid := (get_of_decode layout.get_put layout.apart decoded).1
    rw [decoded]
    refine congrArg some (layout.ext fun setting mem => ?_)
    have same := ((setting.isLaid_iff _ _ _).2 (laid setting mem)).symm.trans
      ((setting.isLaid_iff _ _ _).2 (last_laid setting mem))
    exact (Option.some.inj same).symm

/-- The names of the settings in their order. -/
def names : List String := layout.settings.map (·.name)

/-- The fields of a section in full. -/
def entries (value : σ) : List (String × Document) :=
  layout.settings.map fun setting => (setting.name, setting.spelling.write (setting.get value))

theorem entries_nodup (value : σ) : ((layout.entries value).map Prod.fst).Nodup := by
  rw [entries, List.map_map]
  exact layout.names_nodup

theorem find?_entries (value : σ) {setting : Setting σ} (mem : setting ∈ layout.settings) :
    find? setting.name (layout.entries value) =
      some (setting.spelling.write (setting.get value)) :=
  find?_of_mem (layout.entries_nodup value) (List.mem_map_of_mem mem)

/-- A section as a type of settings. -/
def spelling (format : Format) : Spelling σ where
  Spells document value := ∃ fields, document.fields? format layout.names = some fields ∧
    ∀ setting ∈ layout.settings, setting.IsLaid fields layout.default value
  IsTyped document := ∃ fields, document.fields? format layout.names = some fields ∧
    ∀ setting ∈ layout.settings, ∀ named, fields setting.name = some named →
      setting.spelling.IsTyped named
  read document := document.fields? format layout.names >>= fun fields =>
    decode fields layout.settings layout.default
  write value := .table (layout.entries value)
  isTyped_iff {document} := by
    constructor
    · rintro ⟨fields, known, typed⟩
      obtain ⟨value, decoded⟩ := exists_decode fields layout.default layout.apart
        fun first mem => by
          unfold setting
          cases named : fields first.name with
          | none => exact ⟨_, rfl⟩
          | some document =>
              obtain ⟨value, spelled⟩ := first.spelling.isTyped_iff.1 (typed first mem _ named)
              exact ⟨value, first.spelling.read_eq_some_iff.2 spelled⟩
      exact ⟨value, fields, known, (layout.decode_eq_some_iff fields value).1 decoded⟩
    · rintro ⟨value, fields, known, laid⟩
      refine ⟨fields, known, fun setting mem document named => ?_⟩
      have setting_laid := laid setting mem
      rw [Setting.IsLaid, named] at setting_laid
      exact setting.spelling.isTyped_iff.2 ⟨_, setting_laid⟩
  read_eq_some_iff {document value} := by
    simp only [Option.bind_eq_bind, Option.bind_eq_some_iff, layout.decode_eq_some_iff]
  spells_write := by
    rintro document value ⟨fields, known, laid⟩
    have spelled : ∀ setting ∈ layout.settings,
        setting.spelling.Spells (setting.spelling.write (setting.get value)) (setting.get value) ∧
          setting.spelling.Spells (setting.spelling.write (setting.get value)).stripped
            (setting.get value) := by
      intro setting mem
      have setting_laid := laid setting mem
      unfold Setting.IsLaid at setting_laid
      split at setting_laid
      next =>
        rw [setting_laid]
        exact setting.spelling.spells_write (layout.default_fits setting mem)
      next document => exact setting.spelling.spells_write setting_laid
    constructor
    · refine ⟨_, rfl, fun setting mem => ?_⟩
      rw [Setting.IsLaid, layout.find?_entries value mem]
      exact (spelled setting mem).1
    · refine ⟨_, rfl, fun setting mem => ?_⟩
      rw [Setting.IsLaid, find?_strippedEntries (layout.entries_nodup value),
        layout.find?_entries value mem, Option.bind_eq_bind, Option.bind_some]
      by_cases absent : setting.spelling.write (setting.get value) = .null
      · have written := (spelled setting mem).1
        rw [absent] at written ⊢
        exact layout.default_of_null setting mem _ written
      · rw [left?_of_ne_null absent]
        exact (spelled setting mem).2

theorem spelling_fits_default (format : Format) :
    (layout.spelling format).Fits layout.default := by
  have spelled : (layout.spelling format).Spells (.table []) layout.default :=
    ⟨_, rfl, fun _ _ => rfl⟩
  exact Spelling.fits_of_spells spelled

@[simp]
theorem not_spelling_null (format : Format) (value : σ) :
    ¬(layout.spelling format).Spells .null value := by
  rintro ⟨fields, known, -⟩
  cases known

end Layout
end ClusterMember
