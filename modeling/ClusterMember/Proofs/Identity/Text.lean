import ClusterMember.Identity.Text
import Mathlib.Data.List.Basic

/-!
# Parts of texts, and identities made of them

A text splits into the parts between its separators, which hold none themselves.  Making an identity
of fields either fails for the host or keeps every field.
-/

namespace ClusterMember

namespace Text

theorem split_eq_splitOn (separator : Char) (s : List Char) :
    split separator s = s.splitOn separator := by
  induction s with
  | nil => rfl
  | cons c rest induction =>
      rw [split, induction, List.splitOn_cons_eq_if_modifyHead]
      refine if_congr (by simp) rfl ?_
      cases parts_eq : List.splitOn separator rest with
      | nil => exact absurd parts_eq (List.splitOn_ne_nil _ _)
      | cons part parts => rfl

theorem not_mem_of_mem_split {separator : Char} {s part : List Char}
    (mem : part ∈ split separator s) : separator ∉ part := by
  rw [split_eq_splitOn] at mem
  induction s generalizing part with
  | nil =>
      rw [List.mem_singleton.1 mem]
      exact List.not_mem_nil
  | cons c rest induction =>
      rw [List.splitOn_cons_eq_if_modifyHead] at mem
      split at mem
      next =>
        rcases List.mem_cons.1 mem with rfl | later
        · exact List.not_mem_nil
        · exact induction later
      next c_ne =>
        obtain ⟨first, parts, parts_eq⟩ :=
          List.exists_cons_of_ne_nil (List.splitOn_ne_nil separator rest)
        rw [parts_eq] at mem induction
        rcases List.mem_cons.1 mem with rfl | later
        · have not_c : separator ≠ c := fun eq => c_ne (by simp [eq])
          exact List.not_mem_cons_of_ne_of_not_mem not_c (induction List.mem_cons_self)
        · exact induction (List.mem_cons_of_mem _ later)

theorem length_split (separator : Char) (s : List Char) :
    (split separator s).length = s.count separator + 1 := by
  rw [split_eq_splitOn]
  induction s with
  | nil => rfl
  | cons c rest induction =>
      rw [List.splitOn_cons_eq_if_modifyHead, List.count_cons]
      split
      next => rw [List.length_cons, induction]
      next => rw [List.length_modifyHead, induction, Nat.add_zero]

/-- A text with two separators is what stands before, between and behind them. -/
theorem split_eq_three_iff {separator : Char} {s first second third : List Char} :
    split separator s = [first, second, third] ↔
      s = first ++ separator :: (second ++ separator :: third) ∧
        separator ∉ first ∧ separator ∉ second ∧ separator ∉ third := by
  constructor
  · intro split_eq
    have joined : [separator].intercalate (split separator s) = s := by
      rw [split_eq_splitOn]
      exact List.intercalate_splitOn separator
    have absent (part : List Char) (mem : part ∈ [first, second, third]) : separator ∉ part :=
      not_mem_of_mem_split (split_eq ▸ mem)
    rw [split_eq] at joined
    refine ⟨by simpa [List.intercalate] using joined.symm, absent _ ?_, absent _ ?_, absent _ ?_⟩
      <;> simp
  · rintro ⟨rfl, first_absent, second_absent, third_absent⟩
    rw [split_eq_splitOn, List.splitOn_append_cons_self_of_not_mem first_absent,
      List.splitOn_append_cons_self_of_not_mem second_absent,
      List.splitOn_eq_singleton third_absent]

end Text

namespace Identity

/-- Making an identity either fails or keeps every field, the address included. -/
theorem make_eq_ok_iff (host : String) (ip : Option IpAddress) (port : UInt16)
    (startTime : UInt64) (value : Identity) :
    make host ip port startTime = .ok value ↔
      value.host = host ∧ value.ip = ip ∧ value.port = port ∧ value.startTime = startTime := by
  unfold make
  constructor
  · intro made
    split at made
    · cases made
    · cases made
      exact ⟨rfl, rfl, rfl, rfl⟩
  · obtain ⟨host, ip, port, startTime, valid⟩ := value
    rintro ⟨rfl, rfl, rfl, rfl⟩
    split
    · next fault found =>
        rw [(hostFault?_eq_none_iff host).2 valid] at found
        cases found
    · rfl

theorem make_eq_error_iff (host : String) (ip : Option IpAddress) (port : UInt16)
    (startTime : UInt64) (cause : HostFault) :
    make host ip port startTime = .error cause ↔ hostFault? host = some cause := by
  unfold make
  split
  next fault found => simp [found]
  next found => simp [found]

end Identity

/-- The four fields of an identity, of which the host name may be any text. -/
structure IdentityFields where
  host : String
  ip : Option IpAddress
  port : UInt16
  startTime : UInt64

/-- The fields of an identity. -/
def Identity.fields (identity : Identity) : IdentityFields :=
  ⟨identity.host, identity.ip, identity.port, identity.startTime⟩

namespace IdentityFields

/-- The identity that fields make. -/
def make (fields : IdentityFields) : Except HostFault Identity :=
  Identity.make fields.host fields.ip fields.port fields.startTime

theorem make_fields (identity : Identity) : identity.fields.make = .ok identity :=
  (Identity.make_eq_ok_iff _ _ _ _ _).2 ⟨rfl, rfl, rfl, rfl⟩

theorem fields_eq_of_make {fields : IdentityFields} {identity : Identity}
    (made : fields.make = .ok identity) : identity.fields = fields := by
  obtain ⟨host_eq, ip_eq, port_eq, startTime_eq⟩ := (Identity.make_eq_ok_iff _ _ _ _ _).1 made
  rw [Identity.fields, host_eq, ip_eq, port_eq, startTime_eq]

/-- Fields make an identity exactly when their host name is valid. -/
theorem exists_make_iff (fields : IdentityFields) :
    (∃ identity, fields.make = .ok identity) ↔ ValidHost fields.host := by
  constructor
  · rintro ⟨identity, made⟩
    obtain rfl := fields_eq_of_make made
    exact identity.validHost
  · intro validHost
    exact ⟨_, make_fields ⟨fields.host, fields.ip, fields.port, fields.startTime, validHost⟩⟩

end IdentityFields
end ClusterMember
