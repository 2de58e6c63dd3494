import ClusterMember.Proofs.Wire.Exact

/-!
# Addresses on the wire

Four bytes or eight groups of two, told apart by the number before them.
-/

namespace ClusterMember
namespace Wire

/-- A group counts the high byte 256 times. -/
theorem toNat_groupOf (high low : UInt8) :
    (IpAddress.groupOf high low).toNat = high.toNat * 256 + low.toNat := by
  have small := high.toNat_lt
  have whole : high.toNat <<< 8 % 2 ^ 16 = high.toNat <<< 8 := by
    rw [Nat.shiftLeft_eq]
    omega
  rw [IpAddress.groupOf, UInt16.toNat_or, UInt16.toNat_shiftLeft, UInt8.toNat_toUInt16,
    UInt8.toNat_toUInt16]
  change high.toNat <<< 8 % 2 ^ 16 ||| low.toNat = _
  rw [whole, ← Nat.shiftLeft_add_eq_or_of_lt low.toNat_lt, Nat.shiftLeft_eq]

theorem groupOf_groupBytes (group : UInt16) :
    IpAddress.groupOf (group >>> 8).toUInt8 group.toUInt8 = group := by
  have small := group.toNat_lt
  rw [← UInt16.toNat_inj, toNat_groupOf, UInt16.toNat_toUInt8, UInt16.toNat_toUInt8,
    UInt16.toNat_shiftRight, Nat.shiftRight_eq_div_pow]
  change group.toNat / 256 % 256 * 256 + group.toNat % 256 = group.toNat
  omega

theorem groupBytes_groupOf (high low : UInt8) :
    groupBytes (IpAddress.groupOf high low) = [high, low] := by
  have smallHigh := high.toNat_lt
  have smallLow := low.toNat_lt
  have first : (IpAddress.groupOf high low >>> 8).toUInt8 = high := by
    rw [← UInt8.toNat_inj, UInt16.toNat_toUInt8, UInt16.toNat_shiftRight, toNat_groupOf,
      Nat.shiftRight_eq_div_pow]
    change (high.toNat * 256 + low.toNat) / 256 % 256 = high.toNat
    omega
  have second : (IpAddress.groupOf high low).toUInt8 = low := by
    rw [← UInt8.toNat_inj, UInt16.toNat_toUInt8, toNat_groupOf]
    omega
  rw [groupBytes, first, second]
theorem groupsOf_groupBytes (groups : List UInt16) :
    groupsOf (groups.flatMap groupBytes) = groups := by
  induction groups with
  | nil => rfl
  | cons group groups induction =>
      rw [List.flatMap_cons, groupBytes, List.cons_append, List.cons_append, groupsOf,
        groupOf_groupBytes, List.nil_append, induction]

theorem length_groupBytes (groups : List UInt16) :
    (groups.flatMap groupBytes).length = 2 * groups.length := by
  induction groups with
  | nil => rfl
  | cons group groups induction =>
      rw [List.flatMap_cons, List.length_append, induction, List.length_cons]
      simp only [groupBytes, List.length_cons, List.length_nil]
      omega

theorem groupBytes_groupsOf (bytes : List UInt8) (n : Nat) (even : bytes.length = 2 * n) :
    (groupsOf bytes).flatMap groupBytes = bytes := by
  induction n generalizing bytes with
  | zero =>
      rw [List.length_eq_zero_iff.1 even]
      rfl
  | succ n induction =>
      obtain _ | ⟨high, _ | ⟨low, rest⟩⟩ := bytes
      · simp at even
      · simp at even
        omega
      · have shorter : rest.length = 2 * n := by
          simp only [List.length_cons] at even
          omega
        rw [groupsOf, List.flatMap_cons, groupBytes_groupOf, induction rest shorter]
        rfl

theorem readV4_eq_ok_iff (bytes : List UInt8) (out : IpAddress × List UInt8) :
    readV4 bytes = .ok out ↔
      ∃ a b c d rest, bytes = [a, b, c, d] ++ rest ∧ out = (.v4 a b c d, rest) := by
  rw [readV4, (readBytes_exact 4 .cutField).andThen_eq_ok_iff]
  constructor
  · rintro ⟨taken, rest, ⟨rfl, length⟩, read⟩
    obtain ⟨a, b, c, d, rfl⟩ : ∃ a b c d, taken = [a, b, c, d] := by
      match taken, length with
      | [a, b, c, d], _ => exact ⟨a, b, c, d, rfl⟩
    exact ⟨a, b, c, d, rest, rfl, (done_eq_ok_iff _ _ _).1 read⟩
  · rintro ⟨a, b, c, d, rest, rfl, rfl⟩
    exact ⟨[a, b, c, d], rest, ⟨rfl, rfl⟩, rfl⟩

theorem readV6_eq_ok_iff (bytes : List UInt8) (out : IpAddress × List UInt8) :
    readV6 bytes = .ok out ↔
      ∃ groups length_eq rest,
        bytes = groups.flatMap groupBytes ++ rest ∧ out = (.v6 groups length_eq, rest) := by
  rw [readV6, (readBytes_exact 16 .cutField).andThen_eq_ok_iff]
  constructor
  · rintro ⟨taken, rest, ⟨rfl, length⟩, read⟩
    split at read
    · next eight =>
        refine ⟨groupsOf taken, eight, rest, ?_, (done_eq_ok_iff _ _ _).1 read⟩
        rw [groupBytes_groupsOf taken 8 length, id]
    · exact absurd read (fail_ne_ok _ _ _)
  · rintro ⟨groups, eight, rest, rfl, rfl⟩
    refine ⟨groups.flatMap groupBytes, rest, ⟨rfl, ?_⟩, ?_⟩
    · rw [length_groupBytes, eight]
    · simp only [groupsOf_groupBytes, eight]
      rfl

theorem readAddress_exact : Exact address (fun _ => True) readAddress := by
  intro bytes ip rest
  rw [readAddress, (readNumber_exact 4).andThen_eq_ok_iff]
  constructor
  · rintro ⟨kind, after, ⟨rfl, small⟩, taken⟩
    split at taken
    · obtain ⟨a, b, c, d, _, rfl, eq⟩ := (readV4_eq_ok_iff _ _).1 taken
      cases eq
      exact ⟨rfl, trivial⟩
    · obtain ⟨groups, eight, _, rfl, eq⟩ := (readV6_eq_ok_iff _ _).1 taken
      cases eq
      exact ⟨by rw [address, List.append_assoc], trivial⟩
    · exact absurd taken (fail_ne_ok _ _ _)
  · rintro ⟨rfl, -⟩
    cases ip with
    | v4 a b c d =>
        refine ⟨0, [a, b, c, d] ++ rest, ⟨rfl, by decide⟩, ?_⟩
        exact (readV4_eq_ok_iff _ _).2 ⟨a, b, c, d, rest, rfl, rfl⟩
    | v6 groups eight =>
        refine ⟨1, groups.flatMap groupBytes ++ rest, ⟨?_, by decide⟩, ?_⟩
        · rw [address, List.append_assoc]
        · exact (readV6_eq_ok_iff _ _).2 ⟨groups, eight, rest, rfl, rfl⟩

end Wire
end ClusterMember
