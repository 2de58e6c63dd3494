import ClusterMember.Proofs.Text.Positional
import ClusterMember.Proofs.Wire.Address

/-!
# Addresses read back

The text of an address spells that address, however many of its groups are zero and wherever they
stand.  A run of zeros that is left out is as long as the groups around it leave room for.
-/

namespace ClusterMember
namespace IpAddress

open Text

/-! ## Four bytes -/

theorem digitValue?_dot : Decimal.digitValue? '.' = none := by decide

theorem readByte_digits (b : UInt8) {rest : List Char} (stops : Stops Decimal.digitValue? rest) :
    readByte (Decimal.digits b.toNat ++ rest) = some (b, rest) := by
  have small := b.toNat_lt
  have nonempty := digitValues_ne_nil 10 b.toNat
  have short : (digitValues 10 b.toNat).length ≤ 3 :=
    length_digitValues_le (by decide) (show _ < 10 ^ 3 by omega)
  have bare : ¬((digitValues 10 b.toNat).head? = some 0 ∧
      1 < (digitValues 10 b.toNat).length) := by
    rintro ⟨head_eq, long⟩
    rw [eq_zero_of_head?_digitValues (by decide) head_eq, digitValues_of_lt (by decide)] at long
    exact Nat.lt_irrefl _ long
  have value : valueOf 10 (digitValues 10 b.toNat) = b.toNat :=
    valueOf_digitValues (by decide) b.toNat
  simp only [readByte, spanDigits_decimal _ stops, value]
  rw [if_neg, Nat.toUInt8_eq, UInt8.ofNat_toNat]
  rintro (empty | long | padded | large)
  · exact nonempty empty
  · exact Nat.not_le.2 long short
  · exact bare padded
  · exact Nat.not_le.2 large (Nat.le_of_lt_succ small)

theorem readDotted_dotted (a b c d : UInt8) {rest : List Char}
    (stops : Stops Decimal.digitValue? rest) :
    readDotted (dotted a b c d ++ rest) = some ((a, b, c, d), rest) := by
  have dot (rest : List Char) : Stops Decimal.digitValue? ('.' :: rest) :=
    stops_cons digitValue?_dot rest
  simp only [dotted, List.append_assoc, List.cons_append, readDotted, readByte_digits _ (dot _),
    readByte_digits _ stops, expect, if_true, Option.bind_eq_bind, Option.bind_some,
    Option.pure_def]

theorem spanDigits_suffix (digit? : Char → Option Nat) (cs : List Char) :
    (spanDigits digit? cs).2 <:+ cs := by
  induction cs with
  | nil => exact List.suffix_refl []
  | cons c rest induction =>
      rw [spanDigits]
      split
      next => exact List.suffix_refl _
      next => exact induction.trans (List.suffix_cons c rest)

/-- Four bytes have a dot between them. -/
theorem readDotted_of_not_mem {cs : List Char} (dotless : '.' ∉ cs) : readDotted cs = none := by
  rw [readDotted]
  cases byte : readByte cs with
  | none => rfl
  | some found =>
      obtain ⟨a, rest⟩ := found
      have rest_eq : rest = (spanDigits Decimal.digitValue? cs).2 := by
        simp only [readByte, Option.ite_none_left_eq_some, Option.some.injEq, Prod.mk.injEq] at byte
        exact byte.2.2.symm
      have rest_dotless : '.' ∉ rest := fun mem =>
        dotless ((rest_eq ▸ spanDigits_suffix _ cs).subset mem)
      cases rest with
      | nil => rfl
      | cons c rest =>
          have c_ne : c ≠ '.' := fun eq => rest_dotless (eq ▸ List.mem_cons_self)
          simp only [Option.bind_eq_bind, Option.bind_some, expect, if_neg c_ne, Option.bind_none]

/-! ## Groups -/

theorem readGroup_hexDigits (g : UInt16) {rest : List Char} (stops : Stops hexValue? rest) :
    readGroup (hexDigits g.toNat ++ rest) = some (g, rest) := by
  have small := g.toNat_lt
  have nonempty := digitValues_ne_nil 16 g.toNat
  have short : (digitValues 16 g.toNat).length ≤ 4 :=
    length_digitValues_le (by decide) (show _ < 16 ^ 4 by omega)
  have value : valueOf 16 (digitValues 16 g.toNat) = g.toNat :=
    valueOf_digitValues (by decide) g.toNat
  simp only [readGroup, spanDigits_hexadecimal _ stops, value]
  rw [if_neg, Nat.toUInt16_eq, UInt16.ofNat_toNat]
  rintro (empty | long)
  · exact nonempty empty
  · exact Nat.not_le.2 long short

theorem hexValue?_colon : hexValue? ':' = none := by decide

theorem hexValue?_dot : hexValue? '.' = none := by decide

/-- The text of groups, with a colon before the first one unless the text begins with it. -/
def spelled : (first : Bool) → List UInt16 → List Char
  | _, [] => []
  | first, g :: groups =>
    (if first then [] else [':']) ++ (hexDigits g.toNat ++ spelled false groups)

theorem joined_eq_spelled (groups : List UInt16) : joined groups = spelled true groups := by
  induction groups with
  | nil => rfl
  | cons g groups induction =>
      cases groups with
      | nil => simp [joined, spelled]
      | cons next groups =>
          rw [joined, List.map_cons] at induction
          rw [joined, List.map_cons, List.map_cons, List.intercalate_cons_cons, induction]
          simp [spelled]

theorem hexValue?_of_mem_hexDigits {n : Nat} {c : Char} (mem : c ∈ hexDigits n) :
    ∃ d, hexValue? c = some d := by
  rw [hexDigits_eq_map, List.mem_map] at mem
  obtain ⟨d, d_mem, rfl⟩ := mem
  exact ⟨d, hexValue?_hexDigit (lt_of_mem_digitValues (by decide) d d_mem)⟩

theorem dot_not_mem_hexDigits (n : Nat) : '.' ∉ hexDigits n := by
  intro mem
  obtain ⟨d, some_eq⟩ := hexValue?_of_mem_hexDigits mem
  rw [hexValue?_dot] at some_eq
  cases some_eq

theorem dot_not_mem_spelled (first : Bool) (groups : List UInt16) : '.' ∉ spelled first groups := by
  induction groups generalizing first with
  | nil => exact List.not_mem_nil
  | cons g groups induction =>
      rw [spelled, List.mem_append, List.mem_append, not_or, not_or]
      refine ⟨?_, dot_not_mem_hexDigits _, induction false⟩
      cases first <;> decide

/-- A text that ends, or goes on with two colons, has no further group. -/
inductive Closes : List Char → Prop
  | nil : Closes []
  | colons (rest : List Char) : Closes (':' :: ':' :: rest)

theorem Closes.stops {rest : List Char} (closes : Closes rest) : Stops hexValue? rest := by
  cases closes with
  | nil => exact stops_nil _
  | colons rest => exact stops_cons hexValue?_colon _

theorem readGroups_of_closes {rest : List Char} (closes : Closes rest) (room : Nat)
    (first : Bool) : readGroups room first rest = ([], false, rest) := by
  cases room with
  | zero => rfl
  | succ room => cases closes <;> cases first <;> cases room <;> rfl

theorem readGroups_spelled {groups : List UInt16} {room : Nat} (fits : groups.length ≤ room)
    (first : Bool) {rest : List Char} (closes : Closes rest) (dotless : '.' ∉ rest) :
    readGroups room first (spelled first groups ++ rest) = (groups, false, rest) := by
  induction groups generalizing first room with
  | nil => exact readGroups_of_closes closes room first
  | cons g groups induction =>
      obtain ⟨room, rfl⟩ := Nat.exists_eq_add_of_le' (Nat.le_trans (Nat.le_add_left 1 _) fits)
      have body_dotless : '.' ∉ hexDigits g.toNat ++ (spelled false groups ++ rest) := by
        simp only [List.mem_append, not_or]
        exact ⟨dot_not_mem_hexDigits _, dot_not_mem_spelled _ _, dotless⟩
      have stops : Stops hexValue? (spelled false groups ++ rest) := by
        cases groups with
        | nil => exact closes.stops
        | cons next groups => exact stops_cons hexValue?_colon _
      have later := induction (Nat.le_of_succ_le_succ fits) false
      cases first <;>
        simp [spelled, readGroups, expect, readDotted_of_not_mem body_dotless,
          readGroup_hexDigits g stops, later]

/-! ## Runs of zeros -/

theorem replicate_zeroRun (groups : List UInt16) :
    List.replicate (zeroRun groups) 0 ++ groups.drop (zeroRun groups) = groups := by
  induction groups with
  | nil => rfl
  | cons g groups induction =>
      rw [zeroRun]
      split
      next zero =>
        rw [List.replicate_succ, List.cons_append, List.drop_succ_cons, induction, zero]
      next => rfl

/-- What is left out for the longest run of zeros can be filled in again. -/
theorem longestRun_spec (groups : List UInt16) :
    groups.take (longestRun groups).1 ++ (List.replicate (longestRun groups).2 0 ++
      groups.drop ((longestRun groups).1 + (longestRun groups).2)) = groups := by
  induction groups with
  | nil => rfl
  | cons g groups induction =>
      rw [longestRun]
      split
      next => simpa using replicate_zeroRun (g :: groups)
      next =>
        rw [List.take_succ_cons, List.cons_append, Nat.add_right_comm, List.drop_succ_cons,
          induction]

/-! ## Addresses -/

theorem readSixteen_joined {groups : List UInt16} (eight : groups.length = 8) :
    readSixteen (joined groups) = some (groups, []) := by
  have read := readGroups_spelled (Nat.le_of_eq eight) true .nil List.not_mem_nil
  rw [List.append_nil] at read
  simp only [readSixteen, joined_eq_spelled, read, eight, if_true]

theorem readSixteen_compressed {front back : List UInt16}
    (short : front.length + back.length < 8) :
    readSixteen (joined front ++ ([':', ':'] ++ joined back)) =
      some (front ++ (List.replicate (8 - front.length - back.length) 0 ++ back), []) := by
  have dotless : '.' ∉ [':', ':'] ++ spelled true back := by
    rw [List.mem_append, not_or]
    exact ⟨by decide, dot_not_mem_spelled _ _⟩
  have front_fits : front.length ≤ 8 := by omega
  have back_fits : back.length ≤ 7 - front.length := by omega
  have front_read := readGroups_spelled front_fits true (.colons (spelled true back)) dotless
  have back_read := readGroups_spelled back_fits true .nil List.not_mem_nil
  rw [List.append_nil] at back_read
  have not_eight : front.length ≠ 8 := by omega
  simp only [readSixteen, joined_eq_spelled, List.cons_append, List.nil_append, front_read,
    back_read, not_eight, if_false, Bool.false_eq_true, List.append_assoc]

/-- The IPv4 address that is mapped stands for the last two groups. -/
theorem readSixteen_mapped (a b c d : UInt8) :
    readSixteen ([':', ':', 'f', 'f', 'f', 'f', ':'] ++ dotted a b c d) =
      some ([0, 0, 0, 0, 0, 0xFFFF, groupOf a b, groupOf c d], []) := by
  have bytes_read := readDotted_dotted a b c d (stops_nil _)
  rw [List.append_nil] at bytes_read
  have last_read : readGroups 6 false (':' :: dotted a b c d) =
      ([groupOf a b, groupOf c d], true, []) := by
    rw [readGroups]
    simp [expect, bytes_read]
  have no_bytes : readDotted ('f' :: 'f' :: 'f' :: 'f' :: ':' :: dotted a b c d) = none := rfl
  have group_read : readGroup ('f' :: 'f' :: 'f' :: 'f' :: ':' :: dotted a b c d) =
      some (0xFFFF, ':' :: dotted a b c d) := rfl
  have back_read : readGroups 7 true ('f' :: 'f' :: 'f' :: 'f' :: ':' :: dotted a b c d) =
      ([0xFFFF, groupOf a b, groupOf c d], true, []) := by
    rw [readGroups]
    simp [no_bytes, group_read, last_read]
  have front_read := readGroups_of_closes
    (.colons ('f' :: 'f' :: 'f' :: 'f' :: ':' :: dotted a b c d)) 8 true
  simp [readSixteen, front_read, back_read, List.replicate_succ]

/-- The three forms of an IPv6 address. -/
theorem groupsText_cases (groups : List UInt16) :
    (∃ high low, groups = [0, 0, 0, 0, 0, 0xFFFF, high, low] ∧
      groupsText groups = [':', ':', 'f', 'f', 'f', 'f', ':'] ++
        dotted (high >>> 8).toUInt8 high.toUInt8 (low >>> 8).toUInt8 low.toUInt8) ∨
    (2 ≤ (longestRun groups).2 ∧
      groupsText groups = joined (groups.take (longestRun groups).1) ++ ([':', ':'] ++
        joined (groups.drop ((longestRun groups).1 + (longestRun groups).2)))) ∨
    groupsText groups = joined groups := by
  rw [groupsText.eq_def]
  split
  next high low => exact .inl ⟨high, low, rfl, rfl⟩
  next =>
    simp only
    split
    next long => exact .inr (.inl ⟨long, List.append_assoc _ _ _⟩)
    next => exact .inr (.inr rfl)

theorem readSixteen_groupsText {groups : List UInt16} (eight : groups.length = 8) :
    readSixteen (groupsText groups) = some (groups, []) := by
  obtain ⟨high, low, rfl, text_eq⟩ | ⟨long, text_eq⟩ | text_eq := groupsText_cases groups
  · rw [text_eq, readSixteen_mapped, Wire.groupOf_groupBytes, Wire.groupOf_groupBytes]
  · have filled := longestRun_spec groups
    have length_eq := congrArg List.length filled
    simp only [List.length_append, List.length_replicate, eight] at length_eq
    have missing : 8 - (groups.take (longestRun groups).1).length -
        (groups.drop ((longestRun groups).1 + (longestRun groups).2)).length =
          (longestRun groups).2 := by omega
    rw [text_eq, readSixteen_compressed (by omega), missing, filled]
  · rw [text_eq, readSixteen_joined eight]

/-- The text of an IPv6 address is none of an IPv4 address. -/
theorem readDotted_groupsText (groups : List UInt16) : readDotted (groupsText groups) = none := by
  obtain ⟨high, low, -, text_eq⟩ | ⟨-, text_eq⟩ | text_eq := groupsText_cases groups
  · rw [text_eq]
    rfl
  · refine readDotted_of_not_mem ?_
    rw [text_eq, joined_eq_spelled, joined_eq_spelled, List.mem_append, List.mem_append, not_or,
      not_or]
    exact ⟨dot_not_mem_spelled _ _, by decide, dot_not_mem_spelled _ _⟩
  · rw [text_eq, joined_eq_spelled]
    exact readDotted_of_not_mem (dot_not_mem_spelled _ _)

/-- The text of an address spells that address. -/
theorem ofString?_text (ip : IpAddress) : ofString? ip.text = some ip := by
  cases ip with
  | v4 a b c d =>
      have bytes_read := readDotted_dotted a b c d (stops_nil _)
      rw [List.append_nil] at bytes_read
      rw [ofString?, text, String.toList_ofList, read?, bytes_read]
  | v6 groups eight =>
      rw [ofString?, text, String.toList_ofList, read?, readDotted_groupsText, readV6,
        readSixteen_groupsText eight]
      simp only [eight, dite_true]

end IpAddress
end ClusterMember
