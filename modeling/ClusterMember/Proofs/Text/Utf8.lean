import ClusterMember.Text.Utf8

/-!
# UTF-8 is exact

The bytes that can be read as a text are those of that text, and of no other.  Reading goes
character by character, and takes one of four productions each time; a production and the bytes of
a character determine each other.  Texts in their order are in the order of their bytes, too.
-/

namespace ClusterMember
namespace Utf8

theorem isTail_iff (b : UInt8) : isTail b = true ↔ 0x80 ≤ b.toNat ∧ b.toNat ≤ 0xBF := by
  simp [isTail, UInt8.le_iff_toNat_le]

theorem isSecondOfThree_iff (a b : UInt8) :
    isSecondOfThree a b = true ↔
      (0x80 ≤ b.toNat ∧ b.toNat ≤ 0xBF) ∧ (a.toNat = 0xE0 → 0xA0 ≤ b.toNat) ∧
        (a.toNat = 0xED → b.toNat ≤ 0x9F) := by
  simp [isSecondOfThree, isTail_iff, UInt8.le_iff_toNat_le, ← UInt8.toNat_inj, and_assoc,
    Decidable.imp_iff_not_or]

theorem isSecondOfFour_iff (a b : UInt8) :
    isSecondOfFour a b = true ↔
      (0x80 ≤ b.toNat ∧ b.toNat ≤ 0xBF) ∧ (a.toNat = 0xF0 → 0x90 ≤ b.toNat) ∧
        (a.toNat = 0xF4 → b.toNat ≤ 0x8F) := by
  simp [isSecondOfFour, isTail_iff, UInt8.le_iff_toNat_le, ← UInt8.toNat_inj, and_assoc,
    Decidable.imp_iff_not_or]

/-- The bytes that begin a text, with the number of the character that is read from them. -/
inductive Production : List UInt8 → Nat → Prop
  | one {a : UInt8} (first : a.toNat < 0x80) : Production [a] a.toNat
  | two {a b : UInt8} (first : 0xC2 ≤ a.toNat ∧ a.toNat ≤ 0xDF) (second : isTail b = true) :
      Production [a, b] ((a.toNat - 0xC0) * 64 + tailBits b)
  | three {a b c : UInt8} (first : 0xE0 ≤ a.toNat ∧ a.toNat ≤ 0xEF)
      (second : isSecondOfThree a b = true) (third : isTail c = true) :
      Production [a, b, c] ((a.toNat - 0xE0) * 4096 + tailBits b * 64 + tailBits c)
  | four {a b c d : UInt8} (first : 0xF0 ≤ a.toNat ∧ a.toNat ≤ 0xF4)
      (second : isSecondOfFour a b = true) (third : isTail c = true) (fourth : isTail d = true) :
      Production [a, b, c, d]
        ((a.toNat - 0xF0) * 262144 + tailBits b * 4096 + tailBits c * 64 + tailBits d)

/-- Reading takes a production from the front. -/
theorem Production.decodeFrom_append {bytes : List UInt8} {n : Nat}
    (production : Production bytes n) (index : Nat) (rest : List UInt8) :
    decodeFrom index (bytes ++ rest) =
      (Char.ofNat n :: ·) <$> decodeFrom (index + bytes.length) rest := by
  cases production with
  | @one a first =>
      rw [List.singleton_append, decodeFrom.eq_def]
      simp [UInt8.lt_iff_toNat_lt, first]
  | @two a b first second =>
      have large : ¬a.toNat < 128 := by omega
      rw [List.cons_append, decodeFrom.eq_def]
      simp [UInt8.lt_iff_toNat_lt, UInt8.le_iff_toNat_le, large, first, second]
  | @three a b c first second third =>
      have large : ¬a.toNat < 128 := by omega
      have noTwo : ¬a.toNat ≤ 223 := by omega
      rw [List.cons_append, decodeFrom.eq_def]
      simp [UInt8.lt_iff_toNat_lt, UInt8.le_iff_toNat_le, large, noTwo, first, second, third]
  | @four a b c d first second third fourth =>
      have large : ¬a.toNat < 128 := by omega
      have noTwo : ¬a.toNat ≤ 223 := by omega
      have noThree : ¬a.toNat ≤ 239 := by omega
      rw [List.cons_append, decodeFrom.eq_def]
      simp [UInt8.lt_iff_toNat_lt, UInt8.le_iff_toNat_le, large, noTwo, noThree, first, second,
        third, fourth]

theorem map_eq_ok_iff {ε α β : Type} {f : α → β} {x : Except ε α} {y : β} :
    f <$> x = .ok y ↔ ∃ z, x = .ok z ∧ y = f z := by
  cases x with
  | error fault => simp [Functor.map, Except.map]
  | ok z => simp [Functor.map, Except.map, eq_comm]

/-- Bytes that can be read begin with a production, and the rest of them can be read. -/
theorem exists_production {index : Nat} {a : UInt8} {bytes : List UInt8} {cs : List Char}
    (ok : decodeFrom index (a :: bytes) = .ok cs) :
    ∃ front n after, Production front n ∧ a :: bytes = front ++ after ∧
      ∃ more, decodeFrom (index + front.length) after = .ok more ∧ cs = Char.ofNat n :: more := by
  rw [decodeFrom.eq_def] at ok
  simp only [Bool.and_eq_true, decide_eq_true_eq, UInt8.lt_iff_toNat_lt,
    UInt8.le_iff_toNat_le] at ok
  split at ok
  · next first =>
      exact ⟨[a], _, bytes, .one first, rfl, map_eq_ok_iff.1 ok⟩
  split at ok
  · next first =>
      split at ok
      · cases ok
      · next b rest =>
          split at ok
          · next second =>
              exact ⟨[a, b], _, rest, .two first second, rfl, map_eq_ok_iff.1 ok⟩
          · cases ok
  split at ok
  · next first =>
      split at ok
      · cases ok
      · next b rest =>
          split at ok
          · next second =>
              split at ok
              · cases ok
              · next c rest =>
                  split at ok
                  · next third =>
                      exact ⟨[a, b, c], _, rest, .three first second third, rfl,
                        map_eq_ok_iff.1 ok⟩
                  · cases ok
          · cases ok
  split at ok
  · next first =>
      split at ok
      · cases ok
      · next b rest =>
          split at ok
          · next second =>
              split at ok
              · cases ok
              · next c rest =>
                  split at ok
                  · next third =>
                      split at ok
                      · cases ok
                      · next d rest =>
                          split at ok
                          · next fourth =>
                              exact ⟨[a, b, c, d], _, rest, .four first second third fourth, rfl,
                                map_eq_ok_iff.1 ok⟩
                          · cases ok
                  · cases ok
          · cases ok
  · cases ok

theorem toNat_toUInt8 {n : Nat} (small : n < 256) : n.toUInt8.toNat = n := by
  simp only [Nat.toUInt8, UInt8.toNat_ofNat']
  omega

theorem Production.of_number_eq {bytes : List UInt8} {m n : Nat} (production : Production bytes m)
    (eq : m = n) : Production bytes n :=
  eq ▸ production

/-- The bytes of a character are a production of its number. -/
theorem production_encodeChar (c : Char) : Production (encodeChar c) c.toNat := by
  have valid : c.toNat < 0xD800 ∨ 0xDFFF < c.toNat ∧ c.toNat < 0x110000 := c.valid
  have tail (m : Nat) : (0x80 + m % 64).toUInt8.toNat = 0x80 + m % 64 :=
    toNat_toUInt8 (by omega)
  rw [encodeChar]
  generalize c.toNat = n at valid
  split
  · next small =>
      have first : n.toUInt8.toNat = n := toNat_toUInt8 (by omega)
      exact (Production.one (by omega)).of_number_eq first
  split
  · next large small =>
      have first : (0xC0 + n / 64).toUInt8.toNat = 0xC0 + n / 64 := toNat_toUInt8 (by omega)
      have number : (0xC0 + n / 64 - 0xC0) * 64 + (0x80 + n % 64 - 0x80) = n := by omega
      refine (Production.two ?_ ?_).of_number_eq ?_
      · omega
      · rw [isTail_iff, tail]
        omega
      · unfold tailBits
        rw [first, tail, number]
  split
  · next large small =>
      have first : (0xE0 + n / 4096).toUInt8.toNat = 0xE0 + n / 4096 := toNat_toUInt8 (by omega)
      have number : (0xE0 + n / 4096 - 0xE0) * 4096 + (0x80 + n / 64 % 64 - 0x80) * 64 +
          (0x80 + n % 64 - 0x80) = n := by omega
      refine (Production.three ?_ ?_ ?_).of_number_eq ?_
      · omega
      -- A number that a character has is no surrogate's, which is why the second byte may follow
      -- a first byte 0xED.
      · rw [isSecondOfThree_iff, first, tail]
        omega
      · rw [isTail_iff, tail]
        omega
      · unfold tailBits
        rw [first, tail, tail, number]
  · next large =>
      have first : (0xF0 + n / 262144).toUInt8.toNat = 0xF0 + n / 262144 :=
        toNat_toUInt8 (by omega)
      have number : (0xF0 + n / 262144 - 0xF0) * 262144 + (0x80 + n / 4096 % 64 - 0x80) * 4096 +
          (0x80 + n / 64 % 64 - 0x80) * 64 + (0x80 + n % 64 - 0x80) = n := by omega
      refine (Production.four ?_ ?_ ?_ ?_).of_number_eq ?_
      · omega
      · rw [isSecondOfFour_iff, first, tail]
        omega
      · rw [isTail_iff, tail]
        omega
      · rw [isTail_iff, tail]
        omega
      · unfold tailBits
        rw [first, tail, tail, tail, number]

/-- The number of a production is that of a character. -/
theorem Production.isValidChar {bytes : List UInt8} {n : Nat} (production : Production bytes n) :
    n.isValidChar := by
  unfold Nat.isValidChar
  cases production with
  | one first => omega
  | two first second =>
      rw [isTail_iff] at second
      unfold tailBits
      omega
  | three first second third =>
      rw [isSecondOfThree_iff] at second
      rw [isTail_iff] at third
      unfold tailBits
      omega
  | four first second third fourth =>
      rw [isSecondOfFour_iff] at second
      rw [isTail_iff] at third fourth
      unfold tailBits
      omega

/-- A production is the bytes of the character that is read from it. -/
theorem Production.encodeChar_eq {bytes : List UInt8} {n : Nat}
    (production : Production bytes n) : encodeChar (Char.ofNat n) = bytes := by
  have number : (Char.ofNat n).toNat = n := by
    rw [Char.ofNat, dif_pos production.isValidChar]
    rfl
  rw [encodeChar, number]
  have byte (b : UInt8) {m : Nat} (eq : m = b.toNat) : m.toUInt8 = b := by
    rw [eq, Nat.toUInt8_eq, UInt8.ofNat_toNat]
  cases production with
  | @one a first =>
      rw [if_pos first, byte a rfl]
  | @two a b first second =>
      rw [isTail_iff] at second
      unfold tailBits
      rw [if_neg (by omega), if_pos (by omega), byte a (by omega), byte b (by omega)]
  | @three a b c first second third =>
      rw [isSecondOfThree_iff] at second
      rw [isTail_iff] at third
      unfold tailBits
      rw [if_neg (by omega), if_neg (by omega), if_pos (by omega), byte a (by omega),
        byte b (by omega), byte c (by omega)]
  | @four a b c d first second third fourth =>
      rw [isSecondOfFour_iff] at second
      rw [isTail_iff] at third fourth
      unfold tailBits
      rw [if_neg (by omega), if_neg (by omega), if_neg (by omega), byte a (by omega),
        byte b (by omega), byte c (by omega), byte d (by omega)]

theorem decodeFrom_encodeChars (index : Nat) (cs : List Char) :
    decodeFrom index (cs.flatMap encodeChar) = .ok cs := by
  induction cs generalizing index with
  | nil => rw [List.flatMap_nil, decodeFrom.eq_def]
  | cons c cs induction =>
      rw [List.flatMap_cons, (production_encodeChar c).decodeFrom_append, induction,
        Char.ofNat_toNat]
      rfl

theorem eq_encodeChars_of_decodeFrom {index : Nat} {bytes : List UInt8} {cs : List Char}
    (ok : decodeFrom index bytes = .ok cs) : bytes = cs.flatMap encodeChar := by
  induction cs generalizing index bytes with
  | nil =>
      cases bytes with
      | nil => rfl
      | cons a bytes =>
          obtain ⟨_, _, _, _, _, _, _, impossible⟩ := exists_production ok
          cases impossible
  | cons c cs induction =>
      cases bytes with
      | nil =>
          rw [decodeFrom.eq_def] at ok
          cases ok
      | cons a bytes =>
          obtain ⟨front, n, after, production, split, more, rest, eq⟩ := exists_production ok
          obtain ⟨rfl, rfl⟩ := List.cons.inj eq
          rw [split, List.flatMap_cons, production.encodeChar_eq, induction rest]

/-- The bytes that can be read as a text are those of that text. -/
theorem decode_eq_ok_iff (bytes : List UInt8) (s : String) :
    decode bytes = .ok s ↔ bytes = encode s := by
  constructor
  · intro ok
    obtain ⟨cs, read, rfl⟩ := map_eq_ok_iff.1 ok
    rw [encode, String.toList_ofList]
    exact eq_encodeChars_of_decodeFrom read
  · rintro rfl
    exact map_eq_ok_iff.2 ⟨s.toList, decodeFrom_encodeChars 0 s.toList, String.ofList_toList.symm⟩

/-! ## Order -/

theorem cons_lt_cons_iff (a b : UInt8) (first second : List UInt8) :
    a :: first < b :: second ↔ a.toNat < b.toNat ∨ a.toNat = b.toNat ∧ first < second := by
  rw [List.cons_lt_cons_iff, UInt8.lt_iff_toNat_lt, UInt8.toNat_inj]

/-- The longer a production is, the greater is its first byte. -/
theorem Production.append_lt_of_length_lt {bytes others : List UInt8} {m n : Nat}
    (production : Production bytes m) (other : Production others n)
    (shorter : bytes.length < others.length) (first second : List UInt8) :
    bytes ++ first < others ++ second := by
  cases production <;> cases other <;>
    simp only [List.length_cons, List.length_nil] at shorter <;>
    simp only [List.cons_append, List.nil_append, cons_lt_cons_iff] <;> omega

/-- Of two productions of one length the first digits in which the numbers differ decide. -/
theorem Production.append_lt_of_length_eq {bytes others : List UInt8} {m n : Nat}
    (production : Production bytes m) (other : Production others n)
    (same : bytes.length = others.length) (lt : m < n) (first second : List UInt8) :
    bytes ++ first < others ++ second := by
  cases production with
  | one =>
      cases other with
      | one =>
          simp only [List.cons_append, cons_lt_cons_iff]
          exact .inl lt
      | _ => cases same
  | two _ tail =>
      cases other with
      | two _ other_tail =>
          rw [isTail_iff] at tail other_tail
          unfold tailBits at lt
          simp only [List.cons_append, cons_lt_cons_iff]
          omega
      | _ => cases same
  | three _ second third =>
      cases other with
      | three _ other_second other_third =>
          rw [isSecondOfThree_iff] at second other_second
          rw [isTail_iff] at third other_third
          unfold tailBits at lt
          simp only [List.cons_append, cons_lt_cons_iff]
          omega
      | _ => cases same
  | four _ second third fourth =>
      cases other with
      | four _ other_second other_third other_fourth =>
          rw [isSecondOfFour_iff] at second other_second
          rw [isTail_iff] at third fourth other_third other_fourth
          unfold tailBits at lt
          simp only [List.cons_append, cons_lt_cons_iff]
          omega
      | _ => cases same

/-- The number of a production tells how many bytes it takes. -/
theorem Production.length_eq {bytes : List UInt8} {n : Nat} (production : Production bytes n) :
    bytes.length = if n < 0x80 then 1 else if n < 0x800 then 2 else if n < 0x10000 then 3
      else 4 := by
  cases production with
  | one first => rw [if_pos first, List.length_singleton]
  | two _ second =>
      rw [isTail_iff] at second
      unfold tailBits
      rw [if_neg (by omega), if_pos (by omega)]
      rfl
  | three _ second third =>
      rw [isSecondOfThree_iff] at second
      rw [isTail_iff] at third
      unfold tailBits
      rw [if_neg (by omega), if_neg (by omega), if_pos (by omega)]
      rfl
  | four _ second third fourth =>
      rw [isSecondOfFour_iff] at second
      rw [isTail_iff] at third fourth
      unfold tailBits
      rw [if_neg (by omega), if_neg (by omega), if_neg (by omega)]
      rfl

/-- Productions stand in the order of their numbers, whatever follows them. -/
theorem Production.append_lt {bytes others : List UInt8} {m n : Nat}
    (production : Production bytes m) (other : Production others n) (lt : m < n)
    (first second : List UInt8) : bytes ++ first < others ++ second := by
  have no_longer : bytes.length ≤ others.length := by
    rw [production.length_eq, other.length_eq]
    grind
  rcases Nat.lt_or_eq_of_le no_longer with shorter | same
  · exact production.append_lt_of_length_lt other shorter first second
  · exact production.append_lt_of_length_eq other same lt first second

theorem Production.nil_lt_append {bytes : List UInt8} {n : Nat} (production : Production bytes n)
    (rest : List UInt8) : [] < bytes ++ rest := by
  cases production <;> exact List.nil_lt_cons _ _

theorem encodeChars_lt {cs ds : List Char} (lt : cs < ds) :
    cs.flatMap encodeChar < ds.flatMap encodeChar := by
  induction cs generalizing ds with
  | nil =>
      cases ds with
      | nil => exact absurd lt (List.lt_irrefl _)
      | cons d ds =>
          rw [List.flatMap_nil, List.flatMap_cons]
          exact (production_encodeChar d).nil_lt_append _
  | cons c cs induction =>
      cases ds with
      | nil => exact absurd lt (List.not_lt_nil _)
      | cons d ds =>
          rw [List.flatMap_cons, List.flatMap_cons]
          rcases List.cons_lt_cons_iff.1 lt with first_lt | ⟨rfl, rest_lt⟩
          · exact (production_encodeChar c).append_lt (production_encodeChar d) first_lt _ _
          · exact List.append_left_lt (induction rest_lt)

/-- The bytes of texts stand in the order of the texts. -/
theorem encode_lt_encode {s t : String} (lt : s < t) : encode s < encode t :=
  encodeChars_lt (String.lt_iff.1 lt)

end Utf8
end ClusterMember
