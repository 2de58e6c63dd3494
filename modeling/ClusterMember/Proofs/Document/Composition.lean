import ClusterMember.Proofs.Document.Context
import ClusterMember.Proofs.Text.Positional
import Mathlib.Data.List.DropRight
import Mathlib.Data.List.TakeWhile

/-!
# Texts of documents put together

Texts, whole numbers and the absent value are read back from what is written for them.  A table is
read from the texts of its members, whatever each of them looks like, and a list from the texts of
its items.
-/

namespace ClusterMember
namespace Json

/-- The text of a member, given its name and the text of its value. -/
def memberText (member : String × String) : List Char :=
  writeText member.1 ++ ':' :: member.2.toList

/-- The text of a table, given its members. -/
def tableText (members : List (String × String)) : String :=
  String.ofList ('\x7b' :: ([','].intercalate (members.map memberText) ++ ['\x7d']))

/-- The text of a list, given the texts of its items. -/
def listText (items : List String) : String :=
  String.ofList ('[' :: ([','].intercalate (items.map String.toList) ++ [']']))

/-- A text spells a document. -/
def IsText (text : String) : Prop := ∃ document, read? text = some document

/-- The document that a text spells, if any. -/
def documentOf (text : String) : Document := (read? text).getD .other

/-- The entry that a member spells. -/
def entryOf (member : String × String) : String × Document := (member.1, documentOf member.2)

theorem documentOf_eq {text : String} {document : Document} (read : read? text = some document) :
    documentOf text = document := by
  rw [documentOf, read, Option.getD_some]

theorem IsText.read? {text : String} (spells : IsText text) :
    Json.read? text = some (documentOf text) := by
  obtain ⟨document, read⟩ := spells
  rw [read, documentOf_eq read]

variable {rest : List Char}

/-! ## Texts -/

theorem readPieces_escape (c : Char) (cs : List Char) :
    readPieces (escape c ++ cs) = (readPieces cs).map (prepend (.char c)) := by
  rw [escape]
  split
  next letter value found =>
    have all : ∀ entry ∈ shortEscapes, unescape? entry.1 = some entry.2 := by decide
    have unescaped : unescape? letter = some value := all _ (List.mem_of_find?_eq_some found)
    have value_eq : value = c := by simpa using List.find?_some found
    rw [value_eq] at unescaped
    exact readPieces_letter unescaped cs
  next missing =>
    have plain (entry : Char × Char) (mem : entry ∈ shortEscapes) : entry.2 ≠ c := by
      have differs := List.find?_eq_none.1 missing entry mem
      simpa using differs
    split
    next control =>
      have unit_eq : unitOf? '0' '0' (Text.hexDigit (c.toNat / 16)) (Text.hexDigit (c.toNat % 16)) =
          some c.toNat := by
        have zero : Text.hexValue? '0' = some 0 := by decide
        simp only [unitOf?, zero, Text.hexValue?_hexDigit (show c.toNat / 16 < 16 by omega),
          Text.hexValue?_hexDigit (show c.toNat % 16 < 16 by omega), Option.bind_eq_bind,
          Option.bind_some, Option.pure_def, Option.some.injEq]
        omega
      have piece_eq : pieceOf c.toNat = .char c := by
        rw [pieceOf, if_neg (by omega), Char.ofNat_toNat]
      rw [← piece_eq]
      exact readPieces_unit unit_eq cs
    next printed =>
      exact readPieces_plain (plain ('"', '"') (by decide)).symm
        (plain ('\\', '\\') (by decide)).symm printed cs

theorem readPieces_flatMap_escape (text cs : List Char) :
    readPieces (text.flatMap escape ++ '"' :: cs) = some (text.map .char, cs) := by
  induction text with
  | nil => rfl
  | cons c text induction =>
      rw [List.flatMap_cons, List.append_assoc, readPieces_escape, induction]
      rfl

theorem joinPieces_map_char (text : List Char) : joinPieces (text.map .char) = some text := by
  induction text with
  | nil => rfl
  | cons c text induction =>
      rw [List.map_cons, joinPieces, induction]
      rfl

/-- What is written for a text is read back. -/
theorem readText_flatMap_escape (text : String) (cs : List Char) :
    readText (text.toList.flatMap escape ++ '"' :: cs) = some (some text, cs) := by
  rw [readText, readPieces_flatMap_escape]
  simp only [Option.bind_eq_bind, Option.bind_some, joinPieces_map_char, Option.map_some,
    String.ofList_toList, Option.pure_def]

/-! ## Single values -/

theorem read?_ofList {cs : List Char} {document : Document}
    (whole : readValue (cs.length + 1) cs = some (document, [])) :
    read? (String.ofList cs) = some document := by
  rw [read?, readFront, String.toList_ofList, whole]
  rfl

theorem read?_write_str (text : String) : read? (write (.str text)) = some (.str text) := by
  refine read?_ofList ?_
  have unspaced : skipSpace (writeText text) =
      '"' :: (text.toList.flatMap escape ++ ['"']) := rfl
  rw [compact, readValue, unspaced]
  simp only [readText_flatMap_escape]
  rfl

theorem read?_write_null : read? (write .null) = some .null :=
  read?_ofList rfl

theorem readValue_digitChar {d : Nat} (small : d < 10) (fuel : Nat) (cs : List Char) :
    readValue (fuel + 1) (Decimal.digitChar d :: cs) =
      readNumber false (Decimal.digitChar d :: cs) := by
  match d, small with
  | 0, _ | 1, _ | 2, _ | 3, _ | 4, _ | 5, _ | 6, _ | 7, _ | 8, _ | 9, _ => rfl

theorem foldl_map_digitChar {values : List Nat} (digits : ∀ d ∈ values, d < 10) (acc : Nat) :
    (values.map Decimal.digitChar).foldl (fun acc c => acc * 10 + (Decimal.digitValue? c).getD 0)
      acc = values.foldl (fun acc d => acc * 10 + d) acc := by
  induction values generalizing acc with
  | nil => rfl
  | cons d values induction =>
      rw [List.forall_mem_cons] at digits
      rw [List.map_cons, List.foldl_cons, List.foldl_cons, induction digits.2,
        Decimal.digitValue?_digitChar digits.1, Option.getD_some]

theorem valueOf_digits (n : Nat) : valueOf (Decimal.digits n) = n := by
  rw [Text.digits_eq_map, valueOf,
    foldl_map_digitChar (Text.lt_of_mem_digitValues (by decide))]
  exact Text.valueOf_digitValues (by decide) n

theorem someDigits_digits (n : Nat) :
    someDigits (Decimal.digits n) = some (Decimal.digits n, []) := by
  have all : ∀ c ∈ Decimal.digits n, (Decimal.digitValue? c).isSome = true := fun c mem =>
    Option.isSome_iff_exists.2 (Decimal.digitValue?_of_mem_digits mem)
  have span_eq : spanDigits (Decimal.digits n) = (Decimal.digits n, []) :=
    Prod.ext (List.takeWhile_eq_self_iff.2 all) (List.dropWhile_eq_nil_iff.2 all)
  rw [someDigits, span_eq, if_neg (Decimal.digits_ne_nil n)]

theorem readWhole_digits (n : Nat) : readWhole (Decimal.digits n) = some (n, []) := by
  by_cases zero : n = 0
  · rw [zero, Decimal.digits, if_pos (by decide)]
    rfl
  · have first_ne : (Decimal.digits n).head? ≠ some '0' := by
      rw [Text.digits_eq_map, List.head?_map, Ne, Option.map_eq_some_iff]
      rintro ⟨d, head_eq, char_eq⟩
      have small := Text.lt_of_mem_digitValues (by decide) d (List.mem_of_mem_head? head_eq)
      have value_eq := Decimal.digitValue?_digitChar small
      rw [char_eq] at value_eq
      cases value_eq
      exact zero (Text.eq_zero_of_head?_digitValues (by decide) head_eq)
    rw [readWhole_of_ne_zero first_ne, someDigits_digits, Option.map_some, valueOf_digits]

theorem readValue_digits (fuel n : Nat) :
    readValue (fuel + 1) (Decimal.digits n) = some (.nat n, []) := by
  obtain ⟨d, values, values_eq⟩ := List.exists_cons_of_ne_nil (Text.digitValues_ne_nil 10 n)
  have small : d < 10 := Text.lt_of_mem_digitValues (by decide) d (values_eq ▸ List.mem_cons_self)
  have first : Decimal.digits n = Decimal.digitChar d :: values.map Decimal.digitChar := by
    rw [Text.digits_eq_map, values_eq, List.map_cons]
  have number : readValue (fuel + 1) (Decimal.digits n) = readNumber false (Decimal.digits n) := by
    rw [first, readValue_digitChar small]
  rw [number, readNumber, readWhole_digits]
  rfl

theorem read?_write_nat (n : Nat) : read? (write (.nat n)) = some (.nat n) :=
  read?_ofList (readValue_digits _ n)

/-! ## Tables and lists -/

theorem skipSpace_cons {c : Char} (solid : isSpace c = false) (cs : List Char) :
    skipSpace (c :: cs) = c :: cs :=
  List.dropWhile_cons_of_neg (by rw [solid]; exact Bool.false_ne_true)

/-- The document of a text is read in front of a comma or a closing sign, with the space behind it
left over. -/
theorem IsText.readValue_append {text : String} (spells : IsText text) (mark : Char)
    (closes : mark ∈ [',', ']', '\x7d']) (rest : List Char) {fuel : Nat}
    (enough : text.toList.length < fuel) :
    ∃ space, readValue fuel (text.toList ++ mark :: rest) =
        some (documentOf text, space ++ mark :: rest) ∧
      skipSpace (space ++ mark :: rest) = mark :: rest := by
  simp only [List.mem_cons, List.not_mem_nil, or_false] at closes
  have solid : isSpace mark = false := by
    rcases closes with rfl | rfl | rfl <;> rfl
  have delimits : Delimits (mark :: rest) := by
    rintro c ⟨⟩
    rcases closes with rfl | rfl | rfl <;> decide
  obtain ⟨space, value_eq, blank⟩ := readValue_append_of_read? spells.read? delimits enough
  exact ⟨space, value_eq, blank.trans (skipSpace_cons solid rest)⟩

theorem memberText_append (member : String × String) (rest : List Char) :
    memberText member ++ rest =
      '"' :: (member.1.toList.flatMap escape ++ '"' :: ':' :: (member.2.toList ++ rest)) := by
  simp [memberText, writeText]

theorem length_memberText (member : String × String) :
    (memberText member).length =
      (member.1.toList.flatMap escape).length + member.2.toList.length + 3 := by
  simp only [memberText, writeText, List.length_append, List.length_cons, List.length_nil]
  omega

section Members

variable {member : String × String} {fuel : Nat} (spells : IsText member.2)
  (enough : member.2.toList.length < fuel)
include spells enough

theorem readEntries_last (rest : List Char) :
    readEntries (fuel + 1) (memberText member ++ '\x7d' :: rest) =
      some (.table [entryOf member], rest) := by
  obtain ⟨space, value_eq, blank⟩ := spells.readValue_append '\x7d' (by decide) rest enough
  rw [memberText_append, readEntries, skipSpace_cons (by decide)]
  simp only [readText_flatMap_escape, Option.bind_eq_bind, Option.bind_some]
  rw [skipSpace_cons (by decide)]
  simp only [value_eq, Option.bind_some, blank]
  rfl

theorem readEntries_more (rest : List Char) :
    readEntries (fuel + 1) (memberText member ++ ',' :: rest) =
      (readEntries fuel rest).map fun taken =>
        (addEntry (some member.1) (documentOf member.2) taken.1, taken.2) := by
  obtain ⟨space, value_eq, blank⟩ := spells.readValue_append ',' (by decide) rest enough
  rw [memberText_append, readEntries, skipSpace_cons (by decide)]
  simp only [readText_flatMap_escape, Option.bind_eq_bind, Option.bind_some]
  rw [skipSpace_cons (by decide)]
  simp only [value_eq, Option.bind_some, blank]
  cases readEntries fuel rest <;> rfl

end Members

theorem readEntries_members {members : List (String × String)} (nonempty : members ≠ [])
    (spell : ∀ member ∈ members, IsText member.2) (rest : List Char) {fuel : Nat}
    (enough : ([','].intercalate (members.map memberText)).length < fuel) :
    readEntries fuel ([','].intercalate (members.map memberText) ++ '\x7d' :: rest) =
      some (.table (members.map entryOf), rest) := by
  induction members generalizing fuel with
  | nil => exact absurd rfl nonempty
  | cons member others induction =>
      rw [List.forall_mem_cons] at spell
      obtain ⟨fuel, rfl⟩ := Nat.exists_eq_add_of_le' (Nat.zero_lt_of_lt enough)
      have member_length := length_memberText member
      cases others with
      | nil =>
          simp only [List.map_cons, List.map_nil, List.intercalate_singleton] at enough ⊢
          exact readEntries_last spell.1 (by omega) rest
      | cons next others =>
          rw [List.map_cons, List.map_cons, List.intercalate_cons_cons, ← List.map_cons] at enough ⊢
          simp only [List.length_append, List.length_singleton] at enough
          rw [List.append_assoc, List.append_assoc, List.singleton_append,
            readEntries_more spell.1 (by omega),
            induction (List.cons_ne_nil _ _) spell.2 (by omega)]
          rfl

section Items

variable {item : String} {fuel : Nat} (spells : IsText item) (enough : item.toList.length < fuel)
include spells enough

theorem readItems_last (rest : List Char) :
    readItems (fuel + 1) (item.toList ++ ']' :: rest) = some ([documentOf item], rest) := by
  obtain ⟨space, value_eq, blank⟩ := spells.readValue_append ']' (by decide) rest enough
  rw [readItems]
  simp only [value_eq, Option.bind_eq_bind, Option.bind_some, blank]

theorem readItems_more (rest : List Char) :
    readItems (fuel + 1) (item.toList ++ ',' :: rest) =
      (readItems fuel rest).map fun taken => (documentOf item :: taken.1, taken.2) := by
  obtain ⟨space, value_eq, blank⟩ := spells.readValue_append ',' (by decide) rest enough
  rw [readItems]
  simp only [value_eq, Option.bind_eq_bind, Option.bind_some, blank]
  cases readItems fuel rest <;> rfl

end Items

theorem readItems_items {items : List String} (nonempty : items ≠ [])
    (spell : ∀ item ∈ items, IsText item) (rest : List Char) {fuel : Nat}
    (enough : ([','].intercalate (items.map String.toList)).length + 1 < fuel) :
    readItems fuel ([','].intercalate (items.map String.toList) ++ ']' :: rest) =
      some (items.map documentOf, rest) := by
  induction items generalizing fuel with
  | nil => exact absurd rfl nonempty
  | cons item others induction =>
      rw [List.forall_mem_cons] at spell
      obtain ⟨fuel, rfl⟩ := Nat.exists_eq_add_of_le' (Nat.zero_lt_of_lt enough)
      cases others with
      | nil =>
          simp only [List.map_cons, List.map_nil, List.intercalate_singleton] at enough ⊢
          exact readItems_last spell.1 (by omega) rest
      | cons next others =>
          rw [List.map_cons, List.map_cons, List.intercalate_cons_cons, ← List.map_cons] at enough ⊢
          simp only [List.length_append, List.length_singleton] at enough
          rw [List.append_assoc, List.append_assoc, List.singleton_append,
            readItems_more spell.1 (by omega),
            induction (List.cons_ne_nil _ _) spell.2 (by omega)]
          rfl

theorem exists_intercalate_cons (separator first : List Char) (others : List (List Char)) :
    ∃ more, separator.intercalate (first :: others) = first ++ more := by
  cases others with
  | nil => exact ⟨[], by rw [List.intercalate_singleton, List.append_nil]⟩
  | cons next others =>
      exact ⟨_, by rw [List.intercalate_cons_cons, List.append_assoc]⟩

theorem skipSpace_skipSpace (cs : List Char) : skipSpace (skipSpace cs) = skipSpace cs :=
  List.dropWhile_idempotent _ _

theorem readValue_skipSpace (fuel : Nat) (cs : List Char) :
    readValue fuel (skipSpace cs) = readValue fuel cs := by
  cases fuel with
  | zero => rfl
  | succ fuel => rw [readValue, readValue, skipSpace_skipSpace]

theorem readItems_skipSpace (fuel : Nat) (cs : List Char) :
    readItems fuel (skipSpace cs) = readItems fuel cs := by
  cases fuel with
  | zero => rfl
  | succ fuel => rw [readItems, readItems, readValue_skipSpace]

theorem readEntries_skipSpace (fuel : Nat) (cs : List Char) :
    readEntries fuel (skipSpace cs) = readEntries fuel cs := by
  cases fuel with
  | zero => rfl
  | succ fuel => rw [readEntries, readEntries, skipSpace_skipSpace]

/-- A table is read from the texts of its members. -/
theorem read?_tableText {members : List (String × String)}
    (spell : ∀ member ∈ members, IsText member.2) :
    read? (tableText members) = some (.table (members.map entryOf)) := by
  refine read?_ofList ?_
  cases members with
  | nil => rfl
  | cons member others =>
      obtain ⟨more, text_eq⟩ :=
        exists_intercalate_cons [','] (memberText member) (others.map memberText)
      have first : skipSpace ([','].intercalate ((member :: others).map memberText) ++ ['\x7d']) =
          '"' :: (member.1.toList.flatMap escape ++
            '"' :: ':' :: (member.2.toList ++ (more ++ ['\x7d']))) := by
        rw [List.map_cons, text_eq, List.append_assoc, memberText_append,
          skipSpace_cons (by decide)]
      rw [readValue_table (skipSpace_cons (by decide) _) first (by decide), ← first,
        readEntries_skipSpace]
      refine readEntries_members (List.cons_ne_nil _ _) spell [] ?_
      rw [List.length_cons, List.length_append, List.length_singleton]
      omega

/-- A text that spells a document begins with no bracket that closes. -/
theorem IsText.exists_first {item : String} (spells : IsText item) :
    ∃ c after, skipSpace item.toList = c :: after ∧ c ≠ ']' := by
  obtain ⟨document, read⟩ := spells
  simp only [Json.read?, Option.bind_eq_bind, Option.bind_eq_some_iff, Prod.exists] at read
  obtain ⟨_, _, front, -⟩ := read
  obtain ⟨c, after, first⟩ := List.exists_cons_of_ne_nil (skipSpace_ne_nil_of_readValue front)
  refine ⟨c, after, first, ?_⟩
  rintro rfl
  rw [readFront, readValue, first] at front
  cases front

/-- A list is read from the texts of its items. -/
theorem read?_listText {items : List String} (spell : ∀ item ∈ items, IsText item) :
    read? (listText items) = some (.list (items.map documentOf)) := by
  refine read?_ofList ?_
  cases items with
  | nil => rfl
  | cons item others =>
      obtain ⟨more, text_eq⟩ :=
        exists_intercalate_cons [','] item.toList (others.map String.toList)
      obtain ⟨c, after, item_eq, open_ne⟩ := (spell item List.mem_cons_self).exists_first
      have first : skipSpace ([','].intercalate ((item :: others).map String.toList) ++ [']']) =
          c :: (after ++ (more ++ [']'])) := by
        rw [List.map_cons, text_eq, List.append_assoc, skipSpace_append item_eq]
      have enough : ([','].intercalate ((item :: others).map String.toList)).length + 1 <
          ('[' :: ([','].intercalate ((item :: others).map String.toList) ++ [']'])).length := by
        rw [List.length_cons, List.length_append, List.length_singleton]
        omega
      rw [readValue_list (skipSpace_cons (by decide) _) first open_ne, ← first,
        readItems_skipSpace, readItems_items (List.cons_ne_nil _ _) spell [] enough]
      rfl

end Json
end ClusterMember
