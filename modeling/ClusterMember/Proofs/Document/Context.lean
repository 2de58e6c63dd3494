import ClusterMember.Document.Json
import ClusterMember.Proofs.Text.Decimal

/-!
# Values in their context

A value that is read from a text is read from every longer text, as long as what follows does not go
on with a number, and more fuel changes nothing.
-/

namespace ClusterMember
namespace Json

/-- What may follow a number without belonging to it. -/
def Delimits (rest : List Char) : Prop :=
  ∀ c ∈ rest.head?, Decimal.digitValue? c = none ∧ c ≠ '.' ∧ c ≠ 'e' ∧ c ≠ 'E'

/-- Before what follows, the second reader takes what the first one takes when nothing follows. -/
def Keeps {α : Type} (rest : List Char) (reader larger : List Char → Option (α × List Char)) :
    Prop :=
  ∀ cs out left, reader cs = some (out, left) → larger (cs ++ rest) = some (out, left ++ rest)

variable {rest cs tail left : List Char} {c : Char}

/-! ## Words and texts -/

theorem skipSpace_append (found : skipSpace cs = c :: tail) (rest : List Char) :
    skipSpace (cs ++ rest) = c :: (tail ++ rest) := by
  rw [skipSpace] at found
  rw [skipSpace, List.dropWhile_append, found]
  rfl

theorem expect_append {word : List Char} (found : expect word cs = some left) :
    expect word (cs ++ rest) = some (left ++ rest) := by
  induction word generalizing cs with
  | nil =>
      cases found
      rfl
  | cons c word induction =>
      cases cs with
      | nil => cases found
      | cons d cs =>
          rw [expect] at found
          rw [List.cons_append, expect]
          split at found
          next same => rw [if_pos same, induction found]
          next => cases found

theorem word_keeps (rest word : List Char) (document : Document) :
    Keeps rest (fun cs => (document, ·) <$> expect word cs)
      (fun cs => (document, ·) <$> expect word cs) := by
  intro cs out left read
  obtain ⟨_, taken, eq⟩ := Option.map_eq_some_iff.1 read
  cases eq
  exact Option.map_eq_some_iff.2 ⟨_, expect_append taken, rfl⟩

/-- A part in front of those of a text. -/
def prepend (piece : Piece) (taken : List Piece × List Char) : List Piece × List Char :=
  (piece :: taken.1, taken.2)

theorem readPieces_unit {a b c d : Char} {unit : Nat} (unit_eq : unitOf? a b c d = some unit)
    (cs : List Char) : readPieces ('\\' :: 'u' :: a :: b :: c :: d :: cs) =
      (readPieces cs).map (prepend (pieceOf unit)) := by
  rw [readPieces, unit_eq]
  cases readPieces cs <;> rfl

theorem readPieces_letter {letter : Char} (c_eq : unescape? letter = some c) (cs : List Char) :
    readPieces ('\\' :: letter :: cs) = (readPieces cs).map (prepend (.char c)) := by
  have no_unit : letter ≠ 'u' := by
    rintro rfl
    cases c_eq
  rw [readPieces.eq_def]
  split
  next eq => cases eq
  next eq => cases eq
  next eq =>
    cases eq
    exact absurd rfl no_unit
  next eq =>
    cases eq
    rw [c_eq]
    cases readPieces cs <;> rfl
  next not_escape eq =>
    cases eq
    exact (not_escape _ _ rfl rfl).elim

theorem readPieces_plain (quote : c ≠ '"') (backslash : c ≠ '\\') (printed : ¬c.toNat < 0x20)
    (cs : List Char) : readPieces (c :: cs) = (readPieces cs).map (prepend (.char c)) := by
  rw [readPieces.eq_def]
  split
  next eq => cases eq
  next eq =>
    cases eq
    exact absurd rfl quote
  next eq =>
    cases eq
    exact absurd rfl backslash
  next eq =>
    cases eq
    exact absurd rfl backslash
  next eq =>
    cases eq
    rw [if_neg printed]
    cases readPieces cs <;> rfl

/-- What stands for one part keeps it when what follows that part keeps all others. -/
theorem readPieces_append_of_front (front : List Char) {piece : Piece}
    (stands : ∀ cs, readPieces (front ++ cs) = (readPieces cs).map (prepend piece))
    (later : ∀ out left, readPieces tail = some (out, left) →
      readPieces (tail ++ rest) = some (out, left ++ rest)) {out : List Piece}
    (read : readPieces (front ++ tail) = some (out, left)) :
    readPieces (front ++ tail ++ rest) = some (out, left ++ rest) := by
  rw [stands, Option.map_eq_some_iff] at read
  obtain ⟨⟨pieces, _⟩, taken, eq⟩ := read
  cases eq
  rw [List.append_assoc, stands, later _ _ taken]
  rfl

theorem readPieces_keeps (rest : List Char) : Keeps rest readPieces readPieces := by
  intro cs
  induction cs using readPieces.induct with
  | case1 =>
      intro out left read
      cases read
  | case2 tail =>
      intro out left read
      cases read
      rfl
  | case3 a b c d tail induction =>
      intro out left read
      cases unit_eq : unitOf? a b c d with
      | none =>
          simp only [readPieces, unit_eq, Option.bind_eq_bind, Option.bind_none] at read
          cases read
      | some unit =>
          exact readPieces_append_of_front ['\\', 'u', a, b, c, d] (readPieces_unit unit_eq)
            induction read
  | case4 letter tail not_unit induction =>
      intro out left read
      cases c_eq : unescape? letter with
      | none =>
          simp only [readPieces, c_eq, Option.bind_eq_bind, Option.bind_none] at read
          cases read
      | some c =>
          exact readPieces_append_of_front ['\\', letter] (readPieces_letter c_eq) induction read
  | case5 c tail quote unit escape control =>
      intro out left read
      simp only [readPieces, if_pos control] at read
      cases read
  | case6 c tail quote unit escape printed induction =>
      intro out left read
      have not_quote : c ≠ '"' := by
        rintro rfl
        exact quote rfl
      by_cases backslash : c = '\\'
      · subst backslash
        cases tail with
        | nil => cases read
        | cons letter tail => exact (escape _ _ rfl rfl).elim
      · exact readPieces_append_of_front [c] (readPieces_plain not_quote backslash printed)
          induction read

theorem readText_keeps (rest : List Char) : Keeps rest readText readText := by
  intro cs out left read
  simp only [readText, Option.bind_eq_bind, Option.bind_eq_some_iff, Option.pure_def,
    Option.some.injEq, Prod.exists, Prod.mk.injEq] at read
  obtain ⟨pieces, _, taken, rfl, rfl⟩ := read
  simp only [readText, readPieces_keeps rest _ _ _ taken, Option.bind_eq_bind, Option.bind_some,
    Option.pure_def]

/-! ## Numbers -/

theorem spanDigits_append (delimits : Delimits rest) (cs : List Char) :
    spanDigits (cs ++ rest) = ((spanDigits cs).1, (spanDigits cs).2 ++ rest) := by
  induction cs with
  | nil =>
      cases rest with
      | nil => rfl
      | cons c tail =>
          have odd := (delimits c rfl).1
          simp [spanDigits, odd]
  | cons c cs induction =>
      simp only [spanDigits, Prod.mk.injEq] at induction ⊢
      rw [List.cons_append]
      by_cases digit : (Decimal.digitValue? c).isSome
      · simp [digit, induction]
      · simp [digit]

/-- The digits at the front of a text, unless there are none. -/
def someDigits (cs : List Char) : Option (List Char × List Char) :=
  if (spanDigits cs).1 = [] then none else some (spanDigits cs)

theorem someDigits_keeps (delimits : Delimits rest) : Keeps rest someDigits someDigits := by
  intro cs digits left found
  rw [someDigits, Option.ite_none_left_eq_some, Option.some.injEq] at found
  rw [someDigits, spanDigits_append delimits, if_neg found.1, found.2]

theorem ne_nil_of_someDigits {digits : List Char} (found : someDigits cs = some (digits, left)) :
    cs ≠ [] := by
  rintro rfl
  cases found

theorem readWhole_of_ne_zero (first_ne : cs.head? ≠ some '0') :
    readWhole cs = (someDigits cs).map fun found => (valueOf found.1, found.2) := by
  rw [readWhole.eq_def]
  split
  next => exact absurd rfl first_ne
  next =>
    rw [someDigits]
    obtain ⟨digits, after⟩ := spanDigits cs
    cases digits <;> rfl

theorem skipFraction_dot (cs : List Char) :
    skipFraction ('.' :: cs) = (someDigits cs).map fun found => (true, found.2) := by
  rw [skipFraction, someDigits]
  obtain ⟨digits, after⟩ := spanDigits cs
  cases digits <;> rfl

theorem skipFraction_of_ne_dot (first_ne : cs.head? ≠ some '.') :
    skipFraction cs = some (false, cs) := by
  rw [skipFraction.eq_def]
  split
  next => exact absurd rfl first_ne
  next => rfl

theorem skipExponent_mark (mark : c = 'e' ∨ c = 'E') (cs : List Char) :
    skipExponent (c :: cs) = (someDigits (skipSign cs)).map fun found => (true, found.2) := by
  rw [skipExponent, if_pos mark, someDigits]
  obtain ⟨digits, after⟩ := spanDigits (skipSign cs)
  cases digits <;> rfl

theorem skipExponent_of_ne_mark (first_ne : ∀ c ∈ cs.head?, c ≠ 'e' ∧ c ≠ 'E') :
    skipExponent cs = some (false, cs) := by
  cases cs with
  | nil => rfl
  | cons c tail =>
      have no_mark := not_or.2 (first_ne c rfl)
      rw [skipExponent, if_neg no_mark]

theorem skipSign_append (nonempty : cs ≠ []) (rest : List Char) :
    skipSign (cs ++ rest) = skipSign cs ++ rest := by
  obtain ⟨c, tail, rfl⟩ := List.exists_cons_of_ne_nil nonempty
  by_cases plus : c = '+'
  · subst plus
    rfl
  · by_cases minus : c = '-'
    · subst minus
      rfl
    · have plain (cs : List Char) : skipSign (c :: cs) = c :: cs := by
        rw [skipSign.eq_def]
        split
        next eq => exact absurd (List.cons.inj eq).1 plus
        next eq => exact absurd (List.cons.inj eq).1 minus
        next => rfl
      rw [List.cons_append, plain, plain, List.cons_append]

theorem readWhole_keeps (delimits : Delimits rest) : Keeps rest readWhole readWhole := by
  intro cs out left read
  by_cases zero : cs.head? = some '0'
  · obtain ⟨tail, rfl⟩ := List.head?_eq_some_iff.1 zero
    cases read
    rfl
  · rw [readWhole_of_ne_zero zero, Option.map_eq_some_iff] at read
    obtain ⟨⟨digits, _⟩, found, eq⟩ := read
    cases eq
    have zero_after : (cs ++ rest).head? ≠ some '0' := by
      obtain ⟨c, tail, rfl⟩ := List.exists_cons_of_ne_nil (ne_nil_of_someDigits found)
      exact zero
    rw [readWhole_of_ne_zero zero_after, someDigits_keeps delimits _ _ _ found]
    rfl

theorem skipFraction_keeps (delimits : Delimits rest) : Keeps rest skipFraction skipFraction := by
  intro cs out left read
  by_cases dot : cs.head? = some '.'
  · obtain ⟨tail, rfl⟩ := List.head?_eq_some_iff.1 dot
    rw [skipFraction_dot, Option.map_eq_some_iff] at read
    obtain ⟨⟨digits, _⟩, found, eq⟩ := read
    cases eq
    rw [List.cons_append, skipFraction_dot, someDigits_keeps delimits _ _ _ found]
    rfl
  · rw [skipFraction_of_ne_dot dot] at read
    cases read
    refine skipFraction_of_ne_dot ?_
    cases cs with
    | nil =>
      intro dot
      exact (delimits _ dot).2.1 rfl
    | cons c tail => exact dot

theorem skipExponent_keeps (delimits : Delimits rest) : Keeps rest skipExponent skipExponent := by
  intro cs out left read
  cases cs with
  | nil =>
      cases read
      exact skipExponent_of_ne_mark fun c mem => (delimits c mem).2.2
  | cons c tail =>
      by_cases mark : c = 'e' ∨ c = 'E'
      · rw [skipExponent_mark mark, Option.map_eq_some_iff] at read
        obtain ⟨⟨digits, _⟩, found, eq⟩ := read
        cases eq
        have nonempty : tail ≠ [] := by
          rintro rfl
          cases found
        rw [List.cons_append, skipExponent_mark mark, skipSign_append nonempty,
          someDigits_keeps delimits _ _ _ found]
        rfl
      · have no_mark (tail : List Char) : ∀ d ∈ (c :: tail).head?, d ≠ 'e' ∧ d ≠ 'E' := by
          rintro d ⟨⟩
          exact not_or.1 mark
        rw [skipExponent_of_ne_mark (no_mark tail)] at read
        cases read
        exact skipExponent_of_ne_mark (no_mark _)

theorem readNumber_keeps (delimits : Delimits rest) (negative : Bool) :
    Keeps rest (readNumber negative) (readNumber negative) := by
  intro cs out left read
  simp only [readNumber, Option.bind_eq_bind, Option.bind_eq_some_iff, Prod.exists] at read
  obtain ⟨n, _, whole, isFraction, _, fraction, isScaled, _, exponent, read⟩ := read
  simp only [readNumber, readWhole_keeps delimits _ _ _ whole,
    skipFraction_keeps delimits _ _ _ fraction, skipExponent_keeps delimits _ _ _ exponent,
    Option.bind_eq_bind, Option.bind_some]
  split at read
  next odd =>
    cases read
    rw [if_pos odd]
    rfl
  next whole =>
    cases read
    rw [if_neg whole]
    rfl

/-! ## Values -/

theorem skipSpace_ne_nil_of_readValue {fuel : Nat} {out : Document × List Char}
    (read : readValue fuel cs = some out) : skipSpace cs ≠ [] := by
  intro empty
  cases fuel with
  | zero => cases read
  | succ fuel =>
      rw [readValue, empty] at read
      cases read

theorem skipSpace_ne_nil_of_readItems {fuel : Nat} {out : List Document × List Char}
    (read : readItems fuel cs = some out) : skipSpace cs ≠ [] := by
  cases fuel with
  | zero => cases read
  | succ fuel =>
      rw [readItems, Option.bind_eq_bind, Option.bind_eq_some_iff] at read
      obtain ⟨item, taken, -⟩ := read
      exact skipSpace_ne_nil_of_readValue taken

theorem skipSpace_ne_nil_of_readEntries {fuel : Nat} {out : Document × List Char}
    (read : readEntries fuel cs = some out) : skipSpace cs ≠ [] := by
  intro empty
  cases fuel with
  | zero => cases read
  | succ fuel =>
      rw [readEntries, empty] at read
      cases read

theorem exists_skipSpace_eq_cons (found : skipSpace (skipSpace cs) ≠ []) :
    ∃ c tail, skipSpace cs = c :: tail := by
  refine List.exists_cons_of_ne_nil fun empty => found ?_
  rw [empty]
  rfl

theorem readValue_empty_list {after : List Char} (found : skipSpace cs = '[' :: tail)
    (closed : skipSpace tail = ']' :: after) (fuel : Nat) :
    readValue (fuel + 1) cs = some (.list [], after) := by
  rw [readValue, found]
  simp only [closed]

theorem readValue_list {after : List Char} (found : skipSpace cs = '[' :: tail)
    (first : skipSpace tail = c :: after) (not_closed : c ≠ ']') (fuel : Nat) :
    readValue (fuel + 1) cs =
      (readItems fuel (c :: after)).map fun taken => (.list taken.1, taken.2) := by
  rw [readValue, found]
  simp only [first]
  split
  next eq => exact absurd (List.cons.inj eq).1 not_closed
  next => cases readItems fuel (c :: after) <;> rfl

theorem readValue_empty_table {after : List Char} (found : skipSpace cs = '\x7b' :: tail)
    (closed : skipSpace tail = '\x7d' :: after) (fuel : Nat) :
    readValue (fuel + 1) cs = some (.table [], after) := by
  rw [readValue, found]
  simp only [closed]

theorem readValue_table {after : List Char} (found : skipSpace cs = '\x7b' :: tail)
    (first : skipSpace tail = c :: after) (not_closed : c ≠ '\x7d') (fuel : Nat) :
    readValue (fuel + 1) cs = readEntries fuel (c :: after) := by
  rw [readValue, found]
  simp only [first]
  split
  next eq => exact absurd (List.cons.inj eq).1 not_closed
  next => rfl

theorem readValue_keeps_succ (delimits : Delimits rest) {fuel larger : Nat}
    (items : Keeps rest (readItems fuel) (readItems larger))
    (entries : Keeps rest (readEntries fuel) (readEntries larger)) :
    Keeps rest (readValue (fuel + 1)) (readValue (larger + 1)) := by
  intro cs out left read
  obtain ⟨c, tail, found⟩ := List.exists_cons_of_ne_nil (skipSpace_ne_nil_of_readValue read)
  have whole := skipSpace_append found rest
  rw [readValue, found] at read
  -- The first character tells what is read; a number begins with none of the characters before.
  split at read
  next eq =>
    cases eq
    rw [readValue, whole]
    exact word_keeps rest _ _ _ _ _ read
  next eq =>
    cases eq
    rw [readValue, whole]
    exact word_keeps rest _ _ _ _ _ read
  next eq =>
    cases eq
    rw [readValue, whole]
    exact word_keeps rest _ _ _ _ _ read
  next eq =>
    cases eq
    rw [readValue, whole]
    obtain ⟨⟨text, left⟩, taken, eq⟩ := Option.bind_eq_some_iff.1 read
    cases eq
    exact Option.bind_eq_some_iff.2 ⟨_, readText_keeps rest _ _ _ taken, rfl⟩
  next eq =>
    cases eq
    split at read
    next closed =>
      cases read
      exact readValue_empty_list whole (skipSpace_append closed rest) larger
    next not_closed =>
      obtain ⟨⟨taken, _⟩, taken_eq, eq⟩ := Option.bind_eq_some_iff.1 read
      cases eq
      have again := items _ _ _ taken_eq
      obtain ⟨d, after, first⟩ := exists_skipSpace_eq_cons (skipSpace_ne_nil_of_readItems taken_eq)
      rw [first] at not_closed again
      have d_ne : d ≠ ']' := fun eq => not_closed after (eq ▸ rfl)
      rw [readValue_list whole (skipSpace_append first rest) d_ne]
      exact Option.map_eq_some_iff.2 ⟨_, again, rfl⟩
  next eq =>
    cases eq
    split at read
    next closed =>
      cases read
      exact readValue_empty_table whole (skipSpace_append closed rest) larger
    next not_closed =>
      have again := entries _ _ _ read
      obtain ⟨d, after, first⟩ := exists_skipSpace_eq_cons (skipSpace_ne_nil_of_readEntries read)
      rw [first] at not_closed again
      have d_ne : d ≠ '\x7d' := fun eq => not_closed after (eq ▸ rfl)
      rw [readValue_table whole (skipSpace_append first rest) d_ne]
      exact again
  next eq =>
    cases eq
    rw [readValue, whole]
    exact readNumber_keeps delimits true _ _ _ read
  next null yes no quote bracket brace minus =>
    rw [readValue, whole]
    split
    next eq =>
      cases eq
      exact (null _ rfl).elim
    next eq =>
      cases eq
      exact (yes _ rfl).elim
    next eq =>
      cases eq
      exact (no _ rfl).elim
    next eq =>
      cases eq
      exact (quote _ rfl).elim
    next eq =>
      cases eq
      exact (bracket _ rfl).elim
    next eq =>
      cases eq
      exact (brace _ rfl).elim
    next eq =>
      cases eq
      exact (minus _ rfl).elim
    next => exact readNumber_keeps delimits false _ _ _ read

theorem readItems_keeps_succ {fuel larger : Nat}
    (value : Keeps rest (readValue fuel) (readValue larger))
    (items : Keeps rest (readItems fuel) (readItems larger)) :
    Keeps rest (readItems (fuel + 1)) (readItems (larger + 1)) := by
  intro cs out left read
  rw [readItems] at read ⊢
  obtain ⟨⟨item, after⟩, item_eq, read⟩ := Option.bind_eq_some_iff.1 read
  refine Option.bind_eq_some_iff.2 ⟨_, value _ _ _ item_eq, ?_⟩
  simp only at read ⊢
  split at read
  next closed =>
    cases read
    rw [skipSpace_append closed]
    rfl
  next comma =>
    obtain ⟨⟨others, _⟩, others_eq, eq⟩ := Option.bind_eq_some_iff.1 read
    cases eq
    rw [skipSpace_append comma]
    exact Option.bind_eq_some_iff.2 ⟨_, items _ _ _ others_eq, rfl⟩
  next => cases read

theorem readEntries_keeps_succ {fuel larger : Nat}
    (value : Keeps rest (readValue fuel) (readValue larger))
    (entries : Keeps rest (readEntries fuel) (readEntries larger)) :
    Keeps rest (readEntries (fuel + 1)) (readEntries (larger + 1)) := by
  intro cs out left read
  rw [readEntries] at read ⊢
  split at read
  next quote =>
    rw [skipSpace_append quote]
    obtain ⟨⟨name, behind⟩, name_eq, read⟩ := Option.bind_eq_some_iff.1 read
    refine Option.bind_eq_some_iff.2 ⟨_, readText_keeps rest _ _ _ name_eq, ?_⟩
    simp only at read ⊢
    split at read
    next colon =>
      rw [skipSpace_append colon]
      obtain ⟨⟨document, after⟩, document_eq, read⟩ := Option.bind_eq_some_iff.1 read
      refine Option.bind_eq_some_iff.2 ⟨_, value _ _ _ document_eq, ?_⟩
      simp only at read ⊢
      split at read
      next closed =>
        cases read
        rw [skipSpace_append closed]
        rfl
      next comma =>
        obtain ⟨⟨others, _⟩, others_eq, eq⟩ := Option.bind_eq_some_iff.1 read
        cases eq
        rw [skipSpace_append comma]
        exact Option.bind_eq_some_iff.2 ⟨_, entries _ _ _ others_eq, rfl⟩
      next => cases read
    next => cases read
  next => cases read

/-- All three readers keep what they take, with any fuel to spare.  The induction is on the fuel, for
the three of them at once. -/
theorem readers_keep (delimits : Delimits rest) {fuel larger : Nat} (enough : fuel ≤ larger) :
    Keeps rest (readValue fuel) (readValue larger) ∧
      Keeps rest (readItems fuel) (readItems larger) ∧
      Keeps rest (readEntries fuel) (readEntries larger) := by
  induction fuel generalizing larger with
  | zero => refine ⟨?_, ?_, ?_⟩ <;> intro cs out left read <;> cases read
  | succ fuel induction =>
      obtain ⟨larger, rfl⟩ := Nat.exists_eq_add_of_le' (Nat.le_trans (Nat.le_add_left 1 _) enough)
      obtain ⟨value, items, entries⟩ := induction (Nat.le_of_succ_le_succ enough)
      exact ⟨readValue_keeps_succ delimits items entries, readItems_keeps_succ value items,
        readEntries_keeps_succ value entries⟩

/-- A text that spells a document spells it in front of what follows. -/
theorem readValue_append_of_read? {text : String} {document : Document}
    (read : read? text = some document) (delimits : Delimits rest) {fuel : Nat}
    (enough : text.toList.length < fuel) :
    ∃ space, readValue fuel (text.toList ++ rest) = some (document, space ++ rest) ∧
      skipSpace (space ++ rest) = skipSpace rest := by
  simp only [read?, Option.bind_eq_bind, Option.bind_eq_some_iff, Prod.exists,
    Option.ite_none_right_eq_some, Option.some.injEq] at read
  obtain ⟨_, space, front, blank, rfl⟩ := read
  refine ⟨space, (readers_keep delimits enough).1 _ _ _ front, ?_⟩
  rw [skipSpace, List.dropWhile_append, ← skipSpace, blank]
  rfl

end Json
end ClusterMember
