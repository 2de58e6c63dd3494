import ClusterMember.Document.Basic
import ClusterMember.Text.Decimal
import ClusterMember.Text.Hexadecimal

/-!
# Documents in JSON

The compact and the indented text of a document, and the reader of both.  In a text, `\u` escapes
give code units of sixteen bits, and two halves of a surrogate pair make one character; a text with
half a pair is well formed, but stands for no characters.  A number with a fraction, an exponent or
a negative zero is no whole number.
-/

namespace ClusterMember
namespace Json

/-- The short escapes: the letter behind the backslash and the character it stands for. -/
def shortEscapes : List (Char × Char) :=
  [('"', '"'), ('\\', '\\'), ('b', '\x08'), ('f', '\x0c'), ('n', '\n'), ('r', '\r'), ('t', '\t')]

/-- The form of one character inside a text. -/
def escape (c : Char) : List Char :=
  match shortEscapes.find? (·.2 = c) with
  | some (letter, _) => ['\\', letter]
  | none =>
    if c.toNat < 0x20 then
      ['\\', 'u', '0', '0', Text.hexDigit (c.toNat / 16), Text.hexDigit (c.toNat % 16)]
    else [c]

/-- A text in quotes. -/
def writeText (s : String) : List Char :=
  '"' :: (s.toList.flatMap escape ++ ['"'])

/-- A whole number. -/
def writeInt (n : Int) : List Char :=
  match n with
  | .ofNat m => Decimal.digits m
  | .negSucc m => '-' :: Decimal.digits (m + 1)

mutual

/-- The compact text of a document. -/
def compact : Document → List Char
  | .null => "null".toList
  | .bool value => (if value then "true" else "false").toList
  | .int value => writeInt value
  | .str text => writeText text
  | .list items => '[' :: (compactItems items ++ [']'])
  | .table entries => '\x7b' :: (compactEntries entries ++ ['\x7d'])
  | .other => "null".toList

/-- Items with commas between them. -/
def compactItems : List Document → List Char
  | [] => []
  | [item] => compact item
  | item :: rest => compact item ++ ',' :: compactItems rest

/-- Entries with commas between them. -/
def compactEntries : List (String × Document) → List Char
  | [] => []
  | [(name, value)] => writeText name ++ ':' :: compact value
  | (name, value) :: rest => writeText name ++ ':' :: (compact value ++ ',' :: compactEntries rest)

end

/-- A line break and an indentation of two blanks for each level. -/
def newLine (level : Nat) : List Char :=
  '\n' :: List.replicate (2 * level) ' '

mutual

/-- The indented text of a document that stands at a level. -/
def indented (level : Nat) : Document → List Char
  | .list [] => "[]".toList
  | .list items => '[' :: (indentedItems (level + 1) items ++ newLine level ++ [']'])
  | .table [] => ['\x7b', '\x7d']
  | .table entries => '\x7b' :: (indentedEntries (level + 1) entries ++ newLine level ++ ['\x7d'])
  | leaf => compact leaf

/-- Items on lines of their own. -/
def indentedItems (level : Nat) : List Document → List Char
  | [] => []
  | [item] => newLine level ++ indented level item
  | item :: rest => newLine level ++ indented level item ++ ',' :: indentedItems level rest

/-- Entries on lines of their own. -/
def indentedEntries (level : Nat) : List (String × Document) → List Char
  | [] => []
  | [(name, value)] => newLine level ++ writeText name ++ ": ".toList ++ indented level value
  | (name, value) :: rest =>
    newLine level ++ writeText name ++ ": ".toList ++ indented level value ++
      ',' :: indentedEntries level rest

end

/-- The compact text of a document. -/
def write (document : Document) : String :=
  String.ofList (compact document)

/-- The indented text of a document. -/
def writeIndented (document : Document) : String :=
  String.ofList (indented 0 document)

/-- Whether a character may stand between two tokens. -/
def isSpace (c : Char) : Bool :=
  c == ' ' || c == '\t' || c == '\n' || c == '\r'

/-- The text behind leading space. -/
def skipSpace (cs : List Char) : List Char :=
  cs.dropWhile isSpace

/-- A part of a text. -/
inductive Piece where
  | char (c : Char)
  | half (unit : Nat)

/-- The part that a code unit of sixteen bits stands for. -/
def pieceOf (unit : Nat) : Piece :=
  if 0xD800 ≤ unit ∧ unit ≤ 0xDFFF then .half unit else .char (Char.ofNat unit)

/-- The value of four hexadecimal digits. -/
def unitOf? (a b c d : Char) : Option Nat := do
  let a ← Text.hexValue? a
  let b ← Text.hexValue? b
  let c ← Text.hexValue? c
  let d ← Text.hexValue? d
  return ((a * 16 + b) * 16 + c) * 16 + d

/-- The character that a letter behind a backslash stands for. -/
def unescape? (letter : Char) : Option Char :=
  if letter = '/' then some '/' else (shortEscapes.find? (·.1 = letter)).map (·.2)

/-- The parts of a text, up to its closing quote. -/
def readPieces : List Char → Option (List Piece × List Char)
  | [] => none
  | '"' :: rest => some ([], rest)
  | '\\' :: 'u' :: a :: b :: c :: d :: rest => do
    let unit ← unitOf? a b c d
    let (pieces, rest) ← readPieces rest
    return (pieceOf unit :: pieces, rest)
  | '\\' :: letter :: rest => do
    let c ← unescape? letter
    let (pieces, rest) ← readPieces rest
    return (.char c :: pieces, rest)
  | c :: rest =>
    if c.toNat < 0x20 then none
    else do
      let (pieces, rest) ← readPieces rest
      return (.char c :: pieces, rest)

/-- The characters of a text; none when half of a pair stands alone. -/
def joinPieces : List Piece → Option (List Char)
  | [] => some []
  | .char c :: rest => (c :: ·) <$> joinPieces rest
  | .half high :: .half low :: rest =>
    if high < 0xDC00 ∧ 0xDC00 ≤ low then
      (Char.ofNat (0x10000 + (high - 0xD800) * 1024 + (low - 0xDC00)) :: ·) <$> joinPieces rest
    else none
  | .half _ :: _ => none

/-- A text behind its opening quote: none inside when it stands for no characters. -/
def readText (cs : List Char) : Option (Option String × List Char) := do
  let (pieces, rest) ← readPieces cs
  return ((joinPieces pieces).map String.ofList, rest)

/-- Split off the longest row of decimal digits. -/
def spanDigits (cs : List Char) : List Char × List Char :=
  (cs.takeWhile (Decimal.digitValue? · |>.isSome), cs.dropWhile (Decimal.digitValue? · |>.isSome))

/-- The number that decimal digits spell. -/
def valueOf (digits : List Char) : Nat :=
  digits.foldl (fun acc c => acc * 10 + (Decimal.digitValue? c).getD 0) 0

/-- Step over a fraction; the flag says whether there was one. -/
def skipFraction : List Char → Option (Bool × List Char)
  | '.' :: rest =>
    match spanDigits rest with
    | ([], _) => none
    | (_, rest) => some (true, rest)
  | rest => some (false, rest)

/-- Step over the sign of an exponent. -/
def skipSign : List Char → List Char
  | '+' :: rest => rest
  | '-' :: rest => rest
  | rest => rest

/-- Step over an exponent; the flag says whether there was one. -/
def skipExponent : List Char → Option (Bool × List Char)
  | [] => some (false, [])
  | c :: rest =>
    if c = 'e' ∨ c = 'E' then
      match spanDigits (skipSign rest) with
      | ([], _) => none
      | (_, rest) => some (true, rest)
    else some (false, c :: rest)

/-- The digits of a whole number: zero stands alone, and no other number starts with it. -/
def readWhole : List Char → Option (Nat × List Char)
  | '0' :: rest => some (0, rest)
  | cs =>
    match spanDigits cs with
    | ([], _) => none
    | (digits, rest) => some (valueOf digits, rest)

/-- A number, behind its sign. -/
def readNumber (negative : Bool) (cs : List Char) : Option (Document × List Char) := do
  let (n, rest) ← readWhole cs
  let (isFraction, rest) ← skipFraction rest
  let (isScaled, rest) ← skipExponent rest
  if isFraction || isScaled || (negative && n == 0) then return (.other, rest)
  else return (.int (if negative then -n else n), rest)

/-- Step over an expected word. -/
def expect : List Char → List Char → Option (List Char)
  | [], rest => some rest
  | c :: word, d :: rest => if c = d then expect word rest else none
  | _ :: _, [] => none

/-- An entry of a table under construction: none when its name stands for no characters. -/
def addEntry (name : Option String) (value : Document) : Document → Document
  | .table entries =>
    match name with
    | some name => .table ((name, value) :: entries)
    | none => .other
  | document => document

mutual

/-- Read a value from the front of a text.  Each level of nesting takes one unit of fuel. -/
def readValue : Nat → List Char → Option (Document × List Char)
  | 0, _ => none
  | fuel + 1, cs =>
    match skipSpace cs with
    | 'n' :: rest => (Document.null, ·) <$> expect "ull".toList rest
    | 't' :: rest => (Document.bool true, ·) <$> expect "rue".toList rest
    | 'f' :: rest => (Document.bool false, ·) <$> expect "alse".toList rest
    | '"' :: rest => do
      let (text, rest) ← readText rest
      return (text.elim .other .str, rest)
    | '[' :: rest =>
      match skipSpace rest with
      | ']' :: rest => some (.list [], rest)
      | rest => do
        let (items, rest) ← readItems fuel rest
        return (.list items, rest)
    | '\x7b' :: rest =>
      match skipSpace rest with
      | '\x7d' :: rest => some (.table [], rest)
      | rest => readEntries fuel rest
    | '-' :: rest => readNumber true rest
    | rest => readNumber false rest

/-- Read items up to the closing bracket. -/
def readItems : Nat → List Char → Option (List Document × List Char)
  | 0, _ => none
  | fuel + 1, cs => do
    let (item, rest) ← readValue fuel cs
    match skipSpace rest with
    | ']' :: rest => some ([item], rest)
    | ',' :: rest => do
      let (items, rest) ← readItems fuel rest
      return (item :: items, rest)
    | _ => none

/-- Read entries up to the closing brace. -/
def readEntries : Nat → List Char → Option (Document × List Char)
  | 0, _ => none
  | fuel + 1, cs =>
    match skipSpace cs with
    | '"' :: rest => do
      let (name, rest) ← readText rest
      match skipSpace rest with
      | ':' :: rest => do
        let (value, rest) ← readValue fuel rest
        match skipSpace rest with
        | '\x7d' :: rest => some (addEntry name value (.table []), rest)
        | ',' :: rest => do
          let (document, rest) ← readEntries fuel rest
          return (addEntry name value document, rest)
        | _ => none
      | _ => none
    | _ => none

end

/-- The value at the front of a text, and what follows it. -/
def readFront (s : String) : Option (Document × List Char) :=
  readValue (s.toList.length + 1) s.toList

/-- The document that a whole text spells. -/
def read? (s : String) : Option Document := do
  let (document, rest) ← readFront s
  if skipSpace rest = [] then some document else none

end Json
end ClusterMember
