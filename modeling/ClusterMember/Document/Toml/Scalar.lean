import ClusterMember.Document.Basic
import ClusterMember.Text.Decimal
import ClusterMember.Text.Hexadecimal

/-!
# Scalars of TOML

Texts in four kinds of quotes, whole numbers in four bases, numbers with a fraction, and dates and
times.  Whole numbers have 64 bits with a sign.  A number with a fraction may be written as long as
it does not round to infinity.
-/

namespace ClusterMember
namespace Toml

/-- Takes a value from the front of a text. -/
abbrev Reader (α : Type) := List Char → Option (α × List Char)

/-- Whether a character may stand in comments and texts as itself: no control but the tab. -/
def isPlain (c : Char) : Bool :=
  c == '\t' || (0x20 ≤ c.toNat && c.toNat != 0x7F)

/-- Whether a character is a blank. -/
def isBlank (c : Char) : Bool :=
  c == ' ' || c == '\t'

/-- The text behind leading blanks. -/
def skipBlanks (cs : List Char) : List Char :=
  cs.dropWhile isBlank

/-- Step over a line break. -/
def newline? : List Char → Option (List Char)
  | '\n' :: rest => some rest
  | '\r' :: '\n' :: rest => some rest
  | _ => none

/-- The text behind blanks and line breaks. -/
def skipLines : List Char → List Char
  | '\r' :: '\n' :: rest => skipLines rest
  | c :: rest => if isBlank c || c == '\n' then skipLines rest else c :: rest
  | [] => []

/-- Step over an expected word. -/
def expect : List Char → List Char → Option (List Char)
  | [], rest => some rest
  | c :: word, d :: rest => if c = d then expect word rest else none
  | _ :: _, [] => none

/-- The value of exactly `count` digits of a base. -/
def readFixed (base : Nat) (digit? : Char → Option Nat) :
    (count : Nat) → (acc : Nat) → Reader Nat
  | 0, acc, rest => some (acc, rest)
  | count + 1, acc, c :: rest =>
    match digit? c with
    | some d => readFixed base digit? count (acc * base + d) rest
    | none => none
  | _ + 1, _, [] => none

/-- The character with a code point. -/
def scalar? (n : Nat) : Option Char :=
  if n.isValidChar then some (Char.ofNat n) else none

/-- The character that an escape stands for, behind its backslash. -/
def readEscape : Reader Char
  | 'b' :: rest => some ('\x08', rest)
  | 't' :: rest => some ('\t', rest)
  | 'n' :: rest => some ('\n', rest)
  | 'f' :: rest => some ('\x0c', rest)
  | 'r' :: rest => some ('\r', rest)
  | '"' :: rest => some ('"', rest)
  | '\\' :: rest => some ('\\', rest)
  | 'u' :: rest => do
    let (n, rest) ← readFixed 16 Text.hexValue? 4 0 rest
    return (← scalar? n, rest)
  | 'U' :: rest => do
    let (n, rest) ← readFixed 16 Text.hexValue? 8 0 rest
    return (← scalar? n, rest)
  | _ => none

/-- A text on one line with escapes, behind its opening quote. -/
def readBasic : (fuel : Nat) → Reader (List Char)
  | 0, _ => none
  | fuel + 1, cs =>
    match cs with
    | '"' :: rest => some ([], rest)
    | '\\' :: rest => do
      let (c, rest) ← readEscape rest
      let (text, rest) ← readBasic fuel rest
      return (c :: text, rest)
    | c :: rest =>
      if isPlain c then do
        let (text, rest) ← readBasic fuel rest
        return (c :: text, rest)
      else none
    | [] => none

/-- A text on one line without escapes, behind its opening quote. -/
def readLiteral : Reader (List Char)
  | [] => none
  | c :: rest =>
    if c = '\'' then some ([], rest)
    else if isPlain c then do
      let (text, rest) ← readLiteral rest
      return (c :: text, rest)
    else none

/-- Number of leading quotes, at most five. -/
def countQuotes (quote : Char) (cs : List Char) : Nat :=
  ((cs.take 5).takeWhile (· = quote)).length

/-- A text on many lines, behind its opening quotes.  Up to two quotes may stand before the closing
three. -/
def readLong (quote : Char) (escapes : Bool) : (fuel : Nat) → Reader (List Char)
  | 0, _ => none
  | fuel + 1, cs =>
    let quotes := countQuotes quote cs
    if 3 ≤ quotes then some (List.replicate (quotes - 3) quote, cs.drop quotes)
    else
      match cs with
      | [] => none
      | c :: rest =>
        if escapes && c == '\\' then
          match newline? (skipBlanks rest) with
          | some rest => readLong quote escapes fuel (skipLines rest)
          | none => do
            let (c, rest) ← readEscape rest
            let (text, rest) ← readLong quote escapes fuel rest
            return (c :: text, rest)
        else
          match newline? (c :: rest) with
          | some rest => do
            let (text, rest) ← readLong quote escapes fuel rest
            return ('\n' :: text, rest)
          | none =>
            if isPlain c then do
              let (text, rest) ← readLong quote escapes fuel rest
              return (c :: text, rest)
            else none

/-- A line break right behind the opening quotes is no part of a text. -/
def skipFirstNewline (cs : List Char) : List Char :=
  (newline? cs).getD cs

/-- A text in quotes of any kind. -/
def readText (cs : List Char) : Option (String × List Char) := do
  let (text, rest) ←
    match cs with
    | '"' :: '"' :: '"' :: rest => readLong '"' true (rest.length + 1) (skipFirstNewline rest)
    | '\'' :: '\'' :: '\'' :: rest => readLong '\'' false (rest.length + 1) (skipFirstNewline rest)
    | '"' :: rest => readBasic (rest.length + 1) rest
    | '\'' :: rest => readLiteral rest
    | _ => none
  return (String.ofList text, rest)

/-- Digits behind a first one; an underscore may stand between two digits. -/
def readMoreDigits (digit? : Char → Option Nat) : Reader (List Nat)
  | [] => some ([], [])
  | ['_'] => none
  | '_' :: c :: rest =>
    match digit? c with
    | some d => do
      let (digits, rest) ← readMoreDigits digit? rest
      return (d :: digits, rest)
    | none => none
  | c :: rest =>
    match digit? c with
    | some d => do
      let (digits, rest) ← readMoreDigits digit? rest
      return (d :: digits, rest)
    | none => some ([], c :: rest)

/-- One or more digits. -/
def readDigits (digit? : Char → Option Nat) : Reader (List Nat)
  | [] => none
  | c :: rest =>
    match digit? c with
    | some d => do
      let (digits, rest) ← readMoreDigits digit? rest
      return (d :: digits, rest)
    | none => none

/-- The number that digits spell. -/
def valueOf (base : Nat) (digits : List Nat) : Nat :=
  digits.foldl (fun acc d => acc * base + d) 0

/-- A digit of a base below ten. -/
def lowDigit? (base : Nat) (c : Char) : Option Nat :=
  (Decimal.digitValue? c).filter (· < base)

/-- A whole number that is not decimal, behind the mark of its base. -/
def readBased (base : Nat) (digit? : Char → Option Nat) (cs : List Char) :
    Option (Document × List Char) := do
  let (digits, rest) ← readDigits digit? cs
  let n := valueOf base digits
  if n ≤ word64Max / 2 then return (.nat n, rest) else none

/-- The sign of a number. -/
def readSign : List Char → Bool × List Char
  | '-' :: rest => (true, rest)
  | '+' :: rest => (false, rest)
  | rest => (false, rest)

/-- The digits of a decimal number: zero stands alone. -/
def readWhole : Reader (List Nat)
  | '0' :: rest => some ([0], rest)
  | cs => readDigits Decimal.digitValue? cs

/-- The places behind a point. -/
def readFraction : Reader (List Nat)
  | '.' :: rest => readDigits Decimal.digitValue? rest
  | rest => some ([], rest)

/-- An exponent; none when there is none. -/
def readExponent : Reader (Option Int)
  | [] => some (none, [])
  | c :: rest =>
    if c = 'e' ∨ c = 'E' then do
      let (negative, rest) := readSign rest
      let (digits, rest) ← readDigits Decimal.digitValue? rest
      let n := valueOf 10 digits
      return (some (if negative then -n else n), rest)
    else some (none, c :: rest)

/-- The least number that rounds to infinity among the floating-point numbers of 64 bits. -/
def overflowBound : Nat := Nat.pow 2 1024 - Nat.pow 2 970

/-- Whether `m * 10 ^ e` rounds to infinity. -/
def overflows (m : Nat) (e : Int) : Bool :=
  let places : Int := (Decimal.digits m).length + e
  if m = 0 then false
  else if 310 < places then true
  else if places < 300 then false
  else if 0 ≤ e then decide (overflowBound ≤ m * Nat.pow 10 e.toNat)
  else decide (overflowBound * Nat.pow 10 (-e).toNat ≤ m)

/-- A decimal number, whole or not. -/
def readDecimal (cs : List Char) : Option (Document × List Char) := do
  let (negative, rest) := readSign cs
  let (whole, rest) ← readWhole rest
  let isPoint := rest.head? == some '.'
  let (fraction, rest) ← readFraction rest
  let (exponent, rest) ← readExponent rest
  let n := valueOf 10 whole
  if isPoint || exponent.isSome then
    let e := exponent.getD 0 - fraction.length
    if !negative && overflows (valueOf 10 (whole ++ fraction)) e then none
    else return (.other, rest)
  else if negative then
    if n ≤ word64Max / 2 + 1 then return (.int (-n), rest) else none
  else if n ≤ word64Max / 2 then return (.nat n, rest)
  else none

/-- A number that is none of the finite ones. -/
def readSpecial (cs : List Char) : Option (Document × List Char) := do
  let (_, rest) := readSign cs
  match expect ['i', 'n', 'f'] rest with
  | some rest => return (.other, rest)
  | none => return (.other, ← expect ['n', 'a', 'n'] rest)

/-- A number. -/
def readNumber (cs : List Char) : Option (Document × List Char) :=
  match cs with
  | '0' :: 'x' :: rest => readBased 16 Text.hexValue? rest
  | '0' :: 'o' :: rest => readBased 8 (lowDigit? 8) rest
  | '0' :: 'b' :: rest => readBased 2 (lowDigit? 2) rest
  | cs =>
    match readSpecial cs with
    | some result => some result
    | none => readDecimal cs

/-- Number of days of a month. -/
def daysOfMonth (year month : Nat) : Nat :=
  if month = 2 then
    if year % 4 = 0 ∧ (year % 100 ≠ 0 ∨ year % 400 = 0) then 29 else 28
  else if month = 4 ∨ month = 6 ∨ month = 9 ∨ month = 11 then 30
  else 31

/-- A number of exactly `count` digits between two bounds. -/
def readBounded (count low high : Nat) (cs : List Char) : Option (Nat × List Char) := do
  let (n, rest) ← readFixed 10 Decimal.digitValue? count 0 cs
  if low ≤ n ∧ n ≤ high then return (n, rest) else none

/-- Step over a date. -/
def skipDate (cs : List Char) : Option (List Char) := do
  let (year, rest) ← readBounded 4 0 9999 cs
  let (month, rest) ← readBounded 2 1 12 (← expect ['-'] rest)
  let (_, rest) ← readBounded 2 1 (daysOfMonth year month) (← expect ['-'] rest)
  return rest

/-- Step over fractions of a second. -/
def skipSecondFraction : List Char → Option (List Char)
  | '.' :: c :: rest =>
    if (Decimal.digitValue? c).isSome then
      some (rest.dropWhile fun c => (Decimal.digitValue? c).isSome)
    else none
  | ['.'] => none
  | rest => some rest

/-- Step over a time of day. -/
def skipTime (cs : List Char) : Option (List Char) := do
  let (_, rest) ← readBounded 2 0 23 cs
  let (_, rest) ← readBounded 2 0 59 (← expect [':'] rest)
  let (_, rest) ← readBounded 2 0 60 (← expect [':'] rest)
  skipSecondFraction rest

/-- Step over the distance from universal time, if there is one. -/
def skipOffset : List Char → Option (List Char)
  | [] => some []
  | c :: rest =>
    if c = 'Z' ∨ c = 'z' then some rest
    else if c = '+' ∨ c = '-' then do
      let (_, rest) ← readBounded 2 0 23 rest
      let (_, rest) ← readBounded 2 0 59 (← expect [':'] rest)
      return rest
    else some (c :: rest)

/-- Step over a time of day behind a date, if there is one. -/
def skipTimeOfDate : List Char → Option (List Char)
  | [] => some []
  | c :: rest =>
    if c = 'T' ∨ c = 't' then skipTime rest >>= skipOffset
    else if c = ' ' ∧ ((rest.head?.bind Decimal.digitValue?).isSome) then
      skipTime rest >>= skipOffset
    else some (c :: rest)

/-- What stands for a date or a time: a table whose one entry is part of no section. -/
def moment : Document := .table [("", .other)]

/-- A date, a time of day, or both. -/
def readMoment (cs : List Char) : Option (Document × List Char) :=
  match skipDate cs with
  | some rest => (skipTimeOfDate rest).map (moment, ·)
  | none => (skipTime cs).map (moment, ·)

end Toml
end ClusterMember
