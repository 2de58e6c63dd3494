import ClusterMember.Document.Toml.Scalar
import ClusterMember.Document.Toml.Tables

/-!
# Documents in TOML

Lines of three kinds: headers of tables, headers of further tables in a row, and keys with values.
Values may be nested to a fixed depth, and keys may have fewer parts than that.
-/

namespace ClusterMember
namespace Toml

/-- Values and keys are less deep than this. -/
def depthLimit : Nat := 80

/-- Whether a character may stand in a key without quotes. -/
def isBare (c : Char) : Bool :=
  ('a' ≤ c && c ≤ 'z') || ('A' ≤ c && c ≤ 'Z') || ('0' ≤ c && c ≤ '9') || c == '_' || c == '-'

/-- One part of a key. -/
def readKeyPart (cs : List Char) : Option (String × List Char) :=
  match cs with
  | '"' :: rest => do
    let (text, rest) ← readBasic (rest.length + 1) rest
    return (String.ofList text, rest)
  | '\'' :: rest => do
    let (text, rest) ← readLiteral rest
    return (String.ofList text, rest)
  | cs =>
    match cs.takeWhile isBare with
    | [] => none
    | name => some (String.ofList name, cs.dropWhile isBare)

/-- The parts of a key, with points between them and blanks around them. -/
def readKeyParts : (fuel : Nat) → Reader (List String)
  | 0, _ => none
  | fuel + 1, cs => do
    let (part, rest) ← readKeyPart (skipBlanks cs)
    match skipBlanks rest with
    | '.' :: rest => do
      let (parts, rest) ← readKeyParts fuel rest
      return (part :: parts, rest)
    | rest => return ([part], rest)

/-- A key: the parts before the last one, and the last one. -/
def readKey (cs : List Char) : Option ((List String × String) × List Char) := do
  let (parts, rest) ← readKeyParts depthLimit cs
  if depthLimit ≤ parts.length then none
  else return ((parts.dropLast, ← parts.getLast?), rest)

/-- The text behind a comment, if there is one: it ends before a line break or at the end. -/
def skipComment : List Char → List Char
  | '#' :: rest => rest.dropWhile isPlain
  | rest => rest

/-- The text behind blanks, line breaks and comments. -/
def skipSpace : (fuel : Nat) → List Char → List Char
  | 0, cs => cs
  | fuel + 1, cs =>
    match skipBlanks cs with
    | '#' :: rest =>
      match newline? (rest.dropWhile isPlain) with
      | some rest => skipSpace fuel rest
      | none => rest.dropWhile isPlain
    | rest =>
      match newline? rest with
      | some rest => skipSpace fuel rest
      | none => rest

/-- Step over the end of a line: blanks, a comment, and a line break or the end of the text. -/
def skipLineEnd (cs : List Char) : Option (List Char) :=
  match skipComment (skipBlanks cs) with
  | [] => some []
  | rest => newline? rest

mutual

/-- Read a value; `room` levels of brackets and braces may still be opened. -/
def readValue : (fuel room : Nat) → Reader Document
  | 0, _, _ => none
  | fuel + 1, room, cs =>
    match cs with
    | [] => none
    | '[' :: rest =>
      if room = 0 then none
      else do
        let (items, rest) ← readItems fuel (room - 1) rest
        return (.list items, rest)
    | '\x7b' :: rest =>
      if room = 0 then none
      else
        match skipBlanks rest with
        | '\x7d' :: rest => some (.table [], rest)
        | rest => do
          let (entries, rest) ← readPairs fuel (room - 1) [] rest
          return (.table (Node.documents entries), rest)
    | 't' :: rest => do return (.bool true, ← expect ['r', 'u', 'e'] rest)
    | 'f' :: rest => do return (.bool false, ← expect ['a', 'l', 's', 'e'] rest)
    | c :: rest =>
      if c = '"' ∨ c = '\'' then do
        let (text, rest) ← readText (c :: rest)
        return (.str text, rest)
      else
        match readMoment (c :: rest) with
        | some result => some result
        | none => readNumber (c :: rest)

/-- Read items up to the closing bracket, a comma being allowed behind the last one. -/
def readItems : (fuel room : Nat) → Reader (List Document)
  | 0, _, _ => none
  | fuel + 1, room, cs =>
    match skipSpace cs.length cs with
    | ']' :: rest => some ([], rest)
    | rest => do
      let (item, rest) ← readValue fuel room rest
      match skipSpace rest.length rest with
      | ',' :: rest => do
        let (items, rest) ← readItems fuel room rest
        return (item :: items, rest)
      | ']' :: rest => return ([item], rest)
      | _ => none

/-- Read keys with values up to the closing brace. -/
def readPairs : (fuel room : Nat) → Entries → Reader Entries
  | 0, _, _, _ => none
  | fuel + 1, room, entries, cs => do
    let ((path, name), rest) ← readKey cs
    let rest ← expect ['='] rest
    let (document, rest) ← readValue fuel room (skipBlanks rest)
    let entries ← entries.assign path name document
    match skipBlanks rest with
    | ',' :: rest => readPairs fuel room entries rest
    | '\x7d' :: rest => return (entries, rest)
    | _ => none

end

/-- Read a line that is not blank. -/
def readLine (layout : Layout) (cs : List Char) : Option (Layout × List Char) :=
  match cs with
  | '[' :: '[' :: rest => do
    let ((path, name), rest) ← readKey rest
    let rest ← skipLineEnd (← expect [']', ']'] rest)
    return (← layout.openRow path name, rest)
  | '[' :: rest => do
    let ((path, name), rest) ← readKey rest
    let rest ← skipLineEnd (← expect [']'] rest)
    return (← layout.openTable path name, rest)
  | cs => do
    let ((path, name), rest) ← readKey cs
    let rest ← expect ['='] rest
    let (document, rest) ← readValue (rest.length + 1) (depthLimit - 1) (skipBlanks rest)
    let rest ← skipLineEnd rest
    return (← layout.assign path name document, rest)

/-- Read lines to the end of the text. -/
def readLines : (fuel : Nat) → Layout → List Char → Option Layout
  | 0, _, _ => none
  | fuel + 1, layout, cs =>
    match skipSpace cs.length cs with
    | [] => some layout
    | rest => do
      let (layout, rest) ← readLine layout rest
      readLines fuel layout rest

/-- The document that a text spells.  A byte order mark at its start is no part of it. -/
def read? (s : String) : Option Document := do
  let cs := match s.toList with
    | '\uFEFF' :: rest => rest
    | cs => cs
  let layout ← readLines (cs.length + 1) .empty cs
  layout.finish

end Toml
end ClusterMember
