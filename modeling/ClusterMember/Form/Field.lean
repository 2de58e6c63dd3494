import ClusterMember.Document.Basic
import ClusterMember.Error
import ClusterMember.Text.Hexadecimal

/-!
# Fields of forms

A form is a table that someone has filled in by hand.  Its fields are read one after the other, and
the first that is missing or wrong is reported by its name.  A field that may be left out may also
be null.
-/

namespace ClusterMember

/-- Why a form is not accepted. -/
inductive FormFault where
  | field (name expected : String)
  | refused (text : String)
  | error (cause : Error)
  deriving DecidableEq

/-- The wording of a fault. -/
def FormFault.message : FormFault → String
  | .field name expected => name ++ " must be " ++ expected
  | .refused text => text
  | .error cause => cause.text

/-- What reading a form gives. -/
abbrev Reading := Except FormFault

namespace Form

/-- Read a field that has to be there. -/
def needed {α : Type} (expected : String) (read : Document → Option α) (form : Document)
    (name : String) : Reading α :=
  match form.get? name >>= read with
  | some value => .ok value
  | none => .error (.field name expected)

/-- The value of a field that is filled in. -/
def given? (form : Document) (name : String) : Option Document :=
  match form.get? name with
  | some .null => none
  | found => found

/-- Read a field that may be left out. -/
def optional {α : Type} (expected : String) (read : Document → Option α) (form : Document)
    (name : String) : Reading (Option α) :=
  match given? form name with
  | none => .ok none
  | some value =>
    match read value with
    | some value => .ok (some value)
    | none => .error (.field name expected)

/-- Bytes in hexadecimal digits. -/
def asBytes : Document → Option (List UInt8)
  | .str text => Text.readHexBytes text.toList
  | _ => none

/-- A text. -/
def text : Document → String → Reading String := needed "a string" Document.string?

/-- A text that may be left out. -/
def text? : Document → String → Reading (Option String) := optional "a string" Document.string?

/-- A number. -/
def nat : Document → String → Reading Nat :=
  needed "an unsigned integer" (Document.natural? word64Max)

/-- A number that may be left out. -/
def nat? : Document → String → Reading (Option Nat) :=
  optional "an unsigned integer" (Document.natural? word64Max)

/-- A number with a sign. -/
def int : Document → String → Reading Int := needed "an integer" Document.signed64?

/-- A number with a sign that may be left out. -/
def int? : Document → String → Reading (Option Int) := optional "an integer" Document.signed64?

/-- A truth value. -/
def bool : Document → String → Reading Bool := needed "a boolean" Document.bool?

/-- A truth value that may be left out. -/
def bool? : Document → String → Reading (Option Bool) := optional "a boolean" Document.bool?

/-- A flag that is down when it is left out. -/
def flagged (form : Document) (name : String) : Reading Bool :=
  return (← bool? form name).getD false

/-- A text that may be left out for another. -/
def textOr (form : Document) (name other : String) : Reading String :=
  return (← text? form name).getD other

/-- A row. -/
def items : Document → String → Reading (List Document) := needed "a list" Document.list?

/-- A row that may be left out. -/
def items? : Document → String → Reading (Option (List Document)) :=
  optional "a list" Document.list?

/-- Bytes. -/
def bytes : Document → String → Reading (List UInt8) := needed "hex" asBytes

/-- A port. -/
def port (form : Document) (name : String) : Reading UInt16 := do
  let n ← nat form name
  if n < 65536 then return n.toUInt16 else throw (.refused (name ++ " must be below 65536"))

/-- An item that is a text. -/
def textItem (name : String) : Document → Reading String
  | .str text => .ok text
  | _ => .error (.field name "a string")

/-- A row of texts. -/
def texts (form : Document) (name : String) : Reading (List String) := do
  (← items form name).mapM (textItem name)

/-- A row of texts, empty when it is left out. -/
def texts? (form : Document) (name : String) : Reading (List String) := do
  ((← items? form name).getD []).mapM (textItem name)

/-- A form within a form, empty when it is left out. -/
def part (form : Document) (name : String) : Document :=
  (given? form name).getD (.table [])

end Form
end ClusterMember
