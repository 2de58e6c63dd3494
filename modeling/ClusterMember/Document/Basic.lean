/-!
# Documents

The tree of values that structured text spells, whatever its notation.  A table keeps its entries
in the order in which they are written, and keeps an entry that is written twice.
-/

namespace ClusterMember

/-- A tree of values. -/
inductive Document where
  | null
  | bool (value : Bool)
  | int (value : Int)
  | str (text : String)
  | list (items : List Document)
  | table (entries : List (String × Document))
  /-- A value that no field takes: a number with a fraction, or a text with half a character. -/
  | other

namespace Document

/-- A natural number. -/
def nat (n : Nat) : Document :=
  .int n

/-- A text, or the absent value. -/
def optional {α : Type} (document : α → Document) : Option α → Document
  | none => .null
  | some value => document value

/-- The value under a name in a row of entries; the last one counts. -/
def find? (name : String) : List (String × Document) → Option Document
  | [] => none
  | (key, value) :: rest =>
    match find? name rest with
    | some found => some found
    | none => if key = name then some value else none

/-- The value of a field; none when the document is no table or has no such field. -/
def get? (document : Document) (name : String) : Option Document :=
  match document with
  | .table entries => find? name entries
  | _ => none

/-- A text. -/
def string? : Document → Option String
  | .str text => some text
  | _ => none

/-- A truth value. -/
def bool? : Document → Option Bool
  | .bool value => some value
  | _ => none

/-- Values in a row. -/
def list? : Document → Option (List Document)
  | .list items => some items
  | _ => none

/-- A whole number of 64 bits with a sign. -/
def signed64? : Document → Option Int
  | .int n => if -9223372036854775808 ≤ n ∧ n ≤ 9223372036854775807 then some n else none
  | _ => none

/-- A whole number up to `largest`. -/
def natural? (largest : Nat) : Document → Option Nat
  | .int (.ofNat n) => if n ≤ largest then some n else none
  | _ => none

end Document
end ClusterMember
