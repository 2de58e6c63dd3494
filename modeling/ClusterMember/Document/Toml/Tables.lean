import ClusterMember.Document.Basic

/-!
# Tables of TOML under construction

A table can be opened once by its header, and can be filled by dotted keys only from one place.  So
a table remembers whether it has come into being on the way to another one, and whether dotted keys
have made it.  Values, tables in braces and lists in brackets are closed from the start.
-/

namespace ClusterMember
namespace Toml

/-- A value, a table or a list of tables, as far as it has been read. -/
inductive Node where
  | value (document : Document)
  /-- A table: whether it has come into being on the way to another one, whether dotted keys have
  made it, and its entries. -/
  | table (implicit dotted : Bool) (entries : List (String × Node))
  /-- Tables in a row, each opened by a header of its own. -/
  | rows (elements : List (List (String × Node)))

/-- Entries of a table. -/
abbrev Entries := List (String × Node)

namespace Node

mutual

/-- A node as a document. -/
def toDocument : Node → Document
  | .value document => document
  | .table _ _ entries => .table (documents entries)
  | .rows elements => .list (rowDocuments elements)

/-- Entries as those of a document. -/
def documents : List (String × Node) → List (String × Document)
  | [] => []
  | (name, node) :: rest => (name, node.toDocument) :: documents rest

/-- Tables in a row as documents. -/
def rowDocuments : List (List (String × Node)) → List Document
  | [] => []
  | entries :: rest => .table (documents entries) :: rowDocuments rest

end

end Node

namespace Entries

/-- The node under a name. -/
def find? (entries : Entries) (name : String) : Option Node :=
  List.lookup name entries

/-- Put a node under a name. -/
def put (name : String) (node : Node) : Entries → Entries
  | [] => [(name, node)]
  | (key, old) :: rest =>
    if key = name then (key, node) :: rest else (key, old) :: put name node rest

/-- Remove the node under a name. -/
def remove (entries : Entries) (name : String) : Entries :=
  entries.filter (·.1 ≠ name)

/-- Go down a path from a table and change the table at its end, making tables on the way.  The
change is told whether that table was made by dotted keys.  With `byKey` the path is that of a
dotted key: it enters no table that has been opened by a header. -/
def visit {α : Type} (byKey : Bool) (change : Bool → Entries → Option (α × Entries)) :
    List String → Bool → Entries → Option (α × Entries)
  | [], isDotted, entries => change isDotted entries
  | name :: path, _, entries =>
    match entries.find? name with
    | none => do
      let (result, inner) ← visit byKey change path byKey []
      return (result, entries.put name (.table true byKey inner))
    | some (.value _) => none
    | some (.rows elements) =>
      match elements.reverse with
      | [] => none
      | last :: before => do
        let (result, inner) ← visit byKey change path false last
        return (result, entries.put name (.rows (inner :: before).reverse))
    | some (.table implicit dotted inner) =>
      if byKey && !implicit then none
      else do
        let (result, inner) ← visit byKey change path dotted inner
        return (result, entries.put name (.table implicit dotted inner))

/-- Give a value to a dotted key. -/
def assign (path : List String) (name : String) (document : Document) (entries : Entries) :
    Option Entries :=
  let change (isDotted : Bool) (inner : Entries) : Option (Unit × Entries) :=
    if isDotted == path.isEmpty then none
    else
      match inner.find? name with
      | some _ => none
      | none => some ((), inner.put name (.value document))
  (visit true change path false entries).map (·.2)

end Entries

/-- Where the lines of a file go. -/
structure Layout where
  root : Entries
  current : Entries
  /-- The path of the open table; none for the outermost one. -/
  path : Option (List String × String)
  /-- Whether the open table is an element of a row. -/
  isRow : Bool

namespace Layout

/-- Nothing read. -/
def empty : Layout := ⟨[], [], none, false⟩

/-- Put the open table into its place. -/
def close (layout : Layout) : Option Entries :=
  match layout.path with
  | none => some layout.current
  | some (path, name) =>
    let change (_ : Bool) (inner : Entries) : Option (Unit × Entries) :=
      if layout.isRow then
        match inner.find? name with
        | none => some ((), inner.put name (.rows [layout.current]))
        | some (.rows elements) =>
          some ((), inner.put name (.rows (elements ++ [layout.current])))
        | some _ => none
      else
        match inner.find? name with
        | none => some ((), inner.put name (.table false false layout.current))
        | some (.table true _ _) => some ((), inner.put name (.table false false layout.current))
        | some _ => none
    (Entries.visit false change path false layout.root).map (·.2)

/-- Open a table by its header. -/
def openTable (path : List String) (name : String) (layout : Layout) : Option Layout := do
  let root ← layout.close
  let change (_ : Bool) (inner : Entries) : Option (Entries × Entries) :=
    match inner.find? name with
    | none => some ([], inner)
    | some (.table true false kept) => some (kept, inner.remove name)
    | some _ => none
  let (current, root) ← Entries.visit false change path false root
  return ⟨root, current, some (path, name), false⟩

/-- Open a further table of a row by its header. -/
def openRow (path : List String) (name : String) (layout : Layout) : Option Layout := do
  let root ← layout.close
  let change (_ : Bool) (inner : Entries) : Option (Unit × Entries) :=
    match inner.find? name with
    | none => some ((), inner)
    | some (.rows _) => some ((), inner)
    | some _ => none
  let (_, root) ← Entries.visit false change path false root
  return ⟨root, [], some (path, name), true⟩

/-- Give a value to a dotted key of the open table. -/
def assign (path : List String) (name : String) (document : Document) (layout : Layout) :
    Option Layout := do
  return { layout with current := ← layout.current.assign path name document }

/-- The document that has been read. -/
def finish (layout : Layout) : Option Document := do
  return .table (Node.documents (← layout.close))

end Layout
end Toml
end ClusterMember
