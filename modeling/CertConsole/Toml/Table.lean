import CertConsole.Toml.Value

/-!
# Tables that grow

The statements of a document add to its tables. No statement may say anything twice: a key is given
one value, a header names a table once, and a dotted key goes only through tables that no header
named. `assign` and the two header functions refuse what would.
-/
namespace CertConsole.Toml.Table

/-- Change the value of a key, or give a value to a key that has none. The change may refuse. -/
def update (key : String) (change : Option Value → Option Value) : Table → Option Table
  | [] => do return [(key, ← change none)]
  | (name, value) :: rest =>
    if name = key then do return (name, ← change (some value)) :: rest
    else do return (name, value) :: (← update key change rest)

/-- A path that makes tables of kind `made` may go through a table of kind `kind`. Headers go
through every table but a complete one, and dotted keys only through implicit tables. -/
def admits (made kind : TableKind) : Bool :=
  match made with
  | .dotted => kind.isImplicit
  | _ => kind != .inline

/-- Change the table at the end of a path, given the kind of the table at its start. Tables that are
missing on the path are made. Of the tables that headers in double brackets added, a path leads to
the last one. -/
def through (made : TableKind) (change : TableKind → Table → Option Table) :
    List String → TableKind → Table → Option Table
  | [], kind, table => change kind table
  | key :: path, _, table =>
    update key (fun found =>
      match found with
      | none => Value.table made <$> through made change path made []
      | some (.table kind inner) =>
        if admits made kind then Value.table kind <$> through made change path kind inner else none
      | some (.tables elements) => do
        let last ← elements.getLast?
        return .tables (elements.dropLast ++ [← through made change path .header last])
      | some _ => none) table

/-- Give a key its only value. -/
def insertNew (key : String) (value : Value) : Table → Option Table :=
  update key fun found => if found.isNone then some value else none

/-- Give a value to a key behind a dotted path, from a table of some kind. A path has to end in a
table that dotted keys made, and a plain key may not add to such a table. -/
def assign (path : List String) (key : String) (value : Value) (kind : TableKind) (table : Table) :
    Option Table :=
  through .dotted (fun last entries =>
    if (last == .dotted) == path.isEmpty then none else insertNew key value entries) path kind table

/-- Open the table that a header names. It may have been implied before. -/
def openHeader (path : List String) (key : String) : Table → Option Table :=
  through .implied (fun _ entries =>
    update key (fun found =>
      match found with
      | none => some (.table .header [])
      | some (.table .implied inner) => some (.table .header inner)
      | some _ => none) entries) path .header

/-- Add the table that a header in double brackets names. -/
def openElement (path : List String) (key : String) : Table → Option Table :=
  through .implied (fun _ entries =>
    update key (fun found =>
      match found with
      | none => some (.tables [[]])
      | some (.tables elements) => some (.tables (elements ++ [[]]))
      | some _ => none) entries) path .header

end CertConsole.Toml.Table
