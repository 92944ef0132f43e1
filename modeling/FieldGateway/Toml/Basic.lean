/-
  TOML documents: values, and the rules by which headers and dotted keys build tables out of
  them. A table says how it came to be, since that settles what may still be added to it.
-/

namespace FieldGateway

/-- How a table came to be. -/
inductive Toml.Kind where
  /-- By its own header. -/
  | headed
  /-- On the way to a header below it. -/
  | implied
  /-- On the way of a dotted key. -/
  | dotted
  /-- Between braces. Nothing is added to it later. -/
  | inline
deriving DecidableEq, Repr

inductive Toml where
  | str (s : String)
  | whole (i : Int)
  | real (text : List Char)
  | bool (b : Bool)
  | time (text : List Char)
  | arr (items : List Toml)
  | table (kind : Toml.Kind) (entries : List (String × Toml))
  /-- The rows of a table that is headed again and again. -/
  | tables (rows : List (List (String × Toml)))
deriving Inhabited, Repr

namespace Toml

abbrev Entries := List (String × Toml)

/-- Puts a value in the place of the one of that key. -/
def replace (key : String) (value : Toml) (entries : Entries) : Entries :=
  entries.map fun e => if e.1 == key then (key, value) else e

/-- Changes the table at the end of a path. Tables missing on the way are made; a dotted key may
not pass through a table that has a header, and nothing passes through a value. -/
def onPath (change : Kind → Entries → Option Entries) (isDotted : Bool) :
    List String → Kind → Entries → Option Entries
  | [], kind, entries => change kind entries
  | key :: path, _, entries =>
    match entries.lookup key with
    | none => do
      let kind := if isDotted then Kind.dotted else Kind.implied
      let inner ← onPath change isDotted path kind []
      some (entries ++ [(key, table kind inner)])
    | some (table kind inner) =>
      if kind = .inline ∨ (isDotted ∧ kind = .headed) then none
      else do
        let inner ← onPath change isDotted path kind inner
        some (replace key (table kind inner) entries)
    | some (tables rows) =>
      match rows.getLast? with
      | none => none
      | some row => do
        let row ← onPath change isDotted path .headed row
        some (replace key (tables (rows.dropLast ++ [row])) entries)
    | some _ => none

/-- Adds a value under a new key. A table made by dotted keys takes dotted keys only, and no
other table takes one that ends in it. -/
def insertNew (key : String) (value : Toml) (path : List String) (kind : Kind)
    (entries : Entries) : Option Entries :=
  if (kind = .dotted ↔ path = []) ∨ (entries.lookup key).isSome then none
  else some (entries ++ [(key, value)])

/-- Adds a value under a dotted key, given as its last part and the parts in front. -/
def insert (path : List String) (key : String) (value : Toml) (kind : Kind)
    (entries : Entries) : Option Entries :=
  onPath (insertNew key value path) true path kind entries

/-- Opens a table by its header. A table that was only implied may still get one. -/
def openTable (key : String) (_ : Kind) (entries : Entries) : Option Entries :=
  match entries.lookup key with
  | none => some (entries ++ [(key, table .headed [])])
  | some (table .implied inner) => some (replace key (table .headed inner) entries)
  | some _ => none

/-- Opens a new row of a table that is headed again and again. -/
def openRow (key : String) (_ : Kind) (entries : Entries) : Option Entries :=
  match entries.lookup key with
  | none => some (entries ++ [(key, tables [[]])])
  | some (tables rows) => some (replace key (tables (rows ++ [[]])) entries)
  | some _ => none

end Toml

end FieldGateway
