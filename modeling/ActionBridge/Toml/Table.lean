import ActionBridge.Assoc
import ActionBridge.Toml.Value

/-!
# TOML tables under construction

While a document is read, each table remembers how it came about: a header, a longer header
that passed through it, or a dotted key. That decides whether a later header or key may still
add to it.
-/
namespace ActionBridge.Toml

/-- How a table came about. -/
inductive Origin where
  /-- a header names it, or it is written between braces -/
  | explicit
  /-- a header names a table below it -/
  | passed
  /-- a dotted key leads through it -/
  | dotted
  deriving Repr, DecidableEq

/-- What a key of an unfinished table leads to. -/
inductive Item where
  /-- a value that is finished -/
  | value (v : Value)
  | table (origin : Origin) (entries : List (String × Item))
  /-- an array of tables, to which headers add; never empty -/
  | tables (rows : List (List (String × Item)))
  deriving Repr, Inhabited

/-- The entries of an unfinished table. -/
abbrev Entries := List (String × Item)

/-! ## Finished values -/

mutual
/-- The value of an unfinished item. -/
def Item.finish : Item → Value
  | .value v => v
  | .table _ entries => .table (finishEntries entries)
  | .tables rows => .array (finishRows rows)

/-- The entries of a finished table. -/
def finishEntries : List (String × Item) → List (String × Value)
  | [] => []
  | (key, item) :: rest => (key, item.finish) :: finishEntries rest

/-- The items of a finished array of tables. -/
def finishRows : List (List (String × Item)) → List Value
  | [] => []
  | row :: rest => .table (finishEntries row) :: finishRows rest
end

/-! ## Access -/

/-- What `key` leads to. -/
def Entries.find? (key : String) (entries : Entries) : Option Item :=
  Assoc.get? key entries

/-- The entries in which `key` leads to `item`. -/
def Entries.put (key : String) (item : Item) (entries : Entries) : Entries :=
  Assoc.put key item entries

/-- The entries without `key`. -/
def Entries.remove (key : String) (entries : Entries) : Entries :=
  entries.filter (·.1 ≠ key)

/-- Changes the last row of an array of tables. -/
def updateLast (change : Entries → Option Entries) : List Entries → Option (List Entries)
  | [] => none
  | [row] => (change row).map ([·])
  | row :: rest => (updateLast change rest).map (row :: ·)

/-- Changes the table to which a path of header keys leads. Tables on the way are made where
    there are none; an array of tables stands for its last row; a finished value bars the
    way. -/
def Entries.alongHeader (change : Entries → Option Entries) :
    (path : List String) → Entries → Option Entries
  | [], entries => change entries
  | key :: path, entries =>
    match entries.find? key with
    | none => (alongHeader change path []).map fun inner => entries.put key (.table .passed inner)
    | some (.value _) => none
    | some (.table origin inner) =>
      (alongHeader change path inner).map fun inner => entries.put key (.table origin inner)
    | some (.tables rows) =>
      (updateLast (alongHeader change path) rows).map fun rows => entries.put key (.tables rows)

/-! ## Headers -/

/-- Opens the table `key`. One that other headers passed through loses its place and stands
    last; any other table or value of that key is a repetition. -/
def Entries.openTable (key : String) (entries : Entries) : Option Entries :=
  match entries.find? key with
  | none => some (entries ++ [(key, .table .explicit [])])
  | some (.table .passed inner) => some (entries.remove key ++ [(key, .table .explicit inner)])
  | some _ => none

/-- Adds a row to the array of tables `key`. -/
def Entries.openRow (key : String) (entries : Entries) : Option Entries :=
  match entries.find? key with
  | none => some (entries ++ [(key, .tables [[]])])
  | some (.tables rows) => some (entries.put key (.tables (rows ++ [[]])))
  | some _ => none

/-! ## Keys -/

/-- Adds `value` under a key that is new. -/
def Entries.addNew (key : String) (value : Value) (entries : Entries) : Option Entries :=
  match entries.find? key with
  | none => some (entries ++ [(key, .value value)])
  | some _ => none

/-- Adds `value` under a dotted key, with tables made on the way where there are none. Only a
    table that a dotted key made can take a value that way; tables that only headers passed
    through and arrays of tables can be passed through again. -/
def Entries.addDotted (value : Value) : (keys : List String) → Entries → Option Entries
  | [], _ => none
  | [key], entries => entries.addNew key value
  | key :: keys, entries =>
    match entries.find? key with
    | none => (addDotted value keys []).map fun inner => entries.put key (.table .dotted inner)
    | some (.table .dotted inner) =>
      (addDotted value keys inner).map fun inner => entries.put key (.table .dotted inner)
    | some (.table .passed inner) =>
      if keys.length = 1 then none
      else (addDotted value keys inner).map fun inner => entries.put key (.table .passed inner)
    | some (.tables rows) =>
      if keys.length = 1 then none
      else (updateLast (fun row => addDotted value keys row) rows).map fun rows =>
        entries.put key (.tables rows)
    | some _ => none

end ActionBridge.Toml
