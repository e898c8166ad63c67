import ActionBridge.Toml.Scalar
import ActionBridge.Toml.Table

/-!
# TOML documents

A document is a sequence of lines: headers, which open tables, and keys with values, which
go into the table opened last. Reading fails on anything else, and on any second definition
of a key.
-/
namespace ActionBridge.Toml
open Reader

/-! ## Values -/

mutual
/-- A value, within `fuel` steps and with `depth` arrays and inline tables around it. -/
def valueWithin : (fuel : Nat) → (depth : Nat) → Reader Value
  | 0, _ => Reader.fail
  | fuel + 1, depth => do
    match ← peek with
    | some '[' =>
      char '['
      let items ← itemsWithin fuel (depth + 1)
      gap
      char ']'
      pure (.array items)
    | some '{' =>
      char '{'
      let pairs ← pairsWithin fuel (depth + 1)
      spaces
      char '}'
      match pairs.foldlM (fun (entries : Entries) (keys, value) => entries.addDotted value keys) []
        with
      | some entries => pure (Item.table .explicit entries).finish
      | none => Reader.fail
    | _ => scalar

/-- The items of an array, between gaps and separated by commas; a last comma may follow. -/
def itemsWithin : (fuel : Nat) → (depth : Nat) → Reader (List Value)
  | 0, _ => Reader.fail
  | fuel + 1, depth =>
    if nestingLimit ≤ depth then Reader.fail
    else do
      gap
      if (← peek) == some ']' then pure []
      else
        let item ← valueWithin fuel depth
        gap
        if (← peek) == some ',' then
          char ','
          let items ← itemsWithin fuel depth
          pure (item :: items)
        else pure [item]

/-- The keys and values of an inline table, separated by commas. -/
def pairsWithin : (fuel : Nat) → (depth : Nat) → Reader (List (List String × Value))
  | 0, _ => Reader.fail
  | fuel + 1, depth =>
    if nestingLimit ≤ depth then Reader.fail
    else do
      spaces
      if (← peek) == some '}' then pure []
      else morePairsWithin fuel depth

/-- At least one key and value of an inline table. -/
def morePairsWithin : (fuel : Nat) → (depth : Nat) → Reader (List (List String × Value))
  | 0, _ => Reader.fail
  | fuel + 1, depth => do
    let keys ← dottedKey
    char '='
    spaces
    let value ← valueWithin fuel depth
    spaces
    if (← peek) == some ',' then
      char ','
      let pairs ← morePairsWithin fuel depth
      pure ((keys, value) :: pairs)
    else pure [(keys, value)]
end

/-- A value that stands in no other. Each step of reading takes a character or comes right
    before one that does. -/
def value : Reader Value := fun cs => valueWithin (3 * cs.length + 3) 0 cs

/-! ## Lines -/

/-- A line of a document that says something. -/
inductive Line where
  /-- `[path]` -/
  | header (path : List String)
  /-- `[[path]]` -/
  | rowHeader (path : List String)
  /-- `path = value` -/
  | pair (path : List String) (value : Value)
  deriving Repr

def header : Reader Line := do
  char '['
  let path ← dottedKey
  char ']'
  lineEnd
  pure (.header path)

def rowHeader : Reader Line := do
  word "[["
  let path ← dottedKey
  word "]]"
  lineEnd
  pure (.rowHeader path)

def pair : Reader Line := do
  let path ← dottedKey
  char '='
  spaces
  let v ← value
  lineEnd
  pure (.pair path v)

/-- The next line, or `none` for one that says nothing. -/
def line : Reader (Option Line) := do
  spaces
  match ← peek with
  | some '#' =>
    comment
    lineEnd
    pure none
  | some '\n' => do newline; pure none
  | some '\r' => do newline; pure none
  | some '[' => do
    if ← sees "[[" then pure (some (← rowHeader)) else pure (some (← header))
  | some _ => do pure (some (← pair))
  | none => Reader.fail

/-- All lines of a text. A byte order mark may begin it. -/
def lines? (cs : List Char) : Option (List Line) :=
  let cs := match cs with
    | '\uFEFF' :: rest => rest
    | cs => cs
  whole? (do let ls ← many line; spaces; pure (ls.filterMap id)) cs

/-! ## Documents -/

/-- A document under construction: all tables, and the path of the table opened last. -/
structure Draft where
  root : Entries
  current : List String

/-- Splits a path into the way and its last key. -/
def splitPath (path : List String) : Option (List String × String) :=
  path.getLast?.map fun key => (path.dropLast, key)

/-- The document after one more line. -/
def Draft.add (d : Draft) : Line → Option Draft
  | .header path => do
    let (way, key) ← splitPath path
    let root ← d.root.alongHeader (·.openTable key) way
    pure ⟨root, path⟩
  | .rowHeader path => do
    let (way, key) ← splitPath path
    let root ← d.root.alongHeader (·.openRow key) way
    pure ⟨root, path⟩
  | .pair path value => do
    let root ← d.root.alongHeader (·.addDotted value path) d.current
    pure ⟨root, d.current⟩

/-- The table that a document describes. -/
def read? (text : String) : Option (List (String × Value)) := do
  let ls ← lines? text.toList
  let draft ← ls.foldlM Draft.add ⟨[], []⟩
  pure (finishEntries draft.root)

end ActionBridge.Toml
