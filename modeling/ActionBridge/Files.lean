import ActionBridge.Text.Blank

/-!
# Files

Files stand in folders, and paths lead to them: from the root if they begin with a slash, else
from the folder where the program runs.
-/
namespace ActionBridge

/-- Why a file cannot be read. -/
inductive ReadFault where
  | absent
  | denied
  /-- the path goes on behind a file -/
  | notFolder
  /-- the path leads to a folder -/
  | folder
  | nameTooLong
  | zeroInName
  /-- the content is no text -/
  | notText
  /-- a fault in the words of the system -/
  | other (reason : String)
  deriving Repr, DecidableEq

def ReadFault.message : ReadFault → String
  | .absent => "No such file or directory (os error 2)"
  | .denied => "Permission denied (os error 13)"
  | .notFolder => "Not a directory (os error 20)"
  | .folder => "Is a directory (os error 21)"
  | .nameTooLong => "File name too long (os error 36)"
  | .zeroInName => "file name contained an unexpected NUL byte"
  | .notText => "stream did not contain valid UTF-8"
  | .other reason => reason

/-! ## Trees of files -/

/-- The names that lead from the root to a file or a folder. -/
abbrev Place := List String

/-- Files with their contents, in folders. -/
structure FileTree where
  files : List (Place × List UInt8)
  /-- folders, besides those with files in them and those on the way to others -/
  folders : List Place
  /-- the folder where the program runs -/
  here : Place
  deriving Repr, DecidableEq

namespace FileTree

/-- Whether there is a folder at a place. -/
def isFolder (t : FileTree) (place : Place) : Bool :=
  let withFiles := t.files.map fun ((file, _) : Place × List UInt8) => file.dropLast
  (t.here :: t.folders ++ withFiles).any place.isPrefixOf

/-- The content of the file at a place. -/
def content? (t : FileTree) (place : Place) : Option (List UInt8) := t.files.lookup place

/-- The place that a name leads to from a folder. -/
def step (t : FileTree) (folder : Place) (name : String) : Except ReadFault Place :=
  if name = "" ∨ name = "." then .ok folder
  else if name = ".." then .ok folder.dropLast
  else if 255 < name.utf8ByteSize then .error .nameTooLong
  else
    let place := folder ++ [name]
    if t.isFolder place || (t.content? place).isSome then .ok place else .error .absent

/-- The place that names lead to, one after another. -/
def walk (t : FileTree) (place : Place) : List String → Except ReadFault Place
  | [] => .ok place
  | name :: names =>
    if t.isFolder place then (t.step place name).bind fun place => t.walk place names
    else .error .notFolder

/-- The names of a path. -/
def namesOf (path : String) : List String :=
  (Text.splitAll '/' path.toList).map String.ofList

/-- The content of the file that a path leads to. -/
def read (t : FileTree) (path : String) : Except ReadFault (List UInt8) :=
  if path.toList.contains '\x00' then .error .zeroInName
  else if path = "" then .error .absent
  else if 4095 < path.utf8ByteSize then .error .nameTooLong
  else do
    let start := if path.toList.head? = some '/' then [] else t.here
    match t.content? (← t.walk start (namesOf path)) with
    | some bytes => .ok bytes
    | none => .error .folder

end FileTree
end ActionBridge
