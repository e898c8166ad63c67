import ActionBridge.Text.Blank

/-!
# Data item names

The outbound data item of an action is named after the action: `MaterialLoad` is reported
on `material_load`. A name is cut into words at separators and at capitals, and the words
are joined in lower case by underscores.
-/
namespace ActionBridge.DataItem

/-! ## Where words begin -/

/-- Characters that stand between words and belong to none. -/
def isSeparator (c : Char) : Bool :=
  c == '_' || c == '-' || Text.isBlank c

/-- Whether the capital or other character `c` begins a new word after `previous`: a capital
    does after anything but a capital, and the last capital of a run does when a small letter
    follows it. -/
def startsWord (previous : Option Char) (c : Char) (next : Option Char) : Bool :=
  c.isUpper && previous.any fun p => !p.isUpper || next.any Char.isLower

/-! ## Words -/

/-- Puts `c` in lower case in front of the first word. -/
def consLower (c : Char) : List (List Char) → List (List Char)
  | [] => [[c.toLower]]
  | word :: words => (c.toLower :: word) :: words

/-- The words of a text, some of them empty. The first one continues the word of the
    character `previous`. -/
def wordsAfter (previous : Option Char) : List Char → List (List Char)
  | [] => [[]]
  | c :: rest =>
    if isSeparator c then [] :: wordsAfter none rest
    else
      let words := consLower c (wordsAfter (some c) rest)
      if startsWord previous c rest.head? then [] :: words else words

/-- The non-empty words of a text. -/
def words (cs : List Char) : List (List Char) :=
  (wordsAfter none cs).filter (!·.isEmpty)

/-- The data item name of an action. -/
def name (action : String) : String :=
  String.ofList (List.intercalate ['_'] (words action.toList))

example : name "MaterialLoad" = "material_load" := by decide +kernel
example : name "CNCMaterialLoad" = "cnc_material_load" := by decide +kernel
example : name "open_door" = "open_door" := by decide +kernel

end ActionBridge.DataItem
