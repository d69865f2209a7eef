import LivePreview.Script.Entity
import LivePreview.Script.Letter

/-!
# Text between tags

How the text inside an element reads: lines are trimmed where they meet a line end, lines without
any text vanish, and those that are left are joined by single spaces.
-/

namespace LivePreview.Script

/-- The lines of a text; every line end ends one. -/
def splitLines : List Char → List (List Char)
  | [] => [[]]
  | c :: cs =>
    if isLineEnd c then [] :: splitLines cs
    else match splitLines cs with
      | [] => [[c]]
      | line :: lines => (c :: line) :: lines

def trimStart (cs : List Char) : List Char := cs.dropWhile isBlank

def trimEnd (cs : List Char) : List Char := (cs.reverse.dropWhile isBlank).reverse

/-- Trims the lines after the first: each at its start, and at its end unless it is the last. -/
def trimLater : List (List Char) → List (List Char)
  | [] => []
  | [line] => [trimStart line]
  | line :: lines => trimEnd (trimStart line) :: trimLater lines

/-- Trims the lines where they meet a line end. -/
def trimLines : List (List Char) → List (List Char)
  | [] => []
  | [line] => [line]
  | line :: lines => trimEnd line :: trimLater lines

/-- The text of an element's child as a value, if anything of it is left. -/
def markupText? (raw : String) : Option String :=
  match (trimLines (splitLines raw.toList)).filter (!·.isEmpty) with
  | [] => none
  | lines => some (String.ofList ([' '].intercalate (lines.map decodeEntities)))

/-- The value of a quoted attribute. -/
def attributeText (raw : String) : String := String.ofList (decodeEntities raw.toList)

end LivePreview.Script
