/-!
# Searching text

Occurrences of one list of characters within another.
-/

namespace LivePreview.Text

/-- The place of the first occurrence of `needle`. -/
def indexOf? (needle : List Char) : List Char → Option Nat
  | [] => if needle.isEmpty then some 0 else none
  | c :: rest =>
    if needle.isPrefixOf (c :: rest) then some 0 else (indexOf? needle rest).map (· + 1)

/-- `needle` occurs somewhere. -/
def occurs (needle text : List Char) : Bool := (indexOf? needle text).isSome

end LivePreview.Text
