/-!
# Cutting text at a separator
-/

namespace LivePreview.Text

/-- The pieces between the separators: one more than there are separators. -/
def splitChars (sep : Char) : List Char → List (List Char)
  | [] => [[]]
  | c :: rest =>
    if c = sep then [] :: splitChars sep rest
    else match splitChars sep rest with
      | [] => [[c]]
      | piece :: pieces => (c :: piece) :: pieces

theorem splitChars_ne_nil (sep : Char) (cs : List Char) : splitChars sep cs ≠ [] := by
  cases cs with
  | nil => simp [splitChars]
  | cons c cs =>
    unfold splitChars
    split
    · simp
    · split <;> simp

/-- What precedes the last separator and what follows it. -/
def splitLast (sep : Char) (cs : List Char) : Option (List Char × List Char) :=
  let tail := (cs.reverse.takeWhile (· != sep)).reverse
  if tail.length = cs.length then none else some (cs.take (cs.length - tail.length - 1), tail)

/-- Pieces with a separator between them. -/
def joinChars (sep : List Char) : List (List Char) → List Char
  | [] => []
  | [piece] => piece
  | piece :: pieces => piece ++ sep ++ joinChars sep pieces

end LivePreview.Text
