/-!
# Splicing

Edits of a text, each of which puts something in the place of a range. They are applied from the
back to the front, so that the places of those still to come stay right.
-/

namespace LivePreview.Text

/-- Puts `text` in the place of the characters from `start` to `stop`. -/
structure Edit where
  start : Nat
  stop : Nat
  text : List Char
  deriving DecidableEq, Repr, Inhabited

namespace Edit

/-- The text after one edit. -/
def apply (e : Edit) (cs : List Char) : List Char := cs.take e.start ++ e.text ++ cs.drop e.stop

/-- The order in which edits are applied: later places first and, of edits at one place, the one
that reaches farther, so that an insertion comes to stand in front. -/
def before (a b : Edit) : Bool :=
  if a.start == b.start then b.stop ≤ a.stop else b.start < a.start

/-- The text after all edits. -/
def applyAll (edits : List Edit) (cs : List Char) : List Char :=
  (edits.mergeSort before).foldl (fun cs e => e.apply cs) cs

end Edit

end LivePreview.Text
