import LivePreview.Pattern.Fault

/-!
# Nesting

The parts of a pattern that stand in each other.
-/

namespace LivePreview.Pattern

/-- A part of a pattern that has parts of its own. -/
inductive Nest where
  | mk (part : Part) (inner : List Nest)
  deriving Inhabited

/-- The first part, in the order of the text, that stands in so many others. -/
def Nest.beyond? : Nat → List Nest → Option Part
  | 0, nests => nests.head?.map fun (.mk part _) => part
  | n + 1, nests => nests.findSome? fun (.mk _ inner) => beyond? n inner

end LivePreview.Pattern
