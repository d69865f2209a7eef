import LivePreview.Script.Parser

/-!
# The frames of imports and exports

What it means for a statement to stand between two places of the text (`Placed`): its span lies
there, an import or export starts with its word, and what it exports stands behind the words of the
export.
-/

namespace LivePreview.Script

variable {cs : List Char}

/-- The span of an import or export that lowering edits. -/
def Stmt.edited? : Stmt → Option Span
  | .importDecl span _ _ _ _ _ | .exportDecl span _ | .exportNames span _ _ _ _
  | .exportAll span _ _ _ _ | .exportDefault span _ => some span
  | _ => none

/-- An expression by itself. -/
def Stmt.isExpression : Stmt → Bool
  | .expr _ _ => true
  | _ => false

/-- The forms of what a default export declares. -/
def Stmt.mayBeDefault : Stmt → Bool
  | .function _ | .class _ | .interface _ _ _ _ | .expr _ _ => true
  | _ => false

/-- The token behind the word `export` at `start`. -/
def behindExport (cs : List Char) (start : Nat) : Token :=
  let place : Cursor := ⟨cs.drop (start + "export".length), start + "export".length⟩
  (Lexer.next (cs.length + 1) false false ⟨place, Trivia.start, []⟩).1

/-- The span lies between `lo` and `hi`. -/
structure Stands (lo : Nat) (span : Span) (hi : Nat) : Prop where
  start : lo ≤ span.start
  stop : span.stop ≤ hi

/-- The span lies between `lo` and `hi` and has room for a word of six letters. -/
structure Framed (lo : Nat) (span : Span) (hi : Nat) : Prop where
  start : lo ≤ span.start
  word : span.start + 6 ≤ span.stop
  stop : span.stop ≤ hi

/-- What is exported stands behind the words of the export, which end at `words`. -/
structure Holds (words : Nat) (inner : Stmt) (stop : Nat) : Prop where
  start : words ≤ inner.span.start
  stop : inner.isExpression = false → inner.span.start ≤ stop

/-- The words `export default` stand at `start`, maybe with blanks and comments between them. -/
structure DefaultAt (cs : List Char) (start : Nat) : Prop where
  ordered : start + 6 ≤ (behindExport cs start).start
  spelled : Cursor.Spells ⟨cs.drop (behindExport cs start).start, (behindExport cs start).start⟩
    "default" ⟨cs.drop (behindExport cs start).stop, (behindExport cs start).stop⟩

/-- The statement stands between `lo` and `hi`, and what it exports stands in it. -/
def Placed (cs : List Char) (lo : Nat) : Stmt → Nat → Prop
  | .importDecl span _ _ _ _ _, hi | .exportNames span _ _ _ _, hi | .exportAll span _ _ _ _, hi =>
    Framed lo span hi
  | .exportDecl span inner, hi =>
    Framed lo span hi ∧ inner.isExpression = false ∧ Holds (span.start + 6) inner span.stop
  | .exportDefault span inner, hi =>
    Framed lo span hi ∧ DefaultAt cs span.start ∧ (behindExport cs span.start).stop ≤ span.stop ∧
      Holds (behindExport cs span.start).stop inner span.stop ∧ inner.mayBeDefault = true
  | s, hi => Stands lo s.span hi

theorem Stands.mono {lo lo' hi hi' : Nat} {span : Span} (h : Stands lo span hi) (le : lo' ≤ lo)
    (le' : hi ≤ hi') : Stands lo' span hi' :=
  ⟨Nat.le_trans le h.start, Nat.le_trans h.stop le'⟩

theorem Framed.mono {lo lo' hi hi' : Nat} {span : Span} (h : Framed lo span hi) (le : lo' ≤ lo)
    (le' : hi ≤ hi') : Framed lo' span hi' :=
  ⟨Nat.le_trans le h.start, h.word, Nat.le_trans h.stop le'⟩

theorem Holds.of_start {s : Stmt} {m n stop : Nat} (start : s.span.start = m) (hm : n ≤ m)
    (reach : m ≤ stop) : Holds n s stop :=
  ⟨start ▸ hm, fun _ => start ▸ reach⟩

theorem placed_iff {lo hi : Nat} {s : Stmt} (h : s.edited? = none) :
    Placed cs lo s hi ↔ Stands lo s.span hi := by
  cases s <;> first | exact Iff.rfl | cases h

theorem Placed.mono {lo lo' hi hi' : Nat} {s : Stmt} (h : Placed cs lo s hi) (le : lo' ≤ lo)
    (le' : hi ≤ hi') : Placed cs lo' s hi' := by
  cases s
  case importDecl | exportNames | exportAll => exact Framed.mono h le le'
  case exportDecl | exportDefault => exact ⟨h.1.mono le le', h.2⟩
  all_goals exact Stands.mono h le le'

theorem span_markFree (s : Stmt) : s.markFree.span = s.span := by
  unfold Stmt.markFree
  split
  · next f => cases f; rfl
  all_goals rfl

theorem isExpression_markFree (s : Stmt) : s.markFree.isExpression = s.isExpression := by
  unfold Stmt.markFree
  split <;> rfl

theorem Holds.markFree {words stop : Nat} {s : Stmt} (h : Holds words s stop) :
    Holds words s.markFree stop := by
  constructor
  · rw [span_markFree]
    exact h.start
  · rw [span_markFree, isExpression_markFree]
    exact h.stop

theorem Placed.markFree {lo hi : Nat} {s : Stmt} (h : Placed cs lo s hi) :
    Placed cs lo s.markFree hi := by
  unfold Stmt.markFree
  split
  · next f =>
    cases f
    exact h
  · next f =>
    obtain ⟨framed, word, reach, holds, kind⟩ := h
    exact ⟨framed, word, reach, holds.markFree (s := .function f), kind⟩
  · obtain ⟨framed, word, reach, holds, kind⟩ := h
    exact ⟨framed, word, reach, ⟨holds.start, nofun⟩, kind⟩
  · obtain ⟨framed, kind, holds⟩ := h
    exact ⟨framed, by rwa [isExpression_markFree], holds.markFree⟩
  · exact h
  · exact h

end LivePreview.Script
