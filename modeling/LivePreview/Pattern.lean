import LivePreview.Pattern.NamedClass

/-!
# Patterns

A pattern describes pieces of text. `Pattern.ends` gives the places at which a piece that starts at
given places can end; a text matches if it has such a piece anywhere.
-/

namespace LivePreview

open Unicode (CodeSet)

/-- Where a place lies in relation to words. -/
inductive WordEdge where
  | edge
  | noEdge
  | start
  | stop
  /-- No part of a word comes before. -/
  | startHalf
  /-- No part of a word comes behind. -/
  | stopHalf
  deriving DecidableEq, Repr, Inhabited

/-- The place lies in this way, where each side may be part of a word or not. -/
def WordEdge.holds (before after : Bool) : WordEdge → Bool
  | edge => before != after
  | noEdge => before == after
  | start => !before && after
  | stop => before && !after
  | startHalf => !before
  | stopHalf => !after

/-- What must hold between two characters. -/
inductive Boundary where
  | textStart
  | textEnd
  | lineStart (crlf : Bool)
  | lineEnd (crlf : Bool)
  /-- The edge of a word, of which a `wide` one reaches above ASCII. -/
  | word (place : WordEdge) (wide : Bool)
  deriving DecidableEq, Repr, Inhabited

/-- The boundary lies between the two characters, of which each may be missing. -/
def Boundary.holds (before after : Option Char) : Boundary → Bool
  | textStart => before.isNone
  | textEnd => after.isNone
  | lineStart false => before.all (· == '\n')
  | lineEnd false => after.all (· == '\n')
  | lineStart true => before.all (· == '\n') || (before == some '\r' && after != some '\n')
  | lineEnd true => after.all (· == '\r') || (after == some '\n' && before != some '\r')
  | word e true => e.holds (before.any Pattern.isWord) (after.any Pattern.isWord)
  | word e false => e.holds (before.any Pattern.isAsciiWord) (after.any Pattern.isAsciiWord)

/-- A description of pieces of text. -/
inductive Pattern where
  | empty
  | one (s : CodeSet)
  | boundary (b : Boundary)
  /-- A group whose piece of text is remembered. -/
  | group (p : Pattern)
  | seq (p q : Pattern)
  | alt (p q : Pattern)
  /-- At least `min` times `p`, and at most `max` times. -/
  | times (p : Pattern) (min : Nat) (max : Option Nat)
  deriving DecidableEq, Repr, Inhabited

namespace Pattern

/-- The places that at most so many further steps lead to. -/
def reach (next : List Nat → List Nat) : Nat → List Nat → List Nat
  | 0, xs => xs
  | n + 1, xs =>
    let new := ((next xs).filter fun x => !xs.contains x).eraseDups
    if new.isEmpty then xs else reach next n (xs ++ new)

/-- The places at which a piece can end that starts at one of `starts`. A repetition that goes on
after as many turns as the text has places leads nowhere new. -/
def ends (cs : Array Char) : Pattern → List Nat → List Nat
  | empty, starts => starts
  | one s, starts => starts.filterMap fun i => (cs[i]?.filter s.hasChar).map fun _ => i + 1
  | boundary b, starts => starts.filter fun i =>
    b.holds (if i = 0 then none else cs[i - 1]?) cs[i]?
  | group p, starts => ends cs p starts
  | seq p q, starts => ends cs q (ends cs p starts)
  | alt p q, starts => (ends cs p starts ++ ends cs q starts).eraseDups
  | times p min max, starts =>
    let next := fun xs => ends cs p xs
    let steps := match max with
      | none => cs.size + 1
      | some m => Nat.min (m - min) (cs.size + 1)
    reach next steps (Nat.repeat next (Nat.min min (cs.size + 1)) starts)

/-- The text has a piece that the pattern describes. -/
def isMatch (p : Pattern) (text : String) : Bool :=
  let cs := text.toList.toArray
  !(p.ends cs (List.range (cs.size + 1))).isEmpty

end Pattern

end LivePreview
