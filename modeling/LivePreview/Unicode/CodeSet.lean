import LivePreview.Text.Hex
import LivePreview.Text.Split

/-!
# Sets of code points

A `CodeSet` is a list of ranges, in order and apart from each other; `CodeSet.has` is membership.
Tables of such sets are kept as text: pieces between blanks, each a code point or a range in
hexadecimal, with `/n` behind a range of which only every `n`th code point is meant.
-/

namespace LivePreview.Unicode

/-- A set of code points. -/
structure CodeSet where
  /-- Closed ranges, in order; between two of them something is missing. -/
  ranges : List (Nat × Nat)
  deriving DecidableEq, Repr, Inhabited

namespace CodeSet

/-- The last code point. -/
def last : Nat := 0x10ffff

def empty : CodeSet := ⟨[]⟩

def all : CodeSet := ⟨[(0, last)]⟩

def range (low high : Nat) : CodeSet := if low ≤ high then ⟨[(low, high)]⟩ else empty

def only (n : Nat) : CodeSet := range n n

def has (s : CodeSet) (n : Nat) : Bool := s.ranges.any fun (low, high) => low ≤ n && n ≤ high

def hasChar (s : CodeSet) (c : Char) : Bool := s.has c.toNat

/-- Joins ranges that touch; they come in order, and `low` to `high` is the one before them. -/
def joinFrom (low high : Nat) : List (Nat × Nat) → List (Nat × Nat)
  | [] => [(low, high)]
  | (l, h) :: rest =>
    if l ≤ high + 1 then joinFrom low (Nat.max high h) rest
    else (low, high) :: joinFrom l h rest

/-- The set of what is in one of some ranges. -/
def ofRanges (rs : List (Nat × Nat)) : CodeSet :=
  match rs.mergeSort fun a b => a.1 ≤ b.1 with
  | [] => empty
  | (l, h) :: rest => ⟨joinFrom l h rest⟩

def union (s t : CodeSet) : CodeSet := ofRanges (s.ranges ++ t.ranges)

def unions (ss : List CodeSet) : CodeSet := ofRanges (ss.flatMap (·.ranges))

/-- What lies between ranges from `next` on. -/
def gapsFrom (next : Nat) : List (Nat × Nat) → List (Nat × Nat)
  | [] => if next ≤ last then [(next, last)] else []
  | (l, h) :: rest =>
    if next < l then (next, l - 1) :: gapsFrom (h + 1) rest else gapsFrom (h + 1) rest

def complement (s : CodeSet) : CodeSet := ⟨gapsFrom 0 s.ranges⟩

def inter (s t : CodeSet) : CodeSet := complement (union (complement s) (complement t))

/-- What is in `s` but not in `t`. -/
def diff (s t : CodeSet) : CodeSet := complement (union (complement s) t)

/-- What is in one of the two. -/
def symmDiff (s t : CodeSet) : CodeSet := union (diff s t) (diff t s)

/-! ## Tables -/

def number (cs : List Char) : Nat :=
  cs.foldl (fun n c => n * 16 + (Text.hexValue c).getD 0) 0

/-- The code points from `low` up, `step` apart, so many of them. -/
def stepped (low step : Nat) : Nat → List Nat
  | 0 => []
  | n + 1 => low :: stepped (low + step) step n

/-- A piece of a table: its first and last code point, and the step between them, if they are
single ones. -/
def readPiece (piece : List Char) : Nat × Nat × Option Nat :=
  match Text.splitChars '-' piece with
  | [one] => (number one, number one, none)
  | low :: rest :: _ =>
    match Text.splitChars '/' rest with
    | high :: step :: _ => (number low, number high, some (number step))
    | _ => (number low, number rest, none)
  | [] => (0, 0, none)

/-- The code points from `low` to `high` that a step leads to. -/
def steps (low high step : Nat) : List Nat := stepped low step ((high - low) / Nat.max step 1 + 1)

def pieceRanges (piece : List Char) : List (Nat × Nat) :=
  match readPiece piece with
  | (low, high, none) => [(low, high)]
  | (low, high, some step) => (steps low high step).map fun n => (n, n)

/-- The pieces of a table. -/
def pieces (lines : List String) : List (List Char) :=
  (lines.flatMap fun line => Text.splitChars ' ' line.toList).filter (!·.isEmpty)

/-- The set that a table holds. -/
def ofTable (lines : List String) : CodeSet := ofRanges ((pieces lines).flatMap pieceRanges)

end CodeSet

end LivePreview.Unicode
