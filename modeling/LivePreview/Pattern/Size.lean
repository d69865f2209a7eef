import LivePreview.Pattern

/-!
# The size of patterns

A pattern is matched by a machine that reads the bytes of a text forward, and by another one that
reads them backward. `Pattern.forwardSize` and `Pattern.backwardSize` are the bytes that the two
take; a pattern for which either takes too many is refused.

Each state takes 32 bytes. Beside them, a state that leads on by ranges of bytes takes eight for
each, and a fork four for each branch.
-/

namespace LivePreview.Pattern

open Unicode (CodeSet)

/-! ## Characters as bytes -/

/-- A range of bytes. -/
structure ByteRange where
  low : Nat
  high : Nat
  deriving DecidableEq, Repr, Inhabited

/-- The bytes of a code point. -/
def bytesOf (n : Nat) : List Nat :=
  if n < 0x80 then [n]
  else if n < 0x800 then [0xc0 + n / 64, 0x80 + n % 64]
  else if n < 0x10000 then [0xe0 + n / 4096, 0x80 + n / 64 % 64, 0x80 + n % 64]
  else [0xf0 + n / 0x40000, 0x80 + n / 4096 % 64, 0x80 + n / 64 % 64, 0x80 + n % 64]

/-- Cuts a range at the last code point of each length, and leaves out the surrogates. -/
def cutByLength (low high : Nat) : List (Nat × Nat) :=
  [(0, 0x7f), (0x80, 0x7ff), (0x800, 0xd7ff), (0xe000, 0xffff), (0x10000, 0x10ffff)].filterMap
    fun (l, h) =>
      let a := Nat.max low l
      let b := Nat.min high h
      if a ≤ b then some (a, b) else none

/-- Cuts a range such that in each piece all bytes behind the first that differs are free. The
blocks tried have `block` code points. -/
def cutByBlock : Nat → Nat → Nat → List (Nat × Nat)
  | 0, low, high => [(low, high)]
  | n + 1, low, high =>
    let block := Nat.pow 64 (n + 1)
    let first := low / block
    let final := high / block
    if first = final then cutByBlock n low high
    else
      let start := if low % block = 0 then [] else cutByBlock n low ((first + 1) * block - 1)
      let stop := if (high + 1) % block = 0 then [] else cutByBlock n (final * block) high
      let from' := if low % block = 0 then first else first + 1
      let until' := if (high + 1) % block = 0 then final + 1 else final
      let middle := if from' < until' then [(from' * block, until' * block - 1)] else []
      start ++ middle ++ stop

/-- The sequences of ranges of bytes that a set of code points is made of. -/
def byteSequences (s : CodeSet) : List (List ByteRange) :=
  s.ranges.flatMap fun (l, h) =>
    (cutByLength l h).flatMap fun (l, h) =>
      (cutByBlock ((bytesOf l).length - 1) l h).map fun (a, b) =>
        (bytesOf a).zipWith ByteRange.mk (bytesOf b)

/-- Sequences with the same first range stand together: that range, and what follows it. -/
def byFirst : List (List ByteRange) → List (ByteRange × List (List ByteRange))
  | [] => []
  | [] :: rest => byFirst rest
  | (r :: tail) :: rest =>
    match byFirst rest with
    | (r', tails) :: groups =>
      if r = r' then (r, tail :: tails) :: groups else (r, [tail]) :: (r', tails) :: groups
    | [] => [(r, [tail])]

/-- The states of a machine that reads one of some sequences, each as what is left to read. -/
def readingStates : Nat → List (List ByteRange) → List (List (List ByteRange))
  | 0, _ => []
  | n + 1, ss =>
    if ss.all (·.isEmpty) then [] else
    ss :: (byFirst ss).flatMap fun (_, tails) => readingStates n tails

/-- How many beginnings the sequences have. -/
def beginnings : Nat → List (List ByteRange) → Nat
  | 0, _ => 0
  | n + 1, ss => ((byFirst ss).map fun (_, tails) => 1 + beginnings n tails).sum

/-! ## Machines -/

/-- Which way a machine reads. -/
inductive Direction where
  | forward
  | backward
  deriving DecidableEq, Repr, Inhabited

/-- The bytes for some states; what was `seen` is there already. -/
def statesSize (seen : List (List (List ByteRange))) : List (List (List ByteRange)) → Nat
  | [] => 0
  | s :: ss =>
    if seen.any fun t => decide (t = s) then statesSize seen ss
    else 32 + 8 * (byFirst s).length + statesSize (s :: seen) ss

/-- The bytes for a set of several characters. -/
def setSize (d : Direction) (s : CodeSet) : Nat :=
  if s.ranges.all (fun r => r.2 < 128) then 64 + 8 * s.ranges.length else
  let ss := byteSequences s
  match d with
  | .forward => 32 + statesSize [] (readingStates 4 ss)
  | .backward => 64 + 4 * ss.length + 32 * beginnings 4 ss

/-- The bytes for a set of characters. A single one is read byte by byte. -/
def classSize (d : Direction) (s : CodeSet) : Nat :=
  match s.ranges with
  | [] => 64
  | [(l, h)] => if l = h then 32 * (bytesOf l).length else setSize d s
  | _ => setSize d s

/-- The pattern describes no piece but the empty one. -/
def isVoid : Pattern → Bool
  | empty | boundary _ => true
  | one _ => false
  | group p => isVoid p
  | seq p q | alt p q => isVoid p && isVoid q
  | times p _ max => isVoid p || max == some 0

/-- The pattern describes the empty piece. -/
def canBeEmpty : Pattern → Bool
  | empty | boundary _ => true
  | one _ => false
  | group p => canBeEmpty p
  | seq p q => canBeEmpty p && canBeEmpty q
  | alt p q => canBeEmpty p || canBeEmpty q
  | times p min _ => min == 0 || canBeEmpty p

/-- The set that alternatives come to if each is a single character. -/
def asSet? : Pattern → Option CodeSet
  | one s => some s
  | alt p q => do some ((← asSet? p).union (← asSet? q))
  | _ => none

/-- The pattern is a choice. -/
def isAlt : Pattern → Bool
  | alt _ _ => true
  | _ => false

/-- The bytes for a repetition of something that takes `size`; what is void is repeated at most
once. -/
def repetitionSize (size : Nat) (void canBeEmpty : Bool) (min : Nat) (max : Option Nat) : Nat :=
  let min := if void then Nat.min min 1 else min
  let max := if void then some (Nat.min (max.getD 1) 1) else max
  match min, max with
  | 0, some 0 => 32
  | 0, some 1 => size + 72
  | 0, none => if canBeEmpty then size + 112 else size + 40
  | m, none => m * size + 40
  | m, some n =>
    if m = n then m * size
    else (if m = 0 then 32 else m * size) + 32 + (n - m) * (size + 40)

/-- The bytes for a pattern; what is empty takes none within a sequence. -/
def machineSize (d : Direction) : Pattern → Nat
  | empty => 32
  | one s => classSize d s
  | boundary _ => 32
  | group p => machineSize d p + match d with
    | .forward => 64
    | .backward => 0
  | seq p q =>
    if p = empty then machineSize d q
    else if q = empty then machineSize d p
    else machineSize d p + machineSize d q
  | alt p q =>
    match asSet? (alt p q) with
    | some s => classSize d s
    | none => machineSize d p + machineSize d q + (if isAlt p then 4 else if isAlt q then 4 else 72)
  | times p min max =>
    repetitionSize (machineSize d p) (isVoid p) (canBeEmpty p) min max

/-- The bytes for the machine that reads forward, with its start and its end. -/
def forwardSize (p : Pattern) : Nat := machineSize .forward p + 208

/-- The bytes for the machine that reads backward. -/
def backwardSize (p : Pattern) : Nat := machineSize .backward p + 144

/-- The most bytes that a machine may take: 10 MiB. -/
def sizeLimit : Nat := 10 * Nat.pow 2 20

/-- A machine for the pattern would take too many bytes. -/
def isHuge (p : Pattern) : Bool := sizeLimit < p.forwardSize || sizeLimit < p.backwardSize

end LivePreview.Pattern
