/-!
# Faults of patterns

What can be wrong with the text of a pattern, and how that is shown: the pattern with carets under
the part in question.
-/

namespace LivePreview.Pattern

/-- A part of a pattern's text, from one character to another. -/
structure Part where
  start : Nat
  stop : Nat
  deriving DecidableEq, Repr, Inhabited

inductive FaultKind where
  | classEscape
  | classRange
  | classRangeLiteral
  | classUnclosed
  | decimalInvalid
  | hexEmpty
  | hexInvalid
  | hexDigit
  | escapeEnd
  | escapeUnknown
  | flagDangling
  | flagTwice
  | flagNegatedTwice
  | flagEnd
  | flagUnknown
  | nameTwice
  | nameEmpty
  | nameInvalid
  | nameEnd
  | groupUnclosed
  | groupUnopened
  | countOrder
  | countEmpty
  | countUnclosed
  | nothingToRepeat
  | wordBoundaryUnclosed
  | wordBoundaryUnknown
  | wordBoundaryEnd
  | unicodeClass
  | backreference
  | lookAround
  | propertyUnknown
  | propertyValueUnknown
  | tooDeep
  | noText
  | onlyBytes
  deriving DecidableEq, Repr, Inhabited

def FaultKind.message : FaultKind → String
  | classEscape => "invalid escape sequence found in character class"
  | classRange => "invalid character class range, the start must be <= the end"
  | classRangeLiteral => "invalid range boundary, must be a literal"
  | classUnclosed => "unclosed character class"
  | decimalInvalid => "decimal literal invalid"
  | hexEmpty => "hexadecimal literal empty"
  | hexInvalid => "hexadecimal literal is not a Unicode scalar value"
  | hexDigit => "invalid hexadecimal digit"
  | escapeEnd => "incomplete escape sequence, reached end of pattern prematurely"
  | escapeUnknown => "unrecognized escape sequence"
  | flagDangling => "dangling flag negation operator"
  | flagTwice => "duplicate flag"
  | flagNegatedTwice => "flag negation operator repeated"
  | flagEnd => "expected flag but got end of regex"
  | flagUnknown => "unrecognized flag"
  | nameTwice => "duplicate capture group name"
  | nameEmpty => "empty capture group name"
  | nameInvalid => "invalid capture group character"
  | nameEnd => "unclosed capture group name"
  | groupUnclosed => "unclosed group"
  | groupUnopened => "unopened group"
  | countOrder => "invalid repetition count range, the start must be <= the end"
  | countEmpty => "repetition quantifier expects a valid decimal"
  | countUnclosed => "unclosed counted repetition"
  | nothingToRepeat => "repetition operator missing expression"
  | wordBoundaryUnclosed =>
    "special word boundary assertion is either unclosed or contains an invalid character"
  | wordBoundaryUnknown =>
    "unrecognized special word boundary assertion, valid choices are: start, end, start-half or "
      ++ "end-half"
  | wordBoundaryEnd =>
    "found either the beginning of a special word boundary or a bounded repetition on a \\b with "
      ++ "an opening brace, but no closing brace"
  | unicodeClass => "invalid Unicode character class"
  | backreference => "backreferences are not supported"
  | lookAround => "look-around, including look-ahead and look-behind, is not supported"
  | propertyUnknown => "Unicode property not found"
  | propertyValueUnknown => "Unicode property value not found"
  | tooDeep => "exceed the maximum number of nested parentheses/brackets (250)"
  | noText => "pattern can match invalid UTF-8"
  | onlyBytes => "Unicode not allowed here"

/-- What is wrong, and with which part. -/
structure Fault where
  kind : FaultKind
  part : Part
  /-- The part that it collides with. -/
  other : Option Part := none
  deriving DecidableEq, Repr, Inhabited

/-- The lines of a text; what follows the last line end is a line only if there is something. -/
def lines : List Char → List (List Char)
  | [] => []
  | '\n' :: cs => [] :: lines cs
  | c :: cs =>
    match cs, lines cs with
    | [], _ => [[c]]
    | '\n' :: _, _ :: rest => [c] :: rest
    | _, line :: rest => (c :: line) :: rest
    | _, [] => [[c]]

/-- The line of a place, counted from zero, and the place on it. -/
def lineOf (cs : List Char) (at' : Nat) : Nat × Nat :=
  let before := cs.take at'
  (before.count '\n', (before.reverse.takeWhile (· != '\n')).length)

/-- The line of carets under some parts, each given by its place on the line and its length. -/
def carets (parts : List (Nat × Nat)) : List Char :=
  (parts.foldl (fun (line, pos) (start, length) =>
    (line ++ List.replicate (start - pos) ' ' ++ List.replicate (max 1 length) '^',
      max pos start + max 1 length)) (([] : List Char), 0)).1

/-- A number as text, filled up with blanks in front. -/
def padded (width n : Nat) : List Char :=
  let ds := Nat.toDigits 10 n
  List.replicate (width - ds.length) ' ' ++ ds

/-- The complaint, under the pattern that it is about. -/
def Fault.message (f : Fault) (pattern : String) : String :=
  let cs := pattern.toList
  let ls := lines cs
  let count := ls.length + if cs.getLast? == some '\n' then 1 else 0
  let width := if count ≤ 1 then 0 else (Nat.toDigits 10 count).length
  let parts := (f.part :: f.other.toList).mergeSort fun a b =>
    a.start < b.start || (a.start == b.start && a.stop ≤ b.stop)
  let placed := parts.map fun p => (lineOf cs p.start, lineOf cs p.stop)
  let shown := ls.zipIdx.flatMap fun (line, i) =>
    let lead := if width = 0 then "    ".toList else padded width (i + 1) ++ [':', ' ']
    let here := placed.filterMap fun (a, b) =>
      if a.1 = i ∧ b.1 = i then some (a.2, b.2 - a.2) else none
    let notes := if here.isEmpty then []
      else List.replicate (if width = 0 then 4 else width + 2) ' ' ++ carets here ++ ['\n']
    let line := if line.getLast? == some '\r' then line.dropLast else line
    lead ++ line ++ '\n' :: notes
  let ruler := List.replicate 79 '~' ++ ['\n']
  let across := placed.filterMap fun (a, b) =>
    if a.1 = b.1 then none
    else some ("on line " ++ toString (a.1 + 1) ++ " (column " ++ toString (a.2 + 1)
      ++ ") through line " ++ toString (b.1 + 1) ++ " (column " ++ toString b.2 ++ ")\n")
  let body := if cs.contains '\n' then
      String.ofList (ruler ++ shown ++ ruler) ++ String.join across
    else String.ofList shown
  "regex parse error:\n" ++ body ++ "error: " ++ f.kind.message

end LivePreview.Pattern
