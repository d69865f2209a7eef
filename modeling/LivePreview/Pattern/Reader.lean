import LivePreview.Pattern
import LivePreview.Pattern.Fault
import LivePreview.Pattern.Nest
import LivePreview.Text.Blank
import LivePreview.Unicode.Property

/-!
# Reading patterns

The text of a pattern is read from left to right, and its first fault is the one that is told. When
all of it has been read, too deep a nesting is a fault, and then what its parts cannot mean: a
property that is none, or a character where only bytes count.

The readers take a bound on their steps; the length of the text is enough.
-/

namespace LivePreview.Pattern

open Unicode (CodeSet)

/-- How a pattern is meant to be read, from some place on. -/
structure Flags where
  caseless : Bool := false
  multiLine : Bool := false
  dotAll : Bool := false
  crlf : Bool := false
  /-- Blanks and comments do not count. -/
  spaced : Bool := false
  /-- Classes reach above ASCII. -/
  wide : Bool := true
  deriving DecidableEq, Repr, Inhabited

/-- A place in the text of a pattern. -/
structure Spot where
  place : Nat
  rest : List Char
  /-- The names of groups so far. -/
  names : List (String × Part) := []
  /-- The first part so far that can mean nothing. -/
  late : Option Fault := none
  deriving Inhabited

namespace Spot

def peek (s : Spot) : Option Char := s.rest.head?

def atEnd (s : Spot) : Bool := s.rest.isEmpty

def skip (n : Nat) (s : Spot) : Spot :=
  { s with place := s.place + min n s.rest.length, rest := s.rest.drop n }

def bump (s : Spot) : Spot := s.skip 1

/-- The next character. -/
def char (s : Spot) : Part := ⟨s.place, s.place + 1⟩

/-- The place between the last character and the next. -/
def here (s : Spot) : Part := ⟨s.place, s.place⟩

/-- How long the blanks and comments are that come next. -/
def spaceLength (comment : Bool) : List Char → Nat
  | [] => 0
  | c :: cs =>
    if comment then spaceLength (c != '\n') cs + 1
    else if Text.isWhite c then spaceLength false cs + 1
    else if c = '#' then spaceLength true cs + 1
    else 0

def skipSpace (f : Flags) (s : Spot) : Spot :=
  if f.spaced then s.skip (spaceLength false s.rest) else s

/-- Past the next character and what does not count. -/
def bumpSpace (f : Flags) (s : Spot) : Spot := s.bump.skipSpace f

def startsWith (word : String) (s : Spot) : Bool := word.toList.isPrefixOf s.rest

/-- Notes a part that can mean nothing, unless one has been noted before. -/
def note (kind : FaultKind) (part : Part) (s : Spot) : Spot :=
  { s with late := s.late <|> some ⟨kind, part, none⟩ }

end Spot

abbrev Read := Except Fault

def complain (kind : FaultKind) (start stop : Nat) : Read α := throw ⟨kind, ⟨start, stop⟩, none⟩

/-! ## Escapes -/

/-- What stands at one place of a pattern. -/
inductive Atom where
  /-- A character; a `byte` is written by its code in two digits. -/
  | literal (c : Char) (byte : Bool)
  | class (s : CodeSet)
  | boundary (b : Boundary)
  deriving Inhabited

def isMeta (c : Char) : Bool := "\\.+*?()|[]\x7b\x7d^$#&-~".toList.contains c

/-- A character that stands for itself behind a backslash. -/
def isPlainEscape (c : Char) : Bool :=
  isMeta c || (c.toNat < 128 && !c.isAlphanum && c != '<' && c != '>')

/-- The character with a code point, if there is one. -/
def scalar? (digits : List Char) : Option Char :=
  let n := digits.foldl (fun n c => n * 16 + (Text.hexValue c).getD 0) 0
  if n < 0xD800 || (0xDFFF < n && n < 0x110000) then some (Char.ofNat n) else none

/-- So many hexadecimal digits, newest first. -/
def readHexDigits (f : Flags) (acc : List Char) : Nat → Spot → Read (List Char × Spot)
  | 0, s => return (acc, s)
  | n + 1, s =>
    match s.peek with
    | none => complain .escapeEnd s.place s.place
    | some c =>
      if (Text.hexValue c).isNone then complain .hexDigit s.place (s.place + 1)
      else readHexDigits f (c :: acc) n (s.bumpSpace f)

/-- Hexadecimal digits up to a closing brace, newest first; `s` stands before the next one. -/
def readHexBraced (f : Flags) (brace : Nat) (acc : List Char) : Nat → Spot → Read (List Char × Spot)
  | 0, s => complain .escapeEnd brace s.place
  | n + 1, s =>
    match s.peek with
    | none => complain .escapeEnd brace s.place
    | some c =>
      if c = '\x7d' then return (acc, s)
      else if (Text.hexValue c).isNone then complain .hexDigit s.place (s.place + 1)
      else readHexBraced f brace (c :: acc) n (s.bumpSpace f)

/-- A character by its code point, after the `x`, `u` or `U`, which asks for `digits` digits. -/
def readHex (f : Flags) (digits : Nat) (s : Spot) : Read (Atom × Spot) := do
  match s.peek with
  | none => complain .escapeEnd s.place s.place
  | some '\x7b' =>
    let (ds, t) ← readHexBraced f s.place [] (s.rest.length + 1) (s.bumpSpace f)
    let close := t.bumpSpace f
    if ds.isEmpty then complain .hexEmpty s.place close.place
    match scalar? ds.reverse with
    | some c => return (.literal c false, close)
    | none => complain .hexInvalid (s.place + 1) t.place
  | some _ =>
    let (ds, t) ← readHexDigits f [] digits s
    match scalar? ds.reverse with
    | some c => return (.literal c (digits == 2), t)
    | none => complain .hexInvalid s.place t.place

/-- A property's name up to a closing brace, newest first. -/
def readBracedName (f : Flags) (acc : List Char) : Nat → Spot → Read (List Char × Spot)
  | 0, s => complain .escapeEnd s.place s.place
  | n + 1, s =>
    match s.peek with
    | none => complain .escapeEnd s.place s.place
    | some c =>
      if c = '\x7d' then return (acc, s.bump) else readBracedName f (c :: acc) n (s.bumpSpace f)

/-- With what else differs in case only, if case does not count. -/
def foldIf (f : Flags) (s : CodeSet) : CodeSet :=
  if !f.caseless then s else if f.wide then s.folded else s.asciiFolded

/-- Cuts a text at a word in it. -/
def cutAt? (word : String) (text : String) : Option (String × String) :=
  match text.splitOn word with
  | before :: rest@(_ :: _) => some (before, word.intercalate rest)
  | _ => none

/-- The set that the name of a property stands for, and whether it is what the set lacks. -/
def propertySet (name : String) : Except Unicode.PropertyFault CodeSet × Bool :=
  match cutAt? "!=" name with
  | some (p, v) => (Unicode.valuedSet p v, true)
  | none =>
    match cutAt? ":" name <|> cutAt? "=" name with
    | some (p, v) => (Unicode.valuedSet p v, false)
    | none => (Unicode.namedSet name, false)

/-- A class given by a property, after the `p`, of which the backslash stands at `start`. -/
def readProperty (f : Flags) (start : Nat) (negated : Bool) (s : Spot) : Read (Atom × Spot) := do
  let (name, s) ← match s.peek with
    | none => complain .escapeEnd s.place s.place
    | some '\x7b' => readBracedName f [] (s.rest.length + 1) (s.bumpSpace f)
    | some c =>
      if c = '\\' then complain .unicodeClass s.place (s.place + 1) else pure ([c], s.bumpSpace f)
  let part : Part := ⟨start, s.place⟩
  if !f.wide then return (.class .empty, s.note .onlyBytes part)
  let (found, lacks) := propertySet (String.ofList name.reverse)
  match found with
  | .ok c =>
    let c := foldIf f c
    return (.class (if negated != lacks then c.complement else c), s)
  | .error .unknown => return (.class .empty, s.note .propertyUnknown part)
  | .error .unknownValue => return (.class .empty, s.note .propertyValueUnknown part)

/-- The name in the braces behind `\b`: letters and dashes, and where they end. -/
def readBoundaryName (f : Flags) (acc : List Char) : Nat → Spot → List Char × Spot
  | 0, s => (acc.reverse, s)
  | n + 1, s =>
    match s.peek with
    | none => (acc.reverse, s)
    | some c =>
      if c.isAlpha || c == '-' then readBoundaryName f (c :: acc) n (s.bumpSpace f)
      else (acc.reverse, s)

/-- What follows `\b`, of which the backslash stands at `start`. Braces may name an end of words;
others are left to be a count. -/
def readWordBoundary (f : Flags) (start : Nat) (s : Spot) : Read (WordEdge × Spot) := do
  if s.peek != some '\x7b' then return (.edge, s)
  let t := s.bumpSpace f
  match t.peek with
  | none => complain .wordBoundaryEnd start t.place
  | some c =>
    if !(c.isAlpha || c == '-') then return (.edge, s)
    let (name, stop) := readBoundaryName f [] (t.rest.length + 1) t
    if stop.peek != some '\x7d' then complain .wordBoundaryUnclosed s.place stop.place
    match String.ofList name with
    | "start" => return (.start, stop.bump)
    | "end" => return (.stop, stop.bump)
    | "start-half" => return (.startHalf, stop.bump)
    | "end-half" => return (.stopHalf, stop.bump)
    | _ => complain .wordBoundaryUnknown t.place stop.place

/-- What a backslash introduces; `s` stands before it. -/
def readEscape (f : Flags) (s : Spot) : Read (Atom × Spot) := do
  let start := s.place
  let s := s.bump
  let literal (c : Char) : Read (Atom × Spot) := return (.literal c false, s.bump)
  let classOf (negated : Bool) (letter : Char) : Read (Atom × Spot) :=
    let c := letterClass f.wide letter
    if !negated then return (.class c, s.bump)
    else if f.wide then return (.class c.complement, s.bump)
    else return (.class .empty, s.bump.note .noText ⟨start, s.place + 1⟩)
  let boundary (b : Boundary) : Read (Atom × Spot) := return (.boundary b, s.bump)
  let code (digits : Nat) : Read (Atom × Spot) := readHex f digits (s.bumpSpace f)
  match s.peek with
  | none => complain .escapeEnd start s.place
  | some c =>
    if c.isDigit then complain .backreference start (s.place + 1) else
    match c with
    | 'x' => code 2
    | 'u' => code 4
    | 'U' => code 8
    | 'p' => readProperty f start false (s.bumpSpace f)
    | 'P' => readProperty f start true (s.bumpSpace f)
    | 'd' | 's' | 'w' => classOf false c
    | 'D' | 'S' | 'W' => classOf true c.toLower
    | 'a' => literal '\x07'
    | 'f' => literal '\x0c'
    | 't' => literal '\t'
    | 'n' => literal '\n'
    | 'r' => literal '\r'
    | 'v' => literal '\x0b'
    | 'A' => boundary .textStart
    | 'z' => boundary .textEnd
    | 'B' => boundary (.word .noEdge f.wide)
    | '<' => boundary (.word .start f.wide)
    | '>' => boundary (.word .stop f.wide)
    | 'b' => do
      let (place, s) ← readWordBoundary f start s.bump
      return (.boundary (.word place f.wide), s)
    | c =>
      if isPlainEscape c then literal c else complain .escapeUnknown start (s.place + 1)

/-! ## Classes in brackets -/

/-- A part of a class: what it holds and where it stands. -/
structure ClassPart where
  set : CodeSet
  part : Part
  nests : List Nest := []
  deriving Inhabited

/-- The parts as one, which stands at `spot` if there are none. -/
def ClassPart.union (spot : Nat) (items : List ClassPart) : ClassPart :=
  match items with
  | [] => ⟨.empty, ⟨spot, spot⟩, []⟩
  | [item] => item
  | first :: _ =>
    let part : Part := ⟨first.part.start, ((items.getLast?.map (·.part.stop)).getD 0)⟩
    ⟨.unions (items.map (·.set)), part, [⟨part, items.flatMap (·.nests)⟩]⟩

/-- What a class holds, or what it lacks. Without characters above ASCII nothing may lack. -/
def negatedIf (f : Flags) (negated : Bool) (c : CodeSet) (part : Part) (s : Spot) :
    CodeSet × Spot :=
  if !negated then (c, s)
  else if f.wide then (c.complement, s)
  else (.empty, s.note .noText part)

/-- A character as a member of a class. -/
def literalSet (f : Flags) (c : Char) (byte : Bool) (part : Part) (s : Spot) : CodeSet × Spot :=
  if f.wide || c.toNat < 128 then (.only c.toNat, s)
  else (.empty, s.note (if byte then .noText else .onlyBytes) part)

/-- A named class inside brackets; `s` stands before its own bracket. -/
def namedClass? (f : Flags) (s : Spot) : Option (ClassPart × Spot) :=
  match s.rest with
  | '[' :: ':' :: cs =>
    let (negated, cs) := match cs with
      | '^' :: cs => (true, cs)
      | cs => (false, cs)
    let name := cs.takeWhile (· != ':')
    if [':', ']'].isPrefixOf (cs.drop name.length) then
      (asciiClass? (String.ofList name)).map fun c =>
        let next := s.skip (name.length + if negated then 5 else 4)
        let part : Part := ⟨s.place, next.place⟩
        let (c, next) := negatedIf f negated (foldIf f c) part next
        (⟨c, part, []⟩, next)
    else none
  | _ => none

/-- A character, or a class behind a backslash, inside brackets. -/
def readClassItem (f : Flags) (s : Spot) : Read (Atom × Spot) :=
  match s.peek with
  | none => complain .classUnclosed s.place s.place
  | some '\\' => readEscape f s
  | some c => return (.literal c false, s.bump)

/-- Dashes at the beginning of a class, newest first. -/
def readDashes (f : Flags) (start : Nat) (items : List ClassPart) :
    Nat → Spot → Read (List ClassPart × Spot)
  | 0, s => return (items, s)
  | n + 1, s =>
    if s.peek == some '-' then
      let item : ClassPart := ⟨.only '-'.toNat, s.char, []⟩
      let s := s.bumpSpace f
      if s.atEnd then complain .classUnclosed start start
      else readDashes f start (item :: items) n s
    else return (items, s)

/-- How classes are joined. -/
inductive Join where
  | inter
  | diff
  | symmDiff
  deriving DecidableEq, Repr, Inhabited

def Join.apply : Join → CodeSet → CodeSet → CodeSet
  | inter => .inter
  | diff => .diff
  | symmDiff => .symmDiff

/-- A class with another one that it is to be joined to. -/
def joined (left : Option (Join × ClassPart)) (c : ClassPart) : ClassPart :=
  match left with
  | none => c
  | some (j, l) =>
    let part : Part := ⟨l.part.start, c.part.stop⟩
    ⟨j.apply l.set c.set, part, [⟨part, l.nests ++ c.nests⟩]⟩

/-- The beginning of a class: its bracket, a negation, and what stands for itself only here, newest
first. -/
structure ClassStart where
  part : Part
  negated : Bool
  first : List ClassPart

def readClassStart (f : Flags) (s : Spot) : Read (ClassStart × Spot) := do
  let start := s.place
  let s := s.bumpSpace f
  if s.atEnd then complain .classUnclosed start s.place
  let negated := s.peek == some '^'
  let s := if negated then s.bumpSpace f else s
  if s.atEnd then complain .classUnclosed start s.place
  let (first, s) ← readDashes f start [] (s.rest.length + 1) s
  let (first, s) ← if first.isEmpty && s.peek == some ']' then do
      let item : ClassPart := ⟨.only ']'.toNat, s.char, []⟩
      let s := s.bumpSpace f
      if s.atEnd then complain .classUnclosed start s.place
      pure ([item], s)
    else pure (first, s)
  return (⟨⟨start, s.place⟩, negated, first⟩, s)

/-- A character, a class or a range inside the class that begins at `opened`. -/
def readClassRange (f : Flags) (opened : Part) (s : Spot) : Read (ClassPart × Spot) := do
  let start := s.place
  let (a, s) ← readClassItem f s
  let aStop := s.place
  let s := s.skipSpace f
  if s.atEnd then throw ⟨.classUnclosed, opened, none⟩
  let aPart : Part := ⟨start, aStop⟩
  let single : Read (ClassPart × Spot) := match a with
    | .literal c byte =>
      let (c, s) := literalSet f c byte aPart s
      return (⟨foldIf f c, aPart, []⟩, s)
    | .class c => return (⟨c, aPart, []⟩, s)
    | .boundary _ => complain .classEscape start aStop
  let after := (s.bumpSpace f).peek
  if s.peek != some '-' || after == some ']' || after == some '-' then single else
  let s := s.bumpSpace f
  if s.atEnd then throw ⟨.classUnclosed, opened, none⟩
  let bStart := s.place
  let (b, s) ← readClassItem f s
  match a, b with
  | .literal x xByte, .literal y yByte =>
    if y < x then complain .classRange start s.place
    let part : Part := ⟨start, s.place⟩
    let (_, t) := literalSet f x xByte aPart s
    let (_, t) := literalSet f y yByte ⟨bStart, s.place⟩ t
    return (⟨foldIf f (.range x.toNat y.toNat), part, []⟩, t)
  | .literal _ _, _ => complain .classRangeLiteral bStart s.place
  | _, _ => complain .classRangeLiteral start aStop

/-- A class, after its beginning; `left` is joined to what comes, and `acc` holds what came, newest
first. -/
def readClass (f : Flags) (o : ClassStart) (left : Option (Join × ClassPart))
    (acc : List ClassPart) : Nat → Spot → Read (ClassPart × Spot)
  | 0, _ => throw ⟨.classUnclosed, o.part, none⟩
  | n + 1, s => do
    let s := s.skipSpace f
    let all := joined left (.union s.place acc.reverse)
    let operator (j : Join) := readClass f o (some (j, all)) [] n (s.skip 2)
    match s.rest with
    | [] => throw ⟨.classUnclosed, o.part, none⟩
    | '[' :: _ =>
      match namedClass? f s with
      | some (c, s) => readClass f o left (c :: acc) n s
      | none => do
        let (inner, s) ← readClassStart f s
        let (c, s) ← readClass f inner none inner.first n s
        readClass f o left (c :: acc) n s
    | ']' :: _ =>
      let part : Part := ⟨o.part.start, s.place + 1⟩
      let (c, s) := negatedIf f o.negated all.set part s.bump
      return (⟨c, part, [⟨part, all.nests⟩]⟩, s)
    | '&' :: '&' :: _ => operator .inter
    | '-' :: '-' :: _ => operator .diff
    | '~' :: '~' :: _ => operator .symmDiff
    | _ => do
      let (c, s) ← readClassRange f o.part s
      readClass f o left (c :: acc) n s

/-! ## Groups -/

/-- Flags as they are read: each set or cleared, with its place. -/
structure FlagItem where
  /-- None for the dash. -/
  flag : Option Char
  part : Part
  deriving Inhabited

def isFlag (c : Char) : Bool := "imsURux".toList.contains c

/-- The flags up to the end of their list, newest first; `s` stands behind them. -/
def readFlags (items : List FlagItem) : Nat → Spot → Read (List FlagItem × Spot)
  | 0, s => complain .flagEnd s.place s.place
  | n + 1, s =>
    match s.peek with
    | none => complain .flagEnd s.place s.place
    | some c =>
      if c = ':' || c = ')' then
        match items with
        | ⟨none, part⟩ :: _ => throw ⟨.flagDangling, part, none⟩
        | _ => return (items, s)
      else if c != '-' && !isFlag c then complain .flagUnknown s.place (s.place + 1)
      else
        let flag := if c = '-' then none else some c
        match items.find? (·.flag == flag) with
        | some old =>
          throw ⟨if c = '-' then .flagNegatedTwice else .flagTwice, s.char, some old.part⟩
        | none => readFlags (⟨flag, s.char⟩ :: items) n s.bump

/-- Sets or clears flags, the first of the list first. -/
def Flags.apply (f : Flags) (value : Bool) : List FlagItem → Flags
  | [] => f
  | ⟨none, _⟩ :: rest => f.apply false rest
  | ⟨some c, _⟩ :: rest =>
    let f := match c with
      | 'i' => { f with caseless := value }
      | 'm' => { f with multiLine := value }
      | 's' => { f with dotAll := value }
      | 'R' => { f with crlf := value }
      | 'x' => { f with spaced := value }
      | 'u' => { f with wide := value }
      | _ => f
    f.apply value rest

def isNameStart (c : Char) : Bool := c == '_' || c.isAlpha || Unicode.alphabetic.hasChar c

def isNamePart (c : Char) : Bool :=
  isNameStart c || c == '.' || c == '[' || c == ']' || c.isDigit
    || (Unicode.categories ["Nd", "Nl", "No"]).hasChar c

/-- The name of a group up to its closing bracket, newest first. -/
def readName (acc : List Char) : Nat → Spot → Read (List Char × Spot)
  | 0, s => complain .nameEnd s.place s.place
  | n + 1, s =>
    match s.peek with
    | none => complain .nameEnd s.place s.place
    | some '>' => return (acc, s)
    | some c =>
      if if acc.isEmpty then isNameStart c else isNamePart c then readName (c :: acc) n s.bump
      else complain .nameInvalid s.place (s.place + 1)

def readGroupName (s : Spot) : Read Spot := do
  let start := s.place
  let (name, s) ← readName [] (s.rest.length + 1) s
  if name.isEmpty then complain .nameEmpty start start
  let name := String.ofList name.reverse
  match s.names.lookup name with
  | some old => throw ⟨.nameTwice, ⟨start, s.place⟩, some old⟩
  | none => return { s.bump with names := (name, ⟨start, s.place⟩) :: s.names }

/-- What a parenthesis introduces: a group, with the flags inside it, or flags from here on. -/
inductive Opening where
  | group (f : Flags) (remembered : Bool)
  | flags (f : Flags)

/-- A parenthesis and what belongs to it; `s` stands before it. -/
def readOpening (f : Flags) (s : Spot) : Read (Opening × Spot) := do
  let opened := s.char
  let s := s.bumpSpace f
  match ["?=", "?!", "?<=", "?<!"].find? s.startsWith with
  | some word => complain .lookAround opened.start (s.place + word.length)
  | none => pure ()
  if s.startsWith "?P<" then return (.group f true, ← readGroupName (s.skip 3))
  if s.startsWith "?<" then return (.group f true, ← readGroupName (s.skip 2))
  if s.peek != some '?' then return (.group f true, s)
  let inner := s.here
  let s := s.bump
  if s.atEnd then throw ⟨.groupUnclosed, opened, none⟩
  let (items, s) ← readFlags [] (s.rest.length + 1) s
  let f := f.apply true items.reverse
  if s.peek == some ')' then
    if items.isEmpty then throw ⟨.nothingToRepeat, inner, none⟩
    return (.flags f, s.bump)
  return (.group f false, s.bump)

/-! ## Repetition -/

/-- Digits, between which there may be what does not count, newest first. -/
def readDigits (f : Flags) (acc : List Char) : Nat → Spot → List Char × Spot
  | 0, s => (acc, s)
  | n + 1, s =>
    match s.peek with
    | none => (acc, s)
    | some c => if c.isDigit then readDigits f (c :: acc) n (s.bumpSpace f) else (acc, s)

/-- A count with the blanks around it; what is wrong with it is told only where it is needed. -/
def readCount (f : Flags) (s : Spot) : Read Nat × Spot :=
  let s := s.skip (s.rest.takeWhile Text.isWhite).length
  let (ds, t) := readDigits f [] (s.rest.length + 1) s
  let after := t.skip (t.rest.takeWhile Text.isWhite).length
  let after := if after.place = t.place then after else after.skipSpace f
  let value := ds.reverse.foldl (fun n c => n * 10 + (c.toNat - 48)) 0
  let count : Read Nat :=
    if ds.isEmpty then complain .countEmpty s.place t.place
    else if Nat.pow 2 32 ≤ value then complain .decimalInvalid s.place t.place
    else pure value
  (count, after)

/-- Past the mark of a repetition that takes as little as it can. -/
def skipLazy (s : Spot) : Spot := if s.peek == some '?' then s.bump else s

/-- The counts in braces; `s` stands before them. -/
def readCounts (f : Flags) (s : Spot) : Read (Nat × Option Nat × Spot) := do
  let start := s.place
  let s := s.bumpSpace f
  if s.atEnd then complain .countUnclosed start s.place
  let (low, s) := readCount f s
  if s.atEnd then complain .countUnclosed start s.place
  let (min, max, s) ← if s.peek == some ',' then do
      let s := s.bumpSpace f
      if s.atEnd then complain .countUnclosed start s.place
      if s.peek != some '\x7d' then
        let low ← low
        let (high, s) := readCount f s
        pure (low, some (← high), s)
      else pure (← low, none, s)
    else do
      let low ← low
      pure (low, some low, s)
  if s.peek != some '\x7d' then complain .countUnclosed start s.place
  let s := skipLazy (s.bumpSpace f)
  if max.any (· < min) then complain .countOrder start s.place
  return (min, max, s)

/-! ## Whole patterns -/

/-- A piece of a pattern and where it stands. Flags are a piece that describes nothing. -/
structure Piece where
  pattern : Option Pattern
  part : Part
  nests : List Nest := []
  deriving Inhabited

/-- A group, or the whole pattern, while it is read. -/
structure Level where
  /-- The parenthesis that has to be closed. -/
  opened : Option Part
  flags : Flags
  /-- Where the group begins. -/
  start : Nat
  /-- Where the alternative being read begins. -/
  from' : Nat
  /-- The alternatives before the one being read, newest first. -/
  before : List (Pattern × List Nest) := []
  /-- The pieces of the alternative being read, newest first. -/
  pieces : List Piece := []

namespace Level

/-- The pieces one after the other, up to a place. -/
def sequence (l : Level) (stop : Nat) : Pattern × List Nest :=
  let pattern := l.pieces.foldl (fun p piece => match piece.pattern with
    | some q => .seq q p
    | none => p) .empty
  match l.pieces with
  | [] | [_] => (pattern, l.pieces.flatMap (·.nests))
  | _ => (pattern, [⟨⟨l.from', stop⟩, l.pieces.reverse.flatMap (·.nests)⟩])

/-- All alternatives, up to a place. -/
def close (l : Level) (stop : Nat) : Pattern × List Nest :=
  let (lastOne, nests) := l.sequence stop
  match l.before with
  | [] => (lastOne, nests)
  | before =>
    (before.foldl (fun p q => .alt q.1 p) lastOne,
      [⟨⟨l.start, stop⟩, before.reverse.flatMap (·.2) ++ nests⟩])

def push (l : Level) (p : Pattern) (start stop : Nat) (nests : List Nest := []) : Level :=
  { l with pieces := ⟨some p, ⟨start, stop⟩, nests⟩ :: l.pieces }

/-- Begins the next alternative, behind the bar at a place. -/
def alternative (l : Level) (bar : Nat) : Level :=
  { l with before := l.sequence bar :: l.before, pieces := [], from' := bar + 1 }

/-- Takes the piece that is to be repeated. -/
def pop (l : Level) (s : Spot) : Read (Pattern × Part × List Nest × Level) :=
  match l.pieces with
  | ⟨some p, part, nests⟩ :: rest => return (p, part, nests, { l with pieces := rest })
  | _ => complain .nothingToRepeat s.place s.place

/-- One character that is no operator, of which the text begins at `start`. -/
def plain (f : Flags) (start : Nat) (s : Spot) : Atom → Pattern × Spot
  | .literal c byte =>
    if byte && !f.wide && 128 ≤ c.toNat then (.empty, s.note .noText ⟨start, s.place⟩)
    else (.one (foldIf f (.only c.toNat)), s)
  | .class c => (.one c, s)
  | .boundary b => (.boundary b, s)

/-- The pattern of a point. -/
def anyChar (f : Flags) : Pattern :=
  if f.dotAll then .one .all
  else if f.crlf then .one (CodeSet.ofTable ["a", "d"]).complement
  else .one (CodeSet.only 10).complement

end Level

/-- The rest of a group, with its closing parenthesis, or of the whole pattern. -/
def readLevel (l : Level) : Nat → Spot → Read (Pattern × List Nest × Spot)
  | 0, s => complain .groupUnclosed s.place s.place
  | n + 1, s => do
    let f := l.flags
    let s := s.skipSpace f
    let repeated (min : Nat) (max : Option Nat) := do
      let (p, part, nests, l) ← l.pop s
      let t := skipLazy s.bump
      let whole : Part := ⟨part.start, t.place⟩
      readLevel (l.push (.times p min max) part.start t.place [⟨whole, nests⟩]) n t
    let closed (t : Spot) : Read (Pattern × List Nest × Spot) :=
      let (p, nests) := l.close s.place
      return (p, nests, t)
    match s.rest with
    | [] =>
      match l.opened with
      | some part => throw ⟨.groupUnclosed, part, none⟩
      | none => closed s
    | '(' :: _ => do
      let (opening, t) ← readOpening f s
      match opening with
      | .flags f =>
        let piece : Piece := ⟨none, ⟨s.place, t.place⟩, []⟩
        readLevel { l with flags := f, pieces := piece :: l.pieces } n t
      | .group f remembered => do
        let (p, nests, t) ← readLevel ⟨some s.char, f, t.place, t.place, [], []⟩ n t
        let whole : Part := ⟨s.place, t.place⟩
        let p := if remembered then .group p else p
        readLevel (l.push p s.place t.place [⟨whole, nests⟩]) n t
    | ')' :: _ =>
      match l.opened with
      | some _ => closed s.bump
      | none => throw ⟨.groupUnopened, s.char, none⟩
    | '|' :: _ => readLevel (l.alternative s.place) n s.bump
    | '[' :: _ => do
      let (o, t) ← readClassStart f s
      let (c, t) ← readClass f o none o.first (t.rest.length + 1) t
      readLevel (l.push (.one c.set) s.place t.place c.nests) n t
    | '?' :: _ => repeated 0 (some 1)
    | '*' :: _ => repeated 0 none
    | '+' :: _ => repeated 1 none
    | '\x7b' :: _ => do
      let (p, part, nests, l) ← l.pop s
      let (min, max, t) ← readCounts f s
      let whole : Part := ⟨part.start, t.place⟩
      readLevel (l.push (.times p min max) part.start t.place [⟨whole, nests⟩]) n t
    | '\\' :: _ => do
      let (a, t) ← readEscape f s
      let (p, t) := Level.plain f s.place t a
      readLevel (l.push p s.place t.place) n t
    | '.' :: _ =>
      let t := if f.wide then s.bump else s.bump.note .noText s.char
      readLevel (l.push (Level.anyChar f) s.place t.place) n t
    | '^' :: _ =>
      let start := if f.multiLine then .lineStart f.crlf else .textStart
      readLevel (l.push (.boundary start) s.place (s.place + 1)) n s.bump
    | '$' :: _ =>
      let stop := if f.multiLine then .lineEnd f.crlf else .textEnd
      readLevel (l.push (.boundary stop) s.place (s.place + 1)) n s.bump
    | c :: _ =>
      let (p, t) := Level.plain f s.place s.bump (.literal c false)
      readLevel (l.push p s.place t.place) n t

/-- How deep the parts of a pattern may stand in each other. -/
def nestLimit : Nat := 250

/-- The pattern that a text describes. -/
def read (text : String) : Except Fault Pattern := do
  let cs := text.toList
  let (p, nests, s) ← readLevel ⟨none, {}, 0, 0, [], []⟩ (cs.length + 1) { place := 0, rest := cs }
  match Nest.beyond? nestLimit nests with
  | some part => throw ⟨.tooDeep, part, none⟩
  | none => pure ()
  match s.late with
  | some fault => throw fault
  | none => return p

end LivePreview.Pattern
