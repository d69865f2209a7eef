import LivePreview.Json.Draft
import LivePreview.Text.Hex

/-!
# Reading texts of values

A text is read to a draft from left to right. Reading ends at the first thing that cannot be passed
over; the draft holds what was read up to there.

The readers of values take a bound on their steps; twice the length of the text is enough.
-/

namespace LivePreview.Json

/-- What is left of a text, and where it stands. -/
structure Input where
  rest : List Char
  place : Place := {}
  deriving Repr, Inhabited

namespace Input

/-- Behind the next character. -/
def step (i : Input) : Input :=
  match i.rest with
  | [] => i
  | c :: cs => ⟨cs, i.place.after c⟩

/-- The place behind the next byte. -/
def peek (i : Input) : Place := i.place.afterByte i.rest

def isBlank (c : Char) : Bool := c == ' ' || c == '\n' || c == '\t' || c == '\r'

/-- Behind the characters that satisfy `p`, and these. -/
def span (p : Char → Bool) (i : Input) : List Char × Input :=
  (i.rest.takeWhile p,
    ⟨i.rest.dropWhile p, (i.rest.takeWhile p).foldl Place.after i.place⟩)

def skipBlank (i : Input) : Input := (i.span isBlank).2

end Input

/-- What reading a value gives: a draft, and what follows it unless reading ended. -/
abbrev Reading := Draft × Option Input

/-- A value that is broken in whatever way it is read. -/
def brokenAt (cause : Cause) (p : Place) : Reading := (.broken ⟨cause, p⟩ ⟨cause, p⟩, none)

/-! ## Words -/

/-- The rest of a word that has begun. -/
def readWord (s : Scalar) : List Char → Input → Reading
  | [], i => (.scalar s i.place, some i)
  | w :: ws, i =>
    match i.rest with
    | [] => brokenAt .endInValue i.place
    | c :: _ => if c = w then readWord s ws i.step else brokenAt .expectedWord i.peek

/-! ## Strings -/

/-- The character that a letter after a backslash stands for. -/
def escapeValue? (c : Char) : Option Char :=
  match c with
  | '"' => some '"'
  | '\\' => some '\\'
  | '/' => some '/'
  | 'b' => some '\x08'
  | 'f' => some '\x0c'
  | 'n' => some '\n'
  | 'r' => some '\r'
  | 't' => some '\t'
  | _ => none

/-- The value of four hexadecimal digits. -/
def hexValue4 (a b c d : Char) : Option Nat := do
  return (← Text.hexValue a) * 4096 + (← Text.hexValue b) * 256 + (← Text.hexValue c) * 16
    + (← Text.hexValue d)

def isHighSurrogate (n : Nat) : Bool := 0xD800 ≤ n && n ≤ 0xDBFF

def isLowSurrogate (n : Nat) : Bool := 0xDC00 ≤ n && n ≤ 0xDFFF

/-- The complaint about what follows `\u`, if that is not four digits. -/
def hexFault (p : Place) (cs : List Char) : Fault :=
  if (cs.take 4).foldl (fun n c => n + c.utf8Size) 0 < 4 then ⟨.endInString, p.afterBytes 4 cs⟩
  else ⟨.badEscape, p.afterBytes 4 cs⟩

/-- The complaint about what follows a high surrogate, if that is not a low one. -/
def pairFault (p : Place) : List Char → Fault
  | [] => ⟨.endInString, p⟩
  | '\\' :: cs =>
    match cs with
    | [] => ⟨.endInString, p.after '\\'⟩
    | 'u' :: cs =>
      let q := (p.after '\\').after 'u'
      match cs with
      | a :: b :: c :: d :: _ =>
        if (hexValue4 a b c d).isSome then ⟨.loneSurrogate, q.afterBytes 4 cs⟩ else hexFault q cs
      | cs => hexFault q cs
    | cs => ⟨.endOfSurrogate, (p.after '\\').afterByte cs⟩
  | cs => ⟨.endOfSurrogate, p.afterByte cs⟩

/-- The end of a string. -/
inductive StringEnd where
  /-- Its text, or what is wrong with it, and what follows. -/
  | closed (content : Except Fault (List Char)) (rest : Input)
  | broken (fault passing : Fault)
  deriving Inhabited

/-- The rest of a string, after its first characters, newest first, or a fault in them. -/
def readString (acc : Except Fault (List Char)) (p : Place) : List Char → StringEnd
  | [] => stop acc ⟨.endInString, p⟩
  | '"' :: cs => .closed (acc.map List.reverse) ⟨cs, p.after '"'⟩
  | '\\' :: 'u' :: a :: b :: c :: d :: cs =>
    let q := (p.after '\\').after 'u'
    match hexValue4 a b c d with
    | none => stop acc (hexFault q (a :: b :: c :: d :: cs))
    | some n =>
      let q := q.afterBytes 4 [a, b, c, d]
      if isLowSurrogate n then readString (note acc ⟨.loneSurrogate, q⟩) q cs
      else if isHighSurrogate n then
        match cs with
        | '\\' :: 'u' :: e :: f :: g :: h :: cs =>
          match (hexValue4 e f g h).filter isLowSurrogate with
          | some m =>
            let x := Char.ofNat ((n - 0xD800) * 0x400 + (m - 0xDC00) + 0x10000)
            readString (acc.map (x :: ·)) (((q.after '\\').after 'u').afterBytes 4 [e, f, g, h]) cs
          | none =>
            readString (note acc (pairFault q ('\\' :: 'u' :: e :: f :: g :: h :: cs))) q
              ('\\' :: 'u' :: e :: f :: g :: h :: cs)
        | cs => readString (note acc (pairFault q cs)) q cs
      else readString (acc.map (Char.ofNat n :: ·)) q cs
  | '\\' :: cs =>
    let q := p.after '\\'
    match cs with
    | [] => stop acc ⟨.endInString, q⟩
    | 'u' :: cs => stop acc (hexFault (q.after 'u') cs)
    | c :: cs =>
      match escapeValue? c with
      | some x => readString (acc.map (x :: ·)) (q.after c) cs
      | none => stop acc ⟨.badEscape, q.afterByte (c :: cs)⟩
  | c :: cs =>
    if c.toNat < 32 then
      .broken (first acc ⟨.controlCharacter, p.afterByte (c :: cs)⟩) ⟨.controlCharacter, p⟩
    else readString (acc.map (c :: ·)) (p.after c) cs
where
  /-- The fault that came first. -/
  first (acc : Except Fault (List Char)) (f : Fault) : Fault :=
    match acc with
    | .ok _ => f
    | .error f => f
  note (acc : Except Fault (List Char)) (f : Fault) : Except Fault (List Char) :=
    .error (first acc f)
  stop (acc : Except Fault (List Char)) (f : Fault) : StringEnd := .broken (first acc f) f

/-- A string, after its opening quote. -/
def readQuoted (i : Input) : Reading :=
  match readString (.ok []) i.place i.rest with
  | .broken f g => (.broken f g, none)
  | .closed (.ok cs) i => (.scalar (.string (String.ofList cs)) i.place, some i)
  | .closed (.error f) i => (.unreadable f, some i)

/-! ## Numbers -/

/-- The greatest natural that numbers are kept exact up to. -/
def maxNatural : Nat := Nat.pow 2 64 - 1

/-- Digits taken into a significand as long as it stays exact, and those that are left. -/
def takeDigits (n : Nat) : List Char → Nat × List Char
  | [] => (n, [])
  | c :: cs =>
    let m := n * 10 + (c.toNat - 48)
    if maxNatural < m then (n, c :: cs) else takeDigits m cs

/-- The quotient of a finite double and a power of ten below `1e309`. -/
def divide (d : Double) (power : Nat) : Double :=
  let (a, b) := d.ratio
  let (x, y) := (Double.ofDecimal 1 power).ratio
  .ofRatio (a * y) (b * x)

/-- A positive double scaled down by a power of ten, in steps of `1e308`. -/
def scaleDown : Nat → Double → Nat → Double
  | 0, d, e => divide d e
  | steps + 1, d, e => if e ≤ 308 then divide d e else scaleDown steps (divide d 308) (e - 308)

/-- The double that a significand and an exponent stand for: the significand is rounded first and
the product or quotient after it. None if that is infinite. -/
def doubleOfParts? (significand : Nat) (exponent : Int) : Option Double :=
  let d := Double.ofNat significand
  if d.isZero then some d
  else if 308 < exponent then none
  else if 0 ≤ exponent then
    let (a, b) := d.ratio
    let (x, y) := (Double.ofDecimal 1 exponent).ratio
    let product := Double.ofRatio (a * x) (b * y)
    if product.isInfinite then none else some product
  else if exponent < -1000 then some ⟨0⟩
  else some (scaleDown 4 d (-exponent).toNat)

/-- The greatest exponent that is counted exactly. -/
def maxExponent : Nat := Nat.pow 2 31 - 1

/-- The digits of an exponent: their value, or the place where it grew too large. -/
def exponentValue (n : Nat) (p : Place) : List Char → Except Place Nat
  | [] => .ok n
  | c :: cs =>
    let m := n * 10 + (c.toNat - 48)
    if maxExponent < m then .error (p.after c) else exponentValue m (p.after c) cs

/-- The exponent kept within thirty-two bits. -/
def clampExponent (e : Int) : Int := max (-0x80000000) (min 0x7fffffff e)

/-- A number without its exponent. -/
structure Mantissa where
  negative : Bool
  significand : Nat
  exponent : Int
  deriving Repr, Inhabited

/-- A number that has a point, an exponent or too many digits. -/
def readingOfDouble (m : Mantissa) (e : Int) (i : Input) : Reading :=
  match doubleOfParts? m.significand e with
  | some d => (.scalar (.double (if m.negative then d.neg else d)) i.place, some i)
  | none => (.unreadable ⟨.numberOutOfRange, i.place⟩, some i)

/-- What follows the `e` of a number. -/
def readExponent (m : Mantissa) (i : Input) : Reading :=
  let (minus, i) := match i.rest with
    | '+' :: _ => (false, i.step)
    | '-' :: _ => (true, i.step)
    | _ => (false, i)
  match i.rest with
  | [] => (.broken ⟨.endInValue, i.place⟩ ⟨.badNumber, i.place⟩, none)
  | c :: _ =>
    if !c.isDigit then brokenAt .badNumber i.peek else
    let (ds, j) := i.span Char.isDigit
    match exponentValue 0 i.place ds with
    | .ok n => readingOfDouble m (clampExponent (m.exponent + if minus then -(n : Int) else n)) j
    | .error p =>
      if m.significand ≠ 0 && !minus then (.unreadable ⟨.numberOutOfRange, p⟩, some j)
      else (.scalar (.double (if m.negative then Double.neg ⟨0⟩ else ⟨0⟩)) j.place, some j)

/-- What follows the digits of a number that is no integer any more. -/
def readAfterDigits (m : Mantissa) (i : Input) : Reading :=
  match i.rest with
  | 'e' :: _ | 'E' :: _ => readExponent m i.step
  | _ => readingOfDouble m m.exponent i

/-- What follows the point of a number. -/
def readFraction (m : Mantissa) (i : Input) : Reading :=
  let (ds, j) := i.span Char.isDigit
  if ds.isEmpty then
    match i.rest with
    | [] => (.broken ⟨.endInValue, i.place⟩ ⟨.badNumber, i.place⟩, none)
    | _ => brokenAt .badNumber i.peek
  else
    let (n, left) := takeDigits m.significand ds
    readAfterDigits ⟨m.negative, n, m.exponent - (ds.length - left.length : Nat)⟩ j

/-- A number, after its sign. -/
def readNumber (negative : Bool) (i : Input) : Reading :=
  match i.rest with
  | [] => (.broken ⟨.endInValue, i.place⟩ ⟨.badNumber, i.place⟩, none)
  | c :: cs =>
    if !c.isDigit then brokenAt .badNumber i.peek
    else if c == '0' && (cs.head?.any Char.isDigit) then brokenAt .badNumber i.step.peek
    else
      let (ds, j) := i.span Char.isDigit
      let (n, left) := takeDigits 0 ds
      let m : Mantissa := ⟨negative, n, left.length⟩
      match j.rest with
      | '.' :: _ => readFraction m j.step
      | 'e' :: _ | 'E' :: _ => readExponent m j.step
      | _ =>
        if !left.isEmpty || (negative && (n == 0 || Nat.pow 2 63 < n)) then
          readingOfDouble m m.exponent j
        else (.scalar (.integer (if negative then -(n : Int) else n)) j.place, some j)

/-! ## Values -/

mutual

/-- A value, perhaps after blanks. -/
def readValue : Nat → Input → Reading
  | 0, i => brokenAt .expectedValue i.place
  | n + 1, i =>
    let i := i.skipBlank
    match i.rest with
    | [] => brokenAt .endInValue i.place
    | 'n' :: _ => readWord .null "ull".toList i.step
    | 't' :: _ => readWord (.bool true) "rue".toList i.step
    | 'f' :: _ => readWord (.bool false) "alse".toList i.step
    | '"' :: _ => readQuoted i.step
    | '-' :: _ => readNumber true i.step
    | '[' :: _ =>
      let (items, e, rest) := readItems n true i.step
      (.list i.place items e, rest)
    | '\x7b' :: _ =>
      let (members, e, rest) := readMembers n true i.step
      (.table i.place members e, rest)
    | c :: _ => if c.isDigit then readNumber false i else brokenAt .expectedValue i.peek

/-- The items of a list up to its end; `first` says that none came yet. -/
def readItems : Nat → Bool → Input → List (Option Place × Draft) × Ending × Option Input
  | 0, _, i => ([], .cut .theEnd i.place, none)
  | n + 1, first, i =>
    let i := i.skipBlank
    let items (i : Input) :=
      let (d, rest) := readValue n i
      match rest with
      | none => ([(some i.peek, d)], .cut .theEnd i.place, none)
      | some j =>
        let (ds, e, rest) := readItems n false j
        ((some i.peek, d) :: ds, e, rest)
    match i.rest with
    | [] => ([], .cut .theEnd i.place, none)
    | ']' :: _ => ([], .closed i.step.place, some i.step)
    | c :: _ =>
      if first then items i
      else if c = ',' then
        let j := i.step.skipBlank
        match j.rest with
        | [] => ([], .cut .commaAtEnd j.place, none)
        | ']' :: _ => ([], .cut .commaAtClose j.peek, none)
        | _ => items j
      else ([], .cut .noComma i.peek, none)

/-- The members of a table up to its end; `first` says that none came yet. -/
def readMembers : Nat → Bool → Input →
    List (Draft × Option Place × Draft) × Ending × Option Input
  | 0, _, i => ([], .cut .theEnd i.place, none)
  | n + 1, first, i =>
    let i := i.skipBlank
    let members (i : Input) :=
      match i.rest with
      | '"' :: _ =>
        let (k, rest) := readQuoted i.step
        match rest with
        | none => ([(k, none, k)], .cut .theEnd i.place, none)
        | some j =>
          let j := j.skipBlank
          let behind := match j.rest with
            | '\x7d' :: _ => j.step.place
            | _ => j.place
          match j.rest with
          | ':' :: _ =>
            let (d, rest) := readValue n j.step
            match rest with
            | none => ([(k, some behind, d)], .cut .theEnd i.place, none)
            | some j =>
              let (ds, e, rest) := readMembers n false j
              ((k, some behind, d) :: ds, e, rest)
          | [] => ([(k, some behind, (brokenAt .endInTable j.place).1)], .cut .theEnd i.place, none)
          | _ =>
            ([(k, some behind, (brokenAt .expectedColon j.peek).1)], .cut .theEnd i.place, none)
      | _ => ([], .cut .noName i.peek, none)
    match i.rest with
    | [] => ([], .cut .theEnd i.place, none)
    | '\x7d' :: _ => ([], .closed i.step.place, some i.step)
    | c :: _ =>
      if first then members i
      else if c = ',' then
        let j := i.step.skipBlank
        match j.rest with
        | [] => ([], .cut .commaAtEnd j.place, none)
        | '\x7d' :: _ => ([], .cut .commaAtClose j.peek, none)
        | _ => members j
      else ([], .cut .noComma i.peek, none)

end

/-- Reads a whole text and makes something of it. -/
def decodeText (decode : Draft → Except Fault α) (text : String) : Except Fault α := do
  let cs := text.toList
  let (d, rest) := readValue (2 * cs.length + 2) ⟨cs, {}⟩
  let a ← decode d
  match rest.map Input.skipBlank with
  | some i => if i.rest.isEmpty then return a else throw ⟨.trailingText, i.peek⟩
  | none => return a

/-- The value that a text stands for. -/
def read (text : String) : Except Fault Json := decodeText (Draft.value Draft.depthLimit) text

end LivePreview.Json
