import LivePreview.Script.Letter
import LivePreview.Script.Token
import LivePreview.Script.Diagnostic
import LivePreview.Number.Double
import LivePreview.Text.Hex

/-!
# Reading tokens

A token is read on demand, from the place where the last one ended, because what a `/`, a `}` or a
piece of text stands for depends on where the grammar is. Comments are gathered on the way: one
that comes before a token and is not the tail of an earlier line leads that token.

Every reader below takes a bound on its steps; the length of the source is enough for each.
-/

namespace LivePreview.Script

open Text (hexValue)

/-- A place in the source: the characters still to be read, and how many came before. -/
structure Cursor where
  rest : List Char
  offset : Nat
  deriving Inhabited

namespace Cursor

def peek (c : Cursor) : Option Char := c.rest.head?

/-- Moves past one character. -/
def step (c : Cursor) : Cursor := ⟨c.rest.tail, c.offset + 1⟩

def skip (c : Cursor) (n : Nat) : Cursor := ⟨c.rest.drop n, c.offset + n⟩

/-- The longest stretch whose characters all satisfy `p`, and the place after it. -/
def span (c : Cursor) (p : Char → Bool) : List Char × Cursor :=
  let taken := c.rest.takeWhile p
  (taken, c.skip taken.length)

def startsWith (c : Cursor) (text : List Char) : Bool := text.isPrefixOf c.rest

end Cursor

/-- A comment, with the start of the token it leads. -/
structure Comment where
  start : Nat
  /-- The comment as written, its delimiters included. -/
  text : String
  isLine : Bool
  /-- The token it leads, or none for a comment at the end of a line. -/
  leads : Option Nat
  /-- A line ends between the token before and this comment. -/
  afterNewline : Bool
  /-- A line ends between this comment and the token it leads. -/
  beforeNewline : Bool
  deriving DecidableEq, Repr, Inhabited

/-- The comment says `mark` to the tools that read scripts. -/
def Comment.hasMark (c : Comment) (mark : String) : Bool :=
  match (c.text.toList.drop 2).dropWhile Char.isWhitespace with
  | '@' :: rest | '#' :: rest => mark.toList.isPrefixOf rest
  | _ => false

/-- The comments seen so far. -/
structure Trivia where
  /-- Comments whose token is known, newest first. -/
  settled : List Comment
  /-- Comments that may still lead the next token, newest first. -/
  pending : List Comment
  sawNewline : Bool
  /-- The last token was a `=` or a `(`, after which even a comment on the same line leads. -/
  afterOpener : Bool
  deriving Inhabited

namespace Trivia

def start : Trivia := ⟨[], [], true, false⟩

/-- Comments before the end of a line that a token started stay with that token. -/
def newline (t : Trivia) : Trivia :=
  match t.pending with
  | [] => { t with sawNewline := true }
  | c :: rest =>
    let pending := { c with beforeNewline := true } :: rest
    if t.sawNewline then { t with pending := pending }
    else { t with settled := pending ++ t.settled, pending := [], sawNewline := true }

def addBlock (t : Trivia) (start : Nat) (text : String) : Trivia :=
  { t with pending := ⟨start, text, false, none, t.sawNewline, false⟩ :: t.pending }

def addLine (t : Trivia) (start : Nat) (text : String) : Trivia :=
  let pending := ⟨start, text, true, none, t.sawNewline, true⟩ :: t.pending
  if t.sawNewline || t.afterOpener then { t with pending := pending, sawNewline := true }
  else { t with settled := pending ++ t.settled, pending := [], sawNewline := true }

/-- The comments still pending lead `token`. -/
def token (t : Trivia) (token : Token) : Trivia :=
  let led := t.pending.map fun c => { c with leads := some token.start }
  { settled := led ++ t.settled, pending := [], sawNewline := false,
    afterOpener := token.isPunct .eq || token.isPunct .lparen }

end Trivia

/-- The state of reading: the place, the comments, and the faults found, newest first. -/
structure Lexer where
  cursor : Cursor
  trivia : Trivia
  errors : List Diagnostic
  deriving Inhabited

/-- The outcome of reading one token's text. -/
structure Scan where
  kind : TokenKind
  cursor : Cursor
  /-- Faults, newest first. -/
  errors : List Diagnostic
  deriving Inhabited

/-! ## Escapes -/

/-- Exactly `n` hexadecimal digits. -/
def readHex : Nat → Nat → Cursor → Option (Nat × Cursor)
  | 0, acc, c => some (acc, c)
  | n + 1, acc, c => do
    let d ← hexValue (← c.peek)
    readHex n (acc * 16 + d) c.step

/-- The hexadecimal digits up to a closing brace; the value stays within Unicode. -/
def readBraced (c : Cursor) : Option (Nat × Cursor) :=
  let (digits, c) := c.span fun d => (hexValue d).isSome
  let value := digits.foldl (fun n d => n * 16 + (hexValue d).getD 0) 0
  if digits.isEmpty || 0x10ffff < value || c.peek != some '}' then none else some (value, c.step)

def isHighSurrogate (n : Nat) : Bool := 0xd800 ≤ n && n ≤ 0xdbff

def isLowSurrogate (n : Nat) : Bool := 0xdc00 ≤ n && n ≤ 0xdfff

/-- A code point escape, after `\u`. Two halves of a pair make one code point. -/
def readCodePoint (c : Cursor) : Option (Nat × Cursor) :=
  if c.peek == some '{' then readBraced c.step else do
    let (high, c) ← readHex 4 0 c
    if isHighSurrogate high && c.startsWith ['\\', 'u'] then
      match readHex 4 0 (c.skip 2) with
      | some (low, c') =>
        if isLowSurrogate low then
          some (0x10000 + (high - 0xd800) * 0x400 + (low - 0xdc00), c')
        else some (high, c)
      | none => some (high, c)
    else some (high, c)

/-- The cooked text read so far, newest first; a lone surrogate is a number of its own. -/
abbrev Cooked := List Nat

/-- The four hexadecimal digits of a code unit. -/
def hex4 (n : Nat) : List Char :=
  let ds := Nat.toDigits 16 n
  List.replicate (4 - ds.length) '0' ++ ds

def isSurrogate (n : Nat) : Bool := 0xd800 ≤ n && n ≤ 0xdfff

/-- The value of a string from its code points in order. -/
def StringValue.ofCodePoints (cs : List Nat) : StringValue :=
  let lone := cs.any isSurrogate
  let spell (n : Nat) : List Char :=
    if isSurrogate n || (lone && n == 0xfffd) then '\ufffd' :: hex4 n else [Char.ofNat n]
  ⟨String.ofList (cs.flatMap spell), lone⟩

/-- One escape, after its backslash: what it stands for, the place after it, and whether it is
legal. -/
def readEscape (c : Cursor) : Cooked × Cursor × Bool :=
  match c.rest with
  | [] => ([], c, true)
  | e :: _ =>
    let next := c.step
    let one (n : Nat) : Cooked × Cursor × Bool := ([n], next, true)
    match e with
    | '\r' => ([], if next.peek == some '\n' then next.step else next, true)
    | '\n' | '\u2028' | '\u2029' => ([], next, true)
    | 'n' => one 10
    | 't' => one 9
    | 'v' => one 11
    | 'b' => one 8
    | 'f' => one 12
    | 'r' => one 13
    | 'x' =>
      match readHex 2 0 next with
      | some (n, c) => ([n], c, true)
      | none => ([], next, false)
    | 'u' =>
      match readCodePoint next with
      | some (n, c) => ([n], c, true)
      | none => ([], next, false)
    | _ =>
      if '0' ≤ e && e ≤ '7' then
        let first := e.toNat - 48
        let limit := if first ≤ 3 then 2 else 1
        let digits := (next.rest.take limit).takeWhile fun d => '0' ≤ d && d ≤ '7'
        ([digits.foldl (fun n d => n * 8 + (d.toNat - 48)) first], next.skip digits.length, true)
      else one e.toNat

/-! ## Literals -/

/-- A quoted string, after its opening quote. -/
def scanString (quote : Char) : Nat → Cursor → Cooked → List Diagnostic → Scan
  | 0, c, _, errors => ⟨.invalid, c, .unterminatedString :: errors⟩
  | fuel + 1, c, cooked, errors =>
    match c.peek with
    | none => ⟨.invalid, c, .unterminatedString :: errors⟩
    | some '\\' =>
      let (value, next, legal) := readEscape c.step
      scanString quote fuel next (value ++ cooked)
        (if legal then errors else .invalidEscape :: errors)
    | some x =>
      if x == quote then ⟨.string (.ofCodePoints cooked.reverse), c.step, errors⟩
      else if x == '\n' || x == '\r' then ⟨.invalid, c.step, .unterminatedString :: errors⟩
      else scanString quote fuel c.step (x.toNat :: cooked) errors

/-- The quoted value of an element's attribute: no escapes, and lines may end in it. -/
def scanJsxString (quote : Char) (c : Cursor) : Scan :=
  let (text, next) := c.span (· != quote)
  match next.peek with
  | none => ⟨.invalid, next, [.unterminatedString]⟩
  | some _ => ⟨.string ⟨String.ofList text, false⟩, next.step, []⟩

/-- Line ends of templates are plain newlines. -/
def normalizeNewlines : List Char → List Char
  | '\r' :: '\n' :: rest => '\n' :: normalizeNewlines rest
  | '\r' :: rest => '\n' :: normalizeNewlines rest
  | c :: rest => c :: normalizeNewlines rest
  | [] => []

/-- The chunk made of a stretch of template text, given newest first. -/
def templateChunk (raw : List Char) (first last valid : Bool) : TokenKind :=
  let raw := raw.reverse
  .template ⟨String.ofList (if valid then normalizeNewlines raw else raw), first, last, valid⟩

/-- A template's text, after the backtick that opens it or the brace that closes a hole. -/
def scanTemplate (first : Bool) : Nat → Cursor → List Char → Bool → Scan
  | 0, c, _, _ => ⟨.invalid, c, [.unterminatedString]⟩
  | fuel + 1, c, raw, valid =>
    match c.rest with
    | [] => ⟨.invalid, c, [.unterminatedString]⟩
    | '\x60' :: _ => ⟨templateChunk raw first true valid, c.step, []⟩
    | '$' :: '{' :: _ => ⟨templateChunk raw first false valid, c.skip 2, []⟩
    | '\\' :: e :: _ =>
      let (_, next, legal) := readEscape c.step
      -- digits other than a lone zero are no escapes in a template
      let digit := e.isDigit && !(e == '0' && !(c.rest.drop 2).head?.any Char.isDigit)
      let taken := (c.rest.take (next.offset - c.offset)).reverse
      scanTemplate first fuel next (taken ++ raw) (valid && legal && !digit)
    | x :: _ => scanTemplate first fuel c.step (x :: raw) valid

/-- The pattern of a regular expression, newest first, after its opening slash. -/
def scanRegexBody : Nat → Cursor → List Char → (escape bracket : Bool) → Option (List Char × Cursor)
  | 0, _, _, _, _ => none
  | fuel + 1, c, acc, escape, bracket =>
    match c.peek with
    | none => none
    | some x =>
      if isLineEnd x then none
      else if escape then scanRegexBody fuel c.step (x :: acc) false bracket
      else if x == '/' && !bracket then some (acc, c.step)
      else
        let bracket := if x == '[' then true else if x == ']' then false else bracket
        scanRegexBody fuel c.step (x :: acc) (x == '\\') bracket

/-- The order in which the flags of a regular expression are written. -/
def regexFlagOrder : List Char := ['d', 'g', 'i', 'm', 's', 'u', 'v', 'y']

/-- Sorts out the flags: those known, once each, and the faults in the rest, newest first. -/
def readFlags (cs : List Char) : List Char × List Diagnostic :=
  cs.foldl (fun (flags, errors) c =>
    if !regexFlagOrder.contains c then (flags, .regexFlag c :: errors)
    else if flags.contains c then (flags, .regexFlagTwice c :: errors)
    else (flags ++ [c], errors)) ([], [])

/-- A regular expression, after its opening slash; what came of the slash is in `opened`. -/
def scanRegex (fuel : Nat) (opened : List Char) (c : Cursor) : Scan :=
  match scanRegexBody fuel c opened false false with
  | none =>
    let (_, next) := c.span fun x => !isLineEnd x
    ⟨.regex "" "", next, [.unterminatedRegex]⟩
  | some (pattern, next) =>
    let (letters, next) := next.span fun x => x.isAlphanum || x == '$' || x == '_'
    let (flags, errors) := readFlags letters
    ⟨.regex (String.ofList pattern.reverse) (String.ofList (regexFlagOrder.filter flags.contains)),
      next, errors⟩

/-! ## Numbers -/

/-- Digits with single underscores between them, after a first digit. The flag tells whether an
underscore lacked its digit; the place is then behind the underscore. -/
def spanDigits (isDigit : Char → Bool) : Nat → Cursor → List Char → List Char × Cursor × Bool
  | 0, c, acc => (acc.reverse, c, true)
  | fuel + 1, c, acc =>
    match c.rest with
    | '_' :: d :: _ =>
      if isDigit d then spanDigits isDigit fuel (c.skip 2) (d :: acc)
      else (acc.reverse, c.step, false)
    | ['_'] => (acc.reverse, c.step, false)
    | d :: _ =>
      if isDigit d then spanDigits isDigit fuel c.step (d :: acc) else (acc.reverse, c, true)
    | [] => (acc.reverse, c, true)

/-- The fault of finding the wrong character, or none, at `c`. -/
def Cursor.unexpected (c : Cursor) : Diagnostic :=
  match c.peek with
  | some x => .invalidCharacter x
  | none => .unexpectedEnd

/-- A number is not followed at once by a letter or digit. -/
def checkNumberEnd (kind : TokenKind) (c : Cursor) (errors : List Diagnostic) : Scan :=
  match c.peek with
  | none => ⟨kind, c, errors⟩
  | some x =>
    if x.isDigit || isIdStart x then
      let (_, next) := c.step.span isIdStart
      ⟨.invalid, next, .invalidNumberEnd :: errors⟩
    else ⟨kind, c, errors⟩

def digitsValue (base : Nat) (ds : List Char) : Nat :=
  ds.foldl (fun n d => n * base + (hexValue d).getD 0) 0

/-- Digits that must be there: the digits, the place after, and the fault if any. -/
def requiredDigits (fuel : Nat) (c : Cursor) : List Char × Cursor × List Diagnostic :=
  match c.peek with
  | some d =>
    if d.isDigit then
      let (ds, next, ok) := spanDigits Char.isDigit fuel c []
      (ds, next, if ok then [] else [next.unexpected])
    else ([], c, [c.unexpected])
  | none => ([], c, [c.unexpected])

/-- An exponent after its `e`: its value, the place after, the faults. -/
def readExponent (fuel : Nat) (c : Cursor) : Int × Cursor × List Diagnostic :=
  let negative := c.peek == some '-'
  let c := if negative || c.peek == some '+' then c.step else c
  let (ds, next, errors) := requiredDigits fuel c
  let n : Int := digitsValue 10 ds
  (if negative then -n else n, next, errors)

/-- The number with these digits before and after the point, at the place of a possible
exponent. -/
def finishDecimal (fuel : Nat) (whole fraction : List Char) (form : NumberForm) (c : Cursor)
    (errors : List Diagnostic) : Scan :=
  let atExponent := c.peek == some 'e' || c.peek == some 'E'
  let (e, c, more) := if atExponent then readExponent fuel c.step else (0, c, [])
  let form := if atExponent && form == .decimal then .exponential else form
  let value := Double.ofDecimal (digitsValue 10 (whole ++ fraction)) (e - fraction.length)
  checkNumberEnd (.number form value.bits) c (more ++ errors)

/-- What follows the digits before a possible point. -/
def afterWhole (fuel : Nat) (whole : List Char) (c : Cursor) (errors : List Diagnostic)
    (allowBig : Bool) : Scan :=
  match c.peek with
  | some '.' =>
    let c := c.step
    if c.peek.any Char.isDigit then
      let (ds, next, ok) := spanDigits Char.isDigit fuel c []
      finishDecimal fuel whole ds .float next
        (if ok then errors else next.unexpected :: errors)
    else finishDecimal fuel whole [] .float c errors
  | some 'n' =>
    if allowBig then checkNumberEnd (.bigint (digitsValue 10 whole)) c.step errors
    else finishDecimal fuel whole [] .decimal c errors
  | _ => finishDecimal fuel whole [] .decimal c errors

/-- A number with a base prefix, after the prefix. -/
def scanBased (fuel : Nat) (form : NumberForm) (base : Nat) (c : Cursor) : Scan :=
  let isDigit (d : Char) : Bool := (hexValue d).any (· < base)
  if !c.peek.any isDigit then ⟨.invalid, c, [c.unexpected]⟩ else
  let (ds, next, ok) := spanDigits isDigit fuel c []
  if !ok then ⟨.invalid, next, [next.unexpected]⟩ else
  if next.peek == some 'n' then checkNumberEnd (.bigint (digitsValue base ds)) next.step []
  else checkNumberEnd (.number form (Double.ofNat (digitsValue base ds)).bits) next []

/-- A number that starts with a zero and another digit: octal unless an `8` or `9` is in it. An
exponent right behind such digits takes a small `e` only. -/
def scanLeadingZero (fuel : Nat) (c : Cursor) : Scan :=
  let (ds, next) := c.span Char.isDigit
  if ds.any fun d => d == '8' || d == '9' then
    if next.peek == some 'E' then
      checkNumberEnd (.number .decimal (Double.ofNat (digitsValue 10 ds)).bits) next []
    else afterWhole fuel ds next [] false
  else checkNumberEnd (.number .octal (Double.ofNat (digitsValue 8 ds)).bits) next []

/-- A number, at its first digit. -/
def scanNumber (fuel : Nat) (c : Cursor) : Scan :=
  match c.rest with
  | '0' :: 'x' :: _ | '0' :: 'X' :: _ => scanBased fuel .hex 16 (c.skip 2)
  | '0' :: 'o' :: _ | '0' :: 'O' :: _ => scanBased fuel .octal 8 (c.skip 2)
  | '0' :: 'b' :: _ | '0' :: 'B' :: _ => scanBased fuel .binary 2 (c.skip 2)
  | '0' :: d :: _ =>
    if d.isDigit then scanLeadingZero fuel c else afterWhole fuel ['0'] c.step [] true
  | _ =>
    let (ds, next, ok) := spanDigits Char.isDigit fuel c []
    afterWhole fuel ds next (if ok then [] else [next.unexpected]) true

/-- A number that starts with a point. -/
def scanFraction (fuel : Nat) (c : Cursor) : Scan :=
  let (ds, next, ok) := spanDigits Char.isDigit fuel c.step []
  finishDecimal fuel [] ds .float next (if ok then [] else [next.unexpected])

/-! ## Words -/

/-- An identifier's letters, newest first, with escapes undone; the flag tells whether there were
any. -/
def scanWord : Nat → Cursor → List Char → Bool → List Diagnostic →
    List Char × Cursor × Bool × List Diagnostic
  | 0, c, acc, escaped, errors => (acc, c, escaped, errors)
  | fuel + 1, c, acc, escaped, errors =>
    match c.rest with
    | '\\' :: rest =>
      match rest with
      | 'u' :: _ =>
        match readCodePoint (c.skip 2) with
        | some (n, next) =>
          let x := Char.ofNat n
          let braced := (c.skip 2).peek == some '{'
          if isSurrogate n || (0xffff < n && !braced) then
            scanWord fuel next acc true (.invalidUnicodeEscape :: errors)
          else if (if acc.isEmpty then isIdStart x else isIdContinue x) then
            scanWord fuel next (x :: acc) true errors
          else scanWord fuel next acc true (.invalidCharacter x :: errors)
        | none => (acc, c.skip 2, true, .invalidUnicodeEscape :: errors)
      | _ => (acc, c.step, true, .invalidUnicodeEscape :: errors)
    | x :: _ =>
      if isIdContinue x then scanWord fuel c.step (x :: acc) escaped errors
      else (acc, c, escaped, errors)
    | [] => (acc, c, escaped, errors)

/-- An identifier or keyword. -/
def scanIdentifier (fuel : Nat) (c : Cursor) : Scan :=
  let (letters, next, escaped, errors) := scanWord fuel c [] false []
  let spelling := String.ofList (c.rest.take (next.offset - c.offset))
  ⟨.word (String.ofList letters.reverse) (if escaped then some spelling else none), next, errors⟩

/-- A private name, at its `#`. -/
def scanHidden (fuel : Nat) (c : Cursor) : Scan :=
  match c.step.peek with
  | some x =>
    if isIdStart x || x == '\\' then
      let (letters, next, _, errors) := scanWord fuel c.step [] false []
      ⟨.hidden (String.ofList letters.reverse), next, errors⟩
    else ⟨.invalid, c.skip 2, [.invalidCharacter x]⟩
  | none => ⟨.invalid, c.step, [.unexpectedEnd]⟩

/-! ## Signs -/

/-- The sign at the head of the text and its length. A `>` always stands alone here: the grammar
joins it with what follows where an operator is wanted. -/
def signOf : List Char → Option (Punct × Nat)
  | '{' :: _ => some (.lbrace, 1)
  | '}' :: _ => some (.rbrace, 1)
  | '(' :: _ => some (.lparen, 1)
  | ')' :: _ => some (.rparen, 1)
  | '[' :: _ => some (.lbrack, 1)
  | ']' :: _ => some (.rbrack, 1)
  | '.' :: '.' :: '.' :: _ => some (.ellipsis, 3)
  | '.' :: _ => some (.dot, 1)
  | ';' :: _ => some (.semicolon, 1)
  | ',' :: _ => some (.comma, 1)
  | ':' :: _ => some (.colon, 1)
  | '?' :: '?' :: '=' :: _ => some (.questionQuestionEq, 3)
  | '?' :: '?' :: _ => some (.questionQuestion, 2)
  | '?' :: '.' :: d :: _ => if d.isDigit then some (.question, 1) else some (.questionDot, 2)
  | '?' :: '.' :: _ => some (.questionDot, 2)
  | '?' :: _ => some (.question, 1)
  | '@' :: _ => some (.at, 1)
  | '~' :: _ => some (.tilde, 1)
  | '=' :: '=' :: '=' :: _ => some (.eqEqEq, 3)
  | '=' :: '=' :: _ => some (.eqEq, 2)
  | '=' :: '>' :: _ => some (.arrow, 2)
  | '=' :: _ => some (.eq, 1)
  | '!' :: '=' :: '=' :: _ => some (.bangEqEq, 3)
  | '!' :: '=' :: _ => some (.bangEq, 2)
  | '!' :: _ => some (.bang, 1)
  | '<' :: '<' :: '=' :: _ => some (.shlEq, 3)
  | '<' :: '<' :: _ => some (.shl, 2)
  | '<' :: '=' :: _ => some (.le, 2)
  | '<' :: _ => some (.lt, 1)
  | '>' :: _ => some (.gt, 1)
  | '+' :: '+' :: _ => some (.plusPlus, 2)
  | '+' :: '=' :: _ => some (.plusEq, 2)
  | '+' :: _ => some (.plus, 1)
  | '-' :: '-' :: _ => some (.minusMinus, 2)
  | '-' :: '=' :: _ => some (.minusEq, 2)
  | '-' :: _ => some (.minus, 1)
  | '*' :: '*' :: '=' :: _ => some (.starStarEq, 3)
  | '*' :: '*' :: _ => some (.starStar, 2)
  | '*' :: '=' :: _ => some (.starEq, 2)
  | '*' :: _ => some (.star, 1)
  | '/' :: '=' :: _ => some (.slashEq, 2)
  | '/' :: _ => some (.slash, 1)
  | '%' :: '=' :: _ => some (.percentEq, 2)
  | '%' :: _ => some (.percent, 1)
  | '&' :: '&' :: '=' :: _ => some (.ampAmpEq, 3)
  | '&' :: '&' :: _ => some (.ampAmp, 2)
  | '&' :: '=' :: _ => some (.ampEq, 2)
  | '&' :: _ => some (.amp, 1)
  | '|' :: '|' :: '=' :: _ => some (.pipePipeEq, 3)
  | '|' :: '|' :: _ => some (.pipePipe, 2)
  | '|' :: '=' :: _ => some (.pipeEq, 2)
  | '|' :: _ => some (.pipe, 1)
  | '^' :: '=' :: _ => some (.caretEq, 2)
  | '^' :: _ => some (.caret, 1)
  | _ => none

/-- The longest sign that starts with the given `>`. -/
def signOfGt : List Char → Punct × Nat
  | '>' :: '>' :: '>' :: '=' :: _ => (.ushrEq, 4)
  | '>' :: '>' :: '>' :: _ => (.ushr, 3)
  | '>' :: '>' :: '=' :: _ => (.shrEq, 3)
  | '>' :: '>' :: _ => (.shr, 2)
  | '>' :: '=' :: _ => (.ge, 2)
  | _ => (.gt, 1)

/-! ## Tokens -/

/-- The text of a block comment up to its end, newest first, and whether a line ends in it. -/
def scanBlockComment : Nat → Cursor → List Char → Bool → Option (List Char × Cursor × Bool)
  | 0, _, _, _ => none
  | fuel + 1, c, acc, newline =>
    match c.rest with
    | '*' :: '/' :: _ => some ('/' :: '*' :: acc, c.skip 2, newline)
    | x :: _ => scanBlockComment fuel c.step (x :: acc) (newline || isLineEnd x)
    | [] => none

namespace Lexer

/-- A comment up to the end of its line. -/
def lineComment (l : Lexer) : Lexer :=
  let (text, next) := l.cursor.span fun x => !isLineEnd x
  { l with cursor := next, trivia := l.trivia.addLine l.cursor.offset (String.ofList text) }

/-- Skips blanks, line ends and comments; tells whether a line ended. `html` says whether the
comment signs `<!--` and `-->` of documents count. An unclosed comment runs to the end. -/
def skipTrivia (html : Bool) : Nat → Lexer → Bool → Lexer × Bool
  | 0, l, newLine => (l, newLine)
  | fuel + 1, l, newLine =>
    match l.cursor.rest with
    | [] => (l, newLine)
    | '\n' :: _ | '\r' :: _ =>
      skipTrivia html fuel { l with cursor := l.cursor.step, trivia := l.trivia.newline } true
    | '/' :: '/' :: _ => skipTrivia html fuel l.lineComment newLine
    | '/' :: '*' :: _ =>
      match scanBlockComment fuel (l.cursor.skip 2) ['*', '/'] false with
      | some (text, next, ended) =>
        let trivia := l.trivia.addBlock l.cursor.offset (String.ofList text.reverse)
        skipTrivia html fuel { l with cursor := next, trivia := trivia } (newLine || ended)
      | none =>
        let l := { l with cursor := l.cursor.skip l.cursor.rest.length }
        ({ l with errors := .unterminatedComment :: l.errors }, newLine)
    | '<' :: '!' :: '-' :: '-' :: _ =>
      if html then skipTrivia html fuel l.lineComment newLine else (l, newLine)
    | '-' :: '-' :: '>' :: _ =>
      if html && newLine then skipTrivia html fuel l.lineComment newLine else (l, newLine)
    | x :: _ =>
      if isBlank x then skipTrivia html fuel { l with cursor := l.cursor.step } newLine
      else if isWideLineEnd x then skipTrivia html fuel { l with cursor := l.cursor.step } true
      else (l, newLine)

/-- Reads the token at the place of `l`. -/
def scanHere (fuel : Nat) (jsxValue : Bool) (c : Cursor) : Scan :=
  match c.rest with
  | [] => ⟨.eof, c, []⟩
  | '"' :: _ => if jsxValue then scanJsxString '"' c.step else scanString '"' fuel c.step [] []
  | '\'' :: _ => if jsxValue then scanJsxString '\'' c.step else scanString '\'' fuel c.step [] []
  | '\x60' :: _ => scanTemplate true fuel c.step [] true
  | '#' :: _ => scanHidden fuel c
  | '\\' :: _ => scanIdentifier fuel c
  | '.' :: d :: rest =>
    if d.isDigit then scanFraction fuel c
    else match signOf ('.' :: d :: rest) with
      | some (sign, n) => ⟨.punct sign, c.skip n, []⟩
      | none => ⟨.invalid, c.step, [.invalidCharacter '.']⟩
  | x :: _ =>
    if x.isDigit then scanNumber fuel c
    else if isIdStart x then scanIdentifier fuel c
    else match signOf c.rest with
      | some (sign, n) => ⟨.punct sign, c.skip n, []⟩
      | none => ⟨.invalid, c.step, [.invalidCharacter x]⟩

/-- Takes a scan that started at `start` as the next token. -/
def accept (l : Lexer) (start : Nat) (newLine : Bool) (scan : Scan) : Token × Lexer :=
  let token : Token := ⟨scan.kind, start, scan.cursor.offset, newLine⟩
  (token, ⟨scan.cursor, l.trivia.token token, scan.errors ++ l.errors⟩)

/-- The next token. The first token of a source counts as standing on a new line. -/
def next (fuel : Nat) (html jsxValue : Bool) (l : Lexer) : Token × Lexer :=
  let (l, newLine) := skipTrivia html fuel l (l.cursor.offset == 0)
  l.accept l.cursor.offset newLine (scanHere fuel jsxValue l.cursor)

/-- The next token among the children of an element: text up to a tag or a hole. -/
def nextJsxChild (l : Lexer) : Token × Lexer :=
  let c := l.cursor
  let scan : Scan :=
    match c.rest with
    | [] => ⟨.eof, c, []⟩
    | '<' :: _ => ⟨.punct .lt, c.step, []⟩
    | '{' :: _ => ⟨.punct .lbrace, c.step, []⟩
    | _ =>
      let (text, next) := c.span fun x => x != '{' && x != '}' && x != '<' && x != '>'
      match next.peek with
      | some '}' => ⟨.invalid, next.step, [.jsxTextCharacter '}' "rbrace"]⟩
      | some '>' => ⟨.invalid, next.step, [.jsxTextCharacter '>' "gt"]⟩
      | _ => ⟨.jsxText (String.ofList text), next, []⟩
  l.accept c.offset false scan

/-- Extends the word `t`, just read, by hyphens and further letters, as the names of elements and
attributes have them. Escapes in such a name stand for themselves. -/
def extendJsxName (l : Lexer) (t : Token) : Token × Lexer :=
  match t.kind with
  | .word name spelling =>
    let (more, next) := l.cursor.span fun x => x == '-' || isIdContinue x
    let name := spelling.getD name ++ String.ofList more
    ({ t with kind := .word name none, stop := next.offset }, { l with cursor := next })
  | _ => (t, l)

/-- Reads the `}` token `t`, just read, as the end of a template's hole. -/
def retemplate (fuel : Nat) (l : Lexer) (t : Token) : Token × Lexer :=
  let scan := scanTemplate false fuel l.cursor [] true
  ({ t with kind := scan.kind, stop := scan.cursor.offset },
    { l with cursor := scan.cursor, errors := scan.errors ++ l.errors })

/-- Reads the `/` or `/=` token `t`, just read, as the start of a regular expression. -/
def reregex (fuel : Nat) (l : Lexer) (t : Token) : Token × Lexer :=
  let opened := if t.isPunct .slashEq then ['='] else []
  let scan := scanRegex fuel opened l.cursor
  ({ t with kind := scan.kind, stop := scan.cursor.offset },
    { l with cursor := scan.cursor, errors := scan.errors ++ l.errors })

/-- Joins the `>` token `t`, just read, with the signs behind it. -/
def joinGt (l : Lexer) (t : Token) : Token × Lexer :=
  if t.isPunct .gt then
    let (sign, n) := signOfGt ('>' :: l.cursor.rest)
    if n ≤ 1 then (t, l) else
    ({ t with kind := .punct sign, stop := t.start + n },
      { l with cursor := l.cursor.skip (n - 1) })
  else (t, l)

/-- Splits a `<<`, `<<=` or `<=` token `t`, just read, after its first sign. -/
def splitLt (l : Lexer) (t : Token) : Token × Lexer :=
  let back (signs : List Char) : Token × Lexer :=
    let c := l.cursor
    ({ t with kind := .punct .lt, stop := t.start + 1 },
      { l with cursor := ⟨signs ++ c.rest, c.offset - signs.length⟩ })
  match t.kind with
  | .punct .shl => back ['<']
  | .punct .shlEq => back ['<', '=']
  | .punct .le => back ['=']
  | _ => (t, l)

end Lexer

end LivePreview.Script
