import LivePreview.Script.Parser.Types
import LivePreview.Script.Parser.Targets

/-!
# Functions, arrows and bindings
-/

namespace LivePreview.Script

open LivePreview.Script.Parser

namespace Grammar

variable (g : Grammar)

/-! ## Bindings -/

/-- A pattern with an optional default. -/
def patternWithDefault : Parser Pattern := do
  let start ← startPos
  let target ← g.pattern
  match ← initializer? g with
  | some value => return .default (← spanFrom start) target value
  | none => return target

/-- One property of an object pattern, not the rest. -/
def patternProperty : Parser PatternProperty := do
  let start ← startPos
  let t ← token
  let key ← propertyKey g
  match key with
  | .name span name =>
    if t.isBinding && !(← at? .colon) then
      checkName name
      let target := Pattern.name span name
      match ← initializer? g with
      | some value =>
        let span ← spanFrom start
        return .mk span key (.default span target value) true
      | none => return .mk (← spanFrom start) key target true
    if !(← at? .colon) && !t.isBinding then
      if isReservedWord name && !(← at? .colon) then failExpected ":"
  | _ => pure ()
  expect .colon
  let value ← patternWithDefault g
  return .mk (← spanFrom start) key value false

/-- A list entry, or the rest that ends the list. -/
inductive Entry (α β : Type) where
  | item (value : α)
  | rest (value : β)

/-- The entries of a list with a rest; nothing but a fault follows the rest. -/
def splitRest {α β : Type} (entries : List (Entry α β)) (trailing : Bool) :
    Parser (List α × Option β) := do
  let mut items : List α := []
  let mut rest : Option β := none
  for entry in entries do
    match entry with
    | .item value =>
      if rest.isSome then report .spreadNotLast
      items := value :: items
    | .rest value =>
      if rest.isSome then report .spreadNotLast
      rest := some value
  if rest.isSome && trailing then report .restTrailingComma
  return (items.reverse, rest)

/-- What follows the `...` of a pattern: no name before it, and no default behind it. -/
def restTarget : Parser Pattern := do
  let target ← g.pattern
  if ← eat .colon then
    report .restName
    let _ ← g.pattern
  if (← initializer? g).isSome then report .restInitializer
  return target

def objectPattern : Parser Pattern := do
  let start ← startPos
  expect .lbrace
  let (entries, trailing) ← enclosed (delimited .rbrace .comma do
    if ← eat .ellipsis then
      let target ← restTarget g
      if isStructured target then report .restTarget
      return Entry.rest target
    return Entry.item (← patternProperty g))
  expect .rbrace
  let (properties, rest) ← splitRest entries trailing
  return .object (← spanFrom start) properties rest

def arrayPattern : Parser Pattern := do
  let start ← startPos
  expect .lbrack
  let (entries, trailing) ← enclosed (delimited .rbrack .comma do
    if ← at? .comma then return Entry.item none
    if ← eat .ellipsis then return Entry.rest (← restTarget g)
    return Entry.item (some (← patternWithDefault g)))
  expect .rbrack
  let (elements, rest) ← splitRest entries trailing
  return .array (← spanFrom start) elements rest

/-- What may be bound: a name, or an object or array of such. -/
def anyPattern : Parser Pattern := do
  let t ← token
  if t.isPunct .lbrace then objectPattern g
  else if t.isPunct .lbrack then arrayPattern g
  else
    let (span, name) ← bindingName
    return .name span name

/-! ## Bodies -/

/-- Splits off the directives: the leading statements that are a string by itself. The text of a
directive is kept as it is written, without its quotes. -/
def splitDirectives (source : Nat → Nat → String) : List Stmt → List (Span × String) × List Stmt
  | .expr span (.literal inner (.string value)) :: rest =>
    if span.start == inner.start then
      let (directives, statements) := splitDirectives source rest
      ((span, source (inner.start + 1) (inner.stop - 1)) :: directives, statements)
    else ([], .expr span (.literal inner (.string value)) :: rest)
  | statements => ([], statements)

/-- The statements up to a closing brace or the end, with their directives. -/
def statements : Parser (List Stmt) :=
  manyUntil (do return (← at? .rbrace) || (← token).isEof) (g.stmt .list)

/-- Statements with their braces. The directives' text is cut from the source at `origin`, the
place of the brace. -/
def bracedBody : Parser Body := do
  let start ← startPos
  let origin := (← state).lexer.cursor
  expect .lbrace
  let cut (first last : Nat) : String :=
    String.ofList ((origin.rest.drop (first - origin.offset)).take (last - first))
  let body ← enclosed (within (fun c => { c with allowIn := true }) (statements g))
  expect .rbrace
  let (directives, body) := splitDirectives cut body
  return .mk (← spanFrom start) directives body

def functionBody : Parser Body :=
  within (fun c => { c with inFunction := true }) (bracedBody g)

/-- What a function is part of. -/
inductive FunctionPlace where
  | declaration
  | defaultExport
  | expression
  | constructor
  | method
  deriving DecidableEq

/-- A function from its parameters on. -/
def functionRest (lhs : Parser Expr) (start : Nat) (name : Option (Span × String))
    (place : FunctionPlace) (flags : FunctionFlags) : Parser (Function × Bool) := do
  let ((params, typedThis), types, result, body) ← within
    (fun c => { c with
      allowIn := true, inAsync := flags.async, inGenerator := flags.generator,
      inDecorator := false }) do
    let (head, types) ← collecting do
      typeParameters? g
      parameters g lhs (place == .constructor)
    let (_, result) ← collecting (returnType? g .colon)
    let body ← (do
      if ← at? .lbrace then return some (← functionBody g)
      return none)
    return (head, types, result, body)
  if body.isNone then
    if !(← types?) then fail .functionBody
    endStatement
  else if (← scope).ambient then report .ambientImplementation
  return (.mk (← spanFrom start) name flags types params result body, typedThis)

/-- The name of a function, after its `function` and star. -/
def functionName (place : FunctionPlace) (async generator : Bool) :
    Parser (Option (Span × String)) := do
  let t ← token
  if t.isBinding then
    let named := if place == .expression then
        within (fun c => { c with inAsync := async, inGenerator := generator }) bindingName
      else bindingName
    return some (← named)
  if place == .declaration then
    if t.isPunct .lparen then report .functionNameExpected
    else if t.isName then failExpected "Identifier"
  return none

/-- A comment that marks the function behind it as free of effects. -/
def Comment.isFree (c : Comment) : Bool := c.hasMark "__NO_SIDE_EFFECTS__"

/-- The current token is led by a comment that marks a function. -/
def freeHere : Parser Bool := ledBy Comment.isFree

/-- A function, at its `function`; an `async` before it is already read. -/
def functionFrom (lhs : Parser Expr) (start : Nat) (async : Bool) (place : FunctionPlace)
    (ambient : Bool) : Parser Function := do
  expectWord "function"
  let generator ← eat .star
  let name ← functionName place async generator
  return (← functionRest g lhs start name place ⟨async, generator, ambient, false⟩).1

/-! ## Arrow functions -/

/-- Whether an arrow function starts here, as far as a look at the next tokens tells. -/
inductive ArrowGuess where
  | yes
  | no
  | maybe
  deriving DecidableEq, Inhabited

/-- The guess at a `(`. -/
def guessAtParen : Parser ArrowGuess := do
  advance
  let t ← token
  if t.isPunct .rparen then
    advance
    let t ← token
    return if t.isPunct .arrow || t.isPunct .colon || t.isPunct .lbrace then .yes else .no
  if t.isPunct .ellipsis then
    advance
    let t ← token
    return if t.isBinding || t.isWord "this" then .yes else .maybe
  if t.isPunct .lbrack || t.isPunct .lbrace then return .maybe
  if let .word name _ := t.kind then
    if modifierWords.contains name && name != "async" then
      let next ← peek
      if next.isBinding then
        return if next.isWord "as" then .no else .yes
  if !t.isBinding && !t.isWord "this" then return .no
  advance
  let t ← token
  if t.isPunct .colon then return .yes
  if t.isPunct .question then
    advance
    let t ← token
    return if t.isPunct .colon || t.isPunct .comma || t.isPunct .eq || t.isPunct .rparen
      then .yes else .no
  return if t.isPunct .comma || t.isPunct .eq || t.isPunct .rparen then .maybe else .no

/-- The guess at a `<`: type parameters, or an element. -/
def guessAtAngle : Parser ArrowGuess := do
  advance
  let t ← token
  if !t.isBinding && !t.isWord "const" then return .no
  if ← jsx? then
    let _ ← eatWord "const"
    advance
    let t ← token
    if t.isWord "extends" then
      advance
      let t ← token
      return if t.isPunct .eq || t.isPunct .gt || t.isPunct .slash then .no else .yes
    return if t.isPunct .comma || t.isPunct .eq then .yes else .no
  return .maybe

def guessArrow : Parser ArrowGuess := do
  let t ← token
  if t.isPunct .lparen then lookahead .no guessAtParen
  else if t.isPunct .lt then lookahead .no guessAtAngle
  else if t.isWord "async" then
    lookahead .no do
      advance
      let t ← token
      if t.newLine then return .no
      if t.isPunct .lparen then guessAtParen
      else if t.isPunct .lt then guessAtAngle
      else return .no
  else return .no

/-- What stands before the body of an arrow function. -/
structure ArrowHead where
  async : Bool
  types : List TypePart
  params : List Param
  /-- The result type is given. -/
  typed : Bool
  result : List TypePart

/-- An arrow function up to and with its arrow. -/
def arrowHead (lhs : Parser Expr) : Parser ArrowHead := do
  let async ← eatWord "async"
  let head ← within (fun c => { c with inAsync := c.inAsync || async }) do
    let ((params, typedThis), types) ← collecting do
      typeParameters? g
      parameters g lhs false
    if typedThis then report .arrowThis
    let (typed, result) ← collecting (returnType? g .colon)
    return { async, types, params, typed, result }
  if (← at? .arrow) && (← newLine?) then report .lineBreakBeforeArrow
  expect .arrow
  return head

/-- The arrow function with the head and body; a comment before it may mark it (`free`). -/
def ArrowHead.close (head : ArrowHead) (span : Span) (free : Bool) (body : ArrowBody) : Expr :=
  .arrow span { async := head.async, pure := free } head.types head.params head.result body

/-- The body of an arrow function. -/
def arrowBody (async allowResult : Bool) : Parser ArrowBody :=
  within (fun c => { c with inAsync := async, inGenerator := false }) do
    if ← at? .lbrace then return .block (← functionBody g)
    return .expr (← g.assign allowResult)

/-- An arrow function with bracketed parameters, or nothing if there is none here. -/
def arrowFunction? (lhs : Parser Expr) (allowResult : Bool) : Parser (Option Expr) := do
  let free ← freeHere
  match ← guessArrow with
  | .no => return none
  | .yes =>
    let start ← startPos
    let head ← arrowHead g lhs
    let body ← arrowBody g head.async true
    return some (head.close (← spanFrom start) free body)
  | .maybe => orBack do
    let start ← startPos
    match ← attempt (arrowHead g lhs) with
    | none => return none
    | some head =>
      let body ← arrowBody g head.async allowResult
      if !allowResult && head.typed && !(← at? .colon) then return none
      return some (head.close (← spanFrom start) free body)

/-- An arrow function whose only parameter is the name just read. -/
def simpleArrow (start : Nat) (async free : Bool) (span : Span) (name : String)
    (allowResult : Bool) : Parser Expr := do
  if ← newLine? then report .lineBreakBeforeArrow
  expect .arrow
  let body ← arrowBody g async allowResult
  let head : ArrowHead :=
    { async, types := [], params := [.mk span [] (.name span name) [] false false],
      typed := false, result := [] }
  return head.close (← spanFrom start) free body

/-- `async x => …`, or nothing if there is none here. -/
def asyncSimpleArrow? (allowResult : Bool) : Parser (Option Expr) := do
  if !(← atWord? "async") then return none
  let found ← lookahead false do
    advance
    let t ← token
    if t.newLine || t.isPunct .arrow || !t.isBinding then return false
    advance
    at? .arrow
  if !found then return none
  let free ← freeHere
  let start ← startPos
  advance
  let (span, name) ← referenceName
  return some (← simpleArrow g start true free span name allowResult)

end Grammar

end LivePreview.Script
