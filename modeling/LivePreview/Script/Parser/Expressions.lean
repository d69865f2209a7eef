import LivePreview.Script.Parser.Classes
import LivePreview.Script.Parser.Elements

/-!
# Expressions
-/

namespace LivePreview.Script

open LivePreview.Script.Parser

namespace Grammar

variable (g : Grammar)

/-! ## Literals -/

/-- Notes that the array or object at `start` ends in a comma. -/
def noteTrailing (start : Nat) (trailing : Bool) : Parser Unit :=
  if trailing then modify fun s => { s with trailing := start :: s.trailing } else pure ()

def arrayLiteral : Parser Expr := do
  let start ← startPos
  expect .lbrack
  let (elements, trailing) ← bracketed (delimited .rbrack .comma do
    if ← at? .comma then return none
    return some (← argument g))
  expect .rbrack
  noteTrailing start trailing
  return .array (← spanFrom start) elements

/-- The word `name` refers to a binding here. -/
def refersHere (name : String) : Parser Bool := do
  let c ← scope
  return !isReservedWord name && !(name == "yield" && c.inGenerator)
    && !(name == "await" && c.inAsync)

/-- A property of an object, not a spread. -/
def property : Parser Property := do
  let start ← startPos
  let names ← modifiers false false
  match ← accessorKind? with
  | some kind =>
    let key ← propertyKey g
    let value ← method g false false
    checkAccessor kind value
    return .accessor (← spanFrom start) kind key value
  | none =>
    let generator ← eat .star
    let t ← token
    let key ← propertyKey g
    let next ← token
    if generator || next.isPunct .lparen || next.isPunct .lt then
      checkModifiers names ["async"] .modifierHere
      let value ← method g (names.contains "async") generator
      return .method (← spanFrom start) key value
    let short : Option String ← match key, t.kind with
      | .name _ name, .word _ _ =>
        if !next.isPunct .colon && (← refersHere name) then pure (some name) else pure none
      | _, _ => pure none
    match short with
    | some name =>
      if ← eat .eq then
        let value ← withIn (g.assign true)
        modify fun s => { s with covers := start :: s.covers }
        checkModifiers names [] .modifierHere
        return .shorthand (← spanFrom start) name (some value)
      checkModifiers names [] .modifierHere
      return .shorthand (← spanFrom start) name none
    | none =>
      expect .colon
      let value ← withIn (g.assign true)
      checkModifiers names [] .modifierHere
      return .keyed (← spanFrom start) key value

def objectLiteral : Parser Expr := do
  let start ← startPos
  expect .lbrace
  let (members, trailing) ← bracketed (delimited .rbrace .comma do
    if ← at? .ellipsis then
      match ← spread g with
      | .spread span arg => return .spread span arg
      | e => return .spread e.span e
    property g)
  expect .rbrace
  noteTrailing start trailing
  return .object (← spanFrom start) members

/-- An expression in brackets. -/
def parenthesized : Parser Expr := do
  let start ← startPos
  expect .lparen
  let inner ← startPos
  let (items, trailing) ← bracketed (delimited .rparen .comma (g.assign true))
  if trailing then fail .parenTrailingComma
  match items with
  | [] =>
    expect .rparen
    fail .emptyParens
  | [e] =>
    expect .rparen
    return .paren (← spanFrom start) e
  | items =>
    let span ← spanFrom inner
    expect .rparen
    return .paren (← spanFrom start) (.sequence span items)

/-- A regular expression, at the `/` that opens it. -/
def regexLiteral : Parser Expr := do
  relex (fun fuel l t => l.reregex fuel t) Lexer.rereads_reregex
  if !(← state).lexer.errors.isEmpty then unexpected
  let t ← token
  match t.kind with
  | .regex pattern flags =>
    if flags.contains 'u' && flags.contains 'v' then report .regexFlagsTogether
    advance
    return .literal ⟨t.start, t.stop⟩ (.regex pattern flags)
  | _ => unexpected

/-! ## Expressions that start with a keyword -/

/-- `super`, behind which only a call or a property can stand. -/
def superHere : Parser Expr := do
  let t ← token
  advance
  let next ← token
  if !(next.isPunct .dot || next.isPunct .lbrack || next.isPunct .lparen) then report .bareSuper
  return .super ⟨t.start, t.stop⟩

/-- The arguments of an `import(…)`. -/
def importArguments (start : Nat) (phase : ImportPhase) : Parser Expr := do
  expect .lparen
  if ← eat .rparen then fail .importWithoutSpecifier
  let (source, options) ← bracketed do
    let source ← g.assign true
    if (← eat .comma) && !(← at? .rparen) then return (source, some (← g.assign true))
    return (source, none)
  let _ ← eat .comma
  if !(← eat .rparen) then fail .importArguments
  return .importCall (← spanFrom start) phase source options

/-- `import.meta` or an `import(…)`. -/
def importExpression : Parser Expr := do
  let start ← startPos
  advance
  if ← at? .lparen then importArguments g start .evaluation
  else if ← eat .dot then
    let t ← token
    if t.isWord "meta" then
      advance
      return .metaProperty (← spanFrom start) "import" "meta"
    if t.isWord "source" || t.isWord "defer" then
      advance
      return ← importArguments g start (if t.isWord "source" then .source else .defer)
    advance
    fail .importMeta
  else unexpected

/-- `new.target` or a `new` with its callee. -/
def newExpression : Parser Expr := do
  let start ← startPos
  advance
  if ← eat .dot then
    if ← atWord? "target" then
      advance
      return .metaProperty (← spanFrom start) "new" "target"
    advance
    fail .newTarget
  let (callee, inChain) ← g.member
  let args ← if ← at? .lparen then arguments g else pure []
  if callee matches .importCall _ _ _ _ then report .newDynamicImport
  if inChain then report .newOptionalChain
  let (callee, types) := calleeOf callee
  return .new (← spanFrom start) callee types args false

/-- A function starts here, perhaps after an `async` on the same line. -/
def atFunction? : Parser Bool := do
  let t ← token
  if t.isWord "function" then return true
  if !t.isWord "async" then return false
  let next ← peek
  return next.isWord "function" && !next.newLine

def functionExpression : Parser Expr := do
  let free ← freeHere
  let start ← startPos
  let async ← eatWord "async"
  let f ← functionFrom g (leftHand g) start async .expression false
  return .function (if free then f.marked else f)

def classExpression : Parser Expr := do
  let start ← startPos
  let marks ← decorators (leftHand g)
  if ← atWord? "class" then return .class (← classFrom g start marks false)
  unexpected

/-- An expression that nothing stands to the left of. -/
def primary : Parser Expr := do
  if ← atFunction? then return ← functionExpression g
  let t ← token
  let span : Span := ⟨t.start, t.stop⟩
  let literal (value : Literal) : Parser Expr := do
    advance
    return .literal span value
  match t.kind with
  | .string value => literal (.string value)
  | .number _ bits => literal (.number bits)
  | .bigint value => literal (.bigint value)
  | .template _ => template g
  | .punct .lparen => parenthesized g
  | .punct .lbrack => arrayLiteral g
  | .punct .lbrace => objectLiteral g
  | .punct .slash | .punct .slashEq => regexLiteral
  | .punct .at => classExpression g
  | .punct .lt =>
    if ← jsx? then
      let (span, element) ← jsxHere g
      return .jsx span element
    unexpected
  | .word name _ =>
    if name == "null" then literal .null
    else if name == "true" then literal (.bool true)
    else if name == "false" then literal (.bool false)
    else if name == "this" then
      advance
      return .this span
    else if name == "super" then superHere
    else if name == "import" then importExpression g
    else if name == "new" then newExpression g
    else if name == "class" then classExpression g
    else
      let (span, name) ← referenceName
      return .name span name
  | _ => unexpected

/-- An expression with its members; also whether there is an optional link. -/
def memberHere : Parser (Expr × Bool) := do
  let start ← startPos
  let e ← primary g
  memberRest g start e false

/-! ## Operators -/

/-- A name, keyword or literal follows on the same line, but no operator. -/
def operandFollows : Parser Bool := do
  let next ← peek
  return !next.newLine && (next.isName || next.isLiteral) && (BinaryOp.ofToken? next).isNone

/-- An `await` that is an operator starts here. -/
def atAwait? : Parser Bool := do
  if !(← atWord? "await") then return false
  if (← scope).inAsync then return true
  operandFollows

/-- A `yield` that is an operator starts here. -/
def atYield? : Parser Bool := do
  if !(← atWord? "yield") then return false
  if (← scope).inGenerator then return true
  operandFollows

/-- An expression with its calls and an increment or decrement on either side. -/
def updateExpression : Parser Expr := do
  let start ← startPos
  match UpdateOp.ofToken? (← token) with
  | some op =>
    advance
    let target ← simpleTarget (← g.unary)
    return .update (← spanFrom start) op true target
  | none =>
    let e ← leftHand g
    let t ← token
    match UpdateOp.ofToken? t with
    | some op =>
      if t.newLine then return e
      advance
      let target ← simpleTarget e
      return .update (← spanFrom start) op false target
    | none => return e

def unaryExpression : Parser Expr := do
  let t ← token
  let start := t.start
  match UnaryOp.ofToken? t with
  | some op =>
    advance
    let arg ← g.unary
    return .unary (← spanFrom start) op arg
  | none =>
    if t.isPunct .lt then
      if ← jsx? then
        let (span, element) ← jsxHere g
        return .jsx span element
      if ← types? then
        advance
        let types ← partsOf g.type
        expect .gt
        let e ← g.unary
        return .typed (← spanFrom start) .assertion types e
      unexpected
    if ← atAwait? then
      if !(← scope).inAsync then report .awaitOutsideAsync
      advance
      let arg ← within (fun c => { c with inAsync := true }) g.unary
      return .await (← spanFrom start) arg
    updateExpression g

/-- An expression under a logical operator other than `??`, without brackets. -/
def isPlainLogical : Expr → Bool
  | .binary _ .or _ _ | .binary _ .and _ _ => true
  | _ => false

/-- A logical expression, without brackets. -/
def isLogicalExpr : Expr → Bool
  | .binary _ op _ _ => op.isLogical
  | _ => false

/-- What may not be raised to a power without brackets. -/
def isPrefixed : Expr → Bool
  | .await _ _ | .unary _ _ _ => true
  | _ => false

/-- Notes operands that need brackets and have none. -/
def checkOperands (op : BinaryOp) (left right : Expr) (leftParen rightParen : Bool) :
    Parser Unit := do
  if op == .coalesce then
    let mixed := if isLogicalExpr right then !rightParen && isPlainLogical right
      else isPlainLogical left && !leftParen
    if mixed then report .mixedCoalesce
  if op == .pow && !leftParen && isPrefixed left then report .unexpectedExponent

/-- The operators that follow `left` and bind more tightly than `min`. -/
def binaryRest (start : Nat) (left : Expr) (leftParen : Bool) (min : Strength) : Parser Expr :=
  loop left fun left => do
    relex (fun _ l t => l.joinGt t) Lexer.rereads_joinGt
    let t ← token
    if t.isWord "as" || t.isWord "satisfies" then
      if Strength.compare ≤ min || t.newLine then return (left, false)
      let form : TypedForm := if t.isWord "as" then .as else .satisfies
      advance
      let types ← partsOf g.type
      let span ← spanFrom start
      if !(← types?) then
        report (if form == .as then .assertionInScript else .satisfactionInScript)
      return (.typed span form types left, true)
    match BinaryOp.ofToken? t with
    | none => return (left, false)
    | some op =>
      let stop := if op.rightAssociative then op.strength < min else op.strength ≤ min
      if stop then return (left, false)
      if op == .elementOf && !(← scope).allowIn then return (left, false)
      advance
      let rightParen ← at? .lparen
      let right ← g.binary op.strength
      checkOperands op left right leftParen rightParen
      return (.binary (← spanFrom start) op left right, true)

/-- A comment that marks the next call as free of effects. -/
def Comment.isPure (c : Comment) : Bool := c.hasMark "__PURE__"

/-- The current token is led by a comment that marks a call. -/
def pureHere : Parser Bool := ledBy Comment.isPure

/-- Marks the call that an expression starts with. -/
def markPure : Expr → Expr
  | .call s callee types args optional _ => .call s callee types args optional true
  | .new s callee types args _ => .new s callee types args true
  | .paren s e => .paren s (markPure e)
  | .binary s op left right => .binary s op (markPure left) right
  | .conditional s test yes no => .conditional s (markPure test) yes no
  | .chain s (.call s' callee types args optional _) =>
    .chain s (.call s' callee types args optional true)
  | e => e

def binaryExpression (min : Strength) : Parser Expr := do
  let t ← token
  let leftParen := t.isPunct .lparen
  match t.kind with
  | .hidden name =>
    if !(← scope).allowIn then unexpected
    if Strength.compare ≤ min then fail .hiddenHere
    advance
    expectWord "in"
    let right ← g.unary
    let span ← spanFrom t.start
    if right matches .privateIn _ _ _ then fail .privateInPrivate
    binaryRest g t.start (.privateIn span name right) leftParen min
  | _ =>
    let marked ← pureHere
    let left ← g.unary
    binaryRest g t.start (if marked then markPure left else left) leftParen min

/-- The parts of a conditional that follow its test. -/
def conditionalRest (start : Nat) (test : Expr) (allowResult : Bool) : Parser Expr := do
  if !(← eat .question) then return test
  let yes ← withIn (g.assign false)
  expect .colon
  let no ← g.assign allowResult
  return .conditional (← spanFrom start) test yes no

/-- A `yield` with what it yields. -/
def yieldExpression : Parser Expr := do
  let start ← startPos
  advance
  let c ← scope
  let t ← token
  let (delegate, arg) ← within (fun c => { c with inGenerator := true }) do
    if t.newLine then return (false, none)
    if ← eat .star then return (true, some (← g.assign true))
    let ends := t.isEof || t.isWord "in"
      || [Punct.rbrace, .rbrack, .semicolon, .rparen, .comma, .colon].any t.isPunct
    if ends then return (false, none)
    return (false, some (← g.assign true))
  if !c.inGenerator then report .yieldOutsideGenerator
  return .yield (← spanFrom start) delegate arg

/-- An expression without a comma outside brackets. -/
def assignment (allowResult : Bool) : Parser Expr := do
  if ← atYield? then return ← yieldExpression g
  let free ← freeHere
  if let some e ← arrowFunction? g (leftHand g) allowResult then return e
  if let some e ← asyncSimpleArrow? g allowResult then return e
  let start ← startPos
  let left ← binaryExpression g .comma
  let t ← token
  if let .name span name := left then
    if t.isPunct .arrow then return ← simpleArrow g start false free span name allowResult
  match BinaryOp.ofAssignment? t with
  | some op =>
    let target ← if op.isNone then toTarget left else simpleTarget left
    advance
    let value ← g.assign allowResult
    return .assign (← spanFrom start) op target value
  | none => conditionalRest g start left allowResult

end Grammar

end LivePreview.Script
