import LivePreview.Script.Operator
import LivePreview.Script.Parser.Functions

/-!
# Members, calls and templates

What may follow an expression without an operator between.
-/

namespace LivePreview.Script

open LivePreview.Script.Parser

namespace Grammar

variable (g : Grammar)

/-- Runs `p` where `in` is an operator. -/
def withIn {α : Type} (p : Parser α) : Parser α := within (fun c => { c with allowIn := true }) p

/-- Runs `p` inside brackets, where nothing outside restricts an expression. -/
def bracketed {α : Type} (p : Parser α) : Parser α :=
  within (fun c => { c with allowIn := true, inDecorator := false, enclosed := true }) p

/-- An expression that may hold commas. -/
def expression : Parser Expr := do
  let start ← startPos
  let next := within (fun c => { c with inDecorator := false }) (g.assign true)
  let first ← next
  if !(← at? .comma) then return first
  let items ← loop [first] fun items => do
    if ← eat .comma then return ((← next) :: items, true)
    return (items, false)
  return .sequence (← spanFrom start) items.reverse

/-- `...` and an expression. -/
def spread : Parser Expr := do
  let start ← startPos
  expect .ellipsis
  let arg ← g.assign true
  return .spread (← spanFrom start) arg

def argument : Parser Expr := do
  if ← at? .ellipsis then spread g else g.assign true

/-- The arguments of a call, with their brackets. -/
def arguments : Parser (List Expr) := do
  expect .lparen
  let (items, _) ← bracketed (delimited .rparen .comma (argument g))
  expect .rparen
  return items

/-! ## Templates -/

/-- The pieces and holes of a template. -/
def templateParts (tagged : Bool) : Parser (List TemplatePiece × List Expr) := do
  let hole : Parser Expr := do
    let e ← bracketed (expression g)
    if ← at? .rbrace then relex (fun fuel l t => l.retemplate fuel t) Lexer.rereads_retemplate
    return e
  let (pieces, holes) ← loop (([], []) : List TemplatePiece × List Expr) fun (pieces, holes) => do
    let t ← token
    if t.isEof && !holes.isEmpty then failExpected "\x60"
    match t.kind with
    | .template chunk =>
      if chunk.first == pieces.isEmpty then
        if !tagged && !chunk.valid then report .templateEscape
        advance
        return ((⟨chunk.raw⟩ :: pieces, holes), !chunk.last)
      return ((pieces, (← hole) :: holes), true)
    | _ => return ((pieces, (← hole) :: holes), true)
  return (pieces.reverse, holes.reverse)

def template : Parser Expr := do
  let start ← startPos
  let (pieces, holes) ← templateParts g false
  return .template (← spanFrom start) pieces holes

/-- A template behind its tag. -/
def taggedTemplate (start : Nat) (tag : Expr) (types : List TypePart) (inChain : Bool) :
    Parser Expr := do
  let (pieces, holes) ← templateParts g true
  let span ← spanFrom start
  if inChain then report .optionalChainTemplate
  return .tagged span tag types pieces holes

/-! ## Type arguments -/

/-- An expression may start at the current token. -/
def startsExpression : Parser Bool := do
  let t ← token
  match t.kind with
  | .word name _ =>
    return !isReservedWord name || ["class", "delete", "false", "function", "import", "new", "null",
      "super", "this", "true", "typeof", "void"].contains name || (joinStrength? t).isSome
  | .string _ | .number _ _ | .bigint _ | .regex _ _ | .template _ | .hidden _ => return true
  | .punct p =>
    return [.lparen, .lbrack, .lbrace, .slash, .slashEq, .plus, .minus, .tilde, .bang, .plusPlus,
      .minusMinus, .lt, .at].contains p || (joinStrength? t).isSome
  | _ => return false

/-- What follows type arguments shows that they are such, and not comparisons. -/
def followsTypeArguments : Parser Bool := do
  let t ← token
  if t.isPunct .lparen || t.startsTemplate then return true
  if t.isPunct .lt || t.isPunct .gt || t.isPunct .plus || t.isPunct .minus then return false
  if t.newLine then return true
  if (joinStrength? t).isSome && !((← scope).allowIn && t.isWord "in") then return true
  return !(← startsExpression)

/-- The type arguments of an expression, if there are any here. -/
def expressionTypeArguments? : Parser (Option (List TypePart)) := do
  if !(← types?) then return none
  let t ← token
  if !(t.isPunct .lt || t.isPunct .shl || t.isPunct .shlEq) then return none
  attempt <| partsOf do
    relex (fun _ l t => l.splitLt t) Lexer.rereads_splitLt
    expect .lt
    let (items, _) ← enclosed (delimited .gt .comma g.type)
    let compared ← lookahead false do
      relex (fun _ l t => l.joinGt t) Lexer.rereads_joinGt
      at? .ge
    if compared then unexpected
    expect .gt
    if items.isEmpty then report .emptyTypeArguments
    if !(← followsTypeArguments) then unexpected

/-! ## Members -/

/-- A property behind a dot, which is still to be read. -/
def dotMember (start : Nat) (object : Expr) (optional : Bool) : Parser Expr := do
  advance
  match (← token).kind with
  | .hidden name =>
    advance
    return .privateMember (← spanFrom start) object name optional
  | _ =>
    let (nameSpan, name) ← identifierName
    return .member (← spanFrom start) object nameSpan name optional

/-- A property in brackets. -/
def indexMember (start : Nat) (object : Expr) (optional : Bool) : Parser Expr := do
  expect .lbrack
  let property ← bracketed (expression g)
  expect .rbrack
  return .index (← spanFrom start) object property optional

/-- The members, tags and type arguments that follow `object`; also whether there is an optional
link. -/
def memberRest (start : Nat) (object : Expr) (inChain : Bool) : Parser (Expr × Bool) :=
  loop (object, inChain) fun (object, inChain) => do
    let t ← token
    let decorating := (← scope).inDecorator
    if t.isPunct .dot then
      return ((← dotMember start object false, inChain), true)
    if t.isPunct .questionDot then
      let next ← peek
      if next.isPunct .lbrack && !decorating then
        advance
        return ((← indexMember g start object true, true), true)
      if next.kind matches .hidden _ || next.isName then
        return ((← dotMember start object true, true), true)
      return ((object, true), false)
    if t.isPunct .lbrack && !decorating then
      return ((← indexMember g start object false, inChain), true)
    if t.isPunct .bang && !t.newLine && (← types?) then
      advance
      return ((.typed (← spanFrom start) .nonNull [] object, inChain), true)
    if t.startsTemplate then
      return ((← taggedTemplate g start object [] inChain, inChain), true)
    if let some types ← expressionTypeArguments? g then
      return ((.typed (← spanFrom start) .instantiation types object, inChain), true)
    return ((object, inChain), false)

/-- The callee under type arguments, which become those of the call. -/
def calleeOf : Expr → Expr × List TypePart
  | .typed _ .instantiation types e => (e, types)
  | e => (e, [])

/-- The calls and members that follow `lhs`; also whether there is an optional link. -/
def callRest (start : Nat) (lhs : Expr) (inChain : Bool) : Parser (Expr × Bool) :=
  loop (lhs, inChain) fun (lhs, inChain) => do
    let (lhs, inChain) ← memberRest g start lhs inChain
    let optional ← eat .questionDot
    let inChain := inChain || optional
    let typed ← if optional then expressionTypeArguments? g else pure none
    let types := typed.getD []
    if optional && (← token).startsTemplate then
      return ((← taggedTemplate g start lhs types inChain, inChain), true)
    if typed.isSome || (← at? .lparen) then
      let args ← arguments g
      let (callee, given) := calleeOf lhs
      return ((.call (← spanFrom start) callee (given ++ types) args optional false, inChain), true)
    if optional then fail .chainName
    return ((lhs, inChain), false)

/-- Marks an expression with an optional link as a whole. -/
def chainOf (span : Span) : Expr → Expr
  | .typed s .instantiation types e => .typed s .instantiation types (chainOf s e)
  | e@(.call _ _ _ _ _ _) | e@(.member _ _ _ _ _) | e@(.index _ _ _ _)
  | e@(.privateMember _ _ _ _) | e@(.typed _ .nonNull _ _) => .chain span e
  | e => e

/-- What may stand on the left of an assignment: an expression with its members and calls. -/
def leftHand : Parser Expr := do
  let start ← startPos
  let (e, inChain) ← g.member
  let (e, inChain) ← callRest g start e inChain
  if inChain then return chainOf (← spanFrom start) e
  return e

end Grammar

end LivePreview.Script
