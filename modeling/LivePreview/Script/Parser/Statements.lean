import LivePreview.Script.Parser.Modules

/-!
# Statements
-/

namespace LivePreview.Script

open LivePreview.Script.Parser

namespace Grammar

variable (g : Grammar)

/-- An expression that ends a statement. -/
def expressionEnd (start : Nat) (value : Expr) : Parser Stmt := do
  endStatement
  return .expr (← spanFrom start) value

def block : Parser Stmt := do
  let start ← startPos
  let body ← bracedStatements g
  return .block (← spanFrom start) body

/-- An expression in round brackets, as it follows `if` and `while`. -/
def condition : Parser Expr := do
  expect .lparen
  let e ← bracketed (expression g)
  expect .rparen
  return e

/-- An expression statement, or a statement behind a label. -/
def expressionOrLabel : Parser Stmt := do
  let start ← startPos
  let e ← withIn (expression g)
  match e with
  | .name _ name =>
    if ← eat .colon then
      let body ← g.stmt .label
      return .labeled (← spanFrom start) name body
    expressionEnd start e
  | _ => expressionEnd start e

/-! ## Declarations -/

/-- Variables behind their keyword, as a statement. -/
def variableStatement (start : Nat) (kind : VarKind) (place : StmtPlace) : Parser Stmt := do
  let s ← variableDeclaration g start kind false
  if place != .list && kind != .var then report .singleStatementDeclaration
  return s

def functionStatement (place : StmtPlace) : Parser Stmt := do
  let start ← startPos
  let async ← eatWord "async"
  let f ← functionFrom g (leftHand g) start async .declaration false
  match f with
  | .mk _ _ flags _ _ _ _ =>
    if place != .list then
      if flags.async then report .singleStatementAsync
      if flags.generator then report .singleStatementGenerator
  return .function f

def classStatement (start : Nat) (marks : List Expr) (place : StmtPlace) : Parser Stmt := do
  let c ← classFrom g start marks false
  if place != .list then report .singleStatementClass
  return .class c

/-- A statement that starts with `let`: a declaration, or an expression that starts with the
name. -/
def letStatement (place : StmtPlace) : Parser Stmt := do
  let start ← startPos
  let next ← peek
  let operator := (BinaryOp.ofAssignment? next).isSome || (joinStrength? next).isSome
  if operator || next.isPunct .dot || next.isPunct .lparen then
    return ← expressionEnd start (← withIn (expression g))
  if (place != .list && !next.isPunct .lbrack) || next.isPunct .semicolon then
    let (span, name) ← referenceName
    return ← expressionEnd start (.name span name)
  advance
  variableStatement g start .let place

def constStatement (place : StmtPlace) : Parser Stmt := do
  let start ← startPos
  advance
  if (← types?) && (← atWord? "enum") then return ← enumFrom g start []
  variableStatement g start .const place

/-- A name or pattern follows the `using` on its line, so that it declares. In the head of a `for`
an `of` may be the word of the loop (`loops`). -/
def usingFollows (loops : Bool) : Parser Bool := do
  let next ← peek
  let binds := next.isBinding && !(loops && next.isWord "of")
  return !next.newLine && (binds || next.isPunct .lbrace)

/-- The kind of variable declared by `using` or `await using`, if they do so here. -/
def usingKind? (place : VarPlace) : Parser (Option VarKind) := do
  if (← atWord? "using") && (← usingFollows (place == .head)) then return some .using
  if ← atWord? "await" then
    let found ← lookahead false do
      advance
      if (← newLine?) || !(← atWord? "using") then return false
      usingFollows false
    if found then return some .awaitUsing
  return none

/-- Moves past the words of a declaration's keyword. -/
def eatUsing (kind : VarKind) : Parser Unit := do
  if kind == .awaitUsing then advance
  advance

/-- A statement that starts with `using` or `await`: a declaration, or an expression. -/
def usingStatement (start : Nat) (place : StmtPlace) : Parser Stmt := do
  match ← usingKind? .statement with
  | some kind =>
    eatUsing kind
    variableStatement g start kind place
  | none => expressionOrLabel g

/-- Words before a declaration that only sources with types have. -/
def startsTypedDeclaration : Parser Bool := lookahead false do
  loop false fun _ => do
    let t ← token
    let next ← peek
    let onLine := !next.newLine
    if ["var", "let", "const", "function", "class", "enum"].any t.isWord then return (true, false)
    if t.isWord "interface" || t.isWord "type" then
      return (onLine && next.isBinding, false)
    if t.isWord "module" || t.isWord "namespace" then
      return (onLine && (next.isBinding || next.isString), false)
    if t.isWord "global" then
      return (next.isBinding || next.isPunct .lbrace || next.isWord "export", false)
    if ["abstract", "accessor", "async", "declare", "private", "protected", "public",
        "readonly"].any t.isWord then
      if !onLine then return (false, false)
      advance
      return (false, true)
    if t.isWord "static" then
      advance
      return (false, true)
    return (false, false)

/-! ## Loops -/

/-- The parts of a `for` from its first semicolon on. -/
def forRest (start : Nat) (awaits : Bool) (init : Option Stmt) : Parser Stmt := do
  expect .semicolon
  match init with
  | some (.declare _ kind ds _) => for d in ds do checkInitializer kind d
  | _ => pure ()
  let test ← if (← at? .semicolon) || (← at? .rparen) then pure none
    else some <$> bracketed (expression g)
  expect .semicolon
  let update ← if ← at? .rparen then pure none else some <$> bracketed (expression g)
  expect .rparen
  if awaits then report .forAwait
  let body ← g.stmt .single
  return .forLoop (← spanFrom start) init test update body

def forInRest (start : Nat) (awaits : Bool) (left : Stmt) : Parser Stmt := do
  advance
  let right ← bracketed (expression g)
  expect .rparen
  if awaits then report .forAwait
  let body ← g.stmt .single
  return .forIn (← spanFrom start) left right body

def forOfRest (start : Nat) (awaits : Bool) (left : Stmt) : Parser Stmt := do
  advance
  let right ← bracketed (g.assign true)
  expect .rparen
  let body ← g.stmt .single
  return .forOf (← spanFrom start) awaits left right body

/-- A `for` whose head declares. -/
def forDeclaration (start begins : Nat) (awaits : Bool) (kind : VarKind) : Parser Stmt := do
  let ds ← within (fun c => { c with allowIn := false }) (declarators g kind .head)
  let decl := Stmt.declare (← spanFrom begins) kind ds false
  if ← atWord? "in" then
    match kind with
    | .using => report .usingForIn
    | .awaitUsing => report .awaitUsingForIn
    | _ => pure ()
    forInRest g start awaits decl
  else if ← atWord? "of" then forOfRest g start awaits decl
  else forRest g start awaits (some decl)

/-- The keyword by which a `for` declares, if it does. -/
def forKind? : Parser (Option VarKind) := do
  let t ← token
  if t.isWord "var" then return some .var
  if t.isWord "const" then return some .const
  if t.isWord "let" then
    let next ← peek
    let declares := next.isPunct .lbrace || next.isPunct .lbrack
      || (next.isName && !next.isWord "in")
    return if declares then some .let else none
  usingKind? .head

def forStatement : Parser Stmt := do
  let start ← startPos
  advance
  let awaits ← (do
    if ← atWord? "await" then
      if !(← scope).inAsync then report .awaitOutsideAsync
      advance
      return true
    return false)
  expect .lparen
  if ← at? .semicolon then return ← forRest g start awaits none
  let begins ← startPos
  match ← forKind? with
  | some kind =>
    eatUsing kind
    forDeclaration g start begins awaits kind
  | none =>
    if ← at? .rparen then return ← forRest g start awaits none
    let t ← token
    let next ← peek
    let asyncOf := t.isWord "async" && next.isWord "of"
    let letOf := t.isWord "let"
    let e ← within (fun c => { c with allowIn := false }) (expression g)
    if ← atWord? "in" then
      let target ← toTarget e
      forInRest g start awaits (.forTarget target)
    else if ← atWord? "of" then
      if !awaits && asyncOf && (e matches .name _ _) then report .forOfAsync
      if letOf then report .forOfLet
      let target ← toTarget e
      forOfRest g start awaits (.forTarget target)
    else forRest g start awaits (some (.expr e.span e))

def whileStatement : Parser Stmt := do
  let start ← startPos
  advance
  let test ← condition g
  let body ← g.stmt .single
  return .whileLoop (← spanFrom start) test body

def doStatement : Parser Stmt := do
  let start ← startPos
  advance
  let body ← g.stmt .single
  expectWord "while"
  let test ← condition g
  let _ ← eat .semicolon
  return .doWhile (← spanFrom start) body test

/-! ## Other statements -/

def ifStatement : Parser Stmt := do
  let start ← startPos
  advance
  let test ← condition g
  let yes ← g.stmt .single
  let no ← if ← eatWord "else" then some <$> g.stmt .single else pure none
  return .ifElse (← spanFrom start) test yes no

/-- A `break` or `continue` with its label. -/
def jump (build : Span → Option String → Stmt) : Parser Stmt := do
  let start ← startPos
  advance
  if ← canEndStatement then
    let _ ← eat .semicolon
    return build (← spanFrom start) none
  let (_, name) ← referenceName
  endStatement
  return build (← spanFrom start) (some name)

def returnStatement : Parser Stmt := do
  let start ← startPos
  advance
  let value ← (do
    if ← canEndStatement then
      let _ ← eat .semicolon
      return none
    let e ← withIn (expression g)
    endStatement
    return some e)
  if !(← scope).inFunction then report .returnOutsideFunction
  return .return (← spanFrom start) value

def throwStatement : Parser Stmt := do
  let start ← startPos
  advance
  if ← newLine? then report (.illegalNewline "throw")
  let value ← withIn (expression g)
  endStatement
  return .throw (← spanFrom start) value

def withStatement : Parser Stmt := do
  let start ← startPos
  advance
  let object ← condition g
  let body ← g.stmt .single
  return .with (← spanFrom start) object body

def switchCase : Parser SwitchCase := do
  let start ← startPos
  let test ← (do
    if ← eatWord "default" then return none
    if !(← eatWord "case") then fail .switchClause
    return some (← withIn (expression g)))
  expect .colon
  let ends : Parser Bool := do
    let t ← token
    return t.isWord "case" || t.isWord "default" || t.isPunct .rbrace || t.isEof
  let body ← manyUntil ends (g.stmt .list)
  for s in body do
    match s with
    | .declare _ .using _ _ | .declare _ .awaitUsing _ _ => report .usingInCase
    | _ => pure ()
  return .mk (← spanFrom start) test body

def switchStatement : Parser Stmt := do
  let start ← startPos
  advance
  let subject ← condition g
  expect .lbrace
  let cases ← enclosed (manyUntil (do return (← at? .rbrace) || (← token).isEof) (switchCase g))
  expect .rbrace
  return .switch (← spanFrom start) subject cases

def catchClause : Parser CatchClause := do
  let start ← startPos
  advance
  let (param, types) ← (do
    if ← eat .lparen then
      let target ← g.pattern
      let (_, types) ← collecting (typeAnnotation? g)
      expect .rparen
      return (some target, types)
    return (none, []))
  let body ← block g
  return .mk (← spanFrom start) param types body

def tryStatement : Parser Stmt := do
  let start ← startPos
  advance
  let body ← block g
  let handler ← if ← atWord? "catch" then some <$> catchClause g else pure none
  let finalizer ← if ← eatWord "finally" then some <$> block g else pure none
  if handler.isNone && finalizer.isNone then report .missingCatch
  return .tryCatch (← spanFrom start) body handler finalizer

/-- A statement behind decorators. -/
def decoratedStatement (place : StmtPlace) : Parser Stmt := do
  let start ← startPos
  let marks ← decorators (leftHand g)
  if ← atWord? "export" then return ← exportDeclaration g marks
  let names ← if ← types? then declarationModifiers else pure []
  if !(← atWord? "class") then unexpected
  if names.contains "declare" then return .class (← classFrom g start marks true)
  let s ← classStatement g start marks place
  checkDeclaration names ["abstract"]
  return s

/-- A declaration that only sources with types have. -/
def typedDeclaration : Parser Stmt := do
  let start ← startPos
  let names ← declarationModifiers
  declaration g start [] names

/-- Words that start a declaration in sources with types. -/
def typedWords : List String :=
  ["interface", "type", "module", "namespace", "declare", "enum", "private", "protected", "public",
   "abstract", "accessor", "static", "readonly", "global"]

/-- A statement of any kind, without the mark that a comment before it sets. -/
def unmarkedStatement (place : StmtPlace) : Parser Stmt := do
  let t ← token
  match t.kind with
  | .punct .lbrace => block g
  | .punct .semicolon =>
    advance
    return .empty (← spanFrom t.start)
  | .punct .at => decoratedStatement g place
  | .word name spelling =>
    match name with
    | "if" => ifStatement g
    | "do" => doStatement g
    | "while" => whileStatement g
    | "for" => forStatement g
    | "continue" => jump .continue
    | "break" => jump .break
    | "with" => withStatement g
    | "switch" => switchStatement g
    | "throw" => throwStatement g
    | "try" => tryStatement g
    | "debugger" =>
      advance
      endStatement
      return .debugger (← spanFrom t.start)
    | "class" => classStatement g t.start [] place
    | "export" => exportDeclaration g []
    | "return" => returnStatement g
    | "var" =>
      advance
      variableStatement g t.start .var place
    | "function" => functionStatement g place
    | "let" => if spelling.isSome then expressionOrLabel g else letStatement g place
    | "async" => if ← atFunction? then functionStatement g place else expressionOrLabel g
    | "import" =>
      let next ← peek
      if next.isPunct .lparen || next.isPunct .dot then expressionOrLabel g else importDeclaration
    | "const" => constStatement g place
    | "using" | "await" => usingStatement g t.start place
    | _ =>
      if typedWords.contains name && (← types?) && (← startsTypedDeclaration) then
        typedDeclaration g
      else expressionOrLabel g
  | _ => expressionOrLabel g

/-- A statement of any kind. -/
def anyStatement (place : StmtPlace) : Parser Stmt := do
  let free ← freeHere
  let s ← unmarkedStatement g place
  return if free then s.markFree else s

end Grammar

end LivePreview.Script
