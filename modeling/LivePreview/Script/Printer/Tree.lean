import LivePreview.Script.Names
import LivePreview.Script.Printer.Page

/-!
# Printing trees

Every form is written in one way. Parentheses come from how tightly a form binds and from where it
stands; those of the source do not count, save around a function. Only plain trees are printed:
types and elements have no text here.
-/

namespace LivePreview.Script

/-- What surrounds an expression beyond how tightly it is bound. -/
structure PrintContext where
  /-- In the head of a `for`, where a bare `in` would be read as its own. -/
  noIn : Bool := false
  /-- In what `new` is applied to, where a call would be read as its arguments. -/
  noCall : Bool := false
  deriving DecidableEq, Repr, Inhabited

/-- How a statement is set. -/
inductive StmtSetting where
  /-- On a line of its own. -/
  | line
  /-- As the body of the statement on the same line. -/
  | body
  /-- Right after an `else`. -/
  | tail
  deriving DecidableEq, Repr, Inhabited

namespace Expr

/-- The expression under parentheses. -/
def underParens : Expr → Expr
  | .paren _ inner => inner.underParens
  | e => e

/-- The expression is the name `x`. -/
def isName (x : String) (e : Expr) : Bool :=
  match e.underParens with
  | .name _ y => x == y
  | _ => false

/-- An `&&` or an `||`, which does not mix with `??`. -/
def isAndOr (e : Expr) : Bool :=
  match e.underParens with
  | .binary _ .and _ _ | .binary _ .or _ _ => true
  | _ => false

/-- A form that must not stand to the left of `**`. -/
def isSigned (e : Expr) : Bool :=
  match e.underParens with
  | .unary _ _ _ => true
  | _ => false

/-- A number too large for a double, which is read as the name `Infinity`. -/
def isEndless : Expr → Bool
  | .literal _ (.number bits) => Double.isInfinite ⟨bits⟩
  | _ => false

/-- A decorator that needs no parentheses. -/
def isDecoratorPath : Expr → Bool
  | .name _ _ => true
  | .member _ e _ _ _ | .privateMember _ e _ _ | .call _ e _ _ _ _ => e.isDecoratorPath
  | _ => false

end Expr

/-- The name that a pattern is, a default aside. -/
def Pattern.nameUnderDefault? : Pattern → Option String
  | .name _ x => some x
  | .default _ (.name _ x) _ => some x
  | _ => none

/-- The statement ends in an `if` without an `else`, which an `else` after it would join. -/
def Stmt.endsInBareIf : Stmt → Bool
  | .ifElse _ _ _ (some no) => no.endsInBareIf
  | .ifElse _ _ _ none => true
  | .forLoop _ _ _ _ body | .forIn _ _ _ body | .forOf _ _ _ _ body | .whileLoop _ _ body
  | .with _ _ body | .labeled _ _ body => body.endsInBareIf
  | _ => false

def VarKind.text : VarKind → String
  | .var => "var"
  | .let => "let"
  | .const => "const"
  | .using => "using"
  | .awaitUsing => "await using"

namespace Printer

/-- The `static`, `get` and other words before the name of a member. -/
def memberWords (static : Bool) (word : String) : Printer Unit := do
  if static then text "static "
  text word

def functionWords (flags : FunctionFlags) : Printer Unit := do
  if flags.async then text "async "
  if flags.generator then text "*"

def pureMark : Printer Unit := text "/* @__PURE__ */ "

/-- The mark of a function that is free of effects. -/
def freeMark (flags : FunctionFlags) : Printer Unit :=
  if flags.pure then text "/* @__NO_SIDE_EFFECTS__ */ " else pure ()

/-- The mark of a declared function that is free of effects, on a line of its own. -/
def freeLine (flags : FunctionFlags) : Printer Unit := do
  if flags.pure then
    startLine
    text "/* @__NO_SIDE_EFFECTS__ */\n"

/-- Pieces of a template with the writers of its holes between them. -/
def pieces : List TemplatePiece → List (Printer Unit) → Printer Unit
  | [], _ => pure ()
  | piece :: ps, holes => do
    chars (guardScript piece.raw.toList)
    match holes with
    | [] => pieces ps []
    | hole :: holes =>
      text "$\x7b"
      hole
      text "\x7d"
      pieces ps holes

/-- The items of a literal, on lines of their own if there are more than `limit`. -/
def items (limit : Nat) (gap : Bool) (xs : List (Printer Unit)) : Printer Unit := do
  let broken := limit < xs.length
  let between : Printer Unit := if broken then do newline; startLine else text " "
  let rec go : List (Printer Unit) → Printer Unit
    | [] => pure ()
    | x :: xs => do
      text ","
      between
      x
      go xs
  if broken then deeper
  match xs with
  | [] => pure ()
  | x :: xs =>
    if broken || gap then between
    x
    go xs
  if broken then
    newline
    shallower
    startLine
  else if gap && !xs.isEmpty then text " "

/-- Arguments between parentheses. Where comments lead one of them, or the closing parenthesis,
each is on a line of its own; `flush` says that the closing parenthesis is not indented. -/
def arguments (span : Span) (flush : Bool) (args : List (Nat × Printer Unit)) : Printer Unit := do
  let atClose ← if 0 < span.stop then hasComments (span.stop - 1) else pure false
  let led ← args.anyM fun (start, _) => hasComments start
  text "("
  if atClose || led then
    let own (arg : Nat × Printer Unit) : Printer Unit := do
      if !(← innerComments arg.1) then newline
      startLine
      arg.2
    let rec go : List (Nat × Printer Unit) → Printer Unit
      | [] => pure ()
      | arg :: rest => do
        text ","
        own arg
        go rest
    deeper
    match args with
    | [] => pure ()
    | arg :: rest =>
      own arg
      go rest
    if !(← if atClose then innerComments (span.stop - 1) else pure false) then newline
    shallower
    if !flush then startLine
  else separated (·.2) args
  text ")"

/-- A property whose name is also its value. -/
def isShorthand (key : Key) (value : String → Bool) : Bool :=
  match key with
  | .name _ x => x != "__proto__" && value x
  | _ => false

/-- What a call leaves of the place it stands in, behind the mark of a pure call. -/
def keepPlace (place : PagePlace) : Printer Unit := do
  if place.default then setPlace { default := true }
  else if place.statement then setPlace { statement := true }

/-- What comes before the text of a statement that starts at `span`. -/
def lead (at' : StmtSetting) (span : Span) : Printer Unit := do
  match at' with
  | .tail => pure ()
  | .line =>
    commentsAt span.start
    startLine
  | .body =>
    bodyFollows
    commentsAt span.start
    startLine

/-- The quote that a directive's text does not need to escape. -/
def directiveQuote : List Char → Char
  | '\\' :: _ :: cs => directiveQuote cs
  | '"' :: _ => '\''
  | _ :: cs => directiveQuote cs
  | [] => '"'

/-- A directive, whose text is kept as it is. -/
def directive (d : Span × String) : Printer Unit := do
  commentsAt d.1.start
  startLine
  let raw := d.2.toList
  let quote := directiveQuote raw
  chars (quote :: raw ++ [quote, ';', '\n'])

end Printer

open Printer

mutual

def Expr.print (at' : Strength) (c : PrintContext) : Expr → Printer Unit
  | .name _ x => text x
  | .literal _ value => literal value
  | .this _ => text "this"
  | .super _ => text "super"
  | .metaProperty _ object property => text (object ++ "." ++ property)
  | .template _ parts holes => do
    text "`"
    pieces parts (Expr.holePrints holes)
    text "`"
  | .tagged _ tag _ parts holes => do
    tag.print .suffix {}
    text "`"
    pieces parts (Expr.holePrints holes)
    text "`"
  | .array _ elements => do
    text "["
    items 2 false (Expr.elementPrints elements)
    text "]"
  | .object span members => do
    let here ← place
    let led ← if 0 < span.stop then hasComments span.start else pure false
    wrap (led || here.statement || here.arrow) do
      if led then commentsOf span.start
      text "\x7b"
      items 1 true (Property.listPrints c members)
      text "\x7d"
  | .function f => do
    match f with
    | .mk _ _ flags _ _ _ _ => freeMark flags
    f.print true c
  | .class cls => cls.print true c
  | .arrow _ flags _ params _ body => do
    freeMark flags
    wrap (.assign ≤ at') do
      if flags.async then text "async "
      text "("
      Param.listPrint c params
      text ") => "
      body.print c
  | .unary _ op arg =>
    wrap (.unary ≤ at') do
      if op.isWord then text (op.text ++ " ")
      else
        sign op op.text.toList
        modify fun p => { p with last := .sign op }
      if op == .delete && arg.isEndless then text "(0, Infinity)" else arg.print .power c
  | .update _ op before target =>
    wrap ((if before then .unary else .suffix) ≤ at') do
      if before then
        sign (if op == .increment then .plus else .minus) op.text.toList
        target.print false c
      else
        target.print false c
        text op.text
  | .binary _ op left right => do
    let needed := op.strength ≤ at' || (op == .elementOf && c.noIn)
    let noIn := c.noIn && !needed
    let looser := op.strength - 1
    let leftAt : Strength :=
      if op == .coalesce && left.isAndOr then .unary
      else if op == .pow && left.isSigned then .call
      else if op.rightAssociative then op.strength
      else looser
    let rightAt : Strength :=
      if op == .coalesce && right.isAndOr then .unary
      else if op.rightAssociative || op.isLogical then looser
      else op.strength
    wrap needed do
      left.print leftAt ⟨noIn, c.noCall⟩
      text (" " ++ op.text ++ " ")
      right.print rightAt ⟨noIn, false⟩
  | .assign _ op target value => do
    let here ← place
    let destructures := match target with
      | .object _ _ _ => here.statement || here.arrow
      | _ => false
    wrap (destructures || .assign ≤ at') do
      target.print false {}
      text (match op with
        | some op => " " ++ op.text ++ "= "
        | none => " = ")
      value.print .comma c
  | .conditional _ test yes no =>
    wrap (.conditional ≤ at') do
      let noIn := c.noIn && at' < .conditional
      test.print .conditional ⟨noIn, false⟩
      text " ? "
      yes.print .yield {}
      text " : "
      no.print .yield ⟨noIn, false⟩
  | .call span callee _ args optional pure => do
    let here ← place
    wrap (.new ≤ at' || c.noCall || (pure && .suffix ≤ at')) do
      if pure then pureMark
      keepPlace here
      callee.print .suffix {}
      if optional then text "?."
      arguments span false (Expr.argPrints args)
  | .new span callee _ args pure =>
    wrap (.member ≤ at' || (pure && .suffix ≤ at')) do
      if pure then pureMark
      text "new "
      callee.print .new ⟨false, true⟩
      arguments span false (Expr.argPrints args)
  | .member _ object _ property optional => do
    object.print .suffix ⟨false, c.noCall⟩
    if optional then text "?"
    else if (← get).last == .digits then text " "
    text ("." ++ property)
  | .index _ object property optional => do
    wrap (object.isName "let") (object.print .suffix ⟨false, c.noCall⟩)
    text (if optional then "?.[" else "[")
    property.print .lowest {}
    text "]"
  | .privateMember _ object property optional => do
    object.print .suffix ⟨false, c.noCall⟩
    text ((if optional then "?.#" else ".#") ++ property)
  | .chain _ inner => wrap (.suffix ≤ at') (inner.print at' c)
  | .sequence _ es =>
    wrap (.comma ≤ at') (Expr.listPrint { c with noCall := false } es)
  | .spread _ arg => do
    text "..."
    arg.print .comma {}
  | .yield _ delegate arg =>
    wrap (.assign ≤ at') do
      text (if delegate then "yield*" else "yield")
      Expr.yieldPrint c arg
  | .await _ arg =>
    wrap (.unary ≤ at') do
      text "await "
      arg.print .power c
  | .importCall span phase source options =>
    wrap (.new ≤ at' || c.noCall) do
      text (match phase with
        | .evaluation => "import"
        | .source => "import.source"
        | .defer => "import.defer")
      arguments span true ((source.span.start, source.print .comma {}) :: Expr.optionPrints options)
  | .privateIn _ left right =>
    wrap (.power ≤ at' || c.noIn) do
      text ("#" ++ left ++ " in ")
      right.print .equality { noIn := true }
  | .paren _ inner =>
    if inner matches .function _ | .arrow _ _ _ _ _ _ then
      wrap true (inner.print .lowest c)
    else inner.print at' c
  | .typed _ _ _ inner => inner.print at' c
  | .jsx _ _ => pure ()

def Expr.listPrint (c : PrintContext) : List Expr → Printer Unit
  | [] => pure ()
  | [e] => e.print .lowest c
  | e :: es => do
    e.print .lowest c
    text ", "
    Expr.listPrint c es

def Expr.holePrints : List Expr → List (Printer Unit)
  | [] => []
  | e :: es => e.print .lowest {} :: Expr.holePrints es

def Expr.argPrints : List Expr → List (Nat × Printer Unit)
  | [] => []
  | e :: es => (e.span.start, e.print .comma {}) :: Expr.argPrints es

def Expr.optionPrints : Option Expr → List (Nat × Printer Unit)
  | none => []
  | some e => [(e.span.start, e.print .comma {})]

def Expr.elementPrints : List (Option Expr) → List (Printer Unit)
  | [] => []
  | [none] => [text ","]
  | none :: es => pure () :: Expr.elementPrints es
  | some e :: es => e.print .comma {} :: Expr.elementPrints es

/-- The operand of a `yield`, if it has one. -/
def Expr.yieldPrint (c : PrintContext) : Option Expr → Printer Unit
  | none => pure ()
  | some e => do
    text " "
    e.print .yield c

/-- A value behind an equals sign, if there is one. -/
def Expr.initPrint (c : PrintContext) : Option Expr → Printer Unit
  | none => pure ()
  | some e => do
    text " = "
    e.print .comma c

def Expr.decoratorsPrint : List Expr → Printer Unit
  | [] => pure ()
  | e :: es => do
    text "@"
    wrap (!e.isDecoratorPath) (e.print .lowest {})
    text " "
    Expr.decoratorsPrint es

def ArrowBody.print (c : PrintContext) : ArrowBody → Printer Unit
  | .expr e => do
    setPlace { arrow := true }
    e.print .comma { c with noCall := false }
  | .block body => body.print c

/-- A pattern; `binding` tells a pattern that declares from one that assigns. -/
def Pattern.print (binding : Bool) (c : PrintContext) : Pattern → Printer Unit
  | .name _ x => text x
  | .place e => e.print .suffix c
  | .object _ properties rest => do
    let gap := if binding && !(properties.isEmpty && rest.isNone) then " " else ""
    text ("\x7b" ++ gap)
    PatternProperty.listPrint binding c properties
    if !properties.isEmpty && rest.isSome then text ", "
    Pattern.restPrint binding c rest
    text (gap ++ "\x7d")
  | .array _ elements rest => do
    text "["
    Pattern.elementPrint binding rest.isSome c elements
    if rest.isSome && (binding || !elements.isEmpty) then text " "
    Pattern.restPrint binding c rest
    text "]"
  | .default _ target value => do
    target.print binding c
    text " = "
    value.print .comma c

def Pattern.restPrint (binding : Bool) (c : PrintContext) : Option Pattern → Printer Unit
  | none => pure ()
  | some p => do
    text "..."
    p.print binding c

/-- The elements of an array pattern; a hole or a rest after the last one needs a comma. -/
def Pattern.elementPrint (binding rest : Bool) (c : PrintContext) :
    List (Option Pattern) → Printer Unit
  | [] => pure ()
  | [none] => text ","
  | [some p] => do
    p.print binding c
    if rest then text ","
  | none :: ps => do
    text ", "
    Pattern.elementPrint binding rest c ps
  | some p :: ps => do
    p.print binding c
    text ", "
    Pattern.elementPrint binding rest c ps

/-- A property of a pattern. One that binds a variable of its own name is written as the name
alone; one that assigns only if it was so in the source. -/
def PatternProperty.print (binding : Bool) (c : PrintContext) : PatternProperty → Printer Unit
  | .mk _ key value shorthand => do
    let same := match key with
      | .name _ x => (binding || shorthand) && value.nameUnderDefault? == some x
      | _ => false
    if !same then
      key.print
      text ": "
    value.print binding c

def PatternProperty.listPrint (binding : Bool) (c : PrintContext) :
    List PatternProperty → Printer Unit
  | [] => pure ()
  | [p] => p.print binding c
  | p :: ps => do
    p.print binding c
    text ", "
    PatternProperty.listPrint binding c ps

def Key.print : Key → Printer Unit
  | .name _ x => text x
  | .literal _ value => literal value
  | .hidden _ x => text ("#" ++ x)
  | .computed e => do
    text "["
    e.print .comma {}
    text "]"

def Property.print (c : PrintContext) : Property → Printer Unit
  | .keyed _ key value => do
    if !isShorthand key (fun x => value.isName x) then
      let infinite := match key with
        | .literal _ (.number bits) => Double.isInfinite ⟨bits⟩
        | _ => false
      if infinite then text "["
      key.print
      if infinite then text "]"
      text ": "
    value.print .comma {}
  | .shorthand _ name _ => text name
  | .method _ key (.mk _ _ flags _ params _ body) => do
    functionWords flags
    key.print
    text "("
    Param.listPrint c params
    text ") "
    Body.optionPrint c body
  | .accessor _ kind key (.mk _ _ _ _ params _ body) => do
    text (match kind with
      | .get => "get "
      | .set => "set ")
    key.print
    text "("
    Param.listPrint c params
    text ") "
    Body.optionPrint c body
  | .spread _ arg => do
    text "..."
    arg.print .comma {}

def Property.listPrints (c : PrintContext) : List Property → List (Printer Unit)
  | [] => []
  | p :: ps => p.print c :: Property.listPrints c ps

def Param.print (c : PrintContext) : Param → Printer Unit
  | .mk _ decorators target _ rest _ => do
    Expr.decoratorsPrint decorators
    if rest then text "..."
    target.print true c

def Param.listPrint (c : PrintContext) : List Param → Printer Unit
  | [] => pure ()
  | [p] => p.print c
  | p :: ps => do
    p.print c
    text ", "
    Param.listPrint c ps

/-- A function; as an expression it must not start a statement. -/
def Function.print (isExpression : Bool) (c : PrintContext) : Function → Printer Unit
  | .mk _ name flags _ params _ body => do
    let here ← place
    wrap (isExpression && (here.statement || here.default)) do
      text (if flags.async then "async function" else "function")
      if flags.generator then text "* "
      match name with
      | some (_, x) => text (if flags.generator then x else " " ++ x)
      | none => pure ()
      text "("
      Param.listPrint c params
      text ") "
      Body.optionPrint c body

def Body.print (c : PrintContext) : Body → Printer Unit
  | .mk span directives statements => do
    let last ← if 0 < span.stop then takeComments (span.stop - 1) else pure []
    let empty := directives.isEmpty && statements.isEmpty
    let oneLine := empty && last.all fun c => !c.afterNewline && !c.beforeNewline
    braces oneLine do
      Body.linesPrint c directives statements
      writeComments last
      modify fun p => { p with spaceNext := false }

/-- Directives and statements. A text that comes first must not turn into a directive. -/
def Body.linesPrint (c : PrintContext) (directives : List (Span × String)) :
    List Stmt → Printer Unit
  | [] => directives.forM directive
  | .expr span e :: ss => do
    directives.forM directive
    if directives.isEmpty && (e.underParens matches .literal _ (.string _)) then
      text "("
      e.print .lowest {}
      text ");\n"
    else
      commentsAt span.start
      startLine
      setPlace { statement := true }
      e.print .lowest {}
      text ";\n"
    Stmt.listPrint c ss
  | s :: ss => do
    directives.forM directive
    s.print .line c
    Stmt.listPrint c ss

def Body.optionPrint (c : PrintContext) : Option Body → Printer Unit
  | none => pure ()
  | some body => body.print c

def Class.print (isExpression : Bool) (c : PrintContext) : Class → Printer Unit
  | .mk _ decorators name _ parent _ members _ => do
    let here ← place
    wrap (isExpression && (here.statement || here.default)) do
      Expr.decoratorsPrint decorators
      text (match name with
        | some (_, x) => "class " ++ x
        | none => "class")
      Expr.parentPrint parent
      text " "
      braces members.isEmpty (Member.listPrint c members)

/-- The parent of a class, if it has one. -/
def Expr.parentPrint : Option Expr → Printer Unit
  | none => pure ()
  | some e => do
    text " extends "
    e.print .suffix {}

def Member.print (c : PrintContext) : Member → Printer Unit
  | .method span decorators key (.mk _ _ fflags _ params _ body) flags => do
    commentsAt span.start
    startLine
    Expr.decoratorsPrint decorators
    memberWords flags.static ""
    functionWords fflags
    key.print
    text "("
    Param.listPrint c params
    text ") "
    Body.optionPrint c body
    newline
  | .constructor span decorators key (.mk _ _ _ _ params _ body) => do
    commentsAt span.start
    startLine
    Expr.decoratorsPrint decorators
    key.print
    text "("
    Param.listPrint c params
    text ") "
    Body.optionPrint c body
    newline
  | .accessor span decorators kind key (.mk _ _ _ _ params _ body) flags => do
    commentsAt span.start
    startLine
    Expr.decoratorsPrint decorators
    memberWords flags.static (match kind with
      | .get => "get "
      | .set => "set ")
    key.print
    text "("
    Param.listPrint c params
    text ") "
    Body.optionPrint c body
    newline
  | .field span decorators key _ value flags => do
    commentsAt span.start
    startLine
    Expr.decoratorsPrint decorators
    memberWords flags.static ""
    key.print
    Expr.initPrint {} value
    text ";\n"
  | .autoAccessor span decorators key _ value flags => do
    commentsAt span.start
    startLine
    Expr.decoratorsPrint decorators
    memberWords flags.static "accessor "
    key.print
    Expr.initPrint {} value
    text ";\n"
  | .staticBlock span statements => do
    commentsAt span.start
    startLine
    text "static "
    braces statements.isEmpty (Stmt.listPrint c statements)
    newline
  | .indexSignature _ _ => pure ()

def Member.listPrint (c : PrintContext) : List Member → Printer Unit
  | [] => pure ()
  | m :: ms => do
    m.print c
    Member.listPrint c ms

def Declarator.print (c : PrintContext) : Declarator → Printer Unit
  | .mk _ target _ value => do
    target.print true c
    Expr.initPrint c value

def Declarator.listPrint (c : PrintContext) : List Declarator → Printer Unit
  | [] => pure ()
  | [d] => d.print c
  | d :: ds => do
    d.print c
    text ", "
    Declarator.listPrint c ds

def SwitchCase.listPrint (c : PrintContext) : List SwitchCase → Printer Unit
  | [] => pure ()
  | .mk _ test body :: cs => do
    startLine
    Expr.casePrint test
    match body with
    | [s] => s.print .body c
    | ss =>
      newline
      deeper
      Stmt.listPrint c ss
      shallower
    SwitchCase.listPrint c cs

def Expr.casePrint : Option Expr → Printer Unit
  | none => text "default:"
  | some e => do
    text "case "
    e.print .lowest {}
    text ":"

/-- The head of a `for` as far as its first semicolon, its `in` or its `of`. -/
def Stmt.headPrint : Stmt → Printer Unit
  | .declare _ kind ds _ => do
    text (kind.text ++ " ")
    Declarator.listPrint { noIn := true } ds
  | .expr _ e => e.print .lowest { noIn := true }
  | .forTarget target => target.print false { noIn := true }
  | _ => pure ()

def Stmt.optionHeadPrint : Option Stmt → Printer Unit
  | none => pure ()
  | some s => s.headPrint

/-- A clause of a `for` behind a semicolon, if it is there. -/
def Expr.clausePrint : Option Expr → Printer Unit
  | none => pure ()
  | some e => do
    text " "
    e.print .lowest {}

/-- A `return` and its value. -/
def Expr.returnPrint : Option Expr → Printer Unit
  | none => text "return;\n"
  | some e => do
    text "return "
    e.print .lowest {}
    text ";\n"

def CatchClause.optionPrint (c : PrintContext) : Option CatchClause → Printer Unit
  | none => pure ()
  | some (.mk span param _ body) => do
    text " "
    commentsAt span.start
    text "catch "
    Pattern.catchPrint c param
    body.blockPrint c

def Pattern.catchPrint (c : PrintContext) : Option Pattern → Printer Unit
  | none => pure ()
  | some p => do
    text "("
    p.print true c
    text ") "

def Stmt.finallyPrint (c : PrintContext) : Option Stmt → Printer Unit
  | none => pure ()
  | some s => do
    text " finally "
    s.blockPrint c

/-- The braces of a block with the comments before it, without a line end. -/
def Stmt.blockPrint (c : PrintContext) : Stmt → Printer Unit
  | .block span body => do
    commentsOf span.start
    braces body.isEmpty (Stmt.listPrint c body)
  | _ => pure ()

def Stmt.print (at' : StmtSetting) (c : PrintContext) : Stmt → Printer Unit
  | .expr span e => do
    lead at' span
    setPlace { statement := true }
    e.print .lowest {}
    text ";\n"
  | .block span body => do
    if at' == .body then text " " else lead at' span
    braces body.isEmpty (Stmt.listPrint c body)
    newline
  | .empty span => do
    if at' != .body then lead at' span
    text ";\n"
  | .debugger span => do
    lead at' span
    text "debugger;\n"
  | .ifElse span test yes no => do
    lead at' span
    text "if ("
    test.print .lowest {}
    text ")"
    match yes with
    | .block _ body =>
      text " "
      braces body.isEmpty (Stmt.listPrint c body)
      if no.isSome then text " " else newline
    | yes =>
      if yes.endsInBareIf then
        text " "
        braces false (yes.print .line c)
        if no.isSome then text " " else newline
      else
        yes.print .body c
        if no.isSome then startLine
    match no with
    | none => pure ()
    | some no =>
      text "else"
      if no matches .ifElse _ _ _ _ then
        text " "
        no.print .tail c
      else no.print .body c
  | .forLoop span init test update body => do
    lead at' span
    text "for ("
    Stmt.optionHeadPrint init
    text ";"
    Expr.clausePrint test
    text ";"
    Expr.clausePrint update
    text ")"
    body.print .body c
  | .forIn span left right body => do
    lead at' span
    text "for ("
    left.headPrint
    text " in "
    right.print .lowest {}
    text ")"
    body.print .body c
  | .forOf span await left right body => do
    lead at' span
    text (if await then "for await (" else "for (")
    wrap (left matches .forTarget (.name _ "async")) left.headPrint
    text " of "
    right.print .comma {}
    text ")"
    body.print .body c
  | .forTarget target => target.print false {}
  | .whileLoop span test body => do
    lead at' span
    text "while ("
    test.print .lowest {}
    text ")"
    body.print .body c
  | .doWhile span body test => do
    lead at' span
    text "do"
    match body with
    | .block _ ss =>
      text " "
      braces ss.isEmpty (Stmt.listPrint c ss)
      text " "
    | .empty _ =>
      startLine
      text ";\n"
    | body =>
      newline
      deeper
      body.print .line c
      shallower
      startLine
    text "while ("
    test.print .lowest {}
    text ");\n"
  | .continue span label => do
    lead at' span
    text (match label with
      | some x => "continue " ++ x ++ ";\n"
      | none => "continue;\n")
  | .break span label => do
    lead at' span
    text (match label with
      | some x => "break " ++ x ++ ";\n"
      | none => "break;\n")
  | .return span value => do
    lead at' span
    Expr.returnPrint value
  | .throw span value => do
    lead at' span
    text "throw "
    value.print .lowest {}
    text ";\n"
  | .with span object body => do
    lead at' span
    text "with("
    object.print .lowest {}
    text ")"
    body.print .body c
  | .switch span subject cases => do
    lead at' span
    text "switch ("
    subject.print .lowest {}
    text ") "
    braces cases.isEmpty (SwitchCase.listPrint c cases)
    newline
  | .labeled span label body => do
    lead at' span
    text (label ++ ":")
    body.print .body c
  | .tryCatch span block handler finalizer => do
    lead at' span
    text "try "
    block.blockPrint c
    CatchClause.optionPrint c handler
    Stmt.finallyPrint c finalizer
    newline
  | .declare span kind ds _ => do
    lead at' span
    text (kind.text ++ " ")
    Declarator.listPrint c ds
    text ";\n"
  | .function f => do
    match f with
    | .mk span _ flags _ _ _ _ =>
      if at' == .line && flags.pure then
        commentsAt span.start
        freeLine flags
      lead at' span
    f.print false c
    newline
  | .class cls => do
    lead at' cls.span
    cls.print false c
    newline
  | .importDecl span phase _ specifiers source with' => do
    lead at' span
    importDecl phase specifiers source with'
  | .exportDecl span declaration => do
    match declaration with
    | .function (.mk _ _ flags _ _ _ _) =>
      commentsAt span.start
      freeLine flags
    | _ => pure ()
    lead at' span
    text "export "
    declaration.print .tail {}
  | .exportNames span _ specifiers source _ => do
    lead at' span
    exportNames specifiers source
  | .exportAll span _ name source with' => do
    lead at' span
    exportAll name source with'
  | .exportDefault span declaration => do
    match declaration with
    | .function (.mk _ _ flags _ _ _ _) =>
      commentsAt span.start
      freeLine flags
    | _ => pure ()
    lead at' span
    text "export default "
    match declaration with
    | .expr _ e =>
      setPlace { default := true }
      e.print .comma {}
      text ";\n"
    | declaration => declaration.print .tail {}
  | .interface span _ written _ => do
    lead at' span
    text (written ++ "\n")
  | .typeAlias span _ written _ => do
    lead at' span
    text (written ++ ";\n")
  | .enum _ _ _ _ | .namespace _ _ _ _ | .ambientModule _ _ _ | .importAlias _ _ _ _ _
  | .exportAssign _ _ | .exportNamespace _ _ => pure ()

def Stmt.listPrint (c : PrintContext) : List Stmt → Printer Unit
  | [] => pure ()
  | s :: ss => do
    s.print .line c
    Stmt.listPrint c ss

end

end LivePreview.Script
