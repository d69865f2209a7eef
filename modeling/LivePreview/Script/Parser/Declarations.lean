import LivePreview.Script.Parser.Expressions

/-!
# Declarations

Variables, functions and classes, and the declarations that only sources with types have.
-/

namespace LivePreview.Script

open LivePreview.Script.Parser

namespace Grammar

variable (g : Grammar)

/-! ## Variables -/

/-- Where a variable is declared. -/
inductive VarPlace where
  | statement
  /-- The head of a `for`. -/
  | head
  deriving DecidableEq

/-- Variables of this kind are disposed of when their block is left. -/
def isUsing : VarKind → Bool
  | .using | .awaitUsing => true
  | _ => false

/-- Notes that a variable without a value needs one. -/
def checkInitializer (kind : VarKind) : Declarator → Parser Unit
  | .mk _ target _ value => do
    if value.isNone && !(← scope).ambient then
      match target with
      | .name _ _ => if kind == .const then report .constInitializer
      | _ => report .patternInitializer

/-- A variable that is disposed of is a single name, and outside the head of a `for` it has a
value. -/
def checkUsing (place : VarPlace) : Declarator → Parser Unit
  | .mk _ target _ value => do
    if !(target matches .name _ _) then report .usingPattern
    if value.isNone && place == .statement then report .usingInitializer

def declarator (kind : VarKind) (place : VarPlace) : Parser Declarator := do
  let start ← startPos
  let target ← g.pattern
  let t ← token
  let mayBeDefinite := !t.newLine && (target matches .name _ _)
  let definite ← if mayBeDefinite && (← types?) then eat .bang else pure false
  if (← types?) && (← eat .question) then report .optionalDeclaration
  let (typed, types) ← collecting (typeAnnotation? g)
  let value ← if ← eat .eq then some <$> g.assign true else pure none
  if definite then
    if value.isSome then report .definiteInitializer
    else if !typed then report .definiteWithoutType
  let decl := Declarator.mk (← spanFrom start) target types value
  if place == .statement then checkInitializer kind decl
  if isUsing kind then checkUsing place decl
  return decl

/-- The declarators behind a keyword that is already read. -/
def declarators (kind : VarKind) (place : VarPlace) : Parser (List Declarator) := do
  let first ← declarator g kind place
  let items ← loop [first] fun items => do
    if ← eat .comma then return ((← declarator g kind place) :: items, true)
    return (items, false)
  return items.reverse

/-- A declaration of variables behind its keyword. -/
def variableDeclaration (start : Nat) (kind : VarKind) (ambient : Bool) : Parser Stmt := do
  let items ← within (fun c => { c with ambient := c.ambient || ambient, allowIn := true })
    (declarators g kind .statement)
  endStatement
  return .declare (← spanFrom start) kind items ambient

/-! ## Declarations with types -/

/-- Notes every modifier that may not stand before a declaration. -/
def checkDeclaration (names more : List String) : Parser Unit :=
  checkModifiers names ("declare" :: more) .modifierHere

/-- The name of an enum's member. -/
def enumMemberName : Parser StringValue := do
  let t ← token
  match t.kind with
  | .string value =>
    advance
    return value
  | .punct .lbrack =>
    advance
    let e ← bracketed (g.assign true)
    expect .rbrack
    match e with
    | .literal _ (.string value) => return value
    | .template _ [piece] [] => return ⟨piece.raw, false⟩
    | .literal _ (.number _) => fail .numericEnumMember
    | _ => fail .computedEnumMember
  | .template _ => fail .computedEnumMember
  | .number _ _ | .bigint _ => fail .numericEnumMember
  | _ =>
    let (_, name) ← identifierName
    return ⟨name, false⟩

def enumMember : Parser EnumMember := do
  let start ← startPos
  let name ← enumMemberName g
  let value ← if ← eat .eq then some <$> withIn (g.assign true) else pure none
  return .mk (← spanFrom start) name value

def enumFrom (start : Nat) (names : List String) : Parser Stmt := do
  expectWord "enum"
  let (_, name) ← bindingName
  expect .lbrace
  let (members, _) ← bracketed (delimited .rbrace .comma (enumMember g))
  expect .rbrace
  checkDeclaration names ["const"]
  return .enum (← spanFrom start) name members (names.contains "declare")

/-- A name, or a member of a name. -/
def isEntity : Expr → Bool
  | .name _ _ => true
  | .member _ object _ _ false => isEntity object
  | _ => false

/-- The text of the declaration from the word `keyword`, behind which `origin` is, to the last token
read. -/
def writtenFrom (names : List String) (keyword : String) (origin : Cursor) : Parser String := do
  let stop := (← state).prevStop
  let rest := String.ofList (origin.rest.take (stop - origin.offset))
  return (if names.contains "declare" then "declare " else "") ++ keyword ++ rest

def interfaceFrom (start : Nat) (names : List String) : Parser Stmt := do
  let origin := (← state).lexer.cursor
  expectWord "interface"
  let (_, name) ← bindingName
  let types ← partsOf (typeParameters? g)
  let (parents, implements) ← heritage g
  let members ← partsOf (typeMembers g)
  checkDeclaration names []
  if implements.isSome then report .interfaceImplements
  for parent in parents do
    if !isEntity parent.name then report .interfaceParent
  let extended := parents.flatMap fun parent => .expr parent.name :: parent.types
  return .interface (← spanFrom start) name (← writtenFrom names "interface" origin)
    (types ++ extended ++ members)

def typeAliasFrom (start : Nat) (names : List String) : Parser Stmt := do
  let origin := (← state).lexer.cursor
  expectWord "type"
  let (_, name) ← bindingName
  let types ← partsOf do
    typeParameters? g
    expect .eq
    g.type
  let written ← writtenFrom names "type" origin
  endStatement
  checkDeclaration names []
  return .typeAlias (← spanFrom start) name written types

/-- The body of a namespace, with its braces. -/
def namespaceBody : Parser Body :=
  within (fun c => { c with inFunction := false }) (bracedBody g)

/-- A namespace, at its first name; a dotted name stands for namespaces in one another. -/
def namespaceFrom (start : Nat) (names : List String) : Parser Stmt := do
  let ambient := names.contains "declare"
  let (_, first) ← bindingName
  let rest ← loop ([] : List (Nat × String)) fun names => do
    if ← eat .dot then
      let (span, name) ← identifierName
      return ((span.start, name) :: names, true)
    return (names, false)
  let body ← within (fun c => { c with ambient := c.ambient || ambient }) (namespaceBody g)
  checkDeclaration names []
  let span ← spanFrom start
  let inner := rest.foldl (fun (body : Body) (at', name) =>
    let span : Span := ⟨at', span.stop⟩
    .mk span [] [.exportDecl span (.namespace span name (some body) ambient)]) body
  return .namespace span first (some inner) ambient

/-- A module with a quoted name, at the name. One with a body has to be declared. -/
def quotedModule (start : Nat) (declared : Bool) : Parser Stmt := do
  let _ ← stringLiteral
  if ← at? .lbrace then
    let body ← within (fun c => { c with ambient := c.ambient || declared }) (namespaceBody g)
    return .ambientModule (← spanFrom start) declared (some body)
  endStatement
  return .ambientModule (← spanFrom start) true none

/-- The words that may come before a declaration. -/
def declarationModifiers : Parser (List String) := do
  let names ← loop ([] : List String) fun names => do
    let t ← token
    let next ← peek
    let here := ["abstract", "declare", "private", "protected", "public", "readonly", "static",
      "accessor"].any t.isWord && next.isName && !next.newLine
    let constEnum := t.isWord "const" && next.isWord "enum"
    if here || constEnum then
      match repeatedModifier? names t.kind.title with
      | some fault => report fault
      | none => pure ()
      advance
      return (t.kind.title :: names, true)
    return (names, false)
  return names.reverse

/-- `import a = …`, at the name. -/
def importAlias (start : Nat) (typeOnly : Bool) (name : String) : Parser Stmt := do
  expect .eq
  let requires := (← atWord? "require") && (← peek).isPunct .lparen
  if requires then
    advance
    expect .lparen
    let (span, source) ← stringLiteral
    expect .rparen
    endStatement
    return .importAlias (← spanFrom start) name typeOnly (.literal span (.string source)) true
  let begins ← startPos
  let (span, first) ← referenceName
  let target ← loop (Expr.name span first) fun target => do
    if ← eat .dot then
      let (nameSpan, name) ← identifierName
      return (.member (← spanFrom begins) target nameSpan name false, true)
    return (target, false)
  endStatement
  return .importAlias (← spanFrom start) name typeOnly target false

/-- A declaration, after its modifiers. -/
def declaration (start : Nat) (marks : List Expr) (names : List String) : Parser Stmt := do
  let ambient := names.contains "declare"
  let t ← token
  if t.isWord "class" then
    let c ← classFrom g start marks ambient
    checkDeclaration names ["abstract"]
    return .class c
  for _ in marks do report .decoratorHere
  if ← types? then
    if t.isWord "namespace" || t.isWord "module" then
      advance
      if (← token).isString then return ← quotedModule g start ambient
      return ← namespaceFrom g start names
    if t.isWord "global" && (← peek).isPunct .lbrace then
      advance
      let body ← within (fun c => { c with ambient := true }) (namespaceBody g)
      return .ambientModule (← spanFrom start) true (some body)
    if t.isWord "type" then return ← typeAliasFrom g start names
    if t.isWord "enum" then return ← enumFrom g start names
    if t.isWord "interface" then return ← interfaceFrom g start names
    if t.isWord "import" then
      advance
      let (_, name) ← bindingName
      return ← importAlias start false name
  let kind : Option VarKind :=
    if t.isWord "var" then some .var else if t.isWord "let" then some .let
    else if t.isWord "const" then some .const else none
  match kind with
  | some kind =>
    advance
    if kind == .const && (← types?) && (← atWord? "enum") then return ← enumFrom g start names
    let s ← variableDeclaration g start kind ambient
    checkDeclaration names []
    return s
  | none =>
    if ← atFunction? then
      let async ← eatWord "async"
      let f ← within (fun c => { c with ambient := c.ambient || ambient })
        (functionFrom g (leftHand g) start async .declaration ambient)
      checkDeclaration names []
      return .function f
    unexpected

end Grammar

end LivePreview.Script
