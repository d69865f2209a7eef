import LivePreview.Script.Parser.Grammar

/-!
# Types

Types are read so that they can be passed over. What they are made of that is no type, such as the
computed name of a member or a parameter of a signature, is noted (`Parser.notePart`) for the node
that the type is written in.
-/

namespace LivePreview.Script

open LivePreview.Script.Parser

namespace Grammar

variable (g : Grammar)

/-- Words that may modify a declaration, a member or a parameter. -/
def modifierWords : List String :=
  ["abstract", "accessor", "async", "const", "declare", "default", "export", "in", "public",
   "private", "protected", "override", "out", "readonly", "static"]

/-- Words about who may use a member. -/
def accessWords : List String := ["public", "private", "protected"]

/-- The modifiers that may not come before the given one. -/
def laterModifiers (name : String) : List String :=
  if accessWords.contains name then ["override", "static", "accessor", "readonly", "async"]
  else match name with
    | "static" => ["readonly", "async", "override"]
    | "override" => ["readonly", "accessor", "async"]
    | "abstract" => ["override", "accessor"]
    | "export" => ["declare", "abstract", "async"]
    | _ => []

/-- What is wrong with a modifier that repeats one of those seen. -/
def repeatedModifier? (seen : List String) (name : String) : Option Diagnostic :=
  if accessWords.contains name && seen.any accessWords.contains then some .accessTwice
  else if seen.contains name then some (.modifierTwice name)
  else none

/-- What is wrong with a modifier that comes after those seen. -/
def modifierFault? (seen : List String) (name : String) : Option Diagnostic :=
  repeatedModifier? seen name
    <|> ((laterModifiers name).find? seen.contains).map (.modifierOrder name)

/-- What may come after a modifier that is one. -/
def followsModifier (t : Token) : Bool :=
  t.isPropertyName || t.kind matches .hidden _ || t.isPunct .lbrack || t.isPunct .lbrace
    || t.isPunct .star || t.isPunct .ellipsis

/-- What may come after `get` or `set` when they introduce an accessor. -/
def followsAccessorWord (t : Token) : Bool :=
  t.isPropertyName || t.kind matches .hidden _ || t.isPunct .lbrack

/-- The modifier at the current token, if it is one here and not a name. -/
def modifierHere (constAllowed stopAtStaticBlock seenStatic : Bool) : Parser (Option String) := do
  match (← token).kind with
  | .word name _ =>
    if !modifierWords.contains name then return none
    let next ← peek
    if name == "const" then
      if constAllowed && !next.newLine && followsModifier next then return some name
      return none
    if name == "static" then
      if stopAtStaticBlock && next.isPunct .lbrace then return none
      if seenStatic || !followsModifier next then return none
      return some name
    if next.newLine || !followsModifier next then return none
    return some name
  | _ => return none

/-- All modifiers from the current token on. -/
def modifiers (constAllowed stopAtStaticBlock : Bool) : Parser (List String) := do
  let names ← loop ([] : List String) fun names => do
    match ← modifierHere constAllowed stopAtStaticBlock (names.contains "static") with
    | none => return (names, false)
    | some name =>
      match modifierFault? names name with
      | some fault => report fault
      | none => pure ()
      advance
      return (name :: names, true)
  return names.reverse

/-- Notes every modifier that may not stand here. -/
def checkModifiers (names allowed : List String) (fault : String → Diagnostic) : Parser Unit := do
  for name in names do
    if !allowed.contains name then report (fault name)

/-! ## Names and arguments -/

/-- A name with further names after dots. -/
def entityName : Parser Unit := do
  if ← atWord? "this" then advance else let _ ← referenceName
  let _ ← loop () fun _ => do
    if ← eat .dot then
      if (← token).kind matches .hidden _ then advance
      else let _ ← identifierName
      return ((), true)
    else return ((), false)

/-- Takes the first `<` off the current sign, if it starts with one. -/
def atTypeArguments? : Parser Bool := do
  relex (fun _ l t => l.splitLt t) Lexer.rereads_splitLt
  at? .lt

/-- Types between `<` and `>`. -/
def typeArguments : Parser Unit := do
  expect .lt
  let (items, _) ← enclosed (delimited .gt .comma g.type)
  expect .gt
  if items.isEmpty then report .emptyTypeArguments

/-- Type arguments on the same line, if any. -/
def typeArguments? : Parser Unit := do
  let t ← token
  if !t.newLine && (t.isPunct .lt || t.isPunct .shl || t.isPunct .shlEq) then
    if ← atTypeArguments? then typeArguments g

/-- One parameter of a generic declaration. -/
def typeParameter : Parser Unit := do
  let names ← modifiers true false
  checkModifiers names ["in", "out", "const"] fun name => .modifierOn name "a type parameter"
  let _ ← bindingName
  if ← eatWord "extends" then g.type
  if ← eat .eq then g.type

/-- Parameters of a generic declaration, if any. Sources without types have none. -/
def typeParameters? : Parser Unit := do
  if (← types?) && (← at? .lt) then
    advance
    let (items, _) ← enclosed (delimited .gt .comma (typeParameter g))
    expect .gt
    if items.isEmpty then report .emptyTypeParameters

/-! ## Parameters and results -/

/-- The type after a colon, if there is one. -/
def typeAnnotation? : Parser Bool := do
  if (← types?) && (← at? .colon) then
    advance
    within (fun c => { c with noConditional := false }) g.type
    return true
  return false

/-- A type, or a statement about a parameter: `x is T`, `asserts x`. -/
def typeOrPredicate : Parser Unit := do
  let next ← peek
  let t ← token
  if t.isWord "asserts" && !next.newLine && (next.isBinding || next.isWord "this") then
    advance
    advance
    if ← eatWord "is" then g.type
  else if (t.isBinding || t.isWord "this") && next.isWord "is" && !next.newLine then
    advance
    advance
    g.type
  else g.type

/-- The result type after `sign`, if there is one. -/
def returnType? (sign : Punct) : Parser Bool := do
  if (← types?) && (← at? sign) then
    advance
    within (fun c => { c with noConditional := false }) (typeOrPredicate g)
    return true
  return false

/-- A value after a `=`, if there is one. -/
def initializer? : Parser (Option Expr) := do
  if ← eat .eq then
    return some (← within (fun c => { c with allowIn := true }) (g.assign true))
  return none

/-- The decorators from the current token on. One that skips what is missing has to be
bracketed. -/
def decorators (lhs : Parser Expr) : Parser (List Expr) :=
  manyUntil (do return !(← at? .at)) do
    advance
    let mark ← within (fun c => { c with inDecorator := true }) lhs
    if mark matches .chain _ _ then report .decoratorBrackets
    return mark

/-- Words that make a constructor's parameter a field. -/
def fieldWords : List String := accessWords ++ ["override", "readonly"]

/-- The pattern is no single name. -/
def isStructured : Pattern → Bool
  | .object _ _ _ | .array _ _ _ => true
  | _ => false

/-- A parameter. The words that make it a field belong to a constructor's parameters (`fields`),
and to names among them. -/
def parameter (lhs : Parser Expr) (fields : Bool) : Parser Param := do
  let start ← startPos
  let marks ← decorators lhs
  let names ← modifiers false false
  if ← types? then
    checkModifiers names (if fields then fieldWords else []) fun name =>
      .modifierOn name "a parameter"
  else checkModifiers names [] fun _ => .parameterModifier
  if ← eat .ellipsis then
    let target ← g.pattern
    if (← types?) && (← eat .question) then report .restOptional
    let (_, types) ← collecting (typeAnnotation? g)
    if (← initializer? g).isSome then report .restInitializer
    return .mk (← spanFrom start) marks target types true false
  let inner ← startPos
  let target ← g.pattern
  if (← types?) && names.any fieldWords.contains && isStructured target then report .fieldPattern
  if ← types? then let _ ← eat .question
  let (_, types) ← collecting (typeAnnotation? g)
  let target ← (do
    match ← initializer? g with
    | some value => return Pattern.default (← spanFrom inner) target value
    | none => return target)
  return .mk (← spanFrom start) marks target types false !names.isEmpty

def Param.isRest : Param → Bool
  | .mk _ _ _ _ rest _ => rest

/-- The parameters of a function, with their brackets; also whether a type is given for `this`. -/
def parameters (lhs : Parser Expr) (fields : Bool) : Parser (List Param × Bool) := do
  expect .lparen
  let typedThis ← (do
    if (← types?) && (← atWord? "this") then
      advance
      let _ ← typeAnnotation? g
      if !(← at? .rparen) then
        if !(← at? .comma) then failExpected ","
        advance
      return true
    return false)
  let params ← enclosed (loop ([] : List Param) fun params => do
    let t ← token
    if t.isPunct .rparen || t.isEof then return (params, false)
    if !params.isEmpty then
      if !t.isPunct .comma then
        stop (faultsAt (.expectedInList "," ")" t.kind.title) true)
      advance
      if ← at? .rparen then
        if params.any Param.isRest && !(← scope).ambient then report .restTrailingComma
        return (params, false)
      if params.any Param.isRest then report .restNotLast
    return ((← parameter g lhs fields) :: params, true))
  expect .rparen
  return (params.reverse, typedThis)

/-- The parameters of a function type or signature, which bind nothing. A type for `this` has no
place in those of a constructor (`makes`). -/
def typeLevelParameters (makes : Bool) : Parser Unit := do
  let (params, typedThis) ← parameters g g.unary false
  for p in params do notePart (.param p)
  if makes && typedThis then report .constructorThis

/-- Moves past what could start a parameter, and tells whether it was there. -/
def skipParameterStart : Parser Bool := do
  let _ ← modifiers false false
  let t ← token
  if t.isBinding || t.isWord "this" then
    advance
    return true
  if t.isPunct .lbrack || t.isPunct .lbrace then
    let _ ← g.pattern
    return true
  return false

/-- After a `(`: this can only be a function type. -/
def startsFunctionType : Parser Bool := lookahead false do
  advance
  let t ← token
  if t.isPunct .rparen || t.isPunct .ellipsis then return true
  if ← skipParameterStart g then
    let t ← token
    if t.isPunct .colon || t.isPunct .comma || t.isPunct .question || t.isPunct .eq then
      return true
    if ← eat .rparen then return ← at? .arrow
  return false

/-- A function or constructor type starts here. -/
def atFunctionType? : Parser Bool := do
  let t ← token
  if t.isPunct .lt then return true
  if t.isPunct .lparen then return ← startsFunctionType g
  if t.isWord "new" then return true
  if t.isWord "abstract" then return (← peek).isWord "new"
  return false

def functionType : Parser Unit := do
  let _ ← eatWord "abstract"
  let makes ← eatWord "new"
  typeParameters? g
  typeLevelParameters g makes
  expect .arrow
  typeOrPredicate g

/-! ## Members of object types -/

/-- A property name; a computed one is an expression. -/
def propertyKey : Parser Key := do
  let t ← token
  let span : Span := ⟨t.start, t.stop⟩
  match t.kind with
  | .string value =>
    advance
    return .literal span (.string value)
  | .number _ bits =>
    advance
    return .literal span (.number bits)
  | .bigint value =>
    advance
    return .literal span (.bigint value)
  | .hidden name =>
    advance
    return .hidden span name
  | .punct .lbrack =>
    advance
    let e ← enclosed (within (fun c => { c with allowIn := true }) (g.assign true))
    expect .rbrack
    return .computed e
  | _ =>
    let (span, name) ← identifierName
    return .name span name

/-- The name of a member of an object type. -/
def typeMemberName : Parser Unit := do
  match ← propertyKey g with
  | .computed e => notePart (.expr e)
  | _ => pure ()

/-- `[name: T]` or the like starts here. -/
def atIndexSignature? : Parser Bool := lookahead false do
  if !(← eat .lbrack) then return false
  let t ← token
  if t.isPunct .ellipsis || t.isPunct .rbrack then return true
  if t.kind matches .word _ _ then
    if modifierWords.contains t.kind.title && (← peek).isBinding then return true
  if !t.isBinding then return false
  advance
  let t ← token
  if t.isPunct .colon || t.isPunct .comma then return true
  if !t.isPunct .question then return false
  advance
  let t ← token
  return t.isPunct .colon || t.isPunct .comma || t.isPunct .rbrack

/-- Ends a member of an object type. -/
def endTypeMember : Parser Unit := do
  if ← eat .comma then return
  endStatement

/-- An index signature, after its modifiers. -/
def indexSignature (names : List String) : Parser Unit := do
  checkModifiers names ["readonly", "static"] fun name => .modifierOn name "an index signature"
  expect .lbrack
  let (items, _) ← enclosed (delimited .rbrack .comma do
    let _ ← modifiers false false
    let _ ← bindingName
    if ← eat .question then report .indexOptional
    let _ ← typeAnnotation? g)
  expect .rbrack
  if items.length != 1 then report .indexParameters
  if !(← typeAnnotation? g) then fail .indexType

/-- The part of a signature from its parameters on; also whether it has a result type. -/
def signature (makes : Bool) : Parser Bool := do
  typeParameters? g
  typeLevelParameters g makes
  returnType? g .colon

def typeMember : Parser Unit := do
  let t ← token
  if t.isPunct .lparen || t.isPunct .lt then
    let _ ← signature g false
    return ← endTypeMember
  if t.isWord "new" then
    let next ← peek
    if next.isPunct .lparen || next.isPunct .lt then
      advance
      let _ ← signature g true
      return ← endTypeMember
  let names ← modifiers false false
  let check := checkModifiers names ["readonly"] fun name => .modifierOn name "a type member"
  let t ← token
  if t.isWord "get" || t.isWord "set" then
    if followsAccessorWord (← peek) then
      advance
      check
      typeMemberName g
      let typed ← signature g false
      if typed && t.isWord "set" then report .setterResult
      return ← endTypeMember
  if ← atIndexSignature? then
    indexSignature g names
    return ← endTypeMember
  check
  typeMemberName g
  let _ ← eat .question
  let t ← token
  if t.isPunct .lparen || t.isPunct .lt then let _ ← signature g false
  else let _ ← typeAnnotation? g
  endTypeMember

/-- The members of an object type or interface, with their braces. -/
def typeMembers : Parser Unit := do
  expect .lbrace
  let _ ← enclosed (manyUntil (do return (← at? .rbrace) || (← token).isEof) (typeMember g))
  expect .rbrace

/-- `{ [K in …` starts here. -/
def atMappedType? : Parser Bool := lookahead false do
  advance
  let t ← token
  if t.isPunct .plus || t.isPunct .minus then
    advance
    return ← atWord? "readonly"
  let _ ← eatWord "readonly"
  if !(← eat .lbrack) then return false
  if !(← token).isName then return false
  advance
  atWord? "in"

/-- An optional `+` or `-` before a modifier. -/
def modifierSign : Parser Bool := do
  let t ← token
  if t.isPunct .plus || t.isPunct .minus then
    advance
    return true
  return false

def mappedType : Parser Unit := do
  expect .lbrace
  enclosed do
    if ← modifierSign then expectWord "readonly" else let _ ← eatWord "readonly"
    expect .lbrack
    let _ ← identifierName
    expectWord "in"
    g.type
    if ← eatWord "as" then g.type
    expect .rbrack
    if ← modifierSign then expect .question else let _ ← eat .question
    let _ ← typeAnnotation? g
    let _ ← eat .comma
    let _ ← eat .semicolon
  expect .rbrace

/-! ## Other types -/

/-- What an element of a tuple asks of those after it. -/
inductive TupleElement where
  | required
  | optional
  | rest
  deriving DecidableEq

def tupleElement : Parser TupleElement := do
  let named : Bool ← lookahead false do
    let _ ← eat .ellipsis
    let _ ← identifierName
    if ← at? .colon then return true
    if !(← eat .question) then return false
    at? .colon
  if named then
    let rest ← eat .ellipsis
    let _ ← identifierName
    let optional ← eat .question
    if rest && optional then report .optionalRestElement
    expect .colon
    if ← eat .ellipsis then report .restElementType
    g.type
    return if rest then .rest else if optional then .optional else .required
  let rest ← eat .ellipsis
  let origin := (← state).lexer.cursor
  g.type
  let last := (← state).prevStop - 1
  let optional :=
    origin.offset ≤ last && (origin.rest.drop (last - origin.offset)).head? == some '?'
  return if rest then .rest else if optional then .optional else .required

def tupleType : Parser Unit := do
  expect .lbrack
  let (elements, _) ← enclosed (delimited .rbrack .comma (tupleElement g))
  expect .rbrack
  for element in elements.dropWhile (· != .optional) do
    if element == .required then report .requiredElement

/-- The chunks and types of a template type. -/
def templateType : Parser Unit := do
  let hole : Parser Unit := do
    enclosed g.type
    if ← at? .rbrace then relex (fun fuel l t => l.retemplate fuel t) Lexer.rereads_retemplate
  let _ ← loop true fun first => do
    let t ← token
    if t.isEof && !first then failExpected "\x60"
    match t.kind with
    | .template chunk =>
      if chunk.first == first then
        advance
        if !chunk.last && first then hole
        return (false, !chunk.last)
      hole
      return (false, true)
    | _ =>
      hole
      return (false, true)

def typeReference : Parser Unit := do
  entityName
  typeArguments? g

def importType : Parser Unit := do
  let _ ← eatWord "typeof"
  expectWord "import"
  expect .lparen
  enclosed do
    if !(← token).isString then fail .importTypeSource
    g.type
    if ← eat .comma then
      if !(← at? .rparen) then
        notePart (.expr (← g.assign true))
        let _ ← eat .comma
  expect .rparen
  if ← eat .dot then
    let _ ← identifierName
    let _ ← loop () fun _ => do
      if ← eat .dot then
        let _ ← identifierName
        return ((), true)
      return ((), false)
  typeArguments? g

/-- Words that name a type by themselves. -/
def typeWords : List String :=
  ["any", "unknown", "string", "number", "bigint", "symbol", "boolean", "undefined", "never",
   "object", "intrinsic"]

/-- A type that no operator is part of. -/
def primaryType : Parser Unit := do
  let t ← token
  match t.kind with
  | .string _ | .number _ _ | .bigint _ => advance
  | .template _ => templateType g
  | .punct .minus =>
    advance
    if (← token).isNumber then advance else unexpected
  | .punct .lbrace => if ← atMappedType? then mappedType g else typeMembers g
  | .punct .lbrack => tupleType g
  | .punct .lparen =>
    advance
    enclosed (within (fun c => { c with noConditional := false }) g.type)
    expect .rparen
  | .word name _ =>
    if name == "this" then
      advance
      if (← atWord? "is") && !(← newLine?) then
        advance
        g.type
    else if name == "typeof" then
      if (← peek).isWord "import" then importType g
      else
        advance
        entityName
        typeArguments? g
    else if name == "import" then importType g
    else if ["void", "null", "true", "false", "const"].contains name then advance
    else if name == "asserts" then
      let next ← peek
      if !next.newLine && (next.isBinding || next.isWord "this") then typeOrPredicate g
      else typeReference g
    else if typeWords.contains name && !(← peek).isPunct .dot then advance
    else typeReference g
  | _ => unexpected

/-- A type may start at `t`. -/
def startsType (t : Token) : Bool :=
  match t.kind with
  | .word name _ =>
    !isReservedWord name || ["void", "null", "this", "typeof", "new", "true", "false", "import",
      "function"].contains name
  | .string _ | .number _ _ | .bigint _ | .template _ => true
  | .punct p => [.lbrace, .lbrack, .lt, .pipe, .amp, .star, .question, .bang, .ellipsis, .minus,
      .lparen].contains p
  | _ => false

/-- A primary type with array and index brackets. -/
def postfixType : Parser Unit := do
  primaryType g
  let _ ← loop () fun _ => do
    let t ← token
    if t.newLine then return ((), false)
    if t.isPunct .bang then
      advance
      return ((), true)
    if t.isPunct .question then
      if startsType (← peek) then return ((), false)
      advance
      return ((), true)
    if t.isPunct .lbrack then
      advance
      if startsType (← token) then enclosed g.type
      expect .rbrack
      return ((), true)
    return ((), false)

/-- `infer T`, with a constraint where no conditional type claims the `extends`. -/
def inferType : Parser Unit := do
  expectWord "infer"
  let _ ← bindingName
  let blocked := (← scope).noConditional
  let _ ← attempt do
    expectWord "extends"
    within (fun c => { c with noConditional := true }) g.type
    if !blocked && (← at? .question) then unexpected

def operandType : Parser Unit := do
  let t ← token
  if t.isWord "keyof" || t.isWord "unique" || t.isWord "readonly" then
    advance
    g.typeOperand
  else if t.isWord "infer" then inferType g
  else within (fun c => { c with noConditional := false }) (postfixType g)

/-- Types joined by `sign`, which may also come first. -/
def joinedTypes (sign : Punct) (item : Parser Unit) : Parser Unit := do
  let _ ← eat sign
  item
  let _ ← loop () fun _ => do
    if ← eat sign then
      item
      return ((), true)
    return ((), false)

/-- An operand of a union or intersection. -/
def constituent : Parser Unit := do
  if ← atFunctionType? g then functionType g else g.typeOperand

def unionType : Parser Unit := joinedTypes .pipe (joinedTypes .amp (constituent g))

def anyType : Parser Unit := do
  if ← atFunctionType? g then functionType g
  else
    unionType g
    if !(← scope).noConditional && !(← newLine?) then
      if ← eatWord "extends" then
        within (fun c => { c with noConditional := true }) g.type
        expect .question
        within (fun c => { c with noConditional := false }) g.type
        expect .colon
        within (fun c => { c with noConditional := false }) g.type

end Grammar

end LivePreview.Script
