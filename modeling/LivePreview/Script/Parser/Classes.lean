import LivePreview.Number.DoubleText
import LivePreview.Script.Parser.Calls

/-!
# Classes
-/

namespace LivePreview.Script

open LivePreview.Script.Parser

/-- The parameters of a function. -/
def Function.params : Function → List Param
  | .mk _ _ _ _ params _ _ => params

def Function.body : Function → Option Body
  | .mk _ _ _ _ _ _ body => body

namespace Grammar

variable (g : Grammar)

/-! ## Methods -/

/-- A method from its parameters on, and whether a type is given for `this`. -/
def methodFrom (place : FunctionPlace) (async generator : Bool) : Parser (Function × Bool) := do
  let start ← startPos
  functionRest g (leftHand g) start none place { async := async, generator := generator }

/-- A method from its parameters on. -/
def method (async generator : Bool) : Parser Function := 
  return (← methodFrom g .method async generator).1

/-- The parameter has a default. -/
def hasDefault : Param → Bool
  | .mk _ _ (.default _ _ _) _ _ _ => true
  | _ => false

/-- A getter takes nothing, a setter takes one thing, which with types about has no default. -/
def checkAccessor (kind : AccessorKind) (value : Function) : Parser Unit := do
  match kind with
  | .get => if !value.params.isEmpty then report .getterParameters
  | .set =>
    if value.params.any Param.isRest then report .setterRest
    else if value.params.length != 1 then report .setterParameters
    else if (← types?) && value.params.any hasDefault then report .setterInitializer

/-- `get` or `set`, where it introduces an accessor. -/
def accessorKind? : Parser (Option AccessorKind) := do
  let t ← token
  let kind : Option AccessorKind :=
    if t.isWord "get" then some .get else if t.isWord "set" then some .set else none
  match kind with
  | none => return none
  | some kind =>
    if followsAccessorWord (← peek) then
      advance
      return some kind
    return none

/-! ## Members -/

/-- The forms of members that take words before them. -/
inductive MemberForm where
  | constructor
  | method
  | accessor
  | field
  | autoAccessor
  deriving DecidableEq

/-- What is wrong with the word `name` before a member, whatever comes before it. -/
def memberModifierFault? (form : MemberForm) (name : String) : Option Diagnostic :=
  let ofElements := Diagnostic.modifierOn name "class elements of this kind"
  if form == .constructor then
    if accessWords.contains name then none
    else some (.modifierOn name "a constructor declaration")
  else match name with
  | "const" => some .constMember
  | "in" | "out" =>
    some (.modifierOnlyOn name "a type parameter of a class, interface or type alias")
  | "export" | "default" => some ofElements
  | "declare" =>
    match form with
    | .field => none
    | .autoAccessor => some (.accessorWith name)
    | _ => some ofElements
  | "readonly" =>
    match form with
    | .field => none
    | .autoAccessor => some (.accessorWith name)
    | _ => some (.modifierOnlyOn name "a property declaration or index signature")
  | "accessor" =>
    if form == .autoAccessor then none else some (.modifierOnlyOn name "a property declaration")
  | "async" =>
    match form with
    | .method => none
    | .autoAccessor => some (.accessorWith name)
    | _ => some (.modifierHere name)
  | _ => none

/-- Notes every word that may not stand before a member. -/
def checkMember (form : MemberForm) (names : List String) : Parser Unit := do
  for name in names do
    match memberModifierFault? form name with
    | some fault => report fault
    | none => pure ()

/-- The name of a member as far as it is fixed. -/
def keyName? : Key → Option String
  | .name _ name => some name
  | .literal _ (.string value) => some value.text
  | _ => none

/-- The statements in braces. -/
def bracedStatements : Parser (List Stmt) := do
  expect .lbrace
  let body ← enclosed (withIn (statements g))
  expect .rbrace
  return body

/-- A field's value, in which the function around the class counts for nothing. -/
def fieldValue? : Parser (Option Expr) := do
  if ← eat .eq then
    return some (← within
      (fun c => { c with allowIn := true, inAsync := false, inGenerator := false }) (g.assign true))
  return none

def field (start : Nat) (marks : List Expr) (names : List String) (key : Key) (title : String)
    (flags : MemberFlags) : Parser Member := do
  let auto := names.contains "accessor"
  let definite ← if ← types? then eat .bang else pure false
  if definite && flags.optional then report .optionalDefinite
  if auto && flags.optional then report .optionalAccessor
  let (_, types) ← collecting (typeAnnotation? g)
  let value ← fieldValue? g
  endStatement
  checkMember (if auto then .autoAccessor else .field) names
  if flags.abstract && !auto && value.isSome then report (.abstractInitializer title)
  if keyName? key == some "constructor" then
    report (if auto then .autoAccessorConstructor else .fieldConstructor)
  if flags.static && keyName? key == some "prototype" then report .staticPrototype
  let span ← spanFrom start
  if auto then return .autoAccessor span marks key types value flags
  return .field span marks key types value flags

/-- What is wrong with a method by the name that it has. -/
def checkMethodName (key : Key) (accessor async generator : Bool) (flags : MemberFlags) :
    Parser Unit := do
  if flags.static then
    if keyName? key == some "prototype" then report .staticPrototype
  else if keyName? key == some "constructor" then
    if accessor then report .accessorConstructor
    if async then report .asyncConstructor
    if generator then report .generatorConstructor

/-- The name of a member, and the text by which a fault calls it: a name that is not fixed goes by
the text of its expression. A hidden name takes no word about access. -/
def memberKey (names : List String) : Parser (Key × String) := do
  let t ← token
  let origin := (← state).lexer.cursor
  if let .hidden name := t.kind then
    if ← types? then
      for name in names do
        if accessWords.contains name then report .accessPrivate
    if name == "constructor" then report .hiddenConstructor
  let key ← propertyKey g
  return (key, match key with
    | .name _ name => name
    | .hidden _ name => "#" ++ name
    | .literal _ (.string value) => value.text
    | .literal _ (.number bits) => String.ofList (Double.scriptText ⟨bits⟩)
    | .literal _ (.bigint value) => toString value ++ "n"
    | .literal _ _ => t.kind.title
    | .computed e => String.ofList
      ((origin.rest.drop (e.span.start - origin.offset)).take (e.span.stop - e.span.start)))

/-- A constructor from its parameters on. It is not generic, and gives no type for `this`. -/
def constructor : Parser Function := do
  let generic ← at? .lt
  let (value, typedThis) ← methodFrom g .constructor false false
  if typedThis then report .constructorThis
  if generic && (← types?) then report .constructorTypeParameters
  return value

/-- A constructor's name is next: the word, or the quoted word before its parameters. -/
def atConstructor? : Parser Bool := do
  match (← token).kind with
  | .word name _ => return name == "constructor"
  | .string value => return value.text == "constructor" && (← peek).isPunct .lparen
  | _ => return false

/-- A member of a class, after its decorators and modifiers. -/
def memberRestOfClass (start : Nat) (marks : List Expr) (names : List String) : Parser Member := do
  let flags : MemberFlags :=
    { static := names.contains "static", abstract := names.contains "abstract",
      ambient := names.contains "declare" }
  match ← accessorKind? with
  | some kind =>
    let (key, title) ← memberKey g names
    let value ← method g false false
    checkAccessor kind value
    checkMember .accessor names
    if flags.abstract && value.body.isSome then report (.abstractAccessor title)
    checkMethodName key true false false flags
    return .accessor (← spanFrom start) marks kind key value flags
  | none =>
    if !flags.static && (← atConstructor?) then
      let key ← propertyKey g
      let value ← constructor g
      checkMember .constructor names
      return .constructor (← spanFrom start) marks key value
    if (← types?) && (← atIndexSignature?) then
      for _ in marks do report .decoratorHere
      let types ← partsOf (indexSignature g names)
      endTypeMember
      return .indexSignature (← spanFrom start) types
    let generator ← eat .star
    let (key, title) ← memberKey g names
    let flags ← if ← types? then pure { flags with optional := (← eat .question) } else pure flags
    let t ← token
    if generator || t.isPunct .lparen || t.isPunct .lt then
      let async := names.contains "async"
      let value ← method g async generator
      if value.body.isNone then
        for _ in marks do report .decoratedOverload
      checkMember .method names
      if flags.abstract && value.body.isSome then report (.abstractImplementation title)
      checkMethodName key false async generator flags
      return .method (← spanFrom start) marks key value flags
    within (fun c => { c with ambient := c.ambient || flags.ambient })
      (field g start marks names key title flags)

def classMember : Parser Member := do
  let start ← startPos
  let marks ← decorators (leftHand g)
  let names ← modifiers true true
  if (← atWord? "static") && (← peek).isPunct .lbrace then
    advance
    for _ in marks do report .decoratorHere
    let body ← within
      (fun c => { c with inAsync := true, inGenerator := false, inFunction := false })
      (bracedStatements g)
    return .staticBlock (← spanFrom start) body
  memberRestOfClass g start marks names

/-- The members with their braces; stray semicolons are passed over. -/
def classBody : Parser (List Member) := do
  expect .lbrace
  let skip : Parser Bool := do
    let _ ← loop () fun _ => do return ((), ← eat .semicolon)
    return (← at? .rbrace) || (← token).isEof
  let members ← enclosed (withIn (manyUntil skip (classMember g)))
  expect .rbrace
  return members

/-! ## Classes -/

/-- A class or interface that is extended, with its type arguments. -/
structure Parent where
  name : Expr
  types : List TypePart

/-- What a class or interface extends, by the last of its clauses, and what it is said to implement,
if anything. -/
def heritage : Parser (List Parent × Option (List TypePart)) := do
  let (parents, implements) ← loop ((none, none) : Option (List Parent) × Option (List TypePart))
    fun (parents, implements) => do
    if ← atWord? "extends" then
      if parents.isSome then report .classExtendsTwice
      else if implements.isSome then report .extendsAfterImplements
      advance
      let parent : Parser Parent := do
        let (name, given) := calleeOf (← leftHand g)
        let types ← partsOf (typeArguments? g)
        return ⟨name, given ++ types⟩
      let first ← parent
      let named ← loop [first] fun named => do
        if ← eat .comma then return ((← parent) :: named, true)
        return (named, false)
      return ((some named.reverse, implements), true)
    if (← types?) && (← atWord? "implements") then
      if implements.isSome then report .implementsTwice
      advance
      let interface : Parser Unit := do
        entityName
        typeArguments? g
      let types ← partsOf do
        interface
        loop () fun _ => do
          if ← eat .comma then
            interface
            return ((), true)
          return ((), false)
      return ((parents, some types), true)
    return ((parents, implements), false)
  return (parents.getD [], implements)

/-- A class, at its `class`; its decorators are already read. -/
def classFrom (start : Nat) (marks : List Expr) (ambient : Bool) : Parser Class := do
  expectWord "class"
  let t ← token
  let name ← if t.isBinding && !t.isWord "implements" then some <$> bindingName else pure none
  let types ← partsOf (typeParameters? g)
  let (parents, implements) ← heritage g
  if 1 < parents.length then report .classExtendsMany
  let members ← within (fun c => { c with ambient := c.ambient || ambient }) (classBody g)
  let parent := parents.head?
  return .mk (← spanFrom start) marks name types (parent.map (·.name))
    ((parent.map (·.types)).getD [] ++ implements.getD []) members ambient

end Grammar

end LivePreview.Script
