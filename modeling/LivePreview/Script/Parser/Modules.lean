import LivePreview.Script.Names
import LivePreview.Script.Parser.Declarations

/-!
# Imports and exports
-/

namespace LivePreview.Script

open LivePreview.Script.Parser

namespace Grammar

variable (g : Grammar)

/-! ## Names in lists -/

/-- A name of a module: any word, or a string without lone surrogates. -/
def moduleName : Parser ModuleName := do
  if (← token).isString then
    let (span, value) ← stringLiteral
    if value.loneSurrogates then report .exportSurrogate
    return .string span value
  let (span, name) ← identifierName
  return .ident span name

/-- A name of a module may start here. -/
def atModuleName? : Parser Bool := do
  let t ← token
  return t.isName || t.isString

/-- A name in a list: the name on the left, the one on the right, and whether only its type is
meant. With types about, `type` may be a name or a mark, as the words after it decide. -/
def listedName : Parser (ModuleName × ModuleName × Bool) := do
  let first ← moduleName
  let renamed (left : ModuleName) (typeOnly : Bool) : Parser (ModuleName × ModuleName × Bool) := do
    if ← eatWord "as" then return (left, ← moduleName, typeOnly)
    return (left, left, typeOnly)
  let isMark := match first with
    | .ident _ name => name == "type"
    | .string _ _ => false
  if !(isMark && (← types?)) then return ← renamed first false
  if ← atWord? "as" then
    let (span, _) ← identifierName
    let as := ModuleName.ident span "as"
    if ← atWord? "as" then
      let (span, _) ← identifierName
      if ← atModuleName? then return (as, ← moduleName, true)
      return (first, .ident span "as", false)
    if ← atModuleName? then return (first, ← moduleName, false)
    return (as, as, true)
  if ← atModuleName? then return ← renamed (← moduleName) true
  return (first, first, false)

/-- The attributes behind a source, if any, with the word that introduces them. -/
def attributes? : Parser (Option (String × List (ModuleName × StringValue))) := do
  let t ← token
  if !(t.isWord "with" || (t.isWord "assert" && !t.newLine)) then return none
  advance
  expect .lbrace
  let (items, _) ← enclosed (delimited .rbrace .comma do
    let key ← moduleName
    expect .colon
    if !(← token).isString then fail .attributeString
    let (_, value) ← stringLiteral
    return (key, value))
  expect .rbrace
  let _ ← items.foldlM (fun (seen : List String) (key, _) => do
    if seen.contains key.text then report (.attributeTwice key.text)
    return key.text :: seen) []
  return some (t.kind.title, items)

/-! ## Imports -/

/-- A name in the braces of an import. -/
def importedName (typeOnly : Bool) : Parser ImportSpecifier := do
  let start ← startPos
  let (imported, bound, marked) ← listedName
  if typeOnly && marked then report .typeModifierTwice
  match bound with
  | .ident _ name =>
    if isReservedWord name then fail (.reservedWord name)
    return .named (← spanFrom start) imported name marked
  | .string _ _ => fail .identifierExpected

def importedNames (typeOnly : Bool) : Parser (List ImportSpecifier) := do
  expect .lbrace
  let (items, _) ← enclosed (delimited .rbrace .comma (importedName typeOnly))
  expect .rbrace
  return items

/-- `* as name`. -/
def importedNamespace : Parser ImportSpecifier := do
  let start ← startPos
  expect .star
  expectWord "as"
  let (_, name) ← bindingName
  return .namespace (← spanFrom start) name

/-- What an import binds, up to and with its `from`. -/
def importClause (default : Option (Span × String)) (typeOnly : Bool) :
    Parser (List ImportSpecifier) := do
  let specifiers ← (do
    match default with
    | some (span, name) =>
      let first := ImportSpecifier.default span name
      if ← eat .comma then
        let t ← token
        if t.isPunct .star then return [first, ← importedNamespace]
        if t.isPunct .lbrace then return first :: (← importedNames typeOnly)
        unexpected
      return [first]
    | none =>
      let t ← token
      if t.isPunct .star then return [← importedNamespace]
      if t.isPunct .lbrace then return ← importedNames typeOnly
      return [])
  expectWord "from"
  return specifiers

/-- The word after `import` when it could be a mark: the mark it is, and the name bound if it is
one. -/
def importMark (name : String) (span : Span) :
    Parser (ImportPhase × Bool × Option (Span × String)) := do
  let t ← token
  let next ← peek
  let binds := t.isBinding && (!t.isWord "from" || next.isWord "from")
  if name == "type" && (← types?) then
    let binds := t.isBinding && (!t.isWord "from" || next.isWord "from" || next.isPunct .eq)
    if binds then return (.evaluation, true, some (← bindingName))
    if t.isPunct .star || t.isPunct .lbrace then return (.evaluation, true, none)
  let phase : Option ImportPhase :=
    if name == "source" then some .source else if name == "defer" then some .defer else none
  match phase with
  | some phase =>
    if binds then return (phase, false, some (← bindingName))
    if t.isPunct .star || t.isPunct .lbrace then return (phase, false, none)
  | none => pure ()
  return (.evaluation, false, some (span, name))

/-- An import that asks for an earlier phase binds one name: the source phase by a default, the
deferred one as a namespace. -/
def checkPhase (phase : ImportPhase) (specifiers : List ImportSpecifier) : Parser Unit :=
  match phase, specifiers with
  | .evaluation, _ | .source, [.default _ _] | .defer, [.namespace _ _] => pure ()
  | .source, _ => report .sourcePhase
  | .defer, .default _ _ :: _ => report .deferredDefault
  | .defer, _ => report .deferredNames

/-- An import behind its `import` and the mark and name after it. -/
def importRest (start : Nat) (phase : ImportPhase) (typeOnly : Bool)
    (default : Option (Span × String)) : Parser Stmt := do
  let specifiers ← if default.isNone && (← token).isString then pure none
    else some <$> importClause default typeOnly
  let (_, source) ← stringLiteral
  let attributes ← attributes?
  endStatement
  checkPhase phase (specifiers.getD [])
  if typeOnly && default.isSome && (specifiers.getD []).length > 1 then report .typeImportBoth
  return .importDecl (← spanFrom start) phase typeOnly specifiers source attributes

/-- An import declaration. -/
def importDeclaration : Parser Stmt := do
  let start ← startPos
  expectWord "import"
  let (phase, typeOnly, default) ← (do
    if (← token).isBinding then
      let (span, name) ← bindingName
      importMark name span
    else return (.evaluation, false, none))
  match default with
  | some (_, name) =>
    if ← at? .eq then
      let named ← importAlias start typeOnly name
      if !(← types?) then report .importAliasInScript
      return named
  | none => pure ()
  importRest start phase typeOnly default

/-! ## Exports -/

/-- Notes that `name` is exported. -/
def noteExport (name : String) : Parser Unit :=
  modify
    (fun s =>
      if s.exports.contains name then
        { s with exportErrors := .duplicateExport name :: s.exportErrors }
      else { s with exports := name :: s.exports })
    fun s => by
      split <;> exact ⟨rfl, rfl, rfl, id⟩

def noteDefault : Parser Unit := modify fun s => { s with defaultExports := s.defaultExports + 1 }

/-- Words that cannot be exported without a source. -/
def isUnbound (name : String) : Bool :=
  isReservedWord name || ["await", "yield", "let", "static", "implements", "interface", "package",
    "private", "protected", "public"].contains name

/-- An export with braces, at the brace. -/
def exportedNames (start : Nat) (typeOnly : Bool) : Parser Stmt := do
  expect .lbrace
  let (specifiers, _) ← enclosed (delimited .rbrace .comma do
    let start ← startPos
    let (source, exported, marked) ← listedName
    if typeOnly && marked then report .typeExportModifierTwice
    return (⟨← spanFrom start, source, exported, marked⟩ : ExportSpecifier))
  expect .rbrace
  let source ← if ← eatWord "from" then some <$> stringLiteral else pure none
  let attributes ← if source.isSome then attributes? else pure none
  if source.isNone then
    for specifier in specifiers do
      match specifier.source with
      | .string _ _ => report .stringBinding
      | .ident _ name => if isUnbound name then report .reservedBinding
  endStatement
  for specifier in specifiers do
    let name := specifier.exported.text
    noteExport name
    if name == "default" then noteDefault
  return .exportNames (← spanFrom start) typeOnly specifiers (source.map (·.2)) attributes

/-- `export * …`, at the star. -/
def exportAll (start : Nat) (typeOnly : Bool) : Parser Stmt := do
  expect .star
  let name ← if ← eatWord "as" then some <$> moduleName else pure none
  expectWord "from"
  let (_, source) ← stringLiteral
  let attributes ← attributes?
  endStatement
  match name with
  | some name => noteExport name.text
  | none => pure ()
  return .exportAll (← spanFrom start) typeOnly name source attributes

/-- The decorators after the words of an export; there may be none if some came before. -/
def decoratorsAfterExport (before : List Expr) : Parser (List Expr) := do
  let marks ← decorators (leftHand g)
  if !before.isEmpty then
    for _ in marks do report .decoratorsAroundExport
  return marks

/-- A default export of a function or of an expression, behind its `default`. -/
def defaultValue : Parser Stmt := do
  let start ← startPos
  if ← atFunction? then
    let async ← eatWord "async"
    return .function (← functionFrom g (leftHand g) start async .defaultExport false)
  let value ← withIn (g.assign true)
  let span ← spanFrom start
  endStatement
  return .expr span value

/-- What a default export declares, behind its `default`. -/
def defaultDeclaration (marks : List Expr) : Parser Stmt := do
  let start ← startPos
  let later ← decoratorsAfterExport g marks
  let t ← token
  let next ← peek
  if t.isWord "class" then return .class (← classFrom g start (marks ++ later) false)
  if ← types? then
    if t.isWord "abstract" && next.isWord "class" && !next.newLine then
      advance
      return .class (← classFrom g start (marks ++ later) false)
    if t.isWord "interface" && !next.newLine && next.isBinding then
      return ← interfaceFrom g start []
  defaultValue g

/-- A default export, at its `default`. -/
def exportDefault (start : Nat) (marks : List Expr) : Parser Stmt := do
  expectWord "default"
  noteDefault
  let inner ← defaultDeclaration g marks
  return .exportDefault (← spanFrom start) inner

/-- The names that a declaration binds. -/
def declaredHere : Stmt → List String
  | .declare _ _ ds _ => Declarator.listNames ds
  | .function (.mk _ (some (_, name)) _ _ _ _ _) => [name]
  | .class (.mk _ _ (some (_, name)) _ _ _ _ _) => [name]
  | _ => []

/-- An exported declaration, at its first word. -/
def exportedDeclaration (start : Nat) (marks : List Expr) : Parser Stmt := do
  let begins ← startPos
  let later ← decoratorsAfterExport g marks
  let names ← (do if ← types? then declarationModifiers else return [])
  let inner ← declaration g begins (marks ++ later) names
  for name in declaredHere inner do noteExport name
  return .exportDecl (← spanFrom start) inner

/-- An export, behind its `export`. -/
def exportRest (start : Nat) (marks : List Expr) : Parser Stmt := do
  let t ← token
  if t.isPunct .star then return ← exportAll start false
  if t.isPunct .lbrace then return ← exportedNames start false
  if t.isWord "default" then return ← exportDefault g start marks
  if ← types? then
    let next ← peek
    if t.isPunct .eq then
      advance
      let value ← withIn (g.assign true)
      endStatement
      return .exportAssign (← spanFrom start) value
    if t.isWord "as" && next.isWord "namespace" then
      advance
      advance
      let (_, name) ← identifierName
      endStatement
      return .exportNamespace (← spanFrom start) name
    if t.isWord "type" && next.isPunct .lbrace then
      advance
      return ← exportedNames start true
    if t.isWord "type" && next.isPunct .star then
      advance
      return ← exportAll start true
  exportedDeclaration g start marks

/-- An export, at its `export`. -/
def exportDeclaration (marks : List Expr) : Parser Stmt := do
  let start ← startPos
  expectWord "export"
  exportRest g start marks

end Grammar

end LivePreview.Script
