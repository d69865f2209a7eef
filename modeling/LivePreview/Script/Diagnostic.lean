/-!
# Diagnostics

What can be wrong with a script, and how each fault is worded.
-/

namespace LivePreview.Script

/-- A fault in a script. -/
inductive Diagnostic where
  | unexpectedToken
  /-- A line that marks the sides of an unfinished merge. -/
  | mergeMarker
  /-- Another token had to come here. -/
  | expected (wanted found : String)
  /-- A list had to go on or to be closed here. -/
  | expectedInList (separator close found : String)
  | missingSemicolon
  | flow
  -- characters and literals
  | invalidCharacter (c : Char)
  | unexpectedEnd
  | unterminatedString
  | unterminatedComment
  | unterminatedRegex
  | invalidNumberEnd
  | invalidEscape
  | invalidUnicodeEscape
  | regexFlag (c : Char)
  | regexFlagTwice (c : Char)
  | regexFlagsTogether
  | escapedKeyword
  | jsxTextCharacter (c : Char) (entity : String)
  -- names
  | identifierExpected
  | reservedWord (word : String)
  | awaitAsIdentifier
  | yieldAsIdentifier
  | functionNameExpected
  -- expressions
  | invalidAssignment
  | coverInitializer
  | spreadNotLast
  | restNotLast
  | restName
  | restTarget
  | restArgument
  | defaultOperator
  | restTrailingComma
  | restInitializer
  | restOptional
  | mixedCoalesce
  | unexpectedExponent
  | parenTrailingComma
  | emptyParens
  | awaitOutsideAsync
  | yieldOutsideGenerator
  | importMeta
  | newTarget
  | newOptionalChain
  | newDynamicImport
  | optionalChainTemplate
  | templateEscape
  | privateInPrivate
  | hiddenHere
  | chainName
  | bareSuper
  | importWithoutSpecifier
  | importArguments
  | classExtendsTwice
  | classExtendsMany
  | optionalDefinite
  | lineBreakBeforeArrow
  | assertionInScript
  | satisfactionInScript
  | importAliasInScript
  | getterParameters
  | setterParameters
  | setterRest
  | setterInitializer
  | setterResult
  | hiddenConstructor
  | fieldConstructor
  | autoAccessorConstructor
  | accessorConstructor
  | asyncConstructor
  | generatorConstructor
  | staticPrototype
  | implementsTwice
  | extendsAfterImplements
  -- statements
  | constInitializer
  | patternInitializer
  | definiteInitializer
  | definiteWithoutType
  | usingInitializer
  | usingPattern
  | usingForIn
  | awaitUsingForIn
  | usingInCase
  | optionalDeclaration
  | singleStatementDeclaration
  | singleStatementClass
  | singleStatementAsync
  | singleStatementGenerator
  | illegalNewline (keyword : String)
  | missingCatch
  | switchClause
  | returnOutsideFunction
  | functionBody
  | forAwait
  | forOfAsync
  | forOfLet
  -- modules
  | stringBinding
  | reservedBinding
  | exportSurrogate
  | typeImportBoth
  | typeModifierTwice
  | typeExportModifierTwice
  | duplicateExport (name : String)
  | multipleDefaults
  | attributeString
  | attributeTwice (name : String)
  | sourcePhase
  | deferredDefault
  | deferredNames
  -- elements
  | closingTag (name : String)
  | closingFragment
  | jsxHyphen
  | jsxEmptyAttribute
  | jsxComma
  -- types
  | numericEnumMember
  | computedEnumMember
  | abstractImplementation (name : String)
  | abstractAccessor (name : String)
  | abstractInitializer (name : String)
  | emptyTypeArguments
  | emptyTypeParameters
  | modifierTwice (name : String)
  | accessTwice
  | modifierOrder (name later : String)
  | modifierHere (name : String)
  | modifierOn (name place : String)
  | modifierOnlyOn (name place : String)
  | accessorWith (name : String)
  | constMember
  | fieldPattern
  | accessPrivate
  | decoratorHere
  | decoratorBrackets
  | decoratorsAroundExport
  | decoratedOverload
  | parameterModifier
  | optionalAccessor
  | constructorThis
  | constructorTypeParameters
  | interfaceImplements
  | interfaceParent
  | indexParameters
  | indexOptional
  | indexType
  | importTypeSource
  | requiredElement
  | restElementType
  | optionalRestElement
  | arrowThis
  | ambientImplementation
  -- transformations
  | jsxNamespace
  | pragmaShape
  | pragmaWithAutomatic
  | importSourceWithClassic
  | namespaceNonConst
  | nestedModule
  deriving DecidableEq, Repr, Inhabited

namespace Diagnostic

/-- The wording of a fault. -/
def message : Diagnostic → String
  | unexpectedToken => "Unexpected token"
  | mergeMarker => "Encountered diff marker"
  | expected wanted found => "Expected `" ++ wanted ++ "` but found `" ++ found ++ "`"
  | expectedInList separator close found =>
    "Expected `" ++ separator ++ "` or `" ++ close ++ "` but found `" ++ found ++ "`"
  | missingSemicolon =>
    "Expected a semicolon or an implicit semicolon after a statement, but found none"
  | flow => "Flow is not supported"
  | invalidCharacter c => "Invalid Character `" ++ c.toString ++ "`"
  | unexpectedEnd => "Unexpected end of file"
  | unterminatedString => "Unterminated string"
  | unterminatedComment => "Unterminated multiline comment"
  | unterminatedRegex => "Unterminated regular expression"
  | invalidNumberEnd => "Invalid characters after number"
  | invalidEscape => "Invalid escape sequence"
  | invalidUnicodeEscape => "Invalid Unicode escape sequence"
  | regexFlag c => "Unexpected flag " ++ c.toString ++ " in regular expression literal"
  | regexFlagTwice c => "Flag " ++ c.toString ++ " is mentioned twice in regular expression literal"
  | regexFlagsTogether =>
    "The 'u' and 'v' regular expression flags cannot be enabled at the same time"
  | escapedKeyword => "Keywords cannot contain escape characters"
  | jsxTextCharacter c entity =>
    "Unexpected token. Did you mean `\x7b'" ++ c.toString ++ "'\x7d` or `&" ++ entity ++ ";`?"
  | identifierExpected => "Identifier expected."
  | reservedWord word =>
    "Identifier expected. '" ++ word ++ "' is a reserved word that cannot be used here."
  | awaitAsIdentifier => "Cannot use `await` as an identifier in an async context"
  | yieldAsIdentifier => "Cannot use `yield` as an identifier in a generator context"
  | functionNameExpected => "Expected function name"
  | invalidAssignment => "Cannot assign to this expression"
  | coverInitializer => "Invalid assignment in object literal"
  | spreadNotLast => "Spread must be last element"
  | restNotLast => "A rest parameter must be last in a parameter list"
  | restName => "A rest element cannot have a property name."
  | restTarget => "Invalid rest element"
  | restArgument => "Invalid rest operator's argument."
  | defaultOperator => "Only '=' operator can be used for specifying default value."
  | restTrailingComma => "A rest parameter or binding pattern may not have a trailing comma."
  | restInitializer => "A rest element cannot have an initializer."
  | restOptional => "A rest parameter cannot be optional"
  | mixedCoalesce => "Logical expressions and coalesce expressions cannot be mixed"
  | unexpectedExponent => "Unexpected exponentiation expression"
  | parenTrailingComma => "Parenthesized expressions may not have a trailing comma."
  | emptyParens => "Empty parenthesized expression"
  | awaitOutsideAsync =>
    "`await` is only allowed within async functions and at the top levels of modules"
  | yieldOutsideGenerator => "A 'yield' expression is only allowed in a generator body."
  | importMeta => "The only valid meta property for import is import.meta"
  | newTarget => "The only valid meta property for new is new.target"
  | newOptionalChain => "Optional chaining cannot appear in the callee of new expressions"
  | newDynamicImport => "Cannot use new with dynamic import"
  | optionalChainTemplate => "Tagged template expressions are not permitted in an optional chain"
  | templateEscape => "Bad escape sequence in untagged template literal"
  | privateInPrivate => "Unexpected right-hand side of private-in expression"
  | hiddenHere => "Unexpected private identifier"
  | chainName => "Identifier expected after '?.'"
  | bareSuper => "'super' can only be used with function calls or in property accesses"
  | importWithoutSpecifier => "import() requires a specifier."
  | importArguments => "Dynamic imports can only accept a module specifier and an optional set of "
    ++ "attributes as arguments"
  | classExtendsTwice => "'extends' clause already seen"
  | classExtendsMany => "Classes can only extend a single class."
  | optionalDefinite => "A property cannot be both optional and definite."
  | lineBreakBeforeArrow => "Line terminator not permitted before arrow"
  | assertionInScript => "Type assertion expressions can only be used in TypeScript files."
  | satisfactionInScript => "Type satisfaction expressions can only be used in TypeScript files."
  | importAliasInScript => "'import ... =' can only be used in TypeScript files."
  | getterParameters => "A 'get' accessor must not have any formal parameters."
  | setterParameters => "A 'set' accessor must have exactly one parameter."
  | setterRest => "A 'set' accessor cannot have rest parameter."
  | setterInitializer => "A 'set' accessor cannot have an initializer."
  | setterResult => "A 'set' accessor cannot have a return type annotation."
  | hiddenConstructor => "Classes can't have an element named '#constructor'"
  | fieldConstructor => "Classes can't have a field named 'constructor'"
  | autoAccessorConstructor => "Classes may not have a field named 'constructor'"
  | accessorConstructor => "Constructor can't have get/set modifier"
  | asyncConstructor => "Constructor can't be an async method"
  | generatorConstructor => "Constructor can't be a generator"
  | staticPrototype => "Classes may not have a static property named 'prototype'"
  | implementsTwice => "'implements' clause already seen"
  | extendsAfterImplements => "'extends' clause must precede 'implements' clause"
  | constInitializer => "Missing initializer in const declaration"
  | patternInitializer => "Missing initializer in destructuring declaration"
  | definiteInitializer =>
    "Declarations with initializers cannot also have definite assignment assertions."
  | definiteWithoutType =>
    "Declarations with definite assignment assertions must also have type annotations."
  | usingInitializer => "Using declarations must have an initializer."
  | usingPattern => "Using declarations may not have binding patterns."
  | usingForIn => "The left-hand side of a for...in statement cannot be an using declaration."
  | awaitUsingForIn =>
    "The left-hand side of a for...in statement cannot be an await using declaration."
  | usingInCase => "Using declaration cannot appear in the bare case statement."
  | optionalDeclaration => "Optional declaration is not allowed here"
  | singleStatementDeclaration =>
    "Lexical declaration cannot appear in a single-statement context"
  | singleStatementClass => "Invalid class declaration"
  | singleStatementAsync =>
    "Async functions can only be declared at the top level or inside a block"
  | singleStatementGenerator =>
    "Generators can only be declared at the top level or inside a block"
  | illegalNewline keyword => "Illegal newline after " ++ keyword
  | missingCatch => "Missing catch or finally clause"
  | switchClause => "Expected switch clause"
  | returnOutsideFunction => "A 'return' statement can only be used within a function body."
  | functionBody => "Expected function body"
  | forAwait => "await can only be used in conjunction with `for...of` statements"
  | forOfAsync => "The left-hand side of a `for...of` statement may not be `async`"
  | forOfLet => "The left-hand side of a `for...of` statement may not be `let`"
  | stringBinding => "A string literal cannot be used as an exported binding without `from`"
  | reservedBinding => "A reserved word cannot be used as an exported binding without `from`"
  | exportSurrogate => "An export name cannot include a unicode lone surrogate"
  | typeImportBoth =>
    "A type-only import can specify a default import or named bindings, but not both."
  | typeModifierTwice => "The 'type' modifier cannot be used on a named import when 'import type' "
    ++ "is used on its import statement."
  | typeExportModifierTwice => "The 'type' modifier cannot be used on a named export when "
    ++ "'export type' is used on its export statement."
  | duplicateExport name => "Duplicated export '" ++ name ++ "'"
  | multipleDefaults => "A module cannot have multiple default exports."
  | attributeString => "Only string literals are allowed as module attribute values."
  | attributeTwice name => "Identifier `" ++ name ++ "` has already been declared"
  | sourcePhase => "Only a single default import is allowed in a source phase import."
  | deferredDefault => "Default imports are not allowed in a deferred import."
  | deferredNames => "Named imports are not allowed in a deferred import."
  | closingTag name => "Expected corresponding JSX closing tag for '" ++ name ++ "'."
  | closingFragment => "Expected corresponding closing tag for JSX fragment."
  | jsxHyphen => "Identifiers in JSX cannot contain hyphens"
  | jsxEmptyAttribute => "JSX attributes must only be assigned a non-empty 'expression'."
  | jsxComma => "JSX expressions may not use the comma operator"
  | numericEnumMember => "An enum member cannot have a numeric name."
  | computedEnumMember => "Computed property names are not allowed in enums."
  | abstractImplementation name =>
    "Method '" ++ name ++ "' cannot have an implementation because it is marked abstract."
  | abstractAccessor name =>
    "Accessor '" ++ name ++ "' cannot have an implementation because it is marked abstract."
  | abstractInitializer name =>
    "Property '" ++ name ++ "' cannot have an initializer because it is marked abstract."
  | emptyTypeArguments => "Type argument list cannot be empty."
  | emptyTypeParameters => "Type parameter list cannot be empty."
  | modifierTwice name => "'" ++ name ++ "' modifier already seen."
  | accessTwice => "Accessibility modifier already seen."
  | modifierOrder name later => "'" ++ name ++ "' modifier must precede '" ++ later ++ "' modifier."
  | modifierHere name => "'" ++ name ++ "' modifier cannot be used here."
  | modifierOn name place => "'" ++ name ++ "' modifier cannot appear on " ++ place ++ "."
  | modifierOnlyOn name place =>
    "'" ++ name ++ "' modifier can only appear on " ++ place ++ "."
  | accessorWith name => "'accessor' modifier cannot be used with '" ++ name ++ "' modifier."
  | constMember => "A class member cannot have the 'const' keyword."
  | fieldPattern => "A parameter property may not be declared using a binding pattern."
  | accessPrivate => "An accessibility modifier cannot be used with a private identifier."
  | decoratorHere => "Decorators are not valid here."
  | decoratorBrackets =>
    "Expression must be enclosed in parentheses to be used as a decorator."
  | decoratorsAroundExport => "Decorators may not appear after 'export' or 'export default' if "
    ++ "they also appear before 'export'."
  | decoratedOverload => "A decorator can only decorate a method implementation, not an overload."
  | parameterModifier => "Parameter modifiers can only be used in TypeScript files."
  | optionalAccessor => "An 'accessor' property cannot be declared optional."
  | constructorThis => "A constructor cannot have a `this` parameter."
  | constructorTypeParameters => "Type parameters cannot appear on a constructor declaration"
  | interfaceImplements => "Interface declaration cannot have 'implements' clause."
  | interfaceParent => "An interface can only extend an identifier/qualified-name with optional "
    ++ "type arguments."
  | indexParameters => "An index signature must have exactly one parameter."
  | indexOptional => "An index signature parameter cannot have a question mark."
  | indexType => "An index signature must have a type annotation."
  | importTypeSource => "String literal expected."
  | requiredElement => "A required element cannot follow an optional element."
  | restElementType => "A labeled tuple element is declared as rest with a '...' before the "
    ++ "name, rather than before the type."
  | optionalRestElement => "A tuple member cannot be both optional and rest."
  | arrowThis => "An arrow function cannot have a `this` parameter."
  | ambientImplementation => "An implementation cannot be declared in ambient contexts."
  | jsxNamespace => "Namespace tags are not supported by default. React's JSX doesn't support "
    ++ "namespace tags. You can set `throwIfNamespace: false` to bypass this warning."
  | pragmaShape => "pragma and pragmaFrag must be of the form `foo` or `foo.bar`."
  | pragmaWithAutomatic => "pragma and pragmaFrag cannot be set when runtime is automatic."
  | importSourceWithClassic => "importSource cannot be set when runtime is classic."
  | namespaceNonConst => "Namespaces exporting non-const are not supported by Babel. Change to "
    ++ "const or see: https://babeljs.io/docs/en/babel-plugin-transform-typescript"
  | nestedModule => "Ambient modules cannot be nested in other modules or namespaces."

end Diagnostic

end LivePreview.Script
