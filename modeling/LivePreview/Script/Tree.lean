/-!
# Syntax trees of scripts

The tree a script source parses to, and the tree the printer writes. Positions count characters
of the source text from its start; a node made by a transformation has the empty span at `0`.

Types are read and checked. Only what is no type itself is kept of them (`TypePart`), in the node
that they are written in and in its place among the other parts; a purely type-level declaration
also keeps its name and its text.
-/

namespace LivePreview.Script

/-- The half-open range `start ≤ i < stop` of source positions. -/
structure Span where
  start : Nat
  stop : Nat
  deriving DecidableEq, Repr, Inhabited

/-- The span of a node that stands for no source text. -/
def Span.none : Span := ⟨0, 0⟩

/-- The cooked value of a string literal. A surrogate without a partner is spelled as U+FFFD and
four hexadecimal digits; where one occurs, U+FFFD itself is spelled in the same way. -/
structure StringValue where
  text : String
  loneSurrogates : Bool
  deriving DecidableEq, Repr, Inhabited

/-- Literals. -/
inductive Literal where
  | null
  | bool (value : Bool)
  /-- A number, by the bits of its IEEE double. -/
  | number (bits : UInt64)
  /-- An integer of any size. -/
  | bigint (value : Nat)
  | string (value : StringValue)
  | regex (pattern flags : String)
  deriving DecidableEq, Repr, Inhabited

inductive UnaryOp where
  | plus | minus | not | bitNot | typeof | void | delete
  deriving DecidableEq, Repr, Inhabited

inductive UpdateOp where
  | increment | decrement
  deriving DecidableEq, Repr, Inhabited

inductive BinaryOp where
  | eq | ne | strictEq | strictNe | lt | le | gt | ge
  | shl | shr | ushr | add | sub | mul | div | rem | pow
  | bitOr | bitXor | bitAnd | elementOf | instanceOf
  | or | and | coalesce
  deriving DecidableEq, Repr, Inhabited

/-- The type-level wrappers of an expression. -/
inductive TypedForm where
  | as | satisfies | assertion | nonNull | instantiation
  deriving DecidableEq, Repr, Inhabited

inductive VarKind where
  | var | let | const | using | awaitUsing
  deriving DecidableEq, Repr, Inhabited

inductive AccessorKind where
  | get | set
  deriving DecidableEq, Repr, Inhabited

/-- Which phase of loading an import asks for. -/
inductive ImportPhase where
  | evaluation | source | defer
  deriving DecidableEq, Repr, Inhabited

/-- A name in an import or export list. -/
inductive ModuleName where
  | ident (span : Span) (name : String)
  | string (span : Span) (value : StringValue)
  deriving DecidableEq, Repr, Inhabited

/-- One name of an import declaration. -/
inductive ImportSpecifier where
  | default (span : Span) (localName : String)
  | namespace (span : Span) (localName : String)
  | named (span : Span) (imported : ModuleName) (localName : String) (typeOnly : Bool)
  deriving DecidableEq, Repr, Inhabited

structure ExportSpecifier where
  span : Span
  source : ModuleName
  exported : ModuleName
  typeOnly : Bool
  deriving DecidableEq, Repr, Inhabited

/-- A tag or attribute name of an element. -/
inductive JsxName where
  /-- A lower-case or hyphenated name: the name of an intrinsic element. -/
  | intrinsic (span : Span) (name : String)
  /-- A name that refers to a binding; `this` too. -/
  | reference (span : Span) (name : String)
  | qualified (span : Span) (ns name : String)
  | member (span : Span) (object : String) (properties : List String)
  deriving DecidableEq, Repr, Inhabited

/-- One raw piece of a template. -/
structure TemplatePiece where
  raw : String
  deriving DecidableEq, Repr, Inhabited

structure FunctionFlags where
  async : Bool := false
  generator : Bool := false
  /-- Declared with `declare`. -/
  ambient : Bool := false
  /-- Marked by a comment as free of effects. -/
  pure : Bool := false
  deriving DecidableEq, Repr, Inhabited

structure MemberFlags where
  static : Bool := false
  abstract : Bool := false
  ambient : Bool := false
  optional : Bool := false
  deriving DecidableEq, Repr, Inhabited

mutual

inductive Expr where
  | name (span : Span) (name : String)
  | literal (span : Span) (value : Literal)
  | this (span : Span)
  | super (span : Span)
  | metaProperty (span : Span) (object property : String)
  | template (span : Span) (pieces : List TemplatePiece) (holes : List Expr)
  | tagged (span : Span) (tag : Expr) (types : List TypePart) (pieces : List TemplatePiece)
      (holes : List Expr)
  | array (span : Span) (elements : List (Option Expr))
  | object (span : Span) (members : List Property)
  | function (value : Function)
  | class (value : Class)
  /-- An arrow function; `types` stand before its parameters and `result` behind them. -/
  | arrow (span : Span) (flags : FunctionFlags) (types : List TypePart) (params : List Param)
      (result : List TypePart) (body : ArrowBody)
  | unary (span : Span) (op : UnaryOp) (arg : Expr)
  | update (span : Span) (op : UpdateOp) (before : Bool) (target : Pattern)
  | binary (span : Span) (op : BinaryOp) (left right : Expr)
  | assign (span : Span) (op : Option BinaryOp) (target : Pattern) (value : Expr)
  | conditional (span : Span) (test yes no : Expr)
  | call (span : Span) (callee : Expr) (types : List TypePart) (args : List Expr)
      (optional pure : Bool)
  | new (span : Span) (callee : Expr) (types : List TypePart) (args : List Expr) (pure : Bool)
  | member (span : Span) (object : Expr) (nameSpan : Span) (property : String) (optional : Bool)
  | index (span : Span) (object property : Expr) (optional : Bool)
  | privateMember (span : Span) (object : Expr) (property : String) (optional : Bool)
  | chain (span : Span) (inner : Expr)
  | sequence (span : Span) (items : List Expr)
  | spread (span : Span) (arg : Expr)
  | yield (span : Span) (delegate : Bool) (arg : Option Expr)
  | await (span : Span) (arg : Expr)
  | importCall (span : Span) (phase : ImportPhase) (source : Expr) (options : Option Expr)
  | privateIn (span : Span) (left : String) (right : Expr)
  | paren (span : Span) (inner : Expr)
  /-- The type of an assertion stands before the expression, any other behind it. -/
  | typed (span : Span) (form : TypedForm) (types : List TypePart) (inner : Expr)
  | jsx (span : Span) (element : Jsx)

/-- What a type is made of that is no type: the computed name of a member and the like, and a
parameter of a signature. -/
inductive TypePart where
  | expr (value : Expr)
  | param (value : Param)

inductive ArrowBody where
  | expr (value : Expr)
  | block (value : Body)

/-- A place that binds or is assigned. -/
inductive Pattern where
  | name (span : Span) (name : String)
  /-- A member, or any other assignable expression. -/
  | place (value : Expr)
  | object (span : Span) (properties : List PatternProperty) (rest : Option Pattern)
  | array (span : Span) (elements : List (Option Pattern)) (rest : Option Pattern)
  | default (span : Span) (target : Pattern) (value : Expr)

inductive PatternProperty where
  | mk (span : Span) (key : Key) (value : Pattern) (shorthand : Bool)

/-- A property or member name. -/
inductive Key where
  | name (span : Span) (name : String)
  | literal (span : Span) (value : Literal)
  | hidden (span : Span) (name : String)
  | computed (value : Expr)

inductive Property where
  | keyed (span : Span) (key : Key) (value : Expr)
  /-- `a` alone, or `a = e`, which is legal only where the object turns out to be a pattern. -/
  | shorthand (span : Span) (name : String) (default : Option Expr)
  | method (span : Span) (key : Key) (value : Function)
  | accessor (span : Span) (kind : AccessorKind) (key : Key) (value : Function)
  | spread (span : Span) (arg : Expr)

inductive Param where
  /-- `field` holds for a constructor parameter that also declares a field. The type of a parameter
  stands before its default. -/
  | mk (span : Span) (decorators : List Expr) (target : Pattern) (types : List TypePart)
      (rest field : Bool)

/-- A function of any form; without a body it is an overload or an ambient declaration. `types`
stand before the parameters and `result` behind them. -/
inductive Function where
  | mk (span : Span) (name : Option (Span × String)) (flags : FunctionFlags)
      (types : List TypePart) (params : List Param) (result : List TypePart) (body : Option Body)

/-- The directives and statements of a function or of a whole source. -/
inductive Body where
  | mk (span : Span) (directives : List (Span × String)) (statements : List Stmt)

/-- A class; `types` stand before its parent, and `heritage` behind it: the type arguments of the
parent and of what the class implements. -/
inductive Class where
  | mk (span : Span) (decorators : List Expr) (name : Option (Span × String))
      (types : List TypePart) (parent : Option Expr) (heritage : List TypePart)
      (members : List Member) (ambient : Bool)

inductive Member where
  | method (span : Span) (decorators : List Expr) (key : Key) (value : Function)
      (flags : MemberFlags)
  | constructor (span : Span) (decorators : List Expr) (key : Key) (value : Function)
  | accessor (span : Span) (decorators : List Expr) (kind : AccessorKind) (key : Key)
      (value : Function) (flags : MemberFlags)
  | field (span : Span) (decorators : List Expr) (key : Key) (types : List TypePart)
      (value : Option Expr) (flags : MemberFlags)
  /-- A field written with `accessor`. -/
  | autoAccessor (span : Span) (decorators : List Expr) (key : Key) (types : List TypePart)
      (value : Option Expr) (flags : MemberFlags)
  | staticBlock (span : Span) (statements : List Stmt)
  | indexSignature (span : Span) (types : List TypePart)

inductive Jsx where
  | element (span : Span) (name : JsxName) (types : List TypePart)
      (attributes : List JsxAttribute) (children : List JsxChild)
  | fragment (span : Span) (children : List JsxChild)

inductive JsxAttribute where
  | mk (span : Span) (name : JsxName) (value : Option JsxValue)
  | spread (span : Span) (arg : Expr)

inductive JsxValue where
  | string (span : Span) (text : String)
  | expr (value : Expr)
  | empty (span : Span)
  | jsx (span : Span) (element : Jsx)

inductive JsxChild where
  | text (span : Span) (raw : String)
  | expr (span : Span) (value : Expr)
  | empty (span : Span)
  | spread (span : Span) (arg : Expr)
  | element (element : Jsx)

inductive Declarator where
  | mk (span : Span) (target : Pattern) (types : List TypePart) (value : Option Expr)

inductive SwitchCase where
  | mk (span : Span) (test : Option Expr) (body : List Stmt)

inductive CatchClause where
  | mk (span : Span) (param : Option Pattern) (types : List TypePart) (body : Stmt)

inductive EnumMember where
  | mk (span : Span) (name : StringValue) (value : Option Expr)

inductive Stmt where
  | expr (span : Span) (value : Expr)
  | block (span : Span) (body : List Stmt)
  | empty (span : Span)
  | debugger (span : Span)
  | ifElse (span : Span) (test : Expr) (yes : Stmt) (no : Option Stmt)
  | forLoop (span : Span) (init : Option Stmt) (test update : Option Expr) (body : Stmt)
  | forIn (span : Span) (left : Stmt) (right : Expr) (body : Stmt)
  | forOf (span : Span) (await : Bool) (left : Stmt) (right : Expr) (body : Stmt)
  /-- The assignable head of a `for…in` or `for…of` without a declaration. -/
  | forTarget (target : Pattern)
  | whileLoop (span : Span) (test : Expr) (body : Stmt)
  | doWhile (span : Span) (body : Stmt) (test : Expr)
  | continue (span : Span) (label : Option String)
  | break (span : Span) (label : Option String)
  | return (span : Span) (value : Option Expr)
  | throw (span : Span) (value : Expr)
  | with (span : Span) (object : Expr) (body : Stmt)
  | switch (span : Span) (subject : Expr) (cases : List SwitchCase)
  | labeled (span : Span) (label : String) (body : Stmt)
  | tryCatch (span : Span) (block : Stmt) (handler : Option CatchClause) (finalizer : Option Stmt)
  | declare (span : Span) (kind : VarKind) (declarators : List Declarator) (ambient : Bool)
  | function (value : Function)
  | class (value : Class)
  | importDecl (span : Span) (phase : ImportPhase) (typeOnly : Bool)
      (specifiers : Option (List ImportSpecifier)) (source : StringValue)
      (attributes : Option (String × List (ModuleName × StringValue)))
  | exportDecl (span : Span) (declaration : Stmt)
  | exportNames (span : Span) (typeOnly : Bool) (specifiers : List ExportSpecifier)
      (source : Option StringValue)
      (attributes : Option (String × List (ModuleName × StringValue)))
  | exportAll (span : Span) (typeOnly : Bool) (name : Option ModuleName) (source : StringValue)
      (attributes : Option (String × List (ModuleName × StringValue)))
  | exportDefault (span : Span) (declaration : Stmt)
  | enum (span : Span) (name : String) (members : List EnumMember) (ambient : Bool)
  /-- A namespace; `none` for the body of an ambient one without a block. -/
  | namespace (span : Span) (name : String) (body : Option Body) (ambient : Bool)
  /-- A module with a quoted name, or the global scope. The flag says whether it may stand there: a
  module with a body has to be declared. -/
  | ambientModule (span : Span) (legal : Bool) (body : Option Body)
  /-- An interface, with its text as it is written. -/
  | interface (span : Span) (name text : String) (types : List TypePart)
  /-- A named type, with the text of its declaration as it is written. -/
  | typeAlias (span : Span) (name text : String) (types : List TypePart)
  /-- `import a = …`. -/
  | importAlias (span : Span) (name : String) (typeOnly : Bool) (target : Expr) (isRequire : Bool)
  | exportAssign (span : Span) (value : Expr)
  | exportNamespace (span : Span) (name : String)

end

end LivePreview.Script
