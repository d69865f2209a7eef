import LivePreview.Script.Names

/-!
# What statements declare

`Stmt.declared` lists what a statement declares where it stands, and `Stmt.hoisted` the variables
that the statements inside it declare for the function around. A declaration may stand for a value,
for a type only, or for a value that is there without being made (an ambient one).
-/

namespace LivePreview.Script

/-- A declaration of a name. -/
structure Declared where
  name : String
  /-- The name stands for a value, and not only for types. -/
  value : Bool := true
  imported : Bool := false
  ambient : Bool := false
  deriving DecidableEq, Repr, Inhabited

/-! ## Namespaces that hold values -/

/-- What a statement adds to the namespace it stands in. -/
inductive Filling where
  | value
  | nothing
  /-- A value, if one of the names stands for one. -/
  | names (names : List String)
  deriving DecidableEq, Repr, Inhabited

/-- The statements, with the names of those that have one, hold a value. A name that none of them
has may stand for one. -/
def Filling.anyValue (fillings : List (Option String × Filling)) : Bool :=
  let isValue (x : String) : Bool :=
    let found := fillings.filter (·.1 == some x)
    found.isEmpty || found.any (·.2 == .value)
  fillings.any fun (_, filling) =>
    match filling with
    | .value => true
    | .nothing => false
    | .names xs => xs.any isValue

mutual

def Stmt.filling : Stmt → Option String × Filling
  | .interface _ name _ _ | .typeAlias _ name _ _ => (some name, .nothing)
  | .importDecl _ _ _ _ _ _ => (none, .nothing)
  | .importAlias _ name _ _ _ => (some name, .nothing)
  | .namespace _ name none _ => (some name, .value)
  | .namespace _ name (some body) _ => (some name, if body.isFilled then .value else .nothing)
  | .exportDecl _ (.importAlias _ name _ _ _) => (some name, .value)
  | .exportDecl _ inner => inner.filling
  | .exportNames _ _ specifiers none _ => (none, .names (specifiers.map (·.source.text)))
  | _ => (none, .value)

def Stmt.fillings : List Stmt → List (Option String × Filling)
  | [] => []
  | s :: ss => s.filling :: Stmt.fillings ss

/-- A namespace with this body is a value, and not only a group of types. -/
def Body.isFilled : Body → Bool
  | .mk _ _ statements => Filling.anyValue (Stmt.fillings statements)

end

/-! ## Declarations -/

/-- The names that a list of imports brings in; without `values` they are names of types. -/
def ImportSpecifier.declared (values : Bool) : ImportSpecifier → Declared
  | .default _ name | .namespace _ name => ⟨name, values, true, false⟩
  | .named _ _ name typeOnly => ⟨name, values && !typeOnly, true, false⟩

/-- What a statement declares where it stands. -/
def Stmt.declared : Stmt → List Declared
  | .declare _ _ ds ambient => (Declarator.listNames ds).map (⟨·, true, false, ambient⟩)
  | .function (.mk _ name flags _ _ _ _) =>
    name.toList.map (⟨·.2, true, false, flags.ambient⟩)
  | .class (.mk _ _ name _ _ _ _ ambient) => name.toList.map (⟨·.2, true, false, ambient⟩)
  | .enum _ name _ ambient => [⟨name, true, false, ambient⟩]
  | .namespace _ name body ambient =>
    [⟨name, (body.map Body.isFilled).getD true, false, ambient⟩]
  | .interface _ name _ _ | .typeAlias _ name _ _ => [⟨name, false, false, false⟩]
  | .importAlias _ name typeOnly _ _ => [⟨name, !typeOnly, true, false⟩]
  | .importDecl _ _ typeOnly specifiers _ _ =>
    (specifiers.getD []).map (ImportSpecifier.declared (!typeOnly))
  | .exportDecl _ inner | .exportDefault _ inner | .labeled _ _ inner => inner.declared
  | _ => []

mutual

/-- The variables that the statements inside a statement declare for the function around. -/
def Stmt.hoisted : Stmt → List String
  | .declare _ .var ds _ => Declarator.listNames ds
  | .block _ body => Stmt.listHoisted body
  | .ifElse _ _ yes no => yes.hoisted ++ Stmt.optionHoisted no
  | .forLoop _ init _ _ body => Stmt.optionHoisted init ++ body.hoisted
  | .forIn _ left _ body | .forOf _ _ left _ body => left.hoisted ++ body.hoisted
  | .whileLoop _ _ body | .doWhile _ body _ | .with _ _ body | .labeled _ _ body => body.hoisted
  | .switch _ _ cases => SwitchCase.listHoisted cases
  | .tryCatch _ block handler finalizer =>
    block.hoisted
      ++ (match handler with
        | none => []
        | some (.mk _ _ _ body) => body.hoisted)
      ++ Stmt.optionHoisted finalizer
  | .exportDecl _ inner => inner.hoisted
  | _ => []

def Stmt.optionHoisted : Option Stmt → List String
  | none => []
  | some s => s.hoisted

def Stmt.listHoisted : List Stmt → List String
  | [] => []
  | s :: ss => s.hoisted ++ Stmt.listHoisted ss

def SwitchCase.listHoisted : List SwitchCase → List String
  | [] => []
  | .mk _ _ body :: cs => Stmt.listHoisted body ++ SwitchCase.listHoisted cs

end

/-- What statements declare in the function or source that they are the body of. -/
def Stmt.bodyDeclared (ss : List Stmt) : List Declared :=
  ss.flatMap fun s => s.declared ++ s.hoisted.map (⟨·, true, false, false⟩)

/-- The names of values that statements declare where they stand. -/
def Stmt.valueNames (ss : List Stmt) : List String :=
  ((ss.flatMap Stmt.declared).filter (·.value)).map (·.name)

/-- The names of values that a body declares. -/
def Stmt.bodyNames (ss : List Stmt) : List String :=
  Stmt.valueNames ss ++ Stmt.listHoisted ss

/-- The names that parameters bind. -/
def Param.listNames (ps : List Param) : List String :=
  ps.flatMap fun (.mk _ _ target _ _ _) => target.boundNames

/-- The names of values that a function declares inside: its parameters, and those of its body. -/
def Function.innerNames : Function → List String
  | .mk _ _ _ _ params _ none => Param.listNames params
  | .mk _ _ _ _ params _ (some (.mk _ _ statements)) =>
    Param.listNames params ++ Stmt.bodyNames statements

/-- The names of values that an arrow function with these parameters and this body declares. -/
def ArrowBody.innerNames (params : List Param) : ArrowBody → List String
  | .expr _ => Param.listNames params
  | .block (.mk _ _ statements) => Param.listNames params ++ Stmt.bodyNames statements

def SwitchCase.declaredNames (cases : List SwitchCase) : List String :=
  cases.flatMap fun (.mk _ _ body) => Stmt.valueNames body

/-- The names that the head of a loop declares for the loop alone. -/
def Stmt.headNames : Stmt → List String
  | .declare _ kind ds _ => if kind == .var then [] else Declarator.listNames ds
  | _ => []

def EnumMember.listNames (ms : List EnumMember) : List String :=
  ms.map fun (.mk _ name _) => name.text

end LivePreview.Script
