import LivePreview.Script.Declared

/-!
# The names that trees use

`Usage` says which values a tree uses without declaring them itself, which names it declares
anywhere, and which kinds of element it makes. A list of statements uses its own declarations too:
they are taken away only where the scope that the list stands in ends.
-/

namespace LivePreview.Script

structure Usage where
  /-- Values used and not declared inside. -/
  free : List String := []
  /-- Names declared inside. -/
  bound : List String := []
  hasElement : Bool := false
  hasFragment : Bool := false
  deriving Repr, Inhabited

namespace Usage

def append (a b : Usage) : Usage :=
  ⟨a.free ++ b.free, a.bound ++ b.bound, a.hasElement || b.hasElement,
    a.hasFragment || b.hasFragment⟩

instance : Append Usage := ⟨append⟩

def of (name : String) : Usage := { free := [name] }

/-- The end of a scope that declares `names`. -/
def closed (names : List String) (u : Usage) : Usage :=
  { u with free := u.free.filter (!names.contains ·), bound := names ++ u.bound }

end Usage

/-- The value that the name of an element refers to. -/
def JsxName.usage : JsxName → Usage
  | .reference _ name => if name == "this" then {} else .of name
  | .member _ object _ => if object == "this" then {} else .of object
  | .intrinsic _ _ | .qualified _ _ _ => {}

mutual

def Expr.usage : Expr → Usage
  | .name _ x => .of x
  | .literal _ _ | .this _ | .super _ | .metaProperty _ _ _ => {}
  | .template _ _ holes => Expr.listUsage holes
  | .tagged _ tag _ _ holes => tag.usage ++ Expr.listUsage holes
  | .array _ elements => Expr.elementUsage elements
  | .object _ members => Property.listUsage members
  | .function f => f.usage
  | .class c => c.usage
  | .arrow _ _ _ params _ body =>
    .closed (body.innerNames params) (Param.listUsage params ++ body.usage)
  | .unary _ _ arg => arg.usage
  | .update _ _ _ target => target.usage
  | .binary _ _ left right => left.usage ++ right.usage
  | .assign _ _ target value => target.usage ++ value.usage
  | .conditional _ test yes no => test.usage ++ yes.usage ++ no.usage
  | .call _ callee _ args _ _ | .new _ callee _ args _ => callee.usage ++ Expr.listUsage args
  | .member _ object _ _ _ | .privateMember _ object _ _ => object.usage
  | .index _ object property _ => object.usage ++ property.usage
  | .chain _ inner => inner.usage
  | .sequence _ items => Expr.listUsage items
  | .spread _ arg => arg.usage
  | .yield _ _ arg => Expr.optionUsage arg
  | .await _ arg => arg.usage
  | .importCall _ _ source options => source.usage ++ Expr.optionUsage options
  | .privateIn _ _ right => right.usage
  | .paren _ inner => inner.usage
  | .typed _ _ _ inner => inner.usage
  | .jsx _ element => element.usage

def Expr.listUsage : List Expr → Usage
  | [] => {}
  | e :: es => e.usage ++ Expr.listUsage es

def Expr.optionUsage : Option Expr → Usage
  | none => {}
  | some e => e.usage

def Expr.elementUsage : List (Option Expr) → Usage
  | [] => {}
  | none :: es => Expr.elementUsage es
  | some e :: es => e.usage ++ Expr.elementUsage es

def ArrowBody.usage : ArrowBody → Usage
  | .expr e => e.usage
  | .block body => body.usage

/-- A place that is assigned is used; one that is declared is taken away with its scope. -/
def Pattern.usage : Pattern → Usage
  | .name _ x => .of x
  | .place e => e.usage
  | .object _ properties rest => PatternProperty.listUsage properties ++ Pattern.optionUsage rest
  | .array _ elements rest => Pattern.elementUsage elements ++ Pattern.optionUsage rest
  | .default _ target value => target.usage ++ value.usage

def Pattern.optionUsage : Option Pattern → Usage
  | none => {}
  | some p => p.usage

def Pattern.elementUsage : List (Option Pattern) → Usage
  | [] => {}
  | none :: ps => Pattern.elementUsage ps
  | some p :: ps => p.usage ++ Pattern.elementUsage ps

def PatternProperty.listUsage : List PatternProperty → Usage
  | [] => {}
  | .mk _ key value _ :: ps => key.usage ++ value.usage ++ PatternProperty.listUsage ps

def Key.usage : Key → Usage
  | .name _ _ | .literal _ _ | .hidden _ _ => {}
  | .computed e => e.usage

def Property.usage : Property → Usage
  | .keyed _ key value => key.usage ++ value.usage
  | .shorthand _ x default => .of x ++ Expr.optionUsage default
  | .method _ key value => key.usage ++ value.usage
  | .accessor _ _ key value => key.usage ++ value.usage
  | .spread _ arg => arg.usage

def Property.listUsage : List Property → Usage
  | [] => {}
  | p :: ps => p.usage ++ Property.listUsage ps

def Param.listUsage : List Param → Usage
  | [] => {}
  | .mk _ decorators target _ _ _ :: ps =>
    Expr.listUsage decorators ++ target.usage ++ Param.listUsage ps

def Function.usage : Function → Usage
  | .mk _ name _ _ params _ none =>
    .closed (name.toList.map (·.2) ++ Param.listNames params) (Param.listUsage params)
  | .mk _ name _ _ params _ (some body) =>
    .closed (name.toList.map (·.2) ++ ArrowBody.innerNames params (.block body))
      (Param.listUsage params ++ body.usage)

def Body.usage : Body → Usage
  | .mk _ _ statements => Stmt.listUsage statements

def Class.usage : Class → Usage
  | .mk _ decorators name _ parent _ members _ =>
    Expr.listUsage decorators ++ .closed (name.toList.map (·.2))
      (Expr.optionUsage parent ++ Member.listUsage members)

def Member.usage : Member → Usage
  | .method _ decorators key value _ | .accessor _ decorators _ key value _
  | .constructor _ decorators key value => Expr.listUsage decorators ++ key.usage ++ value.usage
  | .field _ decorators key _ value _ | .autoAccessor _ decorators key _ value _ =>
    Expr.listUsage decorators ++ key.usage ++ Expr.optionUsage value
  | .staticBlock _ statements => .closed (Stmt.bodyNames statements) (Stmt.listUsage statements)
  | .indexSignature _ _ => {}

def Member.listUsage : List Member → Usage
  | [] => {}
  | m :: ms => m.usage ++ Member.listUsage ms

def Jsx.usage : Jsx → Usage
  | .element _ name _ attributes children =>
    { hasElement := true } ++ name.usage ++ JsxAttribute.listUsage attributes
      ++ JsxChild.listUsage children
  | .fragment _ children => { hasFragment := true } ++ JsxChild.listUsage children

def JsxAttribute.listUsage : List JsxAttribute → Usage
  | [] => {}
  | .mk _ _ none :: as => JsxAttribute.listUsage as
  | .mk _ _ (some value) :: as => value.usage ++ JsxAttribute.listUsage as
  | .spread _ arg :: as => arg.usage ++ JsxAttribute.listUsage as

def JsxValue.usage : JsxValue → Usage
  | .string _ _ | .empty _ => {}
  | .expr e => e.usage
  | .jsx _ element => element.usage

def JsxChild.listUsage : List JsxChild → Usage
  | [] => {}
  | .text _ _ :: cs | .empty _ :: cs => JsxChild.listUsage cs
  | .expr _ e :: cs | .spread _ e :: cs => e.usage ++ JsxChild.listUsage cs
  | .element element :: cs => element.usage ++ JsxChild.listUsage cs

def Declarator.listUsage : List Declarator → Usage
  | [] => {}
  | .mk _ target _ value :: ds =>
    target.usage ++ Expr.optionUsage value ++ Declarator.listUsage ds

def SwitchCase.listUsage : List SwitchCase → Usage
  | [] => {}
  | .mk _ test body :: cs =>
    Expr.optionUsage test ++ Stmt.listUsage body ++ SwitchCase.listUsage cs

def EnumMember.listUsage : List EnumMember → Usage
  | [] => {}
  | .mk _ _ value :: ms => Expr.optionUsage value ++ EnumMember.listUsage ms

def Stmt.usage : Stmt → Usage
  | .expr _ e => e.usage
  | .block _ body => .closed (Stmt.valueNames body) (Stmt.listUsage body)
  | .empty _ | .debugger _ | .continue _ _ | .break _ _ => {}
  | .ifElse _ test yes no => test.usage ++ yes.usage ++ Stmt.optionUsage no
  | .forLoop _ init test update body =>
    .closed ((init.map Stmt.headNames).getD [])
      (Stmt.optionUsage init ++ Expr.optionUsage test ++ Expr.optionUsage update ++ body.usage)
  | .forIn _ left right body | .forOf _ _ left right body =>
    .closed left.headNames (left.usage ++ right.usage ++ body.usage)
  | .forTarget target => target.usage
  | .whileLoop _ test body | .doWhile _ body test => test.usage ++ body.usage
  | .return _ value => Expr.optionUsage value
  | .throw _ value => value.usage
  | .with _ object body => object.usage ++ body.usage
  | .switch _ subject cases =>
    subject.usage ++ .closed (SwitchCase.declaredNames cases) (SwitchCase.listUsage cases)
  | .labeled _ _ body => body.usage
  | .tryCatch _ block handler finalizer =>
    block.usage
      ++ (match handler with
        | none => {}
        | some (.mk _ none _ body) => body.usage
        | some (.mk _ (some param) _ body) =>
          .closed param.boundNames (param.usage ++ body.usage))
      ++ Stmt.optionUsage finalizer
  | .declare _ _ declarators _ => Declarator.listUsage declarators
  | .function f => f.usage
  | .class c => c.usage
  | .exportDecl _ inner | .exportDefault _ inner => inner.usage
  | .exportNames _ typeOnly specifiers none _ =>
    if typeOnly then {} else
    { free := (specifiers.filter (!·.typeOnly)).map (·.source.text) }
  | .enum _ _ members _ =>
    .closed (EnumMember.listNames members) (EnumMember.listUsage members)
  | .namespace _ _ none _ => {}
  | .namespace _ _ (some (.mk _ _ statements)) _ =>
    .closed (Stmt.bodyNames statements) (Stmt.listUsage statements)
  | .exportAssign _ value => value.usage
  | .importAlias _ _ typeOnly target _ => if typeOnly then {} else target.usage
  | .interface _ name _ _ | .typeAlias _ name _ _ => { bound := [name] }
  | .importDecl _ _ _ _ _ _ | .exportNames _ _ _ (some _) _ | .exportAll _ _ _ _ _
  | .exportNamespace _ _ | .ambientModule _ _ _ => {}

def Stmt.listUsage : List Stmt → Usage
  | [] => {}
  | s :: ss => s.usage ++ Stmt.listUsage ss

def Stmt.optionUsage : Option Stmt → Usage
  | none => {}
  | some s => s.usage

end

end LivePreview.Script
