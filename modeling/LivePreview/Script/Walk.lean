import LivePreview.Script.Tree

/-!
# The expressions in a tree

`expressions` lists every expression in a tree, those inside its types too: each before those in
it, and those in it in the order of the source.
-/

namespace LivePreview.Script

mutual

def Expr.expressions : Expr → List Expr
  | e@(.name _ _) | e@(.literal _ _) | e@(.this _) | e@(.super _) | e@(.metaProperty _ _ _) => [e]
  | e@(.template _ _ holes) => e :: Expr.listExpressions holes
  | e@(.tagged _ tag types _ holes) =>
    e :: tag.expressions ++ TypePart.listExpressions types ++ Expr.listExpressions holes
  | e@(.array _ elements) => e :: Expr.elementExpressions elements
  | e@(.object _ members) => e :: Property.listExpressions members
  | e@(.function f) => e :: f.expressions
  | e@(.class c) => e :: c.expressions
  | e@(.arrow _ _ types params result body) =>
    e :: TypePart.listExpressions types ++ Param.listExpressions params
      ++ TypePart.listExpressions result ++ body.expressions
  | e@(.unary _ _ arg) => e :: arg.expressions
  | e@(.update _ _ _ target) => e :: target.expressions
  | e@(.binary _ _ left right) => e :: left.expressions ++ right.expressions
  | e@(.assign _ _ target value) => e :: target.expressions ++ value.expressions
  | e@(.conditional _ test yes no) =>
    e :: test.expressions ++ yes.expressions ++ no.expressions
  | e@(.call _ callee types args _ _) =>
    e :: callee.expressions ++ TypePart.listExpressions types ++ Expr.listExpressions args
  | e@(.new _ callee types args _) =>
    e :: callee.expressions ++ TypePart.listExpressions types ++ Expr.listExpressions args
  | e@(.member _ object _ _ _) => e :: object.expressions
  | e@(.index _ object property _) => e :: object.expressions ++ property.expressions
  | e@(.privateMember _ object _ _) => e :: object.expressions
  | e@(.chain _ inner) => e :: inner.expressions
  | e@(.sequence _ items) => e :: Expr.listExpressions items
  | e@(.spread _ arg) => e :: arg.expressions
  | e@(.yield _ _ arg) => e :: Expr.optionExpressions arg
  | e@(.await _ arg) => e :: arg.expressions
  | e@(.importCall _ _ source options) =>
    e :: source.expressions ++ Expr.optionExpressions options
  | e@(.privateIn _ _ right) => e :: right.expressions
  | e@(.paren _ inner) => e :: inner.expressions
  | e@(.typed _ .assertion types inner) =>
    e :: TypePart.listExpressions types ++ inner.expressions
  | e@(.typed _ _ types inner) => e :: inner.expressions ++ TypePart.listExpressions types
  | e@(.jsx _ element) => e :: element.expressions

def Expr.listExpressions : List Expr → List Expr
  | [] => []
  | e :: es => e.expressions ++ Expr.listExpressions es

def Expr.optionExpressions : Option Expr → List Expr
  | none => []
  | some e => e.expressions

def Expr.elementExpressions : List (Option Expr) → List Expr
  | [] => []
  | none :: es => Expr.elementExpressions es
  | some e :: es => e.expressions ++ Expr.elementExpressions es

def TypePart.expressions : TypePart → List Expr
  | .expr e => e.expressions
  | .param p => p.expressions

def TypePart.listExpressions : List TypePart → List Expr
  | [] => []
  | t :: ts => t.expressions ++ TypePart.listExpressions ts

def ArrowBody.expressions : ArrowBody → List Expr
  | .expr e => e.expressions
  | .block body => body.expressions

def Pattern.expressions : Pattern → List Expr
  | .name _ _ => []
  | .place e => e.expressions
  | .object _ properties rest =>
    PatternProperty.listExpressions properties ++ Pattern.optionExpressions rest
  | .array _ elements rest => Pattern.elementExpressions elements ++ Pattern.optionExpressions rest
  | .default _ target value => target.expressions ++ value.expressions

def Pattern.optionExpressions : Option Pattern → List Expr
  | none => []
  | some p => p.expressions

def Pattern.elementExpressions : List (Option Pattern) → List Expr
  | [] => []
  | none :: ps => Pattern.elementExpressions ps
  | some p :: ps => p.expressions ++ Pattern.elementExpressions ps

def PatternProperty.listExpressions : List PatternProperty → List Expr
  | [] => []
  | .mk _ key value _ :: ps =>
    key.expressions ++ value.expressions ++ PatternProperty.listExpressions ps

def Key.expressions : Key → List Expr
  | .name _ _ | .literal _ _ | .hidden _ _ => []
  | .computed e => e.expressions

def Property.expressions : Property → List Expr
  | .keyed _ key value => key.expressions ++ value.expressions
  | .shorthand _ _ default => Expr.optionExpressions default
  | .method _ key value => key.expressions ++ value.expressions
  | .accessor _ _ key value => key.expressions ++ value.expressions
  | .spread _ arg => arg.expressions

def Property.listExpressions : List Property → List Expr
  | [] => []
  | p :: ps => p.expressions ++ Property.listExpressions ps

def Param.expressions : Param → List Expr
  | .mk _ decorators (.default _ target value) types _ _ =>
    Expr.listExpressions decorators ++ target.expressions ++ TypePart.listExpressions types
      ++ value.expressions
  | .mk _ decorators target types _ _ =>
    Expr.listExpressions decorators ++ target.expressions ++ TypePart.listExpressions types

def Param.listExpressions : List Param → List Expr
  | [] => []
  | p :: ps => p.expressions ++ Param.listExpressions ps

def Function.expressions : Function → List Expr
  | .mk _ _ _ types params result body =>
    TypePart.listExpressions types ++ Param.listExpressions params
      ++ TypePart.listExpressions result ++ Body.optionExpressions body

def Body.expressions : Body → List Expr
  | .mk _ _ statements => Stmt.listExpressions statements

def Body.optionExpressions : Option Body → List Expr
  | none => []
  | some body => body.expressions

def Class.expressions : Class → List Expr
  | .mk _ decorators _ types parent heritage members _ =>
    Expr.listExpressions decorators ++ TypePart.listExpressions types
      ++ Expr.optionExpressions parent ++ TypePart.listExpressions heritage
      ++ Member.listExpressions members

def Member.expressions : Member → List Expr
  | .method _ decorators key value _ =>
    Expr.listExpressions decorators ++ key.expressions ++ value.expressions
  | .constructor _ decorators key value =>
    Expr.listExpressions decorators ++ key.expressions ++ value.expressions
  | .accessor _ decorators _ key value _ =>
    Expr.listExpressions decorators ++ key.expressions ++ value.expressions
  | .field _ decorators key types value _ =>
    Expr.listExpressions decorators ++ key.expressions ++ TypePart.listExpressions types
      ++ Expr.optionExpressions value
  | .autoAccessor _ decorators key types value _ =>
    Expr.listExpressions decorators ++ key.expressions ++ TypePart.listExpressions types
      ++ Expr.optionExpressions value
  | .staticBlock _ statements => Stmt.listExpressions statements
  | .indexSignature _ types => TypePart.listExpressions types

def Member.listExpressions : List Member → List Expr
  | [] => []
  | m :: ms => m.expressions ++ Member.listExpressions ms

def Jsx.expressions : Jsx → List Expr
  | .element _ _ types attributes children =>
    TypePart.listExpressions types ++ JsxAttribute.listExpressions attributes
      ++ JsxChild.listExpressions children
  | .fragment _ children => JsxChild.listExpressions children

def JsxAttribute.expressions : JsxAttribute → List Expr
  | .mk _ _ none => []
  | .mk _ _ (some value) => value.expressions
  | .spread _ arg => arg.expressions

def JsxAttribute.listExpressions : List JsxAttribute → List Expr
  | [] => []
  | a :: as => a.expressions ++ JsxAttribute.listExpressions as

def JsxValue.expressions : JsxValue → List Expr
  | .string _ _ | .empty _ => []
  | .expr e => e.expressions
  | .jsx _ element => element.expressions

def JsxChild.expressions : JsxChild → List Expr
  | .text _ _ | .empty _ => []
  | .expr _ e => e.expressions
  | .spread _ e => e.expressions
  | .element element => element.expressions

def JsxChild.listExpressions : List JsxChild → List Expr
  | [] => []
  | c :: cs => c.expressions ++ JsxChild.listExpressions cs

def Declarator.listExpressions : List Declarator → List Expr
  | [] => []
  | .mk _ target types value :: ds =>
    target.expressions ++ TypePart.listExpressions types ++ Expr.optionExpressions value
      ++ Declarator.listExpressions ds

def SwitchCase.listExpressions : List SwitchCase → List Expr
  | [] => []
  | .mk _ test body :: cs =>
    Expr.optionExpressions test ++ Stmt.listExpressions body ++ SwitchCase.listExpressions cs

def EnumMember.listExpressions : List EnumMember → List Expr
  | [] => []
  | .mk _ _ value :: ms => Expr.optionExpressions value ++ EnumMember.listExpressions ms

def Stmt.expressions : Stmt → List Expr
  | .expr _ e => e.expressions
  | .block _ body => Stmt.listExpressions body
  | .empty _ | .debugger _ | .continue _ _ | .break _ _ => []
  | .ifElse _ test yes no => test.expressions ++ yes.expressions ++ Stmt.optionExpressions no
  | .forLoop _ init test update body =>
    Stmt.optionExpressions init ++ Expr.optionExpressions test ++ Expr.optionExpressions update
      ++ body.expressions
  | .forIn _ left right body => left.expressions ++ right.expressions ++ body.expressions
  | .forOf _ _ left right body => left.expressions ++ right.expressions ++ body.expressions
  | .forTarget target => target.expressions
  | .whileLoop _ test body => test.expressions ++ body.expressions
  | .doWhile _ body test => body.expressions ++ test.expressions
  | .return _ value => Expr.optionExpressions value
  | .throw _ value => value.expressions
  | .with _ object body => object.expressions ++ body.expressions
  | .switch _ subject cases => subject.expressions ++ SwitchCase.listExpressions cases
  | .labeled _ _ body => body.expressions
  | .tryCatch _ block handler finalizer =>
    block.expressions
      ++ (match handler with
        | none => []
        | some (.mk _ param types body) =>
          Pattern.optionExpressions param ++ TypePart.listExpressions types ++ body.expressions)
      ++ Stmt.optionExpressions finalizer
  | .declare _ _ declarators _ => Declarator.listExpressions declarators
  | .function f => f.expressions
  | .class c => c.expressions
  | .exportDecl _ declaration => declaration.expressions
  | .exportDefault _ declaration => declaration.expressions
  | .enum _ _ members _ => EnumMember.listExpressions members
  | .namespace _ _ body _ => Body.optionExpressions body
  | .exportAssign _ value => value.expressions
  | .importAlias _ _ _ target _ => target.expressions
  | .ambientModule _ _ body => Body.optionExpressions body
  | .interface _ _ _ types | .typeAlias _ _ _ types => TypePart.listExpressions types
  | .importDecl _ _ _ _ _ _ | .exportNames _ _ _ _ _ | .exportAll _ _ _ _ _
  | .exportNamespace _ _ => []

def Stmt.listExpressions : List Stmt → List Expr
  | [] => []
  | s :: ss => s.expressions ++ Stmt.listExpressions ss

def Stmt.optionExpressions : Option Stmt → List Expr
  | none => []
  | some s => s.expressions

end

end LivePreview.Script
