import LivePreview.Script.Tree

/-!
# Names in trees

Which names patterns and declarations bind, how names in lists of imports and exports read, and
where statements stand.
-/

namespace LivePreview.Script

/-- The text of a name in an import or export list. -/
def ModuleName.text : ModuleName → String
  | .ident _ name => name
  | .string _ value => value.text

/-- Two names are spelled in the same way. -/
def ModuleName.same : ModuleName → ModuleName → Bool
  | .ident _ a, .ident _ b => a == b
  | .string _ a, .string _ b => a == b
  | _, _ => false

def ModuleName.span : ModuleName → Span
  | .ident s _ | .string s _ => s

def Body.statements : Body → List Stmt
  | .mk _ _ statements => statements

def Function.span : Function → Span
  | .mk span _ _ _ _ _ _ => span

def Function.name? : Function → Option String
  | .mk _ name _ _ _ _ _ => name.map (·.2)

/-- The function, marked as free of effects. -/
def Function.marked : Function → Function
  | .mk span name flags types params result body =>
    .mk span name { flags with pure := true } types params result body

/-- A function, marked as free of effects; any other expression stays as it is. -/
def Expr.markFree : Expr → Expr
  | .function f => .function f.marked
  | .arrow span flags types params result body =>
    .arrow span { flags with pure := true } types params result body
  | e => e

/-- The function that a statement declares or exports, or that is the value of its first constant,
marked as free of effects. -/
def Stmt.markFree : Stmt → Stmt
  | .function f => .function f.marked
  | .exportDefault span (.function f) => .exportDefault span (.function f.marked)
  | .exportDefault span (.expr inner e) => .exportDefault span (.expr inner e.markFree)
  | .exportDecl span inner => .exportDecl span inner.markFree
  | .declare span .const (.mk s target types (some value) :: ds) ambient =>
    .declare span .const (.mk s target types (some value.markFree) :: ds) ambient
  | s => s

def Class.span : Class → Span
  | .mk span _ _ _ _ _ _ _ => span

def Class.name? : Class → Option String
  | .mk _ _ name _ _ _ _ _ => name.map (·.2)

mutual

/-- The names that a pattern binds, in the order of the source. -/
def Pattern.boundNames : Pattern → List String
  | .name _ name => [name]
  | .place _ => []
  | .object _ properties rest => PatternProperty.listNames properties ++ Pattern.optionNames rest
  | .array _ elements rest => Pattern.elementNames elements ++ Pattern.optionNames rest
  | .default _ target _ => target.boundNames

def PatternProperty.listNames : List PatternProperty → List String
  | [] => []
  | .mk _ _ value _ :: rest => value.boundNames ++ PatternProperty.listNames rest

def Pattern.elementNames : List (Option Pattern) → List String
  | [] => []
  | none :: rest => Pattern.elementNames rest
  | some p :: rest => p.boundNames ++ Pattern.elementNames rest

def Pattern.optionNames : Option Pattern → List String
  | none => []
  | some p => p.boundNames

end

/-- The names that a list of declarators binds. -/
def Declarator.listNames (ds : List Declarator) : List String :=
  ds.flatMap fun (.mk _ target _ _) => target.boundNames

/-- The span of an expression. -/
def Expr.span : Expr → Span
  | .name s _ | .literal s _ | .this s | .super s | .metaProperty s _ _ | .template s _ _
  | .tagged s _ _ _ _ | .array s _ | .object s _ | .arrow s _ _ _ _ _ | .unary s _ _
  | .update s _ _ _ | .binary s _ _ _ | .assign s _ _ _ | .conditional s _ _ _
  | .call s _ _ _ _ _ | .new s _ _ _ _ | .member s _ _ _ _ | .index s _ _ _
  | .privateMember s _ _ _ | .chain s _ | .sequence s _ | .spread s _ | .yield s _ _ | .await s _
  | .importCall s _ _ _ | .privateIn s _ _ | .paren s _ | .typed s _ _ _ | .jsx s _ => s
  | .function f => f.span
  | .class c => c.span

/-- The span of a statement. -/
def Stmt.span : Stmt → Span
  | .expr s _ | .block s _ | .empty s | .debugger s | .ifElse s _ _ _ | .forLoop s _ _ _ _
  | .forIn s _ _ _ | .forOf s _ _ _ _ | .whileLoop s _ _ | .doWhile s _ _ | .continue s _
  | .break s _ | .return s _ | .throw s _ | .with s _ _ | .switch s _ _ | .labeled s _ _
  | .tryCatch s _ _ _ | .declare s _ _ _ | .importDecl s _ _ _ _ _ | .exportDecl s _
  | .exportNames s _ _ _ _ | .exportAll s _ _ _ _ | .exportDefault s _ | .enum s _ _ _
  | .namespace s _ _ _ | .ambientModule s _ _ | .interface s _ _ _ | .typeAlias s _ _ _
  | .importAlias s _ _ _ _ | .exportAssign s _ | .exportNamespace s _ => s
  | .forTarget _ => .none
  | .function f => f.span
  | .class c => c.span

end LivePreview.Script
