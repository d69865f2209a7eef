import LivePreview.Module.Requires

/-!
# The nodes of a tree

All kinds of syntax as one type of nodes, each with the nodes that it is made of (`Node.parts`), and
what is anywhere inside a node (`Node.Inside`).

`Node.mem_expressions_iff`: the expressions that are listed of a node are those inside it.
-/

namespace LivePreview.Script

/-- A piece of syntax. -/
inductive Node where
  | expr (e : Expr)
  | typePart (t : TypePart)
  | arrowBody (b : ArrowBody)
  | pattern (p : Pattern)
  | patternProperty (p : PatternProperty)
  | key (k : Key)
  | property (p : Property)
  | param (p : Param)
  | function (f : Function)
  | body (b : Body)
  | class (c : Class)
  | member (m : Member)
  | jsx (j : Jsx)
  | jsxAttribute (a : JsxAttribute)
  | jsxValue (v : JsxValue)
  | jsxChild (c : JsxChild)
  | declarator (d : Declarator)
  | switchCase (c : SwitchCase)
  | catchClause (c : CatchClause)
  | enumMember (m : EnumMember)
  | stmt (s : Stmt)

namespace Node

variable {α : Type} (kind : α → Node)

/-- The nodes of a list. -/
def each (as : List α) : List Node := as.map kind

/-- The node that may be there. -/
def maybe (a : Option α) : List Node := a.toList.map kind

@[simp] theorem maybe_none : maybe kind none = [] := rfl

@[simp] theorem maybe_some (a : α) : maybe kind (some a) = [kind a] := rfl

/-- The nodes of a list with gaps. -/
def present (as : List (Option α)) : List Node := as.flatMap (maybe kind)

end Node

open Node (each maybe present)

/-! ## What nodes are made of -/

def Expr.parts : Expr → List Node
  | .name _ _ | .literal _ _ | .this _ | .super _ | .metaProperty _ _ _ => []
  | .template _ _ holes => each .expr holes
  | .tagged _ tag types _ holes => .expr tag :: each .typePart types ++ each .expr holes
  | .array _ elements => present .expr elements
  | .object _ members => each .property members
  | .function f => [.function f]
  | .class c => [.class c]
  | .arrow _ _ types params result body =>
    each .typePart types ++ each .param params ++ each .typePart result ++ [.arrowBody body]
  | .unary _ _ arg => [.expr arg]
  | .update _ _ _ target => [.pattern target]
  | .binary _ _ left right => [.expr left, .expr right]
  | .assign _ _ target value => [.pattern target, .expr value]
  | .conditional _ test yes no => [.expr test, .expr yes, .expr no]
  | .call _ callee types args _ _ | .new _ callee types args _ =>
    .expr callee :: each .typePart types ++ each .expr args
  | .member _ base _ _ _ | .privateMember _ base _ _ => [.expr base]
  | .index _ base at' _ => [.expr base, .expr at']
  | .chain _ inner | .paren _ inner => [.expr inner]
  | .typed _ .assertion types inner => each .typePart types ++ [.expr inner]
  | .typed _ _ types inner => .expr inner :: each .typePart types
  | .sequence _ items => each .expr items
  | .spread _ arg | .await _ arg => [.expr arg]
  | .yield _ _ arg => maybe .expr arg
  | .importCall _ _ source options => .expr source :: maybe .expr options
  | .privateIn _ _ right => [.expr right]
  | .jsx _ element => [.jsx element]

def TypePart.parts : TypePart → List Node
  | .expr e => [.expr e]
  | .param p => [.param p]

/-- The default of a parameter stands behind its type. -/
def Param.parts : Param → List Node
  | .mk _ decorators (.default _ target value) types _ _ =>
    each .expr decorators ++ .pattern target :: each .typePart types ++ [.expr value]
  | .mk _ decorators target types _ _ =>
    each .expr decorators ++ .pattern target :: each .typePart types

def Pattern.parts : Pattern → List Node
  | .name _ _ => []
  | .place e => [.expr e]
  | .object _ properties rest => each .patternProperty properties ++ maybe .pattern rest
  | .array _ elements rest => present .pattern elements ++ maybe .pattern rest
  | .default _ target value => [.pattern target, .expr value]

def Property.parts : Property → List Node
  | .keyed _ key value => [.key key, .expr value]
  | .shorthand _ _ default => maybe .expr default
  | .method _ key value | .accessor _ _ key value => [.key key, .function value]
  | .spread _ arg => [.expr arg]

def Member.parts : Member → List Node
  | .method _ decorators key value _ | .constructor _ decorators key value
  | .accessor _ decorators _ key value _ =>
    each .expr decorators ++ [.key key, .function value]
  | .field _ decorators key types value _ | .autoAccessor _ decorators key types value _ =>
    each .expr decorators ++ .key key :: each .typePart types ++ maybe .expr value
  | .staticBlock _ statements => each .stmt statements
  | .indexSignature _ types => each .typePart types

def Jsx.parts : Jsx → List Node
  | .element _ _ types attributes children =>
    each .typePart types ++ each .jsxAttribute attributes ++ each .jsxChild children
  | .fragment _ children => each .jsxChild children

def JsxAttribute.parts : JsxAttribute → List Node
  | .mk _ _ value => maybe .jsxValue value
  | .spread _ arg => [.expr arg]

def JsxValue.parts : JsxValue → List Node
  | .string _ _ | .empty _ => []
  | .expr e => [.expr e]
  | .jsx _ element => [.jsx element]

def JsxChild.parts : JsxChild → List Node
  | .text _ _ | .empty _ => []
  | .expr _ e | .spread _ e => [.expr e]
  | .element j => [.jsx j]

def Stmt.parts : Stmt → List Node
  | .expr _ e => [.expr e]
  | .block _ body => each .stmt body
  | .empty _ | .debugger _ | .continue _ _ | .break _ _ => []
  | .ifElse _ test yes no => .expr test :: .stmt yes :: maybe .stmt no
  | .forLoop _ init test update body =>
    maybe .stmt init ++ maybe .expr test ++ maybe .expr update ++ [.stmt body]
  | .forIn _ left right body | .forOf _ _ left right body =>
    [.stmt left, .expr right, .stmt body]
  | .forTarget target => [.pattern target]
  | .whileLoop _ test body => [.expr test, .stmt body]
  | .doWhile _ body test => [.stmt body, .expr test]
  | .return _ value => maybe .expr value
  | .throw _ value => [.expr value]
  | .with _ object body => [.expr object, .stmt body]
  | .switch _ subject cases => .expr subject :: each .switchCase cases
  | .labeled _ _ body => [.stmt body]
  | .tryCatch _ tried handler finalizer =>
    .stmt tried :: maybe .catchClause handler ++ maybe .stmt finalizer
  | .declare _ _ declarators _ => each .declarator declarators
  | .function f => [.function f]
  | .class c => [.class c]
  | .exportDecl _ declaration | .exportDefault _ declaration => [.stmt declaration]
  | .enum _ _ members _ => each .enumMember members
  | .namespace _ _ body _ => maybe .body body
  | .exportAssign _ value => [.expr value]
  | .importAlias _ _ _ target _ => [.expr target]
  | .ambientModule _ _ body => maybe .body body
  | .interface _ _ _ types | .typeAlias _ _ _ types => each .typePart types
  | .importDecl _ _ _ _ _ _ | .exportNames _ _ _ _ _ | .exportAll _ _ _ _ _
  | .exportNamespace _ _ => []

namespace Node

/-- The nodes that a node is made of. -/
def parts : Node → List Node
  | .expr e => e.parts
  | .typePart t => t.parts
  | .arrowBody (.expr e) => [.expr e]
  | .arrowBody (.block b) => [.body b]
  | .pattern p => p.parts
  | .patternProperty (.mk _ k value _) => [.key k, .pattern value]
  | .key (.computed e) => [.expr e]
  | .key _ => []
  | .property p => p.parts
  | .param p => p.parts
  | .function (.mk _ _ _ types params result b) =>
    each .typePart types ++ each .param params ++ each .typePart result ++ maybe .body b
  | .body (.mk _ _ statements) => each .stmt statements
  | .class (.mk _ decorators _ types parent heritage members _) =>
    each .expr decorators ++ each .typePart types ++ maybe .expr parent
      ++ each .typePart heritage ++ each .member members
  | .member m => m.parts
  | .jsx j => j.parts
  | .jsxAttribute a => a.parts
  | .jsxValue v => v.parts
  | .jsxChild c => c.parts
  | .declarator (.mk _ target types value) =>
    .pattern target :: each .typePart types ++ maybe .expr value
  | .switchCase (.mk _ test statements) => maybe .expr test ++ each .stmt statements
  | .catchClause (.mk _ caught types block) =>
    maybe .pattern caught ++ each .typePart types ++ [.stmt block]
  | .enumMember (.mk _ _ value) => maybe .expr value
  | .stmt s => s.parts

/-- The first node is the second one, or one of those that it is made of, at any depth. -/
inductive Inside (n : Node) : Node → Prop
  | here : Inside n n
  | part {whole k : Node} : k ∈ whole.parts → Inside n k → Inside n whole

/-- The expressions that are listed of a node. -/
def expressions : Node → List Expr
  | .expr e => e.expressions
  | .typePart t => t.expressions
  | .arrowBody b => b.expressions
  | .pattern p => p.expressions
  | .patternProperty p => PatternProperty.listExpressions [p]
  | .key k => k.expressions
  | .property p => p.expressions
  | .param p => p.expressions
  | .function f => f.expressions
  | .body b => b.expressions
  | .class c => c.expressions
  | .member m => m.expressions
  | .jsx j => j.expressions
  | .jsxAttribute a => a.expressions
  | .jsxValue v => v.expressions
  | .jsxChild c => c.expressions
  | .declarator d => Declarator.listExpressions [d]
  | .switchCase c => SwitchCase.listExpressions [c]
  | .catchClause (.mk _ caught types block) =>
    Pattern.optionExpressions caught ++ TypePart.listExpressions types ++ block.expressions
  | .enumMember m => EnumMember.listExpressions [m]
  | .stmt s => s.expressions

/-- The node itself, if it is an expression. -/
def own : Node → List Expr
  | .expr e => [e]
  | _ => []

/-! ## Lists of expressions -/

/-- The expressions of several nodes. -/
def listed (ns : List Node) : List Expr := ns.flatMap expressions

@[simp] theorem listed_nil : listed [] = [] := rfl

@[simp] theorem listed_cons (n : Node) (ns : List Node) :
    listed (n :: ns) = n.expressions ++ listed ns := List.flatMap_cons

@[simp] theorem listed_append (ns ms : List Node) : listed (ns ++ ms) = listed ns ++ listed ms :=
  List.flatMap_append

section
variable {α : Type} {kind : α → Node} {walk : List α → List Expr}

/-- A walk over a list that goes through one item after the other. -/
theorem listed_each (nil : walk [] = [])
    (cons : ∀ a as, walk (a :: as) = (kind a).expressions ++ walk as) (as : List α) :
    listed (each kind as) = walk as := by
  induction as with
  | nil => exact nil.symm
  | cons a as ih =>
    rw [cons, ← ih]
    rfl

theorem listed_maybe {walk : Option α → List Expr} (missing : walk none = [])
    (there : ∀ a, walk (some a) = (kind a).expressions) (a : Option α) :
    listed (maybe kind a) = walk a := by
  cases a with
  | none => exact missing.symm
  | some a =>
    rw [there]
    exact List.append_nil _

theorem listed_present {walk : List (Option α) → List Expr} (nil : walk [] = [])
    (gap : ∀ as, walk (none :: as) = walk as)
    (cons : ∀ a as, walk (some a :: as) = (kind a).expressions ++ walk as) (as : List (Option α)) :
    listed (present kind as) = walk as := by
  induction as with
  | nil => exact nil.symm
  | cons a as ih =>
    cases a with
    | none =>
      rw [gap, ← ih]
      rfl
    | some a =>
      rw [cons, ← ih]
      rfl

end

@[simp] theorem listed_exprs (es : List Expr) :
    listed (each .expr es) = Expr.listExpressions es := listed_each rfl (fun _ _ => rfl) es

@[simp] theorem listed_maybeExpr (e : Option Expr) :
    listed (maybe .expr e) = Expr.optionExpressions e := listed_maybe rfl (fun _ => rfl) e

@[simp] theorem listed_presentExprs (es : List (Option Expr)) :
    listed (present .expr es) = Expr.elementExpressions es :=
  listed_present rfl (fun _ => rfl) (fun _ _ => rfl) es

@[simp] theorem listed_typeParts (ts : List TypePart) :
    listed (each .typePart ts) = TypePart.listExpressions ts := listed_each rfl (fun _ _ => rfl) ts

@[simp] theorem listed_maybePattern (p : Option Pattern) :
    listed (maybe .pattern p) = Pattern.optionExpressions p := listed_maybe rfl (fun _ => rfl) p

@[simp] theorem listed_presentPatterns (ps : List (Option Pattern)) :
    listed (present .pattern ps) = Pattern.elementExpressions ps :=
  listed_present rfl (fun _ => rfl) (fun _ _ => rfl) ps

@[simp] theorem listed_patternProperties (ps : List PatternProperty) :
    listed (each .patternProperty ps) = PatternProperty.listExpressions ps := by
  refine listed_each rfl (fun p ps => ?_) ps
  cases p
  exact congrArg (· ++ _) (List.append_nil _).symm

@[simp] theorem listed_properties (ps : List Property) :
    listed (each .property ps) = Property.listExpressions ps := listed_each rfl (fun _ _ => rfl) ps

@[simp] theorem listed_params (ps : List Param) :
    listed (each .param ps) = Param.listExpressions ps := listed_each rfl (fun _ _ => rfl) ps

@[simp] theorem listed_maybeBody (b : Option Body) :
    listed (maybe .body b) = Body.optionExpressions b := listed_maybe rfl (fun _ => rfl) b

@[simp] theorem listed_members (ms : List Member) :
    listed (each .member ms) = Member.listExpressions ms := listed_each rfl (fun _ _ => rfl) ms

@[simp] theorem listed_jsxAttributes (as : List JsxAttribute) :
    listed (each .jsxAttribute as) = JsxAttribute.listExpressions as :=
  listed_each rfl (fun _ _ => rfl) as

@[simp] theorem listed_jsxChildren (cs : List JsxChild) :
    listed (each .jsxChild cs) = JsxChild.listExpressions cs := listed_each rfl (fun _ _ => rfl) cs

@[simp] theorem listed_declarators (ds : List Declarator) :
    listed (each .declarator ds) = Declarator.listExpressions ds := by
  refine listed_each rfl (fun d ds => ?_) ds
  cases d
  exact congrArg (· ++ _) (List.append_nil _).symm

@[simp] theorem listed_switchCases (cs : List SwitchCase) :
    listed (each .switchCase cs) = SwitchCase.listExpressions cs := by
  refine listed_each rfl (fun c cs => ?_) cs
  cases c
  exact congrArg (· ++ _) (List.append_nil _).symm

@[simp] theorem listed_enumMembers (ms : List EnumMember) :
    listed (each .enumMember ms) = EnumMember.listExpressions ms := by
  refine listed_each rfl (fun m ms => ?_) ms
  cases m
  exact congrArg (· ++ _) (List.append_nil _).symm

@[simp] theorem listed_stmts (ss : List Stmt) :
    listed (each .stmt ss) = Stmt.listExpressions ss := listed_each rfl (fun _ _ => rfl) ss

@[simp] theorem listed_maybeStmt (s : Option Stmt) :
    listed (maybe .stmt s) = Stmt.optionExpressions s := listed_maybe rfl (fun _ => rfl) s

/-! ## One step of the walk

On a constructor the walk computes: what is listed of the parts is brought into its form, and the
rest holds by definition. -/

theorem expressions_expr (e : Expr) : e.expressions = e :: listed e.parts := by
  cases e
  case typed span form types inner =>
    cases form <;> simp [Expr.parts] <;> rfl
  all_goals
    simp [Expr.parts, ← List.append_assoc]
    rfl

theorem expressions_typePart (t : TypePart) : t.expressions = listed t.parts := by
  cases t <;> simp [TypePart.parts] <;> rfl

theorem expressions_param (p : Param) : p.expressions = listed p.parts := by
  rcases p with ⟨span, decorators, target, types, rest, field⟩
  cases target <;> simp [Param.parts, ← List.append_assoc] <;> rfl

theorem expressions_pattern (p : Pattern) : p.expressions = listed p.parts := by
  cases p <;> simp [Pattern.parts] <;> rfl

theorem expressions_property (p : Property) : p.expressions = listed p.parts := by
  cases p <;> simp [Property.parts] <;> rfl

theorem expressions_member (m : Member) : m.expressions = listed m.parts := by
  cases m <;> simp [Member.parts, ← List.append_assoc] <;> rfl

theorem expressions_jsx (j : Jsx) : j.expressions = listed j.parts := by
  cases j <;> simp [Jsx.parts, -List.append_assoc] <;> rfl

theorem expressions_jsxAttribute (a : JsxAttribute) : a.expressions = listed a.parts := by
  cases a with
  | mk span name value => cases value <;> simp [JsxAttribute.parts] <;> rfl
  | spread span arg =>
    simp [JsxAttribute.parts]
    rfl

theorem expressions_jsxValue (v : JsxValue) : v.expressions = listed v.parts := by
  cases v <;> simp [JsxValue.parts] <;> rfl

theorem expressions_jsxChild (c : JsxChild) : c.expressions = listed c.parts := by
  cases c <;> simp [JsxChild.parts] <;> rfl

theorem expressions_stmt (s : Stmt) : s.expressions = listed s.parts := by
  cases s
  case tryCatch span tried handler finalizer =>
    cases handler with
    | none =>
      show tried.expressions ++ [] ++ Stmt.optionExpressions finalizer = _
      simp [Stmt.parts, expressions]
    | some clause =>
      have walked : (Stmt.tryCatch span tried (some clause) finalizer).expressions =
          tried.expressions ++ (catchClause clause).expressions ++
            Stmt.optionExpressions finalizer := by
        cases clause
        rfl
      rw [walked]
      simp [Stmt.parts, expressions]
  all_goals
    simp [Stmt.parts, ← List.append_assoc]
    rfl

/-- What is listed of a node is the node and what is listed of its parts. -/
theorem expressions_eq (n : Node) : n.expressions = n.own ++ listed n.parts := by
  cases n with
  | expr e => exact expressions_expr e
  | arrowBody b => cases b <;> simp [own, parts] <;> rfl
  | pattern p => exact expressions_pattern p
  | patternProperty p =>
    cases p
    simp [own, parts]
    exact List.append_nil _
  | key k => cases k <;> simp [own, parts] <;> rfl
  | property p => exact expressions_property p
  | typePart t => exact expressions_typePart t
  | param p => exact expressions_param p
  | function f =>
    cases f
    simp [own, parts, ← List.append_assoc]
    rfl
  | body b =>
    cases b
    simp [own, parts]
    rfl
  | «class» c =>
    cases c
    simp [own, parts, ← List.append_assoc]
    rfl
  | member m => exact expressions_member m
  | jsx j => exact expressions_jsx j
  | jsxAttribute a => exact expressions_jsxAttribute a
  | jsxValue v => exact expressions_jsxValue v
  | jsxChild c => exact expressions_jsxChild c
  | declarator d =>
    cases d
    simp [own, parts, ← List.append_assoc]
    exact List.append_nil _
  | switchCase c =>
    cases c
    simp [own, parts]
    exact List.append_nil _
  | catchClause c =>
    cases c
    simp [own, parts, -List.append_assoc]
    rfl
  | enumMember m =>
    cases m
    simp [own, parts]
    exact List.append_nil _
  | stmt s => exact expressions_stmt s

/-! ## All the way down -/

/-- All of the nodes are smaller than `n`. -/
def Below (n : Nat) (ns : List Node) : Prop := ∀ m ∈ ns, sizeOf m < n

section
variable {n : Nat}

theorem below_nil : Below n [] := nofun

theorem below_cons {m : Node} {ms : List Node} :
    Below n (m :: ms) ↔ sizeOf m < n ∧ Below n ms := List.forall_mem_cons

theorem below_append {ms ks : List Node} :
    Below n (ms ++ ks) ↔ Below n ms ∧ Below n ks := List.forall_mem_append

variable {α : Type} [SizeOf α] {kind : α → Node} (size : ∀ a, sizeOf (kind a) = 1 + sizeOf a)
include size

theorem below_maybe {a : Option α} (h : sizeOf a < n) : Below n (maybe kind a) := by
  cases a with
  | none => exact below_nil
  | some a =>
    refine below_cons.2 ⟨?_, below_nil⟩
    rw [size]
    exact h

theorem below_present {as : List (Option α)} (h : sizeOf as < n) : Below n (present kind as) := by
  intro m hm
  obtain ⟨a, ha, hm⟩ := List.mem_flatMap.1 hm
  exact below_maybe size (Nat.lt_trans (List.sizeOf_lt_of_mem ha) h) m hm

theorem below_each {as : List α} (h : sizeOf as < n) : Below n (each kind as) := by
  intro m hm
  obtain ⟨a, ha, rfl⟩ := List.mem_map.1 hm
  have := List.sizeOf_lt_of_mem ha
  rw [size]
  omega

end

theorem below_expr (e : Expr) : Below (1 + sizeOf e) e.parts := by
  cases e
  case' typed span form types inner => cases form
  all_goals simp only [Expr.parts, below_cons, below_append, below_nil, and_true]
  all_goals
    repeat' first | apply And.intro | apply below_maybe | apply below_present | apply below_each
  all_goals simp
  all_goals omega

theorem below_param (p : Param) : Below (1 + sizeOf p) p.parts := by
  rcases p with ⟨span, decorators, target, types, rest, field⟩
  cases target
  all_goals simp only [Param.parts, below_cons, below_append, below_nil, and_true]
  all_goals repeat' first | apply And.intro | apply below_each
  all_goals simp
  all_goals omega

theorem below_stmt (s : Stmt) : Below (1 + sizeOf s) s.parts := by
  cases s <;> simp only [Stmt.parts, below_cons, below_append, below_nil, and_true]
  all_goals repeat' first | apply And.intro | apply below_maybe | apply below_each
  all_goals simp
  all_goals omega

/-- What a node is made of is smaller than the node. -/
theorem below_parts (n : Node) : Below (sizeOf n) n.parts := by
  cases n
  case expr e => exact below_expr e
  case param p => exact below_param p
  case stmt s => exact below_stmt s
  -- one goal for each constructor of the other kinds of syntax, then one for each of its fields
  all_goals
    rename_i x
    cases x
  all_goals
    simp only [parts, TypePart.parts, Pattern.parts, Property.parts, Member.parts, Jsx.parts,
      JsxAttribute.parts, JsxValue.parts, JsxChild.parts, below_cons, below_append, below_nil,
      and_true]
  all_goals
    repeat' first | apply And.intro | apply below_maybe | apply below_present | apply below_each
  all_goals simp
  all_goals omega

theorem mem_own_iff {e : Expr} {n : Node} : e ∈ n.own ↔ n = .expr e := by
  cases n <;> simp [own, eq_comm]

theorem mem_expressions_of_inside {e : Expr} {n : Node} (h : Inside (.expr e) n) :
    e ∈ n.expressions := by
  induction h with
  | here =>
    rw [expressions_eq]
    exact List.mem_append_left _ (mem_own_iff.2 rfl)
  | part mem _ ih =>
    rw [expressions_eq]
    exact List.mem_append_right _ (List.mem_flatMap.2 ⟨_, mem, ih⟩)

theorem inside_of_mem_expressions {e : Expr} {n : Node} (h : e ∈ n.expressions) :
    Inside (.expr e) n := by
  rw [expressions_eq, List.mem_append] at h
  rcases h with h | h
  · rw [mem_own_iff.1 h]
    exact .here
  · obtain ⟨m, mem, h⟩ := List.mem_flatMap.1 h
    have := below_parts n m mem
    exact .part mem (inside_of_mem_expressions h)
termination_by sizeOf n

/-- The expressions that are listed of a node are those inside it. -/
theorem mem_expressions_iff {e : Expr} {n : Node} : e ∈ n.expressions ↔ Inside (.expr e) n :=
  ⟨inside_of_mem_expressions, mem_expressions_of_inside⟩

end Node

end LivePreview.Script

namespace LivePreview.Module

open Script

/-- Somewhere in the node `require` is called with the string alone. -/
def Requires (n : Node) (specifier : String) : Prop :=
  ∃ call callee types place value optional pure, value.text = specifier ∧
    Node.Inside (.expr (.call call (.name callee "require") types
      [.literal place (.string value)] optional pure)) n

theorem requireCall?_eq_some {e : Expr} {specifier : String} :
    requireCall? e = some specifier ↔ ∃ call callee types place value optional pure,
      value.text = specifier ∧
        e = .call call (.name callee "require") types [.literal place (.string value)] optional
          pure := by
  constructor
  · intro h
    unfold requireCall? at h
    split at h
    next call callee name types place value optional pure =>
      obtain ⟨same, text⟩ := Option.ite_none_right_eq_some.1 h
      obtain rfl := eq_of_beq same
      exact ⟨call, callee, types, place, value, optional, pure, Option.some.inj text, rfl⟩
    next => cases h
  · rintro ⟨call, callee, types, place, value, optional, pure, rfl, rfl⟩
    rfl

/-- The calls that are gathered are those anywhere in the statements. -/
theorem mem_requireCalls_iff {statements : List Stmt} {specifier : String} :
    specifier ∈ requireCalls statements ↔ ∃ s ∈ statements, Requires (.stmt s) specifier := by
  rw [requireCalls, List.mem_filterMap, ← Node.listed_stmts]
  constructor
  · rintro ⟨e, listed, h⟩
    obtain ⟨n, mem, inside⟩ := List.mem_flatMap.1 listed
    obtain ⟨s, hs, rfl⟩ := List.mem_map.1 mem
    obtain ⟨call, callee, types, place, value, optional, pure, text, rfl⟩ :=
      requireCall?_eq_some.1 h
    exact ⟨s, hs, call, callee, types, place, value, optional, pure, text,
      Node.mem_expressions_iff.1 inside⟩
  · rintro ⟨s, hs, call, callee, types, place, value, optional, pure, text, inside⟩
    exact ⟨_, List.mem_flatMap.2
      ⟨.stmt s, List.mem_map_of_mem hs, Node.mem_expressions_iff.2 inside⟩,
      requireCall?_eq_some.2 ⟨call, callee, types, place, value, optional, pure, text, rfl⟩⟩

end LivePreview.Module
