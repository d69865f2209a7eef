import LivePreview.Script.Markup
import LivePreview.Script.Plain.Basic

/-!
# Making scripts plain: the tree

Each kind of node has its plain form; a statement may become any number of statements. Types leave
nothing behind, enums and namespaces become functions that fill an object, and elements become
calls that say how to make them.
-/

namespace LivePreview.Script

/-! ## Elements -/

namespace Plain

/-- The call that makes an element of the given type. -/
def elementCall (span : Span) (type : Expr) (props : Option Expr) (children : List Expr) :
    Plain Expr := do
  let props := props.getD (.literal .none .null)
  return .call span (.named (← read).settings.pragma) [] (type :: props :: children) false true

/-- The type of element that a tag names. -/
def elementType (name : JsxName) : Plain Expr :=
  match name with
  | .intrinsic span x => return .literal span (.string ⟨x, false⟩)
  | .reference span x => return .name span x
  | .member span object properties =>
    return properties.foldl (fun e p => .member span e span p false) (.name span object)
  | .qualified span ns x => do
    report .jsxNamespace
    return .literal span (.string ⟨ns ++ ":" ++ x, false⟩)

/-- The key of an attribute. -/
def attributeKey (name : JsxName) : Key :=
  match name with
  | .intrinsic span x | .reference span x =>
    if x.toList.contains '-' then .literal span (.string ⟨x, false⟩) else .name span x
  | .qualified span ns x => .literal span (.string ⟨ns ++ ":" ++ x, false⟩)
  | .member span object _ => .name span object

/-- A property that sets the prototype of the object it stands in. -/
def setsPrototype : Property → Bool
  | .keyed _ key _ | .method _ key _ | .accessor _ _ key _ =>
    match key with
    | .name _ x => x == "__proto__"
    | .literal _ (.string v) => v.text == "__proto__"
    | _ => false
  | .shorthand _ x _ => x == "__proto__"
  | .spread _ _ => false

/-- The members of an object literal that may stand in another one in its place. -/
def membersToInline? : Expr → Option (List Property)
  | .object _ members => if members.any setsPrototype then none else some members
  | _ => none

/-- The properties that stand in an object literal for one of its properties. -/
def inlined (p : Property) : List Property :=
  match p with
  | .spread _ arg => (membersToInline? arg).getD [p]
  | _ => [p]

/-- The object that holds the attributes of an element, if there are any. A single object that is
spread serves as it is, unless its literal sets a prototype. -/
def propsOf (properties : List Property) : Option Expr :=
  match properties with
  | [] => none
  | [.spread span arg] =>
    match arg with
    | .object _ members =>
      some (if members.any setsPrototype then .object .none [.spread span arg] else arg)
    | _ => some arg
  | ps => some (.object .none (ps.flatMap inlined))

end Plain

/-! ## Enums -/

namespace Plain

/-- The members of an enum so far, the last one first, and the value of the last one. -/
structure EnumState where
  members : List (String × Option Constant)
  last : Option Constant
  lastName : Option String

/-- The value of a member without an initializer. -/
def nextValue (enumName : String) (s : EnumState) : Option Constant × Expr :=
  match s.last, s.lastName with
  | some (.number d), _ =>
    let next := Constant.binaryNumber .add d (.ofNat 1)
    (next, (next.map Expr.ofConstant).getD (.named "NaN"))
  | _, some name =>
    (none, .binary .none .add (Expr.ofDouble (.ofNat 1))
      (.index .none (.named enumName) (.text name) false))
  | _, none => (some (.number (.ofNat 0)), Expr.ofDouble (.ofNat 0))

/-- The statement that adds a member: by its name, and unless it is a text by its value too. -/
def memberStatement (span : Span) (enumName : String) (name : StringValue) (value : Expr)
    (isText : Bool) : Stmt :=
  let at' (key : Expr) : Expr := .index .none (.named enumName) key false
  let key : Expr := .text name.text
  let added : Expr := .assigned (at' key) value
  .expr span (if isText then added else .assigned (at' added) key)

/-- An initializer whose value is wanted when the enum is used, so that it must not be dropped. -/
def hasEffect : EnumMember → Bool
  | .mk _ _ (some (.call _ _ _ _ _ _)) | .mk _ _ (some (.new _ _ _ _ _)) => true
  | _ => false

/-- The call that makes an enum out of `start`. -/
def enumCall (span : Span) (name : String) (fill : List Stmt) (start : Expr) (pure : Bool) :
    Expr :=
  let body : Body := .mk span [] (fill ++ [.return .none (some (.named name))])
  let params := [Param.mk .none [] (.name .none name) [] false false]
  .call .none (.function (.mk .none none {} [] params [] (some body))) [] [start] false pure

/-- The statement for an enum. -/
def enumStatement (span : Span) (name : String) (call : Expr → Expr) (redeclared : Bool)
    (exported : Bool) : Plain Stmt := do
  let local' := exported || (← read).nested
  let empty : Expr := .object .none []
  let start := if local' && !redeclared then empty else .binary .none .or (.named name) empty
  if redeclared then
    return .expr span (.assign .none none (.name .none name) (call start))
  return .declare span (if local' then .let else .var)
    [.mk .none (.name .none name) [] (some (call start))] false

end Plain

/-! ## Namespaces -/

namespace Plain

/-- The declaration of a namespace's variable and the call that fills its object. -/
def namespaceStatements (span : Span) (name object : String) (directives : List (Span × String))
    (body : List Stmt) (redeclared : Bool) (exported : ExportedFrom) : List Stmt :=
  let empty : Expr := .object .none []
  let filled (target : Expr) : Expr := .binary .none .or target (.assigned target empty)
  let arg : Expr :=
    match exported with
    | .object parent =>
      .binary .none .or (.named name) (.assigned (.named name) (filled (.dot (.named parent) name)))
    | _ => filled (.named name)
  let param : Param := .mk .none [] (.name .none object) [] false false
  let function : Expr :=
    .function (.mk .none none {} [] [param] [] (some (.mk .none directives body)))
  let call : Stmt := .expr span (.call .none function [] [arg] false false)
  if redeclared then [call]
  else [.declare .none .let [.mk .none (.name .none name) [] none] false, call]

/-- A declarator that also sets a member of the namespace's object. -/
def exposeDeclarator (object : String) : Declarator → Declarator
  | .mk span (.name s x) types (some value) =>
    .mk span (.name s x) types (some (.assigned (.dot (.named object) x) value))
  | d => d

/-- The declared variables of a namespace that it exports. -/
def exportVariables (object : String) (span : Span) (kind : VarKind) (ds : List Declarator) :
    Plain (List Stmt) := do
  if kind != .const then ds.forM fun _ => report .namespaceNonConst
  let plainNames := ds.all fun (.mk _ target _ _) => match target with
    | .name _ _ => true
    | _ => false
  if plainNames then return [.declare span kind (ds.map (exposeDeclarator object)) false]
  let set (x : String) : Expr := .assigned (.dot (.named object) x) (.named x)
  let sets := match (Declarator.listNames ds).map set with
    | [e] => e
    | es => .sequence .none es
  return [.declare span kind ds false, .expr .none sets]

/-- What a declaration exported by a namespace becomes; `plain` is its plain form. -/
def exportFromNamespace (object : String) (declaration : Stmt) (plain : List Stmt) :
    Plain (List Stmt) :=
  match declaration, plain with
  | .declare _ _ _ _, [.declare span kind ds _] => exportVariables object span kind ds
  | .function f, _ => return plain ++ f.name?.toList.map (.expose object)
  | .class c, _ => return plain ++ c.name?.toList.map (.expose object)
  | .enum _ name _ _, _ => return plain ++ [.expose object name]
  | .importAlias _ _ _ _ _, _ => return []
  | _, _ => return plain

/-- The body of a loop or condition, of which `plain` is the plain form; a typed statement leaves an
empty block. -/
def branch (s : Stmt) (plain : Plain (List Stmt)) : Plain Stmt :=
  if s.isTyped then return .block s.span [] else return .single s.span (← plain)

/-- A statement behind a label or `with`, where a type stays. -/
def kept (s : Stmt) (plain : Plain (List Stmt)) : Plain Stmt :=
  if s.isType then return s else return .single s.span (← plain)

/-- Exports the declaration that comes first. -/
def exportFirst (span : Span) : List Stmt → List Stmt
  | s :: ss => match s with
    | .expr _ _ => s :: ss
    | _ => .exportDecl span s :: ss
  | [] => []

end Plain

/-! ## Classes -/

/-- `this.name = name;` -/
def Stmt.setField (name : String) : Stmt :=
  .expr .none (.assigned (.dot (.this .none) name) (.named name))

def Function.hasBody : Function → Bool
  | .mk _ _ _ _ _ _ body => body.isSome

/-- The statement calls the parent's constructor. -/
def Stmt.callsSuper : Stmt → Bool
  | .expr _ (.call _ (.super _) _ _ _ _) => true
  | _ => false

/-- Puts statements behind the call of the parent's constructor, or in front. -/
def Stmt.afterSuper (added statements : List Stmt) : List Stmt :=
  match statements.span (!·.callsSuper) with
  | (before, call :: rest) => before ++ call :: added ++ rest
  | (before, []) => added ++ before

/-- A constructor that sets the fields which its parameters declare. -/
def Function.withFields : Function → Function
  | .mk span name flags types params result body =>
    let sets := (params.filterMap Param.fieldName?).map Stmt.setField
    .mk span name flags types params result (body.map fun (.mk bspan directives statements) =>
      .mk bspan directives (Stmt.afterSuper sets statements))

/-! ## The tree -/

mutual

def Expr.plain : Expr → Plain Expr
  | e@(.literal _ _) | e@(.this _) | e@(.super _) | e@(.metaProperty _ _ _) => return e
  | .name span x => do
    match (← read).members.find? (·.1 == x) with
    | some (_, enum) => return .member span (.named enum) span x false
    | none => return .name span x
  | .template span pieces holes => return .template span pieces (← Expr.listPlain holes)
  | .tagged span tag _ pieces holes =>
    return .tagged span (← tag.plain) [] pieces (← Expr.listPlain holes)
  | .array span elements => return .array span (← Expr.elementPlain elements)
  | .object span members => return .object span (← Property.listPlain members)
  | .function f => return .function (← f.plain)
  | .class c => return .class (← c.plain)
  | .arrow span flags _ params _ body => do
    let (params, body) ← Plain.insideScope (body.innerNames params) do
      return (← Param.listPlain params, ← body.plain (Param.listNames params))
    return .arrow span flags [] params [] body
  | .unary span op arg => return .unary span op (← arg.plain)
  | .update span op before target => return .update span op before (← target.plain)
  | .binary span op left right => return .binary span op (← left.plain) (← right.plain)
  | .assign span op target value => return .assign span op (← target.plain) (← value.plain)
  | .conditional span test yes no =>
    return .conditional span (← test.plain) (← yes.plain) (← no.plain)
  | .call span callee _ args optional pure =>
    return .call span (← callee.plain) [] (← Expr.listPlain args) optional pure
  | .new span callee _ args pure =>
    return .new span (← callee.plain) [] (← Expr.listPlain args) pure
  | .member span object nameSpan property optional =>
    return .member span (← object.plain) nameSpan property optional
  | .index span object property optional =>
    return .index span (← object.plain) (← property.plain) optional
  | .privateMember span object property optional =>
    return .privateMember span (← object.plain) property optional
  | .chain span inner => return .chain span (← inner.plain)
  | .sequence span items => return .sequence span (← Expr.listPlain items)
  | .spread span arg => return .spread span (← arg.plain)
  | .yield span delegate arg => return .yield span delegate (← Expr.optionPlain arg)
  | .await span arg => return .await span (← arg.plain)
  | .importCall span phase source options =>
    return .importCall span phase (← source.plain) (← Expr.optionPlain options)
  | .privateIn span left right => return .privateIn span left (← right.plain)
  | .paren span inner => return .paren span (← inner.plain)
  | .typed _ _ _ inner => return (← inner.plain).bare
  | .jsx _ element => element.plain

def Expr.listPlain : List Expr → Plain (List Expr)
  | [] => return []
  | e :: es => return (← e.plain) :: (← Expr.listPlain es)

def Expr.optionPlain : Option Expr → Plain (Option Expr)
  | none => return none
  | some e => return some (← e.plain)

def Expr.elementPlain : List (Option Expr) → Plain (List (Option Expr))
  | [] => return []
  | none :: es => return none :: (← Expr.elementPlain es)
  | some e :: es => return some (← e.plain) :: (← Expr.elementPlain es)

/-- The body of an arrow function with the parameters `names`. -/
def ArrowBody.plain (names : List String) : ArrowBody → Plain ArrowBody
  | .expr e => return .expr (← e.plain)
  | .block body => return .block (← body.plain names)

def Pattern.plain : Pattern → Plain Pattern
  | .name span x => return .name span x
  | .place e => return .ofExpr (← e.plain)
  | .object span properties rest =>
    return .object span (← PatternProperty.listPlain properties) (← Pattern.optionPlain rest)
  | .array span elements rest =>
    return .array span (← Pattern.elementPlain elements) (← Pattern.optionPlain rest)
  | .default span target value => return .default span (← target.plain) (← value.plain)

def Pattern.optionPlain : Option Pattern → Plain (Option Pattern)
  | none => return none
  | some p => return some (← p.plain)

def Pattern.elementPlain : List (Option Pattern) → Plain (List (Option Pattern))
  | [] => return []
  | none :: ps => return none :: (← Pattern.elementPlain ps)
  | some p :: ps => return some (← p.plain) :: (← Pattern.elementPlain ps)

def PatternProperty.listPlain : List PatternProperty → Plain (List PatternProperty)
  | [] => return []
  | .mk span key value shorthand :: ps =>
    return .mk span (← key.plain) (← value.plain) shorthand :: (← PatternProperty.listPlain ps)

def Key.plain : Key → Plain Key
  | .computed e => return .computed (← e.plain)
  | .name span x => return .name span x
  | .literal span value => return .literal span value
  | .hidden span x => return .hidden span x

def Property.plain : Property → Plain Property
  | .keyed span key value => return .keyed span (← key.plain) (← value.plain)
  | .shorthand span name default => do
    match ← Expr.optionPlain default with
    | some e => return .shorthand span name (some e)
    | none =>
      match (← read).members.find? (·.1 == name) with
      | some (_, enum) => return .keyed span (.name span name) (.dot (.named enum) name)
      | none => return .shorthand span name none
  | .method span key value => return .method span (← key.plain) (← value.plain)
  | .accessor span kind key value => return .accessor span kind (← key.plain) (← value.plain)
  | .spread span arg => return .spread span (← arg.plain)

def Property.listPlain : List Property → Plain (List Property)
  | [] => return []
  | p :: ps => return (← p.plain) :: (← Property.listPlain ps)

def Param.plain : Param → Plain Param
  | .mk span decorators target _ rest field =>
    return .mk span (← Expr.listPlain decorators) (← target.plain) [] rest field

def Param.listPlain : List Param → Plain (List Param)
  | [] => return []
  | p :: ps => return (← p.plain) :: (← Param.listPlain ps)

def Function.plain : Function → Plain Function
  | f@(.mk span name flags _ params _ body) => do
    let names := name.toList.map (·.2) ++ f.innerNames
    let (params, body) ← Plain.insideScope names do
      return (← Param.listPlain params, ← Body.optionPlain (Param.listNames params) body)
    return .mk span name flags [] params [] body

/-- The body of a function with the parameters `names`. -/
def Body.plain (names : List String) : Body → Plain Body
  | .mk span directives statements =>
    return .mk span directives (← Stmt.listPlain (names.map ({ name := · })) statements)

def Body.optionPlain (names : List String) : Option Body → Plain (Option Body)
  | none => return none
  | some body => return some (← body.plain names)

def Class.plain : Class → Plain Class
  | .mk span decorators name _ parent _ members ambient => do
    let decorators ← Expr.listPlain decorators
    let (parent, members) ← Plain.shadowing (name.toList.map (·.2)) do
      return (← Expr.optionPlain parent, ← Member.listPlain members)
    return .mk span decorators name [] parent [] members ambient

def Member.plain : Member → Plain (List Member)
  | .method span decorators key f flags => do
    if !f.hasBody || flags.abstract then return []
    return [.method span (← Expr.listPlain decorators) (← key.plain) (← f.plain) flags]
  | .constructor span decorators key f => do
    if !f.hasBody then return []
    return [.constructor span (← Expr.listPlain decorators) key (← f.plain).withFields]
  | .accessor span decorators kind key f flags => do
    if !f.hasBody || flags.abstract then return []
    return [.accessor span (← Expr.listPlain decorators) kind (← key.plain) (← f.plain) flags]
  | .field span decorators key _ value flags => do
    if flags.ambient || flags.abstract then return []
    return [.field span (← Expr.listPlain decorators) (← key.plain) []
      (← Plain.inside (Expr.optionPlain value)) flags]
  | .autoAccessor span decorators key _ value flags => do
    if flags.ambient || flags.abstract then return []
    return [.autoAccessor span (← Expr.listPlain decorators) (← key.plain) []
      (← Plain.inside (Expr.optionPlain value)) flags]
  | .staticBlock span statements =>
    return [.staticBlock span
      (← Plain.insideScope (Stmt.bodyNames statements) (Stmt.listPlain [] statements))]
  | .indexSignature _ _ => return []

def Member.listPlain : List Member → Plain (List Member)
  | [] => return []
  | m :: ms => return (← m.plain) ++ (← Member.listPlain ms)

def Jsx.plain : Jsx → Plain Expr
  | .element span name _ attributes children => do
    let type ← Plain.elementType name
    let properties ← JsxAttribute.listPlain attributes
    Plain.elementCall span type (Plain.propsOf properties) (← JsxChild.listPlain children)
  | .fragment span children => do
    let type := Expr.named (← read).settings.pragmaFrag
    Plain.elementCall span type none (← JsxChild.listPlain children)

def JsxAttribute.listPlain : List JsxAttribute → Plain (List Property)
  | [] => return []
  | .mk span name value :: as => do
    let value ← JsxValue.optionPlain value
    return .keyed span (Plain.attributeKey name) value :: (← JsxAttribute.listPlain as)
  | .spread span arg :: as => do
    return .spread span (← arg.plain) :: (← JsxAttribute.listPlain as)

/-- The value of an attribute; one that is only named is true. -/
def JsxValue.optionPlain : Option JsxValue → Plain Expr
  | none => return .literal .none (.bool true)
  | some (.string span raw) => return .literal span (.string ⟨attributeText raw, false⟩)
  | some (.expr e) => e.plain
  | some (.empty _) => return .literal .none (.bool true)
  | some (.jsx _ element) => element.plain

def JsxChild.listPlain : List JsxChild → Plain (List Expr)
  | [] => return []
  | .text span raw :: cs => do
    let text := (markupText? raw).map fun t => Expr.literal span (.string ⟨t, false⟩)
    return text.toList ++ (← JsxChild.listPlain cs)
  | .expr _ e :: cs => return (← e.plain) :: (← JsxChild.listPlain cs)
  | .empty _ :: cs => JsxChild.listPlain cs
  | .spread span e :: cs => return .spread span (← e.plain) :: (← JsxChild.listPlain cs)
  | .element element :: cs => return (← element.plain) :: (← JsxChild.listPlain cs)

def Declarator.listPlain : List Declarator → Plain (List Declarator)
  | [] => return []
  | .mk span target _ value :: ds =>
    return .mk span (← target.plain) [] (← Expr.optionPlain value) :: (← Declarator.listPlain ds)

/-- Cases of a switch after those that declare `earlier`. -/
def SwitchCase.listPlain (earlier : List Declared) : List SwitchCase → Plain (List SwitchCase)
  | [] => return []
  | .mk span test body :: cs => do
    let test ← Expr.optionPlain test
    return .mk span test (← Stmt.listPlain earlier body)
      :: (← SwitchCase.listPlain (earlier ++ body.flatMap Stmt.declared) cs)

def CatchClause.optionPlain : Option CatchClause → Plain (Option CatchClause)
  | none => return none
  | some (.mk span param _ body) =>
    Plain.shadowing ((param.map Pattern.boundNames).getD []) do
      let param ← Pattern.optionPlain param
      return some (.mk span param [] (.single body.span (← body.plain [] .nothing)))

/-- The statements that add the members of an enum, of which `names` are all. -/
def EnumMember.listPlain (enum : String) (names : List String) (s : Plain.EnumState) :
    List EnumMember → Plain (List Stmt)
  | [] => do
    modify fun st => { st with enums := (enum, s.members) :: st.enums }
    return []
  | .mk span name value :: ms => do
    let enums := (← get).enums
    let initial := value.map fun e => e.constant? enums s.members
    let given ← Plain.insideEnum enum names (name.text :: s.members.map (·.1))
      (Expr.optionPlain value)
    let (last, value, members) :=
      match initial, given with
      | some (some constant), _ =>
        (some constant, Expr.ofConstant constant, (name.text, some constant) :: s.members)
      | _, some e => (none, e, (name.text, none) :: s.members)
      | _, none =>
        let (next, e) := Plain.nextValue enum s
        (next, e, if next.isSome then (name.text, next) :: s.members else s.members)
    let isText := match initial with
      | some (some (.string _)) => true
      | _ => false
    let rest ← EnumMember.listPlain enum names ⟨members, last, some name.text⟩ ms
    return Plain.memberStatement span enum name value isText :: rest

/-- The plain form of a statement after those that declare `earlier`. -/
def Stmt.plain (earlier : List Declared) (exported : ExportedFrom) : Stmt → Plain (List Stmt)
  | .expr span e => return [.expr span (← e.plain)]
  | .block span body =>
    return [.block span (← Plain.insideScope (Stmt.valueNames body) (Stmt.listPlain [] body))]
  | .empty span => return [.empty span]
  | .debugger span => return [.debugger span]
  | .ifElse span test yes no => do
    let test ← test.plain
    let yes ← Plain.branch yes (yes.plain [] .nothing)
    return [.ifElse span test yes (← Stmt.elsePlain no)]
  | .forLoop span init test update body =>
    Plain.shadowing ((init.map Stmt.headNames).getD []) do
      let init ← Stmt.optionPlain init
      let test ← Expr.optionPlain test
      let update ← Expr.optionPlain update
      return [.forLoop span init test update (← Plain.branch body (body.plain [] .nothing))]
  | .forIn span left right body =>
    Plain.shadowing left.headNames do
      let left := Stmt.single left.span (← left.plain [] .nothing)
      let right ← right.plain
      return [.forIn span left right (← Plain.branch body (body.plain [] .nothing))]
  | .forOf span await left right body =>
    Plain.shadowing left.headNames do
      let left := Stmt.single left.span (← left.plain [] .nothing)
      let right ← right.plain
      return [.forOf span await left right (← Plain.branch body (body.plain [] .nothing))]
  | .forTarget target => return [.forTarget (← target.plain)]
  | .whileLoop span test body => do
    let test ← test.plain
    return [.whileLoop span test (← Plain.branch body (body.plain [] .nothing))]
  | .doWhile span body test => do
    let body ← Plain.branch body (body.plain [] .nothing)
    return [.doWhile span body (← test.plain)]
  | .continue span label => return [.continue span label]
  | .break span label => return [.break span label]
  | .return span value => return [.return span (← Expr.optionPlain value)]
  | .throw span value => return [.throw span (← value.plain)]
  | .with span object body => do
    let object ← object.plain
    return [.with span object (← Plain.kept body (body.plain [] .nothing))]
  | .switch span subject cases => do
    let subject ← subject.plain
    let names := SwitchCase.declaredNames cases
    return [.switch span subject (← Plain.insideScope names (SwitchCase.listPlain [] cases))]
  | .labeled span label body =>
    return [.labeled span label (← Plain.kept body (body.plain [] .nothing))]
  | .tryCatch span block handler finalizer => do
    let block := Stmt.single block.span (← block.plain [] .nothing)
    let handler ← CatchClause.optionPlain handler
    return [.tryCatch span block handler (← Stmt.optionPlain finalizer)]
  | .declare span kind ds ambient => do
    if ambient then return []
    return [.declare span kind (← Declarator.listPlain ds) false]
  | .function f => do
    if Stmt.isErased (.function f) then return []
    return [.function (← f.plain)]
  | .class c => do
    if Stmt.isErased (.class c) then return []
    return [.class (← c.plain)]
  | .importDecl span phase typeOnly specifiers source attributes =>
    if typeOnly then return []
    else
      let kept := specifiers.map fun ss => ss.filter fun
        | .named _ _ _ typeOnly => !typeOnly
        | _ => true
      if kept == some [] && specifiers != some [] then return []
      else return [.importDecl span phase false kept source attributes]
  | .exportDecl span inner => do
    if inner.isErased then return []
    match (← read).object with
    | some object =>
      Plain.exportFromNamespace object inner (← inner.plain earlier (.object object))
    | none => return Plain.exportFirst span (← inner.plain earlier .source)
  | .exportNames span typeOnly specifiers source attributes => do
    let kept := specifiers.filter (!·.typeOnly)
    if typeOnly || (← read).object.isSome || (kept.isEmpty && !specifiers.isEmpty) then return []
    return [.exportNames span false kept source attributes]
  | .exportAll span typeOnly name source attributes =>
    return if typeOnly then [] else [.exportAll span false name source attributes]
  | .exportDefault span inner => do
    return (← inner.plain earlier .nothing).map (.exportDefault span)
  | .enum span name members ambient => do
    if ambient then return []
    let known := ((← get).enums.lookup name).getD []
    let fill ← Plain.inside (EnumMember.listPlain name (EnumMember.listNames members)
      ⟨known, some (.number (Double.ofNat 1).neg), none⟩ members)
    let isPure := !members.any Plain.hasEffect
    return [← Plain.enumStatement span name (Plain.enumCall span name fill · isPure)
      (earlier.any (·.name == name)) (exported == .source)]
  | .namespace span name body ambient => do
    let scope ← read
    if ambient || (scope.nested && scope.object.isNone) then return []
    match body with
    | none => return []
    | some (.mk bspan directives statements) =>
      if !(Body.mk bspan directives statements).isFilled then return []
      let object ← Plain.fresh name
      let statements ← withReader (fun c => { c with nested := true, object := some object })
        (Plain.shadowing (Stmt.bodyNames statements) (Stmt.listPlain [] statements))
      return Plain.namespaceStatements span name object directives statements
        (earlier.any fun d => d.name == name && d.value) exported
  | .ambientModule _ legal _ => do
    if !legal then Plain.report .nestedModule
    return []
  | .interface _ _ _ _ => return []
  | .typeAlias _ _ _ _ => return []
  | .importAlias span name typeOnly target isRequire => do
    if typeOnly then return []
    let target ← target.plain
    let (kind, value) : VarKind × Expr :=
      if isRequire then (.const, .call .none (.named "require") [] [target] false false)
      else (.var, target)
    return [.declare span kind [.mk .none (.name .none name) [] (some value)] false]
  | .exportAssign span value => do
    let target : Expr := .dot (.named "module") "exports"
    return [.expr span (.assigned target (← value.plain))]
  | .exportNamespace _ _ => return []

/-- The plain form of what stands behind `else`; a typed statement leaves nothing. -/
def Stmt.elsePlain : Option Stmt → Plain (Option Stmt)
  | none => return none
  | some s => do
    if s.isTyped then return none
    return some (.single s.span (← s.plain [] .nothing))

def Stmt.optionPlain : Option Stmt → Plain (Option Stmt)
  | none => return none
  | some s => return some (.single s.span (← s.plain [] .nothing))

/-- The plain forms of statements after those that declare `earlier`. -/
def Stmt.listPlain (earlier : List Declared) : List Stmt → Plain (List Stmt)
  | [] => return []
  | s :: ss => do
    let plain ← s.plain earlier .nothing
    let later := earlier ++ s.declared ++ s.hoisted.map ({ name := · })
    return plain ++ (← Stmt.listPlain later ss)

end

end LivePreview.Script
