import LivePreview.Script.Constant
import LivePreview.Script.Declared
import LivePreview.Script.Diagnostic
import LivePreview.Script.Pragma

/-!
# Making scripts plain: what is carried along

A plain script has no types, no enums or namespaces and no elements. This module holds what the
passage to one depends on and keeps, and builds the pieces of tree that it puts in.
-/

namespace LivePreview.Script

/-- Where the declaration at hand is exported from. -/
inductive ExportedFrom where
  | nothing
  | source
  /-- A namespace, by the name of its object. -/
  | object (name : String)
  deriving DecidableEq, Repr, Inhabited

/-- What surrounds the node at hand. -/
structure Plain.Scope where
  settings : JsxSettings
  /-- The names that are members of an enum around, each with the name of the enum. -/
  members : List (String × String)
  /-- The object of the namespace whose statements these are. -/
  object : Option String
  /-- Inside a function or block. -/
  nested : Bool

/-- A name with underscores in front and a number behind, where one is left out. -/
structure MadeName where
  stem : String
  underscores : Nat
  number : Nat
  deriving DecidableEq, Repr, Inhabited

namespace MadeName

def of (name : String) : MadeName :=
  let cs := name.toList
  let inner := (cs.dropWhile (· == '_')).reverse
  let digits := (inner.takeWhile Char.isDigit).reverse
  ⟨String.ofList (inner.dropWhile Char.isDigit).reverse, (cs.takeWhile (· == '_')).length,
    if digits.isEmpty then 1 else digits.foldl (fun n c => 10 * n + (c.toNat - '0'.toNat)) 0⟩

/-- A name of a source, if it looks like a made-up one. -/
def of? (name : String) : Option MadeName :=
  if name.toList.head? == some '_' then some (of name) else none

def text (n : MadeName) : String :=
  "".pushn '_' n.underscores ++ n.stem ++ (if n.number == 1 then "" else toString n.number)

/-- The later one of two names with the same stem. -/
def later (a b : MadeName) : MadeName :=
  if a.underscores < b.underscores || (a.underscores == b.underscores && a.number < b.number)
  then b else a

/-- The name made from `name` that comes behind those that are taken. -/
def next (taken : List MadeName) (name : String) : MadeName :=
  let stem := (of name).stem
  match taken.filter (·.stem == stem) with
  | [] => ⟨stem, 1, 1⟩
  | n :: ns =>
    let last := ns.foldl later n
    { last with number := last.number + 1 }

end MadeName

/-- What has been met so far. -/
structure Plain.State where
  enums : Constant.Enums
  /-- The made-up names so far, and the names of the source that look like one. -/
  taken : List MadeName
  /-- Faults, newest first. -/
  faults : List Diagnostic

/-- A step that makes a node plain. -/
abbrev Plain := ReaderT Plain.Scope (StateM Plain.State)

namespace Plain

def report (d : Diagnostic) : Plain Unit :=
  modify fun s => { s with faults := d :: s.faults }

def inside {α : Type} (x : Plain α) : Plain α :=
  withReader (fun c => { c with nested := true, object := none }) x

/-- In a scope that declares `names`. -/
def shadowing {α : Type} (names : List String) (x : Plain α) : Plain α :=
  withReader (fun c => { c with members := c.members.filter (!names.contains ·.1) }) x

/-- In a block or function that declares `names`. -/
def insideScope {α : Type} (names : List String) (x : Plain α) : Plain α :=
  inside (shadowing names x)

/-- In the enum `enum`, whose members are `names`; those that `written` holds are written as
members of it. -/
def insideEnum {α : Type} (enum : String) (names written : List String) (x : Plain α) : Plain α :=
  shadowing names
    (withReader (fun c => { c with members := written.map (·, enum) ++ c.members }) x)

/-- A name that nothing else has. -/
def fresh (name : String) : Plain String := do
  let made := MadeName.next (← get).taken name
  modify fun s => { s with taken := made :: s.taken }
  return made.text

end Plain

/-! ## Pieces of tree -/

namespace Expr

def named (x : String) : Expr := .name .none x

def text (s : String) : Expr := .literal .none (.string ⟨s, false⟩)

/-- The member of an object, by a dot. -/
def dot (object : Expr) (property : String) : Expr := .member .none object .none property false

def assigned (target value : Expr) : Expr := .assign .none none (.place target) value

/-- A number as a script writes it: signs and infinities are no literals. -/
def ofDouble (d : Double) : Expr :=
  let magnitude : Expr :=
    if d.isInfinite then named "Infinity"
    else if d.isNaN then named "NaN"
    else .literal .none (.number d.abs.bits)
  if d.isNegative && !d.isNaN then .unary .none .minus magnitude else magnitude

def ofConstant : Constant → Expr
  | .number d => ofDouble d
  | .string s => text s

/-- The expression is a function. -/
def isFunction : Expr → Bool
  | .function _ | .arrow _ _ _ _ _ _ => true
  | _ => false

/-- The expression without the parentheses around it. Those around a function stay, because they
tell a reader of the script that it is called at once. -/
def bare : Expr → Expr
  | .paren span inner => if inner.isFunction then .paren span inner else inner.bare
  | e => e

end Expr

namespace Stmt

/-- One statement in the place of several. -/
def single (span : Span) : List Stmt → Stmt
  | [] => .empty span
  | [s] => s
  | ss => .block span ss

/-- Nothing is left of the statement in a plain script. -/
def isErased : Stmt → Bool
  | .interface _ _ _ _ | .typeAlias _ _ _ _ | .exportNamespace _ _ => true
  | .ambientModule _ legal _ => legal
  | .declare _ _ _ ambient | .enum _ _ _ ambient => ambient
  | .function (.mk _ _ flags _ _ _ body) => flags.ambient || body.isNone
  | .class (.mk _ _ _ _ _ _ _ ambient) => ambient
  | .namespace _ _ none _ => true
  | .namespace _ _ (some body) ambient => ambient || !body.isFilled
  | .exportDecl _ inner | .exportDefault _ inner => inner.isErased
  | .importDecl _ _ typeOnly _ _ _ | .exportNames _ typeOnly _ _ _ | .exportAll _ typeOnly _ _ _
  | .importAlias _ _ typeOnly _ _ => typeOnly
  | _ => false

/-- The statement declares a type. -/
def isType : Stmt → Bool
  | .interface _ _ _ _ | .typeAlias _ _ _ _ => true
  | _ => false

/-- The statement is about types, or is written in a way that only scripts with types have. -/
def isTyped : Stmt → Bool
  | .enum _ _ _ _ | .namespace _ _ _ _ | .ambientModule _ _ _ | .importAlias _ _ _ _ _
  | .exportAssign _ _ => true
  | .exportDecl _ inner => inner.isTyped
  | s => s.isErased

/-- `object.name = name;` -/
def expose (object name : String) : Stmt :=
  .expr .none (.assigned (.dot (.named object) name) (.named name))

end Stmt

/-- The name of the field that a parameter declares. -/
def Param.fieldName? : Param → Option String
  | .mk _ _ (.name _ name) _ _ true => some name
  | .mk _ _ (.default _ (.name _ name) _) _ _ true => some name
  | _ => none

/-- A target made of an expression. -/
def Pattern.ofExpr (e : Expr) : Pattern :=
  match e.bare with
  | .name span x => .name span x
  | e => .place e

end LivePreview.Script
