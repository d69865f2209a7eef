import LivePreview.CompileError
import LivePreview.Globals
import LivePreview.Text.Quoted
import LivePreview.Text.Search
import LivePreview.Text.Splice
import LivePreview.Script.Kind
import LivePreview.Script.Letter
import LivePreview.Script.Names
import LivePreview.Script.Parser
import LivePreview.Module.Requires

/-!
# Lowering modules to a loader

A source that imports and exports becomes one that calls `require` and fills an `exports` object.
Only the declarations at the top of the source are edited; all other text stays as it is. The
entry of a preview has no exports: it declares the component to show.
-/

namespace LivePreview.Module

open Script Text

/-- How a file takes part in a preview. -/
inductive Role where
  /-- The file that is shown: its exports go, its declarations stay. -/
  | entry
  /-- A file that others require. -/
  | module
  deriving DecidableEq, Repr, Inhabited

/-- A lowered source. -/
structure Lowered where
  code : String
  /-- What the loader will be asked for; nothing that a preloaded global serves. -/
  imports : List String
  /-- The names exported, in the order in which they are assigned. -/
  namedExports : List String
  /-- The name of the declaration that is the default export. -/
  defaultExport : Option String
  deriving DecidableEq, Repr, Inhabited

/-! ## Pieces of code -/

def requireOf (specifier : String) : String := "require(" ++ quote specifier ++ ")"

/-- A name as the key of a pattern. -/
def keyOf (name : String) : String := if isIdentifierName name then name else quote name

/-- The member `name` of an object. -/
def memberOf (object name : String) : String :=
  if isIdentifierName name then object ++ "." ++ name
  else object ++ "[" ++ quote name ++ "]"

/-- An entry of a pattern that binds the export `imported` to `bound`. -/
def entryOf (imported bound : String) : String :=
  if imported == bound then bound else keyOf imported ++ ": " ++ bound

/-- A declaration that binds entries of `source`. -/
def destructure (entries : List String) (source : String) : String :=
  "var \x7b " ++ ", ".intercalate entries ++ " \x7d = " ++ source ++ ";"

def bindTo (name value : String) : String := "var " ++ name ++ " = " ++ value ++ ";"

/-! ## What is gathered -/

/-- What is gathered from the statements seen so far. -/
structure Lowering where
  edits : List Edit := []
  imports : List String := []
  /-- Exported names with the expressions that they stand for. -/
  exports : List (String × String) := []
  /-- Variables that hold modules exported as a whole. -/
  stars : List String := []
  defaultExport : Option String := none
  /-- How many modules are passed on. -/
  reexports : Nat := 0
  deriving DecidableEq, Repr, Inhabited

namespace Lowering

/-- Puts `text` in the place of a range. -/
def replace (l : Lowering) (start stop : Nat) (text : String) : Lowering :=
  { l with edits := l.edits ++ [⟨start, stop, text.toList⟩] }

def remove (l : Lowering) (span : Span) : Lowering := l.replace span.start span.stop ""

def insert (l : Lowering) (at' : Nat) (text : String) : Lowering := l.replace at' at' text

def request (l : Lowering) (specifier : String) : Lowering :=
  { l with imports := l.imports ++ [specifier] }

def expose (l : Lowering) (exported value : String) : Lowering :=
  { l with exports := l.exports ++ [(exported, value)] }

/-- Binds a passed-on module to a fresh variable in the place of `span`. -/
def passOn (l : Lowering) (span : Span) (specifier : String) : Lowering × String :=
  let name := "__reexport_" ++ toString (l.reexports + 1) ++ "__"
  let l := (l.request specifier).replace span.start span.stop (bindTo name (requireOf specifier))
  ({ l with reexports := l.reexports + 1 }, name)

end Lowering

/-! ## The names at the top of a source -/

/-- The values that a declaration binds. What is only declared, or only a type, binds none. -/
def declaredNames : Stmt → List String
  | .declare _ _ ds ambient => if ambient then [] else Declarator.listNames ds
  | .function (.mk _ name flags _ _ _ _) =>
    if flags.ambient then [] else (name.map (·.2)).toList
  | .class (.mk _ _ name _ _ _ _ ambient) => if ambient then [] else (name.map (·.2)).toList
  | .enum _ name _ ambient => if ambient then [] else [name]
  | _ => []

/-- The type that a declaration names. -/
def declaredType? : Stmt → Option String
  | .interface _ name _ _ | .typeAlias _ name _ _ => some name
  | _ => none

def specifierName : ImportSpecifier → String
  | .default _ name | .namespace _ name | .named _ _ name _ => name

/-- The names that a top-level statement binds; here what is only declared counts. -/
def topNames : Stmt → List String
  | .importDecl _ _ _ specifiers _ _ => (specifiers.getD []).map specifierName
  | .exportDecl _ inner => declaredNames inner
  | .exportDefault _ (.function f) => f.name?.toList
  | .exportDefault _ (.class c) => c.name?.toList
  | .declare _ _ ds _ => Declarator.listNames ds
  | .function f => f.name?.toList
  | .class c => c.name?.toList
  | .enum _ name _ _ => [name]
  | _ => []

/-- The type that a top-level statement names. -/
def topType? : Stmt → Option String
  | .exportDecl _ inner | .exportDefault _ inner => declaredType? inner
  | s => declaredType? s

/-- What the lowering of a statement depends on besides itself. -/
structure Surroundings where
  role : Role
  source : List Char
  /-- The source binds the component to show. -/
  declaresApp : Bool
  types : List String

def Surroundings.of (role : Role) (source : List Char) (statements : List Stmt) : Surroundings where
  role := role
  source := source
  declaresApp := (statements.flatMap topNames).contains "App"
  types := statements.filterMap topType?

/-! ## Imports -/

/-- What an import binds as default, as namespace and by name, types left out. -/
def defaultName? (specifiers : List ImportSpecifier) : Option String :=
  (specifiers.filterMap fun
    | .default _ name => some name
    | _ => none).getLast?

def namespaceName? (specifiers : List ImportSpecifier) : Option String :=
  (specifiers.filterMap fun
    | .namespace _ name => some name
    | _ => none).getLast?

/-- The named specifiers that stand for values: each exported name with the name it is bound to. -/
def valueNames (specifiers : List ImportSpecifier) : List (String × String) :=
  specifiers.filterMap fun
    | .named _ imported name typeOnly => if typeOnly then none else some (imported.text, name)
    | _ => none

/-- The lines that stand for an import which binds something. -/
def importLines (specifier : String) (specifiers : List ImportSpecifier) : List String :=
  let required := requireOf specifier
  let default := defaultName? specifiers
  let (holder, first) := match default, namespaceName? specifiers with
    | _, some ns => (some ns, [bindTo ns required])
    | some name, none =>
      let holder := "__mod_" ++ name ++ "__"
      (some holder, [bindTo holder required])
    | none, none => (none, [])
  let second := match default, holder with
    | some name, some m =>
      [bindTo name (m ++ " && " ++ m ++ ".__esModule ? " ++ m ++ ".default : " ++ m)]
    | _, _ => []
  let entries := (valueNames specifiers).map fun (imported, bound) => entryOf imported bound
  let third := if entries.isEmpty then [] else [destructure entries (holder.getD required)]
  first ++ second ++ third

/-- The lines that stand for an import from a preloaded global; what the preview binds anyway is
left out. -/
def builtinLines (global : String) (specifiers : List ImportSpecifier) : List String :=
  let whole := specifiers.filterMap fun
    | .default _ name | .namespace _ name =>
      if name == global then none else some (bindTo name global)
    | .named _ _ _ _ => none
  let entries := (valueNames specifiers).filterMap fun (imported, bound) =>
    if bound == global || (bound == imported && Globals.hooks.contains bound) then none
    else some (entryOf imported bound)
  whole ++ (if entries.isEmpty then [] else [destructure entries global])

def lowerImport (l : Lowering) (span : Span) (typeOnly : Bool)
    (specifiers : Option (List ImportSpecifier)) (specifier : String) : Lowering :=
  let put (lines : List String) (l : Lowering) : Lowering :=
    l.replace span.start span.stop ("\n".intercalate lines)
  if typeOnly then l.remove span else
  match Globals.builtin? specifier with
  | some global => put (builtinLines global (specifiers.getD [])) l
  | none =>
    if (specifiers.getD []).isEmpty then put [requireOf specifier ++ ";"] (l.request specifier) else
    let lines := importLines specifier (specifiers.getD [])
    if lines.isEmpty then l.remove span else put lines (l.request specifier)

/-! ## Exports -/

/-- The place behind the first `default` from `start` on, as text. -/
def defaultEnd? (source : List Char) (start : Nat) : Option Nat :=
  (indexOf? "default".toList (source.drop start)).map (start + · + "default".length)

/-- A default export of a function or class. -/
def lowerDefaultDeclaration (around : Surroundings) (l : Lowering) (span inner : Span)
    (name : Option String) : Lowering :=
  match around.role, name with
  | .module, some name =>
    { l.replace span.start inner.start "" with defaultExport := some name }
  | .module, none => (l.replace span.start inner.start "exports.default = ").insert span.stop ";"
  | .entry, some name =>
    let l := l.replace span.start inner.start ""
    if name != "App" && !around.declaresApp then
      l.insert span.stop ("\nvar App = " ++ name ++ ";")
    else l
  | .entry, none =>
    if around.declaresApp then l.remove span
    else (l.replace span.start inner.start "var App = ").insert span.stop ";"

def lowerDefault (around : Surroundings) (l : Lowering) (span : Span) (inner : Stmt) : Lowering :=
  match inner with
  | .function f => lowerDefaultDeclaration around l span f.span f.name?
  | .class c => lowerDefaultDeclaration around l span c.span c.name?
  | .interface s _ _ _ => l.replace span.start s.start ""
  | other =>
    let start := other.span.start
    let stop := match defaultEnd? around.source span.start with
      | some stop => if stop ≤ start then stop else start
      | none => start
    let text := match around.role with
      | .module => "exports.default ="
      | .entry => if around.declaresApp then "" else "var App ="
    l.replace span.start stop text

/-- A declaration that is only a type. -/
def isTypeOnly : Stmt → Bool
  | .interface _ _ _ _ | .typeAlias _ _ _ _ => true
  | .declare _ _ _ ambient => ambient
  | .function (.mk _ _ flags _ _ _ _) => flags.ambient
  | .class (.mk _ _ _ _ _ _ _ ambient) => ambient
  | .enum _ _ _ ambient => ambient
  | .namespace _ _ _ ambient => ambient
  | _ => false

def lowerExportDecl (around : Surroundings) (l : Lowering) (span : Span) (inner : Stmt) :
    Lowering :=
  let l := l.replace span.start inner.span.start ""
  if around.role == .module && !isTypeOnly inner then
    (declaredNames inner).foldl (fun l name => l.expose name name) l
  else l

/-- The specifiers of an export that stand for values. -/
def valueExports (specifiers : List ExportSpecifier) : List ExportSpecifier :=
  specifiers.filter (!·.typeOnly)

def lowerExportNames (around : Surroundings) (l : Lowering) (span : Span) (typeOnly : Bool)
    (specifiers : List ExportSpecifier) (source : Option StringValue) : Lowering :=
  if typeOnly then l.remove span else
  match around.role, source with
  | .entry, none => l.remove span
  | .entry, some source =>
    (l.request source.text).replace span.start span.stop (requireOf source.text ++ ";")
  | .module, none =>
    (valueExports specifiers).foldl (fun l s =>
      if around.types.contains s.source.text then l else l.expose s.exported.text s.source.text)
      (l.remove span)
  | .module, some source =>
    let (l, holder) := l.passOn span source.text
    (valueExports specifiers).foldl
      (fun l s => l.expose s.exported.text (memberOf holder s.source.text)) l

def lowerExportAll (around : Surroundings) (l : Lowering) (span : Span) (typeOnly : Bool)
    (name : Option ModuleName) (specifier : String) : Lowering :=
  if typeOnly then l.remove span else
  match around.role with
  | .entry => (l.request specifier).replace span.start span.stop (requireOf specifier ++ ";")
  | .module =>
    let (l, holder) := l.passOn span specifier
    match name with
    | some name => l.expose name.text holder
    | none => { l with stars := l.stars ++ [holder] }

/-! ## Whole sources -/

def lowerStatement (around : Surroundings) (l : Lowering) : Stmt → Lowering
  | .importDecl span _ typeOnly specifiers source _ =>
    lowerImport l span typeOnly specifiers source.text
  | .exportDefault span inner => lowerDefault around l span inner
  | .exportDecl span inner => lowerExportDecl around l span inner
  | .exportNames span typeOnly specifiers source _ =>
    lowerExportNames around l span typeOnly specifiers source
  | .exportAll span typeOnly name source _ => lowerExportAll around l span typeOnly name source.text
  | _ => l

/-- What all statements together amount to. -/
def gather (around : Surroundings) (statements : List Stmt) : Lowering :=
  statements.foldl (lowerStatement around) {}

/-- The assignments that follow the code of a module. -/
def epilogue (l : Lowering) : String :=
  let star (v : String) : String :=
    "\nObject.keys(" ++ v ++ ").forEach(function (k) \x7b if (k !== \"default\" && k !== "
      ++ "\"__esModule\") exports[k] = " ++ v ++ "[k]; \x7d);"
  String.join (l.stars.map star)
    ++ (match l.defaultExport with
      | some name => "\nexports.default = " ++ name ++ ";"
      | none => "")
    ++ "\nexports.__esModule = true;"
    ++ String.join (l.exports.map fun (exported, value) =>
      "\n" ++ memberOf "exports" exported ++ " = " ++ value ++ ";")
    ++ "\n"

/-- The specifiers to load: those of declarations, then those of calls that are not among them. -/
def allImports (declared called : List String) : List String :=
  called.foldl (fun xs s => if Globals.isBuiltin s || xs.contains s then xs else xs ++ [s]) declared

/-- Lowers the source of the file at `path`. -/
def lower (role : Role) (path source : String) : Except CompileError Lowered :=
  match parse (.ofPath path true) source with
  | .error faults => .error (.of path (faults.map Diagnostic.message))
  | .ok program =>
    let statements := program.body.statements
    let cs := source.toList
    let l := gather (.of role cs statements) statements
    let code := String.ofList (Edit.applyAll l.edits cs)
    .ok {
      code := if role == .module then code ++ epilogue l else code
      imports := allImports l.imports (requireCalls statements)
      namedExports := l.exports.map (·.1)
      defaultExport := l.defaultExport }

end LivePreview.Module
