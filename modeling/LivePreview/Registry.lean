import LivePreview.Module.Lowering
import LivePreview.Pattern
import LivePreview.Project
import LivePreview.Script.Transpile
import LivePreview.Specifier

/-!
# The registry of a project

Every script of a project but its entry becomes a module, and every stylesheet can be imported. A
file answers to all spellings of its path. Where two scripts share a spelling it belongs to the one
with the stronger extension, where two stylesheets do, to the one that comes first.
-/

namespace LivePreview

/-- A script that others can import. -/
structure RegisteredModule where
  path : String
  variants : List String
  /-- The body of the function that runs the module. -/
  code : String
  imports : List String
  namedExports : List String
  defaultExport : Option String
  deriving DecidableEq, Repr, Inhabited

/-- The function that runs the module. -/
def RegisteredModule.factory (m : RegisteredModule) : String :=
  "function (module, exports, require) \x7b\n" ++ m.code ++ "\n\x7d"

/-- A stylesheet that scripts can import. -/
structure RegisteredStylesheet where
  path : String
  variants : List String
  text : String
  deriving DecidableEq, Repr, Inhabited

/-- A script that could not be compiled. -/
structure SkippedModule where
  path : String
  error : CompileError
  deriving DecidableEq, Repr, Inhabited

/-- What an import names. -/
inductive Resolved where
  | module (m : RegisteredModule)
  | stylesheet (s : RegisteredStylesheet)
  deriving DecidableEq, Repr, Inhabited

/-- The modules and stylesheets of a project. -/
structure Registry where
  modules : Table RegisteredModule := .empty
  stylesheets : Table RegisteredStylesheet := .empty
  /-- The path of the module that a spelling belongs to. -/
  moduleAliases : Table String := .empty
  /-- The path of the stylesheet that a spelling belongs to. -/
  stylesheetAliases : Table String := .empty
  skipped : List SkippedModule := []
  deriving DecidableEq, Repr, Inhabited

namespace Registry

/-- The file is the entry, or a script of the same name beside it. -/
def isEntry (path entryPath : String) : Bool :=
  path == entryPath ||
    (Path.isScript path && Path.isScript entryPath && Path.stem path == Path.stem entryPath)

/-- Compiles a script to a module. -/
def compile (jsx : Script.JsxSettings) (path source : String) :
    Except CompileError RegisteredModule := do
  let l ← Module.lower .module path source
  let code ← Script.transpile jsx path l.code
  return {
    path := path
    variants := Path.variants path
    code := code
    imports := l.imports
    namedExports := l.namedExports
    defaultExport := l.defaultExport }

/-- Gives a spelling to a module, unless it belongs to one with an extension as strong. -/
def claim (path : String) (aliases : Table String) (variant : String) : Table String :=
  match aliases.get? variant with
  | some owner =>
    if Path.extensionRank path < Path.extensionRank owner then aliases.insert variant path
    else aliases
  | none => aliases.insert variant path

def addModule (r : Registry) (m : RegisteredModule) : Registry :=
  { r with
    modules := r.modules.insert m.path m
    moduleAliases := m.variants.foldl (claim m.path) r.moduleAliases }

def addStylesheet (r : Registry) (path text : String) : Registry :=
  let variants := Path.variants path
  { r with
    stylesheets := r.stylesheets.insert path ⟨path, variants, text⟩
    stylesheetAliases := variants.foldl (fun t v => t.insertNew v path) r.stylesheetAliases }

/-- Adds a file, unless the preview has no use for it. -/
def addFile (entryPath : String) (bootstrap : Pattern) (jsx : Script.JsxSettings) (r : Registry)
    (file : String × String) : Registry :=
  if isEntry file.1 entryPath || bootstrap.isMatch file.1 then r else
  match Path.classify file.1 with
  | .stylesheet => r.addStylesheet file.1 file.2
  | .script _ =>
    match compile jsx file.1 file.2 with
    | .ok m => r.addModule m
    | .error e => { r with skipped := r.skipped ++ [⟨file.1, e⟩] }
  | .other => r

/-- The registry of a project. -/
def ofProject (entryPath : String) (bootstrap : Pattern) (jsx : Script.JsxSettings) (p : Project) :
    Registry :=
  p.toList.foldl (addFile entryPath bootstrap jsx) {}

def module? (r : Registry) (path : String) : Option RegisteredModule := r.modules.get? path

/-- The stylesheet that a spelling belongs to. -/
def stylesheetOf? (r : Registry) (variant : String) : Option RegisteredStylesheet :=
  (r.stylesheetAliases.get? variant).bind r.stylesheets.get?

/-- The module that a spelling belongs to. -/
def moduleOf? (r : Registry) (variant : String) : Option RegisteredModule :=
  (r.moduleAliases.get? variant).bind r.modules.get?

/-- What an import names: the first of its spellings that belongs to a stylesheet, else the first
that belongs to a module. -/
def resolve (r : Registry) (specifier : String) (importer : Option String) : Option Resolved :=
  let candidates := Specifier.candidates specifier importer
  match candidates.findSome? r.stylesheetOf? with
  | some s => some (.stylesheet s)
  | none => (candidates.findSome? r.moduleOf?).map .module

/-- The functions that run modules, by every spelling. -/
def factories (r : Registry) : Table String :=
  r.moduleAliases.filterMap fun _ path => (r.modules.get? path).map (·.factory)

/-- The texts of stylesheets, by every spelling. -/
def stylesheetTexts (r : Registry) : Table String :=
  r.stylesheetAliases.filterMap fun _ path => (r.stylesheets.get? path).map (·.text)

end Registry

end LivePreview
