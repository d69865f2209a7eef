import LivePreview.Build.Report
import LivePreview.Build.Request
import LivePreview.Catalog
import LivePreview.Sandbox

/-!
# Building previews

A build starts from nothing but its request. Only a fault in the entry makes it fail; all else is
left out of the preview and told in the report.
-/

namespace LivePreview

/-- What a build gives. -/
structure Output where
  payload : Payload
  report : Report
  deriving DecidableEq, Repr, Inhabited

def Output.toJson (o : Output) : Json :=
  .table [("payload", o.payload.toJson), ("report", o.report.toJson)]

/-- A configuration made ready for building. -/
structure Builder where
  config : Config
  bootstrap : Pattern
  catalog : Catalog
  deriving DecidableEq, Repr, Inhabited

namespace Builder

def ofConfig (c : Config) : Except ConfigError Builder := do
  return ⟨c, ← c.bootstrap, Catalog.builtin.extend c.extraDependencies⟩

def entryPath (b : Builder) : String := b.config.entryPath

/-- The specifier names something that answers when it is loaded. A package answers only if it was
asked for. -/
def answers (b : Builder) (r : Registry) (request : Request) (importer specifier : String) : Bool :=
  Globals.isBuiltin specifier || (r.resolve specifier (some importer)).isSome ||
    (!Specifier.isRelative specifier && (b.catalog.global? specifier).isSome &&
      request.dependencies.any fun d => d == specifier || Specifier.basePackage specifier == d)

/-- The imports of a file that name nothing. -/
def unresolved (b : Builder) (r : Registry) (request : Request) (importer : String)
    (specifiers : List String) : List UnresolvedImport :=
  (specifiers.filter fun s => !b.answers r request importer s).map (⟨importer, ·⟩)

/-- The registry of the files of a request. -/
def registry (b : Builder) (request : Request) : Registry :=
  .ofProject b.entryPath b.bootstrap b.config.jsx request.files

/-- The report on a request whose entry imports `imports`. -/
def report (b : Builder) (r : Registry) (request : Request) (imports : List String) : Report where
  modules := r.modules.values.map (·.path)
  stylesheets := r.stylesheets.values.map (·.path)
  skipped := r.skipped.map fun s => (s.path, s.error.message)
  unresolved := b.unresolved r request b.entryPath imports
    ++ r.modules.values.flatMap fun m => b.unresolved r request m.path m.imports
  unknownDependencies := b.catalog.unknown request.dependencies

def build (b : Builder) (request : Request) : Except CompileError Output := do
  let entry ← Module.lower .entry b.entryPath request.entrySource
  let js ← Script.transpile b.config.jsx b.entryPath entry.code
  let r := b.registry request
  let urls := b.catalog.scriptUrls request.dependencies
  return {
    payload := (Sandbox.ofConfig b.config).build js request.stylesheet r urls b.catalog.globals
    report := b.report r request entry.imports }

end Builder

end LivePreview
