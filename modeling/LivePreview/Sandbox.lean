import LivePreview.Config
import LivePreview.Sandbox.Harness
import LivePreview.Sandbox.Loader
import LivePreview.Text.Escape

/-!
# The document of a preview

A preview is shown by a document of its own. React and the packages that were asked for are loaded
by address; the stylesheet, the modules and the entry stand in it.
-/

namespace LivePreview

/-- What the host needs to show a build. -/
structure Payload where
  /-- The whole document. -/
  html : String
  /-- The script in it that runs the preview. -/
  runtimeScript : String
  stylesheet : String
  /-- The scripts of the packages that were asked for. -/
  scriptUrls : List String
  /-- What builds are told apart by; every message of the script names it. -/
  fingerprint : String
  deriving DecidableEq, Repr, Inhabited

namespace Payload

open Json

def toJson (p : Payload) : Json :=
  .table [("html", .string p.html), ("runtimeScript", .string p.runtimeScript),
    ("stylesheet", .string p.stylesheet), ("scriptUrls", .strings p.scriptUrls),
    ("fingerprint", .string p.fingerprint)]

def shape : Shape Payload where
  name := "struct BuildPayload"
  fields :=
    [⟨"html", true, fun d p => do return { p with html := ← d.text }⟩,
     ⟨"runtimeScript", true, fun d p => do return { p with runtimeScript := ← d.text }⟩,
     ⟨"stylesheet", true, fun d p => do return { p with stylesheet := ← d.text }⟩,
     ⟨"scriptUrls", true, fun d p => do return { p with scriptUrls := ← d.listOf Draft.text }⟩,
     ⟨"fingerprint", true, fun d p => do return { p with fingerprint := ← d.text }⟩]
  start := ⟨"", "", "", [], ""⟩

end Payload

/-- What all documents of a preview share. -/
structure Sandbox where
  reactUrl : String
  reactDomUrl : String
  entryPath : String
  deriving DecidableEq, Repr, Inhabited

namespace Sandbox

def ofConfig (c : Config) : Sandbox := ⟨c.reactUrl, c.reactDomUrl, c.entryPath⟩

/-- The style of an empty page. -/
def baseStyle : String :=
  "\n".intercalate [
    "      * \x7b margin: 0; padding: 0; box-sizing: border-box; \x7d",
    "      body \x7b",
    "        font-family: -apple-system, BlinkMacSystemFont, 'Segoe UI', Roboto,"
      ++ " 'Helvetica Neue', sans-serif;",
    "        -webkit-font-smoothing: antialiased;",
    "        padding: 20px;",
    "        color: #1a1a1f;",
    "        background: #f5f5f7;",
    "      \x7d",
    "      #root \x7b width: 100%; \x7d"]

def environmentMissing : String := "Failed to load React. Check connection."

def appMissing : String := "No App component found."

/-- The calls that make the modules known to the loader. -/
def definitions (r : Registry) : String :=
  "\n".intercalate (r.modules.values.map fun m =>
    "  __loader__.define(" ++ Text.quote m.path ++ ", " ++ m.factory ++ ");")

/-- The names that are bound to exports of React. -/
def hookBindings : String :=
  "\n".intercalate (Globals.hooks.map fun h => "  var " ++ h ++ " = React." ++ h ++ ";")

/-- What a document is made of: addresses, code and tables. -/
structure Parts where
  entryJs : String
  stylesheet : String
  tables : String
  definitions : String
  scriptUrls : List String
  deriving DecidableEq, Repr, Inhabited

/-- The bytes that builds are told apart by: every part, followed by a zero. -/
def bytes (s : Sandbox) (p : Parts) : List UInt8 :=
  ([s.reactUrl, s.reactDomUrl, s.entryPath, p.entryJs, p.stylesheet, p.tables, p.definitions]
    ++ p.scriptUrls).flatMap fun part => Hash.utf8 part ++ [0]

def fingerprint (s : Sandbox) (p : Parts) : String := Hash.sha256 (s.bytes p)

/-- The script that runs a preview, before it is put into an element. -/
def plainScript (s : Sandbox) (p : Parts) (fingerprint : String) : String :=
  "\n".intercalate [
    "(function () \x7b",
    "  var __build__ = " ++ Text.quote fingerprint ++ ";",
    "",
    harness,
    "",
    "  if (typeof React === 'undefined' || typeof ReactDOM === 'undefined') \x7b",
    "    __container__().innerHTML =",
    "      '<div style=\"color:red;padding:20px;\">' + " ++ Text.quote environmentMissing
      ++ " + '</div>';",
    "    return;",
    "  \x7d",
    "",
    loader,
    "",
    "  var __loader__ = createLoader(" ++ p.tables ++ ");",
    "  var require = function (id) \x7b return __loader__.load(id, " ++ Text.quote s.entryPath
      ++ "); \x7d;",
    "",
    hookBindings,
    "",
    "  try \x7b",
    p.definitions,
    "",
    "    \x7b",
    p.entryJs,
    "",
    "      if (typeof App !== 'undefined') \x7b",
    "        __mount__(App);",
    "      \x7d else \x7b",
    "        __container__().innerHTML =",
    "          '<div style=\"color:#666;padding:20px;text-align:center;\">' + "
      ++ Text.quote appMissing ++ " + '</div>';",
    "      \x7d",
    "    \x7d",
    "    __report__('PREVIEW_RENDERED', \x7b\x7d);",
    "  \x7d catch (err) \x7b",
    "    __showError__(err);",
    "  \x7d",
    "\x7d)();",
    ""]

/-- The script that runs a preview. -/
def runtimeScript (s : Sandbox) (p : Parts) (fingerprint : String) : String :=
  Text.escapeScript (s.plainScript p fingerprint)

/-- The element that loads a package. -/
def dependencyTag (url : String) : String :=
  "    <script src=\"" ++ Text.escapeAttribute url ++ "\"></script>"

/-- The document around a script. -/
def document (s : Sandbox) (stylesheet : String) (scriptUrls : List String)
    (runtimeScript : String) : String :=
  "\n".intercalate [
    "<!DOCTYPE html>",
    "<html>",
    "  <head>",
    "    <meta charset=\"UTF-8\">",
    "    <meta name=\"viewport\" content=\"width=device-width, initial-scale=1.0\">",
    "    <style>",
    baseStyle,
    "/* project stylesheet */",
    Text.escapeStyle stylesheet,
    "    </style>",
    "  </head>",
    "  <body>",
    "    <div id=\"root\"></div>",
    "    <script crossorigin src=\"" ++ Text.escapeAttribute s.reactUrl ++ "\"></script>",
    "    <script crossorigin src=\"" ++ Text.escapeAttribute s.reactDomUrl ++ "\"></script>",
    "\n".intercalate (scriptUrls.map dependencyTag),
    "    <script>",
    runtimeScript,
    "    </script>",
    "  </body>",
    "</html>",
    ""]

/-- The payload of compiled code. -/
def build (s : Sandbox) (entryJs : String) (stylesheet : Option String) (r : Registry)
    (scriptUrls : List String) (globals : Table String) : Payload :=
  let parts : Parts := {
    entryJs := entryJs
    stylesheet := stylesheet.getD ""
    tables := (LoaderTables.ofRegistry r globals).toJson.render
    definitions := definitions r
    scriptUrls := scriptUrls }
  let fingerprint := s.fingerprint parts
  let script := s.runtimeScript parts fingerprint
  { html := s.document parts.stylesheet scriptUrls script
    runtimeScript := script
    stylesheet := parts.stylesheet
    scriptUrls := scriptUrls
    fingerprint := fingerprint }

end Sandbox

end LivePreview
