import LivePreview.Dependency
import LivePreview.Json.Reader
import LivePreview.Pattern.Reader
import LivePreview.Pattern.Size
import LivePreview.Script.Pragma

/-!
# Configuration

Every setting has a default, so an empty table is a configuration.
-/

namespace LivePreview

namespace Script.JsxSettings

open Json

def toJson (s : JsxSettings) : Json :=
  .table [("pragma", .string s.pragma), ("pragmaFrag", .string s.pragmaFrag)]

def shape : Shape JsxSettings where
  name := "struct JsxConfig"
  fields :=
    [⟨"pragma", false, fun d s => do return { s with pragma := ← d.text }⟩,
     ⟨"pragmaFrag", false, fun d s => do return { s with pragmaFrag := ← d.text }⟩]
  start := {}

end Script.JsxSettings

/-- The settings of a preview. -/
structure Config where
  /-- How long the input has to be quiet before a build starts, in milliseconds. -/
  debounceMs : UInt64 := 150
  /-- How often a detached window asks for code, in milliseconds. -/
  pollIntervalMs : UInt64 := 300
  /-- The path of the file that is mounted. -/
  entryPath : String := "App.jsx"
  /-- Files with a matching path start an application of their own, and are no modules. -/
  bootstrapPattern : String := "^index\\.(jsx?|tsx?)$"
  reactUrl : String := "https://unpkg.com/react@18/umd/react.development.js"
  reactDomUrl : String := "https://unpkg.com/react-dom@18/umd/react-dom.development.js"
  jsx : Script.JsxSettings := {}
  extraDependencies : List Dependency := []
  deriving DecidableEq, Repr, Inhabited

/-- What can be wrong with a configuration. -/
inductive ConfigError where
  | unreadable (path cause : String)
  | malformed (fault : Json.Fault)
  | badPattern (pattern : String) (fault : Pattern.Fault)
  | hugePattern (pattern : String)
  deriving DecidableEq, Repr, Inhabited

def ConfigError.message : ConfigError → String
  | unreadable path cause => "Failed to read config " ++ path ++ ": " ++ cause
  | malformed fault => "Invalid config: " ++ fault.message
  | badPattern pattern fault =>
    "Invalid bootstrap pattern '" ++ pattern ++ "': " ++ fault.message pattern
  | hugePattern pattern => "Invalid bootstrap pattern '" ++ pattern
    ++ "': Compiled regex exceeds size limit of 10485760 bytes."

namespace Config

open Json

def toJson (c : Config) : Json :=
  .table [("debounceMs", .integer c.debounceMs.toNat),
    ("pollIntervalMs", .integer c.pollIntervalMs.toNat),
    ("entryPath", .string c.entryPath), ("bootstrapPattern", .string c.bootstrapPattern),
    ("reactUrl", .string c.reactUrl), ("reactDomUrl", .string c.reactDomUrl),
    ("jsx", c.jsx.toJson), ("extraDependencies", .list (c.extraDependencies.map (·.toJson)))]

def shape : Shape Config where
  name := "struct EngineConfig"
  fields :=
    [⟨"debounceMs", false, fun d c => do return { c with debounceMs := ← d.word }⟩,
     ⟨"pollIntervalMs", false, fun d c => do return { c with pollIntervalMs := ← d.word }⟩,
     ⟨"entryPath", false, fun d c => do return { c with entryPath := ← d.text }⟩,
     ⟨"bootstrapPattern", false, fun d c => do return { c with bootstrapPattern := ← d.text }⟩,
     ⟨"reactUrl", false, fun d c => do return { c with reactUrl := ← d.text }⟩,
     ⟨"reactDomUrl", false, fun d c => do return { c with reactDomUrl := ← d.text }⟩,
     ⟨"jsx", false, fun d c => do return { c with jsx := ← Script.JsxSettings.shape.read d }⟩,
     ⟨"extraDependencies", false, fun d c => do
        return { c with extraDependencies := ← d.listOf Dependency.shape.read }⟩]
  start := {}

/-- The pattern of files that start an application of their own. -/
def bootstrap (c : Config) : Except ConfigError Pattern := do
  let p ← (Pattern.read c.bootstrapPattern).mapError (.badPattern c.bootstrapPattern)
  if p.isHuge then throw (.hugePattern c.bootstrapPattern)
  return p

/-- Reads a configuration from a value. -/
def ofJson (j : Json) : Except ConfigError Config :=
  (shape.read j.toDraft).mapError .malformed

/-- Reads a configuration from a text, the pattern included. -/
def ofText (text : String) : Except ConfigError Config := do
  let c ← (decodeText shape.read text).mapError .malformed
  discard c.bootstrap
  return c

end Config

end LivePreview
