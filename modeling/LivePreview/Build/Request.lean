import LivePreview.Project

/-!
# Build requests

Everything that a build reads. Requests are told apart by a digest of their parts.
-/

namespace LivePreview

/-- What is to be built. -/
structure Request where
  entrySource : String := ""
  stylesheet : Option String := none
  files : Project := .empty
  /-- The packages that are asked for. -/
  dependencies : List String := []
  deriving DecidableEq, Repr, Inhabited

namespace Request

open Json

/-- The bytes that requests are told apart by. A missing stylesheet differs from an empty one, and
the project comes in by its own digest. -/
def bytes (r : Request) : List UInt8 :=
  let sheet := match r.stylesheet with
    | some css => 1 :: Hash.utf8 css
    | none => [0]
  Hash.utf8 r.entrySource ++ 0 :: sheet ++ 0
    :: r.dependencies.flatMap (fun d => Hash.utf8 d ++ [0])
    ++ Hash.utf8 r.files.fingerprint

def fingerprint (r : Request) : String := Hash.sha256 r.bytes

def toJson (r : Request) : Json :=
  .table [("entrySource", .string r.entrySource), ("stylesheet", .ofOption .string r.stylesheet),
    ("files", r.files.toJson), ("dependencies", .strings r.dependencies)]

def shape : Shape Request where
  name := "struct BuildRequest"
  fields :=
    [⟨"entrySource", false, fun d r => do return { r with entrySource := ← d.text }⟩,
     ⟨"stylesheet", false, fun d r => do return { r with stylesheet := ← d.option Draft.text }⟩,
     ⟨"files", false, fun d r => do return { r with files := ← Project.read d }⟩,
     ⟨"dependencies", false, fun d r => do
        return { r with dependencies := ← d.listOf Draft.text }⟩]
  start := {}

end Request

end LivePreview
