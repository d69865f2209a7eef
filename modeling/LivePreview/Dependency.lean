import LivePreview.Json.Decode

/-!
# Dependencies

A package that is not part of a project: a script loads it, and once that has run a global of the
page holds it.
-/

namespace LivePreview

/-- A package with the script that loads it. -/
structure Dependency where
  name : String
  url : String
  /-- The global that holds it. A package that only decorates the page has none. -/
  global? : Option String := none
  deriving DecidableEq, Repr, Inhabited

namespace Dependency

open Json

def toJson (d : Dependency) : Json :=
  .table [("packageName", .string d.name), ("cdnUrl", .string d.url),
    ("globalName", .ofOption .string d.global?)]

def shape : Shape Dependency where
  name := "struct DependencyDescriptor"
  fields :=
    [⟨"packageName", true, fun d r => do return { r with name := ← d.text }⟩,
     ⟨"cdnUrl", true, fun d r => do return { r with url := ← d.text }⟩,
     ⟨"globalName", false, fun d r => do return { r with global? := ← d.option Draft.text }⟩]
  start := ⟨"", "", none⟩

end Dependency

end LivePreview
