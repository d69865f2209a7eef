import LivePreview.Json

/-!
# Build reports

What a build came upon that did not keep it from succeeding.
-/

namespace LivePreview

/-- An import that names nothing. -/
structure UnresolvedImport where
  importer : String
  specifier : String
  deriving DecidableEq, Repr, Inhabited

/-- What a build found. -/
structure Report where
  /-- The paths of the modules. -/
  modules : List String
  stylesheets : List String
  /-- Scripts that could not be compiled, each with what is wrong with it. -/
  skipped : List (String × String)
  /-- What will be loaded as an empty object. -/
  unresolved : List UnresolvedImport
  unknownDependencies : List String
  deriving DecidableEq, Repr, Inhabited

def Report.toJson (r : Report) : Json :=
  .table [("modules", .strings r.modules), ("stylesheets", .strings r.stylesheets),
    ("skipped", .list (r.skipped.map fun (path, error) =>
      .table [("path", .string path), ("error", .string error)])),
    ("unresolved", .list (r.unresolved.map fun u =>
      .table [("importer", .string u.importer), ("specifier", .string u.specifier)])),
    ("unknownDependencies", .strings r.unknownDependencies)]

end LivePreview
