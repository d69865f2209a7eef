import LivePreview.Path

/-!
# Specifiers

What an import names: a file, relative to the importer or to the root, or a package. A specifier
stands for a list of candidate paths, tried in order.
-/

namespace LivePreview.Specifier

/-- The specifier names a file from where the importer is. -/
def isRelative (specifier : String) : Bool :=
  "./".toList.isPrefixOf specifier.toList || "../".toList.isPrefixOf specifier.toList

/-- One segment taken from a directory, given as the stack of its segments, deepest first. -/
def enter (stack : List (List Char)) (segment : List Char) : Option (List (List Char)) :=
  if segment = [] ∨ segment = ['.'] then some stack
  else if segment = ['.', '.'] then
    match stack with
    | [] => none
    | _ :: rest => some rest
  else some (segment :: stack)

/-- The segments entered one after the other, as long as none leaves the root. -/
def enterAll (stack : List (List Char)) (segments : List (List Char)) :
    Option (List (List Char)) :=
  segments.foldlM enter stack

/-- The path that a relative specifier names from a directory; none when it leaves the root. -/
def join? (dir specifier : String) : Option String :=
  let start := ((Text.splitChars '/' dir.toList).filter (!·.isEmpty)).reverse
  (enterAll start (Text.splitChars '/' specifier.toList)).map fun stack =>
    String.ofList (Text.joinChars ['/'] stack.reverse)

/-- What may be left out at the end of a specifier, in the order in which it is tried. -/
def suffixes : List String :=
  ["", ".jsx", ".js", ".tsx", ".ts", "/index.jsx", "/index.js", "/index.tsx", "/index.ts"]

/-- The suffixes that are tried once more behind `./`. -/
def prefixedSuffixes : List String := ["", ".jsx", ".js", ".tsx", ".ts"]

/-- The spellings that a specifier may stand for, perhaps with repetitions. -/
def spellings (specifier : String) : List String :=
  let bare := Path.dropDotSlash specifier
  specifier :: suffixes.map (bare ++ ·) ++ prefixedSuffixes.map ("./" ++ bare ++ ·)

/-- The specifier as seen from the root, where it is relative to a directory below the root. -/
def fromImporter? (specifier : String) (importer : Option String) : Option String :=
  match importer with
  | none => none
  | some importer =>
    let dir := Path.dirname importer
    if isRelative specifier && dir != "" then join? dir specifier else none

/-- The paths that `specifier` may stand for, in order: first from the importer's directory, then
from the root. -/
def candidates (specifier : String) (importer : Option String) : List String :=
  let near := match fromImporter? specifier importer with
    | some joined => spellings joined
    | none => []
  Path.unique (near ++ spellings specifier)

/-- The package that a bare specifier belongs to: its first segment, or its first two when the first
is a scope. -/
def basePackage (specifier : String) : String :=
  match Text.splitChars '/' specifier.toList with
  | ('@' :: scope) :: name :: _ => String.ofList ('@' :: scope ++ '/' :: name)
  | first :: _ => String.ofList first
  | [] => specifier

end LivePreview.Specifier
