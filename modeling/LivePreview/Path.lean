import LivePreview.Text.Split

/-!
# Paths

Paths of a project are written with forward slashes, relative to its root. What a file is follows
from the extension of its last segment.
-/

namespace LivePreview

/-- The extensions of scripts. -/
inductive ScriptExtension where
  | tsx | ts | jsx | js
  deriving DecidableEq, Repr, Inhabited

namespace ScriptExtension

def name : ScriptExtension → String
  | tsx => "tsx"
  | ts => "ts"
  | jsx => "jsx"
  | js => "js"

/-- All extensions, the strongest first: of two files that share a name without extension, the one
with the stronger extension is meant by it. -/
def all : List ScriptExtension := [tsx, ts, jsx, js]

/-- The place among all extensions; the lower, the stronger. -/
def rank : ScriptExtension → Nat
  | tsx => 0
  | ts => 1
  | jsx => 2
  | js => 3

def ofName? (s : String) : Option ScriptExtension := all.find? (·.name == s)

end ScriptExtension

/-- What a file is to a build. -/
inductive FileKind where
  | script (extension : ScriptExtension)
  | stylesheet
  | other
  deriving DecidableEq, Repr, Inhabited

namespace Path

/-- What follows the last dot of the last segment. A segment that only starts with a dot has no
extension. -/
def extension? (path : String) : Option String :=
  let segment := match Text.splitLast '/' path.toList with
    | some (_, last) => last
    | none => path.toList
  match Text.splitLast '.' segment with
  | some (stem, ext) => if stem.isEmpty then none else some (String.ofList ext)
  | none => none

/-- The extensions of stylesheets. -/
def stylesheetExtensions : List String := ["css"]

/-- What the file at `path` is. -/
def classify (path : String) : FileKind :=
  match extension? path with
  | none => .other
  | some ext =>
    match ScriptExtension.ofName? ext with
    | some e => .script e
    | none => if stylesheetExtensions.contains ext then .stylesheet else .other

def isScript (path : String) : Bool := classify path matches .script _

/-- The rank of the extension; what is no script ranks behind all scripts. -/
def extensionRank (path : String) : Nat :=
  match classify path with
  | .script e => e.rank
  | _ => ScriptExtension.all.length

/-- `cs` without the suffix `tail`, if it has it. -/
def dropSuffix? (tail cs : List Char) : Option (List Char) :=
  if tail.isSuffixOf cs then some (cs.take (cs.length - tail.length)) else none

/-- The path without its script extension. A path whose stem spans lines keeps it. -/
def stem (path : String) : String :=
  let stems := ScriptExtension.all.filterMap fun e =>
    dropSuffix? ('.' :: e.name.toList) path.toList
  match stems.head? with
  | some s => if s.contains '\n' then path else String.ofList s
  | none => path

/-- The path without a leading `./`. -/
def dropDotSlash (path : String) : String :=
  match path.toList with
  | '.' :: '/' :: rest => String.ofList rest
  | _ => path

/-- Adds a value at the end of a list that does not have it yet. -/
def pushUnique (xs : List String) (x : String) : List String :=
  if xs.contains x then xs else xs ++ [x]

/-- The values without repetitions, each at its first place. -/
def unique (xs : List String) : List String := xs.foldl pushUnique []

/-- Every spelling under which a file answers: as given, without `./`, without extension, and the
last two behind `./`. -/
def variants (path : String) : List String :=
  let bare := dropDotSlash path
  let stem := stem bare
  unique [path, bare, stem, "./" ++ bare, "./" ++ stem]

/-- The directory part; empty for a file at the root. -/
def dirname (path : String) : String :=
  match Text.splitLast '/' (dropDotSlash path).toList with
  | some (dir, _) => String.ofList dir
  | none => ""

end Path

end LivePreview
