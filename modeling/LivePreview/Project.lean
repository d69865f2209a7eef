import LivePreview.Hash.Sha256
import LivePreview.Json.Decode
import LivePreview.Table

/-!
# Projects

The sources of a project at one moment: contents under paths. Paths have forward slashes and do not
begin with `/` or `./`, so that a file has one spelling.
-/

namespace LivePreview

/-- The files of a project, by path. -/
structure Project where
  files : Table String
  deriving DecidableEq, Repr, Inhabited

namespace Project

/-- Drops every `./` and `/` that a path begins with. -/
def dropRoot : List Char → List Char
  | '.' :: '/' :: cs => dropRoot cs
  | '/' :: cs => dropRoot cs
  | cs => cs

/-- The one spelling of a path. -/
def keyOf (path : String) : String :=
  String.ofList (dropRoot (path.toList.map fun c => if c = '\\' then '/' else c))

def empty : Project := ⟨.empty⟩

/-- Puts a file, in the place of one with the same path. -/
def insert (p : Project) (path content : String) : Project :=
  ⟨p.files.insert (keyOf path) content⟩

def ofList (files : List (String × String)) : Project :=
  files.foldl (fun p f => p.insert f.1 f.2) empty

def get? (p : Project) (path : String) : Option String := p.files.get? path

def size (p : Project) : Nat := p.files.size

def isEmpty (p : Project) : Bool := p.files.isEmpty

/-- The files in the order of their paths. -/
def toList (p : Project) : List (String × String) := p.files.entries

/-- The bytes that a project is told apart by: every path and every content, each followed by a
zero. -/
def bytes (p : Project) : List UInt8 :=
  p.toList.flatMap fun (path, content) => Hash.utf8 path ++ 0 :: Hash.utf8 content ++ [0]

def fingerprint (p : Project) : String := Hash.sha256 p.bytes

def toJson (p : Project) : Json :=
  .table (p.toList.map fun (path, content) => (path, .string content))

/-- A project as it is read: the names of the table are the paths. -/
def read (d : Json.Draft) : Except Json.Fault Project := do return ⟨← d.tableOf Json.Draft.text⟩

end Project

end LivePreview
