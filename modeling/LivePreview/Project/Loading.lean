import LivePreview.FileTree
import LivePreview.Path
import LivePreview.Project

/-!
# Loading projects

A project can be loaded from a directory: every script and every stylesheet in it counts, save those
below directories that hold installed packages or are hidden.
-/

namespace LivePreview

/-- Why a directory cannot be loaded. -/
inductive ProjectError where
  | rootNotFound (path : String)
  | unreachable (path : String) (error : FileError)
  | loop (path ancestor : String)
  | unreadable (error : FileError)
  deriving DecidableEq, Repr, Inhabited

def ProjectError.message : ProjectError → String
  | rootNotFound path => "Project root not found: " ++ path
  | unreachable path error =>
    "Failed to walk project: IO error for operation on " ++ path ++ ": " ++ error.message
  | loop path ancestor =>
    "Failed to walk project: File system loop found: " ++ path ++ " points to an ancestor "
      ++ ancestor
  | unreadable error => "IO error: " ++ error.message

namespace Project

/-- Directories with this name are passed by, wherever they are below the root. -/
def isIgnored (name : String) : Bool := name == "node_modules" || name.toList.head? == some '.'

/-- A path with one more name. -/
def childPath (path name : String) : String :=
  if path.toList.getLast? == some '/' then path ++ name else path ++ "/" ++ name

/-- The path that leads from the root to what lies under some names. -/
def keyOfNames (names : List String) : String := "/".intercalate names

mutual

/-- Adds what lies under `names`, deepest first, to a project. -/
def addTree (root : String) (p : Project) (names : List String) :
    FileTree → Except ProjectError Project
  | .file content =>
    let key := keyOfNames names.reverse
    if Path.classify key = .other then .ok p else
    match String.fromUTF8? content with
    | some text => .ok (p.insert key text)
    | none => .error (.unreadable .badText)
  | .directory entries =>
    match names with
    | name :: _ => if isIgnored name then .ok p else addEntries root p names entries
    | [] => addEntries root p names entries
  | .nowhere (.broken e) => .error (.unreachable (names.reverse.foldl childPath root) e)
  | .nowhere (.loop ancestor) =>
    .error (.loop (names.reverse.foldl childPath root) (ancestor.foldl childPath root))

def addEntries (root : String) (p : Project) (names : List String) :
    List (String × FileTree) → Except ProjectError Project
  | [] => .ok p
  | (name, t) :: es => do addEntries root (← addTree root p (name :: names) t) names es

end

/-- The sources in a directory; `root` is how its path is shown. -/
def ofTree (root : String) (t : FileTree) : Except ProjectError Project :=
  match t with
  | .directory entries => addEntries root .empty [] entries
  | _ => .error (.rootNotFound root)

/-- Loads the directory that `path` leads to; `root` is how its path is shown. -/
def load (s : Store) (path root : String) : Except ProjectError Project :=
  match s.treeAt path with
  | .ok t => ofTree root t
  | .error _ => .error (.rootNotFound root)

end Project

end LivePreview
