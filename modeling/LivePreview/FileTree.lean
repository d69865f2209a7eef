import LivePreview.Text.Split

/-!
# Trees of files

A directory with all that is below it. Links are taken for what they lead to: `Store` is a tree with
links, and `Store.expand` gives the tree that one sees who follows them.
-/

namespace LivePreview

/-- Ways in which the file system refuses. -/
inductive FileError where
  | notFound
  | notDirectory
  | isDirectory
  | tooManyLinks
  | badText
  deriving DecidableEq, Repr, Inhabited

def FileError.message : FileError → String
  | notFound => "No such file or directory (os error 2)"
  | notDirectory => "Not a directory (os error 20)"
  | isDirectory => "Is a directory (os error 21)"
  | tooManyLinks => "Too many levels of symbolic links (os error 40)"
  | badText => "stream did not contain valid UTF-8"

/-- Where a link leads that leads to no file or directory. -/
inductive LinkFault where
  | broken (error : FileError)
  /-- To a directory that it is in, given by the names that lead there. -/
  | loop (ancestor : List String)
  deriving DecidableEq, Repr, Inhabited

/-- A file or a directory. -/
inductive FileTree where
  | file (content : ByteArray)
  | directory (entries : List (String × FileTree))
  | nowhere (fault : LinkFault)
  deriving Inhabited

/-- A file or a directory with links in it. -/
inductive Store where
  | file (content : ByteArray)
  | link (target : String)
  | directory (entries : List (String × Store))
  deriving Inhabited

namespace Store

def empty : Store := directory []

/-- The names in a path. Dots and empty names stay: they ask for a directory. -/
def segments (path : String) : List String :=
  (Text.splitChars '/' path.toList).map String.ofList

/-- Puts `x` under the given names; directories on the way are created. -/
def put (x : Store) : List String → Store → Store
  | [], old =>
    match x, old with
    | directory [], directory _ => old
    | _, _ => x
  | name :: names, old =>
    let entries := match old with
      | directory entries => entries
      | _ => []
    if name = "" ∨ name = "." then put x names (directory entries) else
    let child := put x names ((entries.lookup name).getD empty)
    if (entries.lookup name).isSome then
      directory (entries.map fun e => if e.1 = name then (name, child) else e)
    else directory (entries ++ [(name, child)])

/-- What lies under the given names, links not followed. -/
def at? : Store → List String → Option Store
  | s, [] => some s
  | directory entries, name :: names => (entries.lookup name).bind (·.at? names)
  | _, _ :: _ => none

/-- How many links may be followed on the way to one file. -/
def linkLimit : Nat := 40

/-- Follows the names `path` from the directory that lies under `here`, deepest name first. The
answer is where that leads, by names and without links. -/
def resolve (root : Store) (links : Nat) (here : List String) (path : List String) :
    Except FileError (List String × Store) :=
  match root.at? here.reverse, path with
  | none, _ => .error .notFound
  | some s, [] => .ok (here, s)
  | some (directory entries), name :: rest =>
    if name = "" ∨ name = "." then resolve root links here rest
    else if name = ".." then
      match here with
      | [] => .error .notFound
      | _ :: up => resolve root links up rest
    else
      match entries.lookup name with
      | none => .error .notFound
      | some (link target) =>
        match links with
        | 0 => .error .tooManyLinks
        | links + 1 => resolve root links here (segments target ++ rest)
      | some _ => resolve root links (name :: here) rest
  | some _, _ :: _ => .error .notDirectory
termination_by (links, path.length)

/-- How many files, links and directories there are. -/
def count : Store → Nat
  | directory entries => countEntries entries + 1
  | _ => 1
where
  countEntries : List (String × Store) → Nat
    | [] => 0
    | (_, s) :: es => count s + countEntries es

/-- The tree under `here` for one who follows links and has come there by the names `shown`, deepest
first. `above` holds the directories on the way, each with the names that led there. The number of
steps bounds how deep the tree is. -/
def expand (root : Store) : Nat → List (List String × List String) → List String → List String →
    FileTree
  | 0, _, _, _ => .nowhere (.broken .tooManyLinks)
  | n + 1, above, here, shown =>
    match root.at? here.reverse with
    | some (file content) => .file content
    | some (directory entries) =>
      let above := (here, shown) :: above
      .directory (entries.map fun (name, s) =>
        let shown := name :: shown
        match s with
        | link _ =>
          match root.resolve linkLimit here [name] with
          | .error e => (name, .nowhere (.broken e))
          | .ok (there, directory _) =>
            match above.lookup there with
            | some ancestor => (name, .nowhere (.loop ancestor.reverse))
            | none => (name, expand root n above there shown)
          | .ok (there, _) => (name, expand root n above there shown)
        | _ => (name, expand root n above (name :: here) shown))
    | _ => .nowhere (.broken .notFound)

/-- The tree that a path leads to, if there is one. -/
def treeAt (root : Store) (path : String) : Except FileError FileTree := do
  let (there, _) ← root.resolve linkLimit [] (segments path)
  return root.expand ((root.count + 1) * (root.count + 1)) [] there []

/-- The text of the file that a path leads to. -/
def textAt (root : Store) (path : String) : Except FileError String := do
  match ← root.resolve linkLimit [] (segments path) with
  | (_, file content) =>
    match String.fromUTF8? content with
    | some text => return text
    | none => throw .badText
  | _ => throw .isDirectory

end Store

end LivePreview
