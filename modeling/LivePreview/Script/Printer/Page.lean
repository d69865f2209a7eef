import LivePreview.Number.DoubleText
import LivePreview.Text.Blank
import LivePreview.Script.Lexer
import LivePreview.Script.Markup
import LivePreview.Script.Names
import LivePreview.Script.Operator
import LivePreview.Script.StringText

/-!
# Pages

A page is what has been written of a script. It knows how deep its lines are indented, what was
written last, and which comments are still to be written: a comment comes out where the node that
it leads starts.
-/

namespace LivePreview.Script

/-- What was written last, as far as it matters to what comes next. -/
inductive LastWritten where
  | other
  /-- The digits of a number, which a dot would go on. -/
  | digits
  /-- A sign of the given operator. -/
  | sign (op : UnaryOp)
  deriving DecidableEq, Repr, Inhabited

/-- Where the next character stands. -/
structure PagePlace where
  /-- At the start of an expression statement. -/
  statement : Bool := false
  /-- At the start of an arrow function's expression. -/
  arrow : Bool := false
  /-- At the start of a default export. -/
  default : Bool := false
  deriving DecidableEq, Repr, Inhabited

structure Page where
  /-- What is written, last character first. -/
  written : List Char
  indent : Nat
  /-- The next indentation is a single space, for a body on the same line. -/
  spaceNext : Bool
  place : PagePlace
  last : LastWritten
  /-- Comments not yet written, in the order of the source. -/
  comments : List Comment

/-- An action that writes on a page. -/
abbrev Printer := StateM Page

namespace Printer

def chars (cs : List Char) : Printer Unit :=
  modify fun p =>
    if cs.isEmpty then p
    else { p with written := cs.reverseAux p.written, place := {}, last := .other }

def text (s : String) : Printer Unit := chars s.toList

def newline : Printer Unit := chars ['\n']

/-- The start of a line, or the space in its place. -/
def startLine : Printer Unit := do
  let p ← get
  if p.spaceNext then
    modify fun p => { p with spaceNext := false }
    chars [' ']
  else chars (List.replicate p.indent '\t')

def deeper : Printer Unit := modify fun p => { p with indent := p.indent + 1 }

def shallower : Printer Unit := modify fun p => { p with indent := p.indent - 1 }

def bodyFollows : Printer Unit := modify fun p => { p with spaceNext := true }

def setPlace (place : PagePlace) : Printer Unit := modify fun p => { p with place := place }

def place : Printer PagePlace := return (← get).place

/-- Writes `x` between parentheses if they are needed. -/
def wrap (needed : Bool) (x : Printer Unit) : Printer Unit := do
  if needed then chars ['(']
  x
  if needed then chars [')']

/-- Writes the items with commas between them. -/
def separated {α : Type} (write : α → Printer Unit) : List α → Printer Unit
  | [] => pure ()
  | [a] => write a
  | a :: as => do
    write a
    text ", "
    separated write as

/-- Writes lines between braces, or nothing between them. -/
def braces (empty : Bool) (x : Printer Unit) : Printer Unit := do
  chars ['{']
  if !empty then
    newline
    deeper
  x
  if !empty then
    shallower
    startLine
  chars ['}']

/-! ## Literals -/

def string (v : StringValue) : Printer Unit := chars v.literal

/-- A number; a dot must not follow its digits. -/
def number (d : Double) : Printer Unit := do
  if d.isInfinite then text "Infinity" else
  let cs := d.literalText
  chars cs
  if cs.all Char.isDigit then modify fun p => { p with last := .digits }

/-- A sign; a plus or a minus is kept apart from an equal one before it. -/
def sign (op : UnaryOp) (cs : List Char) : Printer Unit := do
  if (op == .plus || op == .minus) && (← get).last == .sign op then chars [' ']
  chars cs

def literal : Literal → Printer Unit
  | .null => text "null"
  | .bool value => text (if value then "true" else "false")
  | .number bits => number ⟨bits⟩
  | .bigint value => text (toString value ++ "n")
  | .string value => string value
  | .regex pattern flags => text ("/" ++ pattern ++ "/" ++ flags)

/-! ## Comments -/

/-- The lines of a comment. One without a plain newline is left on one line. -/
def commentLines (c : Comment) : List (List Char) :=
  let cs := normalizeNewlines c.text.toList
  if cs.contains '\n' then splitLines cs else [cs]

/-- A comment of several lines, each on a line of its own. -/
def commentLinesText : List (List Char) → Printer Unit
  | [] => pure ()
  | line :: lines => do
    if !"/*".toList.isPrefixOf line then startLine
    chars (guardScript (line.dropWhile Text.isWhite))
    if !"*/".toList.isSuffixOf line then newline
    commentLinesText lines

def commentText (c : Comment) : Printer Unit :=
  match commentLines c with
  | [line] => chars (guardScript line)
  | lines => commentLinesText lines

/-- Takes the comments that lead what starts at `start`. -/
def takeComments (start : Nat) : Printer (List Comment) := do
  let (here, others) := (← get).comments.partition (·.leads == some start)
  modify fun p => { p with comments := others }
  return here

def hasComments (start : Nat) : Printer Bool :=
  return (← get).comments.any (·.leads == some start)

/-- The line ends behind the comment. -/
def endsLine (c : Comment) : Bool := c.isLine || c.beforeNewline

/-- Comments after the given one, on its line unless that ends. -/
def laterComments (before : Comment) : List Comment → Printer Unit
  | [] => pure ()
  | c :: cs => do
    if endsLine before then
      newline
      startLine
    else chars [' ']
    commentText c
    laterComments c cs

/-- Comments that stand before a statement, a member or an end. -/
def writeComments : List Comment → Printer Unit
  | [] => pure ()
  | c :: cs => do
    if c.afterNewline then
      match (← get).written with
      | [] => pure ()
      | '\n' :: _ => startLine
      | '\t' :: _ => pure ()
      | _ =>
        newline
        startLine
    else startLine
    commentText c
    laterComments c cs
    if endsLine (cs.getLastD c) then newline else bodyFollows

def commentsAt (start : Nat) : Printer Unit := do writeComments (← takeComments start)

/-- The comments before an expression, on its line if they can be. -/
def commentsOf (start : Nat) : Printer Unit := do
  if ← hasComments start then
    commentsAt start
    startLine

/-- The comments before a name in a list, with a blank behind each. -/
def nameComments (start : Nat) : Printer Unit := do
  (← takeComments start).forM fun c => do
    if c.afterNewline then
      newline
      startLine
    commentText c
    if endsLine c then newline
    chars [' ']

/-- Comments inside an expression, each on a line of its own; tells whether there are any. -/
def innerComments (start : Nat) : Printer Bool := do
  let cs ← takeComments start
  cs.forM fun c => do
    newline
    startLine
    commentText c
  if !cs.isEmpty then newline
  return !cs.isEmpty

/-! ## Imports and exports -/

def moduleName : ModuleName → Printer Unit
  | .ident _ name => text name
  | .string _ value => string value

/-- A name and, where it differs, the one it gets. -/
def renamed (source target : ModuleName) : Printer Unit := do
  moduleName source
  if !source.same target then
    text " as "
    moduleName target

def attributes : Option (String × List (ModuleName × StringValue)) → Printer Unit
  | none => pure ()
  | some (word, entries) => do
    text (" " ++ word ++ " \x7b")
    if !entries.isEmpty then
      text " "
      separated (fun (key, value) => do moduleName key; text ": "; string value) entries
      text " "
    text "\x7d"

/-- The clause of an import declaration before its source. Names in braces are joined. -/
def importClause : (inBraces first : Bool) → List ImportSpecifier → Printer Unit
  | inBraces, _, [] => text (if inBraces then " \x7d from " else " from ")
  | inBraces, first, .default _ name :: rest => do
    text ((if inBraces then " \x7d" else "") ++ (if first then " " else ", ") ++ name)
    importClause false false rest
  | inBraces, first, .namespace _ name :: rest => do
    text ((if inBraces then " \x7d" else "") ++ (if first then " * as " else ", * as ") ++ name)
    importClause false false rest
  | inBraces, first, .named span imported name _ :: rest => do
    text (if inBraces then ", " else if first then " \x7b " else ", \x7b ")
    renamed imported (.ident span name)
    importClause true false rest

/-- An import declaration. The source of one with empty braces is written as it reads. -/
def importDecl (phase : ImportPhase) (specifiers : Option (List ImportSpecifier))
    (source : StringValue) (with' : Option (String × List (ModuleName × StringValue))) :
    Printer Unit := do
  text "import"
  match phase with
  | .evaluation => pure ()
  | .source => text " source"
  | .defer => text " defer"
  match specifiers with
  | none =>
    text " "
    string source
  | some [] => text (" \x7b\x7d from \"" ++ source.text ++ "\"")
  | some specifiers =>
    importClause false true specifiers
    string source
  attributes with'
  text ";\n"

/-- A name that an export lists, with the comments before it. -/
def exportedName (s : ExportSpecifier) : Printer Unit := do
  nameComments s.span.start
  moduleName s.source
  if !s.source.same s.exported then
    text " as "
    nameComments s.exported.span.start
    moduleName s.exported

/-- An export of names; attributes of its source are left out. -/
def exportNames (specifiers : List ExportSpecifier) (source : Option StringValue) :
    Printer Unit := do
  text "export \x7b"
  if !specifiers.isEmpty then
    text " "
    separated exportedName specifiers
    text " "
  text "\x7d"
  match source with
  | some source =>
    text " from "
    string source
  | none => pure ()
  text ";\n"

def exportAll (name : Option ModuleName) (source : StringValue)
    (with' : Option (String × List (ModuleName × StringValue))) : Printer Unit := do
  text "export *"
  match name with
  | some name =>
    text " as "
    moduleName name
  | none => pure ()
  text " from "
  string source
  attributes with'
  text ";\n"

end Printer

end LivePreview.Script
