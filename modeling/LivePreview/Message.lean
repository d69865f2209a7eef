import LivePreview.Json.Reader
import LivePreview.Sandbox

/-!
# Messages

What the host, the frame of a preview and its detached window say to each other. A message is a
table that names its kind; it may also be read from a list that begins with the kind.
-/

namespace LivePreview

inductive Message where
  /-- A window asks for the code to run. -/
  | requestCode
  /-- The host answers a window. -/
  | codeUpdate (js css : String) (scripts : List String)
  /-- A preview failed. The build that it came from may be named. -/
  | runtimeError (message stack : String) (build : Option String)
  /-- A preview was shown. -/
  | rendered
  deriving DecidableEq, Repr, Inhabited

namespace Message

open Json

/-- Kinds of messages. -/
inductive Kind where
  | requestCode
  | codeUpdate
  | runtimeError
  | rendered
  deriving DecidableEq, Repr, Inhabited

namespace Kind

def all : List Kind := [requestCode, codeUpdate, runtimeError, rendered]

def name : Kind → String
  | requestCode => "PREVIEW_REQUEST_CODE"
  | codeUpdate => "PREVIEW_CODE_UPDATE"
  | runtimeError => "PREVIEW_RUNTIME_ERROR"
  | rendered => "PREVIEW_RENDERED"

/-- Reads the name of a kind. -/
def read : Draft → Except Fault Kind
  | .scalar (.string s) stop =>
    match all.find? (·.name == s) with
    | some k => .ok k
    | none => .error ⟨.unknownVariant s (all.map name), stop⟩
  | d => .error (d.mismatch "variant identifier")

end Kind

/-- The name under which a table holds the kind. -/
def kindField : String := "type"

def toJson : Message → Json
  | requestCode => .table [(kindField, .string Kind.requestCode.name)]
  | codeUpdate js css scripts =>
    .table [(kindField, .string Kind.codeUpdate.name), ("js", .string js), ("css", .string css),
      ("scripts", .strings scripts)]
  | runtimeError message stack build =>
    .table ([(kindField, .string Kind.runtimeError.name), ("message", .string message),
      ("stack", .string stack)] ++ (build.map fun b => ("build", .string b)).toList)
  | rendered => .table [(kindField, .string Kind.rendered.name)]

/-- What a code update holds. -/
structure Code where
  js : String
  css : String
  scripts : List String

def codeShape : Shape Code where
  name := "struct variant PreviewMessage::CodeUpdate"
  fields :=
    [⟨"js", true, fun d c => do return { c with js := ← d.text }⟩,
     ⟨"css", true, fun d c => do return { c with css := ← d.text }⟩,
     ⟨"scripts", false, fun d c => do return { c with scripts := ← d.listOf Draft.text }⟩]
  start := ⟨"", "", []⟩

/-- What the report of a failure holds. -/
structure Failure where
  message : String
  stack : String
  build : Option String

def failureShape : Shape Failure where
  name := "struct variant PreviewMessage::RuntimeError"
  fields :=
    [⟨"message", true, fun d f => do return { f with message := ← d.text }⟩,
     ⟨"stack", false, fun d f => do return { f with stack := ← d.text }⟩,
     ⟨"build", false, fun d f => do return { f with build := ← d.option Draft.text }⟩]
  start := ⟨"", "", none⟩

/-- Complains about a list that holds anything. -/
def readNothing : Draft → Except Fault Unit
  | .list _ items _ =>
    if items.isEmpty then .ok () else .error ⟨.wrongLength items.length (Shape.elements 0), none⟩
  | _ => .ok ()

/-- A message of a known kind. -/
def readBody (d : Draft) : Kind → Except Fault Message
  | .requestCode => do
    readNothing d
    return requestCode
  | .codeUpdate => do
    let c ← codeShape.read d
    return codeUpdate c.js c.css c.scripts
  | .runtimeError => do
    let f ← failureShape.read d
    return runtimeError f.message f.stack f.build
  | .rendered => do
    readNothing d
    return rendered

/-- The kind among the members of a table, and the values of the other members. -/
def splitMembers (kind : Option Kind) (others : List (String × Json)) :
    List (Draft × Option Place × Draft) → Except Fault (Option Kind × List (String × Json))
  | [] => .ok (kind, others.reverse)
  | (k, behind, d) :: ds => do
    let name ← k.text
    if name = kindField then
      if kind.isSome then throw ⟨.twice name, behind⟩
      splitMembers (some (← Kind.read d)) others ds
    else splitMembers kind ((name, ← d.value (Draft.depthLimit - 1)) :: others) ds

/-- Reads a message. All of it is read before it is taken apart, so what is wrong with its parts has
no place. -/
def read : Draft → Except Fault Message
  | .table _ members e => do
    let (kind, others) ← splitMembers none [] members
    e.check Gap.inTable
    match kind with
    | none => throw ⟨.missing kindField, e.stop?⟩
    | some kind => readBody (.ofJson .part (.table others)) kind
  | .list _ [] e => do
    e.check Gap.inList
    throw ⟨.missing kindField, e.stop?⟩
  | .list _ ((_, d) :: ds) e => do
    let kind ← Kind.read d
    let others ← Draft.itemValues (Draft.depthLimit - 1) ds
    e.check Gap.inList
    readBody (.ofJson .part (.list others)) kind
  | d => .error (d.mismatch "internally tagged enum PreviewMessage")

def ofText (text : String) : Except Fault Message := decodeText read text

def ofJson (j : Json) : Except Fault Message := read j.toDraft

def render (m : Message) : String := m.toJson.render

/-- The answer to a window that asks for code. As long as there is none it is empty. -/
def ofPayload : Option Payload → Message
  | some p => codeUpdate p.runtimeScript p.stylesheet p.scriptUrls
  | none => codeUpdate "" "" []

end Message

end LivePreview
