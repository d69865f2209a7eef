import LivePreview.Build
import LivePreview.Text.Blank

/-!
# The engine of an edit session

The engine keeps a preview up to date while its input changes. A change starts a wait; when the
input has been quiet for long enough the last request is built, and the surface is asked to show
what came of it. `Engine.handle` is what a command does, `Engine.tick` what the passing of time
does.

A failure that a preview reports counts only as long as that preview is the one shown.
-/

namespace LivePreview

/-- What the engine is at. -/
inductive Phase where
  | idle
  | building
  | ready
  | failed
  deriving DecidableEq, Repr, Inhabited

def Phase.name : Phase → String
  | idle => "Idle"
  | building => "Building"
  | ready => "Ready"
  | failed => "Error"

/-- What the engine tells about itself. -/
structure Status where
  phase : Phase := .idle
  /-- A build is scheduled or under way. -/
  isLoading : Bool := false
  error : Option String := none
  /-- How many builds have been started. -/
  buildId : Nat := 0
  deriving DecidableEq, Repr, Inhabited

def Status.toJson (s : Status) : Json :=
  .table [("phase", .string s.phase.name), ("isLoading", .bool s.isLoading),
    ("error", .ofOption .string s.error), ("buildId", .integer s.buildId)]

/-- What a surface does with a payload. -/
inductive Verdict where
  | accepts
  | rejects (reason : String)
  /-- It breaks down, and the engine with it. -/
  | panics
  deriving DecidableEq, Repr, Inhabited

/-- What shows payloads. -/
abbrev Surface := Payload → Verdict

/-- The message shown when a surface rejects a payload. -/
def rejection (reason : String) : String := "Execution Error: " ++ reason

/-- What the engine is told. -/
inductive Command where
  | update (request : Request)
  /-- A preview failed; the build that it came from may be named. -/
  | runtimeError (message stack : String) (build : Option String)
  deriving DecidableEq, Repr, Inhabited

/-- A request that waits to be built. -/
structure Pending where
  request : Request
  /-- When it is built, unless something happens before. -/
  deadline : Nat
  deriving DecidableEq, Repr, Inhabited

/-- A payload that was accepted, with the status at that moment. -/
structure Load where
  payload : Payload
  during : Status
  deriving DecidableEq, Repr, Inhabited

/-- The engine. -/
structure Engine where
  status : Status := {}
  /-- How often the status was written. -/
  writes : Nat := 0
  pending : Option Pending := none
  /-- The fingerprint of the last request that came. -/
  lastFingerprint : Option String := none
  /-- The fingerprint of the payload shown. -/
  shown : Option String := none
  /-- All payloads that the surface accepted, in order. -/
  loads : List Load := []
  builds : Nat := 0
  /-- The surface broke down in a build that has not ended. -/
  crashed : Bool := false
  deriving DecidableEq, Repr, Inhabited

/-- What the engine works with. -/
structure Workshop where
  /-- How long the input has to be quiet. -/
  debounce : Nat
  build : Request → Except CompileError Output

namespace Engine

/-- The last payload that the surface accepted. -/
def latest (e : Engine) : Option Payload := e.loads.getLast?.map (·.payload)

def setStatus (e : Engine) (phase : Phase) (isLoading : Bool) (error : Option String) : Engine :=
  { e with status := ⟨phase, isLoading, error, e.builds⟩, writes := e.writes + 1 }

/-- Takes a request in. One that equals the last is passed by, one without code stops the preview,
and any other starts the wait anew. -/
def schedule (w : Workshop) (now : Nat) (request : Request) (e : Engine) : Engine :=
  let fingerprint := request.fingerprint
  if e.lastFingerprint = some fingerprint then e else
  let e := { e with lastFingerprint := some fingerprint }
  if Text.isBlank request.entrySource then
    { e with pending := none, shown := none }.setStatus .idle false none
  else
    { e with pending := some ⟨request, now + w.debounce⟩ }.setStatus e.status.phase true
      e.status.error

/-- Takes a failure in, unless it names a build that is not shown. -/
def report (message : String) (build : Option String) (e : Engine) : Engine :=
  if build.isSome ∧ e.shown ≠ build then e
  else e.setStatus .failed e.pending.isSome (some ("Runtime Error: " ++ message))

/-- The end of a build that failed. -/
def fail (error : String) (e : Engine) : Engine :=
  { e with shown := none }.setStatus .failed false (some error)

/-- Builds a request and asks the surface to show what comes of it. -/
def build (w : Workshop) (surface : Surface) (request : Request) (e : Engine) : Engine :=
  let e := { e with builds := e.builds + 1 }.setStatus .building true none
  match w.build request with
  | .error error => e.fail error.userMessage
  | .ok output =>
    match surface output.payload with
    | .accepts =>
      let shown := some output.payload.fingerprint
      let load : Load := ⟨output.payload, e.status⟩
      { e with shown := shown, loads := e.loads ++ [load] }.setStatus .ready false none
    | .rejects reason => e.fail (rejection reason)
    | .panics => { e with crashed := true }

/-- Builds what waits, if its time has come. -/
def tick (w : Workshop) (surface : Surface) (now : Nat) (e : Engine) : Engine :=
  match e.pending with
  | some p =>
    if p.deadline ≤ now then { e with pending := none }.build w surface p.request else e
  | none => e

/-- What a command does. What has to be built before is built first; a crashed engine does nothing
any more. -/
def handle (w : Workshop) (surface : Surface) (now : Nat) (e : Engine) (c : Command) : Engine :=
  let e := e.tick w surface now
  if e.crashed then e else
  match c with
  | .update request => e.schedule w now request
  | .runtimeError message _ build => e.report message build

end Engine

end LivePreview
