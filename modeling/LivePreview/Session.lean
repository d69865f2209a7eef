import LivePreview.Engine
import LivePreview.Message

/-!
# Edit sessions

A session is an engine with a clock and a queue. Commands are taken in their order when the engine
gets its turn, before time goes on.
-/

namespace LivePreview

/-- An engine in time. -/
structure Session where
  workshop : Workshop
  surface : Surface := fun _ => .accepts
  engine : Engine := {}
  now : Nat := 0
  /-- Commands that the engine has not seen yet. -/
  queue : List Command := []
  /-- The session was shut down. -/
  closed : Bool := false

/-- The engine takes no commands any more. -/
inductive EngineClosed where
  | mk
  deriving DecidableEq, Repr, Inhabited

def EngineClosed.message : EngineClosed → String
  | mk => "preview engine has shut down"

namespace Session

def ofConfig (c : Config) : Except ConfigError Session := do
  let b ← Builder.ofConfig c
  return { workshop := ⟨c.debounceMs.toNat, b.build⟩ }

/-- The engine has ended, on request or not. -/
def hasEnded (s : Session) : Bool := s.closed || s.engine.crashed

def send (s : Session) (c : Command) : Except EngineClosed Session :=
  if s.hasEnded then .error .mk else .ok { s with queue := s.queue ++ [c] }

/-- Answers a message from a preview. -/
def receive (s : Session) : Message → Except EngineClosed (Session × Option Message)
  | .requestCode => .ok (s, some (.ofPayload s.engine.latest))
  | .runtimeError message stack build => do
    return (← s.send (.runtimeError message stack build), none)
  | .rendered | .codeUpdate _ _ _ => .ok (s, none)

/-- The engine takes the commands that wait. -/
def settle (s : Session) : Session :=
  { s with
    engine := s.queue.foldl (Engine.handle s.workshop s.surface s.now) s.engine
    queue := [] }

/-- Time goes on. -/
def sleep (s : Session) (ms : Nat) : Session :=
  if s.hasEnded then { s with now := s.now + ms } else
  let s := s.settle
  let now := s.now + ms
  let engine := if s.engine.crashed then s.engine else s.engine.tick s.workshop s.surface now
  { s with engine := engine, now := now }

/-- The engine takes the commands that wait, and ends. -/
def shutdown (s : Session) : Session := { s.settle with closed := true }

end Session

end LivePreview
