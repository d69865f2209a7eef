import LivePreview.Session

/-!
# Histories of sessions

A session is watched move by move: the engine takes a command, gets a turn, or the clock goes on.
`Session.after` is the session after a move, in terms of the engine's own functions, and
`Session.events` is what the engine does in it. `Session.exists_moves`: whatever is asked of a
session from outside, it comes to the same by some moves.

`Engine.Does` lists all that an engine can do, each with its guard, and `Recorded w s log`: a
session can come to `s`, its engine having done `log`. `recorded_moves`: every sequence of moves is
recorded; so what is said of all histories is shown by induction over `Recorded`.
-/

namespace LivePreview

/-- What an engine does, and when. -/
inductive Event where
  | handled (time : Nat) (command : Command)
  /-- A build starts. -/
  | started (time : Nat) (request : Request)
  /-- The surface is asked to show a payload; meanwhile it can read the status `during`. -/
  | offered (payload : Payload) (during : Status) (verdict : Verdict)
  /-- The engine sees that no more commands will come. -/
  | closed
  deriving DecidableEq, Repr

/-- What can happen to a session. -/
inductive Move where
  /-- The engine takes a command. -/
  | take (command : Command)
  /-- The engine gets a turn, and there is no command. -/
  | poll
  /-- The clock goes on by one, once the engine had its turn. -/
  | pass
  /-- Another surface answers from now on. -/
  | swap (surface : Surface)
  | close

/-- What is asked of a session from outside. -/
inductive Call where
  | send (command : Command)
  | sleep (ms : Nat)
  | swap (surface : Surface)
  | shutdown

/-- When a build starts, and of what. -/
def Event.start? : Event → Option (Nat × Request)
  | .started t r => some (t, r)
  | _ => none

/-- The builds of a history, in their order. -/
def builds (log : List Event) : List (Nat × Request) := log.filterMap Event.start?

namespace Engine

/-- The request whose time has come. -/
def due? (now : Nat) (e : Engine) : Option Request :=
  (e.pending.filter (·.deadline ≤ now)).map (·.request)

/-- The engine at the start of a build. -/
def begun (e : Engine) : Engine :=
  { e with pending := none, builds := e.builds + 1 }.setStatus .building true none

/-- The engine after a payload was accepted. -/
def accept (e : Engine) (payload : Payload) : Engine :=
  let load : Load := ⟨payload, e.status⟩
  { e with shown := some payload.fingerprint, loads := e.loads ++ [load] }.setStatus .ready false
    none

/-- What a turn of the engine does. -/
def turnEvents (w : Workshop) (surface : Surface) (now : Nat) (e : Engine) : List Event :=
  match e.due? now with
  | none => []
  | some r => .started now r ::
    match w.build r with
    | .error _ => []
    | .ok output => [.offered output.payload e.begun.status (surface output.payload)]

end Engine

namespace Session

/-- A session before anything has happened. -/
def fresh (w : Workshop) (surface : Surface) : Session := { workshop := w, surface := surface }

/-- The engine gets a turn, if it still goes. -/
def poll (s : Session) : Session :=
  if s.hasEnded then s else { s with engine := s.engine.tick s.workshop s.surface s.now }

/-- What the engine does when it gets a turn. -/
def pollEvents (s : Session) : List Event :=
  if s.hasEnded then [] else s.engine.turnEvents s.workshop s.surface s.now

/-- The session after a move. -/
def after (s : Session) : Move → Session
  | .take c =>
    if s.hasEnded then s
    else { s with engine := s.engine.handle s.workshop s.surface s.now c }
  | .poll => s.poll
  | .pass => { s.poll with now := s.poll.now + 1 }
  | .swap surface => { s with surface := surface }
  | .close => { s with closed := true }

/-- What the engine does in a move. -/
def events (s : Session) : Move → List Event
  | .take c => s.pollEvents ++ if s.poll.hasEnded then [] else [.handled s.now c]
  | .poll | .pass => s.pollEvents
  | .swap _ => []
  | .close => if s.hasEnded then [] else [.closed]

def afterAll (s : Session) (moves : List Move) : Session := moves.foldl after s

/-- All that the engine does in a sequence of moves. -/
def log (s : Session) : List Move → List Event
  | [] => []
  | m :: ms => s.events m ++ (s.after m).log ms

/-- The session after a call; a command that it refuses is lost. -/
def call (s : Session) : Call → Session
  | .send c => (s.send c).toOption.getD s
  | .sleep ms => s.sleep ms
  | .swap surface => { s with surface := surface }
  | .shutdown => s.shutdown

def callAll (s : Session) (calls : List Call) : Session := calls.foldl call s

/-- In a session that was closed no command waits, and an engine that broke down has nothing to
build. -/
structure Tidy (s : Session) : Prop where
  queue : s.closed = true → s.queue = []
  pending : s.engine.crashed = true → s.engine.pending = none

end Session

/-! ## Equations of the engine -/

namespace Engine

section
variable (e : Engine) (phase : Phase) (loading : Bool) (error : Option String)

@[simp] theorem setStatus_status :
    (e.setStatus phase loading error).status = ⟨phase, loading, error, e.builds⟩ := rfl
@[simp] theorem setStatus_pending : (e.setStatus phase loading error).pending = e.pending := rfl
@[simp] theorem setStatus_shown : (e.setStatus phase loading error).shown = e.shown := rfl
@[simp] theorem setStatus_loads : (e.setStatus phase loading error).loads = e.loads := rfl
@[simp] theorem setStatus_builds : (e.setStatus phase loading error).builds = e.builds := rfl
@[simp] theorem setStatus_crashed : (e.setStatus phase loading error).crashed = e.crashed := rfl
@[simp] theorem setStatus_lastFingerprint :
    (e.setStatus phase loading error).lastFingerprint = e.lastFingerprint := rfl

end

theorem due?_eq_some {now : Nat} {e : Engine} {r : Request} :
    e.due? now = some r ↔ ∃ p, e.pending = some p ∧ p.deadline ≤ now ∧ p.request = r := by
  simp [due?, Option.filter_eq_some_iff, and_assoc]

theorem due?_eq_none {now : Nat} {e : Engine} :
    e.due? now = none ↔ ∀ p, e.pending = some p → now < p.deadline := by
  simp [due?]

theorem tick_of_none (w : Workshop) (surface : Surface) {now : Nat} {e : Engine}
    (h : e.due? now = none) : e.tick w surface now = e := by
  unfold tick
  cases hp : e.pending with
  | none => rfl
  | some p => simp [Nat.not_le.2 (due?_eq_none.1 h p hp)]

/-- A turn with a request due builds it. -/
theorem tick_of_some (w : Workshop) (surface : Surface) {now : Nat} {e : Engine} {r : Request}
    (h : e.due? now = some r) :
    e.tick w surface now = match w.build r with
      | .error error => e.begun.fail error.userMessage
      | .ok output => match surface output.payload with
        | .accepts => e.begun.accept output.payload
        | .rejects reason => e.begun.fail (rejection reason)
        | .panics => { e.begun with crashed := true } := by
  obtain ⟨p, hp, hd, rfl⟩ := due?_eq_some.1 h
  simp only [tick, hp, hd, if_true, build]
  cases w.build p.request with
  | error error => rfl
  | ok output => cases surface output.payload <;> rfl

/-- A turn that starts a build comes to the end of that build. -/
theorem tick_eq_build (w : Workshop) (surface : Surface) {now : Nat} {e : Engine} {r : Request}
    (h : e.due? now = some r) :
    e.tick w surface now = { e with pending := none }.build w surface r := by
  obtain ⟨p, pending, time, rfl⟩ := due?_eq_some.1 h
  simp only [tick, pending, time, if_true]

/-- A turn starts a build of what is due, and of nothing else. -/
theorem mem_turnEvents_started {w : Workshop} {surface : Surface} {now t : Nat} {e : Engine}
    {r : Request} : .started t r ∈ e.turnEvents w surface now ↔ t = now ∧ e.due? now = some r := by
  unfold turnEvents
  cases e.due? now with
  | none => simp
  | some due =>
    dsimp only
    cases w.build due <;> simp [eq_comm]

/-! ## What an engine can do -/

/-- What an engine can do at a time: the ends of a build, then what comes of an update and of a
failure. -/
inductive Does (w : Workshop) (now : Nat) : Engine → List Event → Engine → Prop
  | miscompile {e : Engine} {r : Request} {error : CompileError} (due : e.due? now = some r)
      (build : w.build r = .error error) :
      Does w now e [.started now r] (e.begun.fail error.userMessage)
  | accept {e : Engine} {r : Request} {output : Output} (due : e.due? now = some r)
      (build : w.build r = .ok output) :
      Does w now e [.started now r, .offered output.payload e.begun.status .accepts]
        (e.begun.accept output.payload)
  | reject {e : Engine} {r : Request} {output : Output} (reason : String)
      (due : e.due? now = some r) (build : w.build r = .ok output) :
      Does w now e [.started now r, .offered output.payload e.begun.status (.rejects reason)]
        (e.begun.fail (rejection reason))
  | panic {e : Engine} {r : Request} {output : Output} (due : e.due? now = some r)
      (build : w.build r = .ok output) :
      Does w now e [.started now r, .offered output.payload e.begun.status .panics]
        { e.begun with crashed := true }
  | repeated {e : Engine} {r : Request} (same : e.lastFingerprint = some r.fingerprint) :
      Does w now e [.handled now (.update r)] e
  | clear {e : Engine} {r : Request} (changed : e.lastFingerprint ≠ some r.fingerprint)
      (blank : Text.isBlank r.entrySource = true) :
      Does w now e [.handled now (.update r)]
        ({ e with lastFingerprint := some r.fingerprint, pending := none, shown := none }.setStatus
          .idle false none)
  | arm {e : Engine} {r : Request} (changed : e.lastFingerprint ≠ some r.fingerprint)
      (code : Text.isBlank r.entrySource = false) :
      Does w now e [.handled now (.update r)]
        ({ e with
          lastFingerprint := some r.fingerprint
          pending := some ⟨r, now + w.debounce⟩ }.setStatus e.status.phase true e.status.error)
  | ignore {e : Engine} {message stack : String} {build : Option String} (tagged : build.isSome)
      (stale : e.shown ≠ build) : Does w now e [.handled now (.runtimeError message stack build)] e
  | apply {e : Engine} {message stack : String} {build : Option String}
      (fresh : build = none ∨ e.shown = build) :
      Does w now e [.handled now (.runtimeError message stack build)]
        (e.setStatus .failed e.pending.isSome (some ("Runtime Error: " ++ message)))

theorem does_tick (w : Workshop) (surface : Surface) {now : Nat} {e : Engine} {r : Request}
    (h : e.due? now = some r) :
    Does w now e (e.turnEvents w surface now) (e.tick w surface now) := by
  rw [tick_of_some w surface h]
  simp only [turnEvents, h]
  cases hb : w.build r with
  | error error => exact .miscompile h hb
  | ok output =>
    simp only
    cases surface output.payload with
    | accepts => exact .accept h hb
    | rejects reason => exact .reject reason h hb
    | panics => exact .panic h hb

theorem does_schedule (w : Workshop) (now : Nat) (r : Request) (e : Engine) :
    Does w now e [.handled now (.update r)] (e.schedule w now r) := by
  unfold schedule
  by_cases same : e.lastFingerprint = some r.fingerprint
  · rw [if_pos same]
    exact .repeated same
  · rw [if_neg same]
    by_cases blank : Text.isBlank r.entrySource = true
    · rw [if_pos blank]
      exact .clear same blank
    · rw [if_neg blank]
      exact .arm same (by simpa using blank)

theorem does_report (w : Workshop) (now : Nat) (message stack : String) (build : Option String)
    (e : Engine) :
    Does w now e [.handled now (.runtimeError message stack build)] (e.report message build) := by
  unfold report
  split
  next h => exact .ignore h.1 h.2
  next h =>
    refine .apply ?_
    cases build with
    | none => exact .inl rfl
    | some tag => exact .inr (by simpa using h)

/-- A turn that builds leaves nothing to build. -/
theorem pending_tick (w : Workshop) (surface : Surface) {now : Nat} {e : Engine} {r : Request}
    (h : e.due? now = some r) : (e.tick w surface now).pending = none := by
  rw [tick_of_some w surface h]
  split
  · rfl
  · split <;> rfl

theorem lastFingerprint_tick (w : Workshop) (surface : Surface) (now : Nat) (e : Engine) :
    (e.tick w surface now).lastFingerprint = e.lastFingerprint := by
  cases h : e.due? now with
  | none => rw [tick_of_none w surface h]
  | some r =>
    rw [tick_of_some w surface h]
    split
    · rfl
    · split <;> rfl

/-- After a turn nothing is due. -/
theorem due?_tick (w : Workshop) (surface : Surface) (now : Nat) (e : Engine) :
    (e.tick w surface now).due? now = none := by
  cases h : e.due? now with
  | none => rw [tick_of_none w surface h, h]
  | some r => simp [due?, pending_tick w surface h]

/-- A turn earlier on changes nothing in what a later one comes to: a build does not depend on the
time at which it starts. -/
theorem tick_tick (w : Workshop) (surface : Surface) {now later : Nat} (h : now ≤ later)
    (e : Engine) : (e.tick w surface now).tick w surface later = e.tick w surface later := by
  cases hd : e.due? now with
  | none => rw [tick_of_none w surface hd]
  | some r =>
    obtain ⟨p, hp, ht, rfl⟩ := due?_eq_some.1 hd
    have hl : e.due? later = some p.request := due?_eq_some.2 ⟨p, hp, Nat.le_trans ht h, rfl⟩
    have hn : (e.tick w surface now).due? later = none := by
      simp [due?, pending_tick w surface hd]
    rw [tick_of_none w surface hn, tick_of_some w surface hd, tick_of_some w surface hl]

theorem handle_of_crashed (w : Workshop) (surface : Surface) (now : Nat) (e : Engine) (c : Command)
    (h : (e.tick w surface now).crashed = true) :
    e.handle w surface now c = e.tick w surface now := by simp [handle, h]

theorem does_handle (w : Workshop) (surface : Surface) (now : Nat) (e : Engine) (c : Command)
    (h : (e.tick w surface now).crashed = false) :
    Does w now (e.tick w surface now) [.handled now c] (e.handle w surface now c) := by
  simp only [handle, h, Bool.false_eq_true, if_false]
  cases c with
  | update r => exact does_schedule w now r _
  | runtimeError message stack build => exact does_report w now message stack build _

/-- A command does not make the engine break down. -/
theorem Does.crashed_eq {w : Workshop} {now : Nat} {e e' : Engine} {c : Command}
    (h : Does w now e [.handled now c] e') : e'.crashed = e.crashed := by
  cases h <;> rfl

/-- An engine that breaks down in a turn has nothing left to build. -/
theorem pending_tick_of_crashed {w : Workshop} {surface : Surface} {now : Nat} {e : Engine}
    (idle : e.crashed = true → e.pending = none) (h : (e.tick w surface now).crashed = true) :
    (e.tick w surface now).pending = none := by
  cases hd : e.due? now with
  | none =>
    rw [tick_of_none w surface hd] at h ⊢
    exact idle h
  | some r => exact pending_tick w surface hd

theorem pending_handle {w : Workshop} {surface : Surface} {now : Nat} {e : Engine} {c : Command}
    (idle : e.crashed = true → e.pending = none) (h : (e.handle w surface now c).crashed = true) :
    (e.handle w surface now c).pending = none := by
  cases crashed : (e.tick w surface now).crashed with
  | true =>
    rw [handle_of_crashed w surface now e c crashed]
    exact pending_tick_of_crashed idle crashed
  | false =>
    rw [(does_handle w surface now e c crashed).crashed_eq, crashed] at h
    cases h

end Engine

/-! ## Sessions move by move -/

namespace Session

theorem afterAll_append (s : Session) (ms ns : List Move) :
    s.afterAll (ms ++ ns) = (s.afterAll ms).afterAll ns := List.foldl_append

/-- What the engine does with a command, after a turn in which it has not ended. -/
theorem engine_take {s : Session} (going : s.poll.hasEnded = false) (c : Command) :
    (s.after (.take c)).engine = match c with
      | .update r => s.poll.engine.schedule s.workshop s.now r
      | .runtimeError message _ build => s.poll.engine.report message build := by
  by_cases ended : s.hasEnded = true
  · simp [poll, ended] at going
  · have hpoll : s.poll = { s with engine := s.engine.tick s.workshop s.surface s.now } := by
      simp [poll, ended]
    have alive : (s.engine.tick s.workshop s.surface s.now).crashed = false := by
      simp only [hpoll, hasEnded, Bool.or_eq_false_iff] at going
      exact going.2
    cases c <;> simp [after, ended, hpoll, Engine.handle, alive]

/-- Commands taken one by one. -/
theorem afterAll_take (s : Session) (closed : s.closed = false) (cs : List Command)
    (idle : s.engine.crashed = true → s.engine.pending = none) :
    s.afterAll (cs.map .take) =
      { s with engine := cs.foldl (Engine.handle s.workshop s.surface s.now) s.engine } := by
  induction cs generalizing s with
  | nil => rfl
  | cons c cs ih =>
    have step : s.after (.take c) =
        { s with engine := s.engine.handle s.workshop s.surface s.now c } := by
      by_cases crashed : s.engine.crashed = true
      · have hd : s.engine.due? s.now = none := by simp [Engine.due?, idle crashed]
        simp [after, hasEnded, crashed, Engine.handle, Engine.tick_of_none _ _ hd]
      · simp [after, hasEnded, closed, crashed]
    simp only [List.map_cons, afterAll, List.foldl_cons] at ih ⊢
    rw [step, ih { s with engine := s.engine.handle s.workshop s.surface s.now c } closed
      (Engine.pending_handle idle)]

/-- The engine after a turn at a later time. -/
def engineAt (s : Session) (later : Nat) : Engine :=
  if s.hasEnded then s.engine else s.engine.tick s.workshop s.surface later

/-- Letting the clock go on by one changes nothing in what a later turn comes to. -/
theorem engineAt_pass (s : Session) {later : Nat} (h : s.now ≤ later) :
    (s.after .pass).engineAt later = s.engineAt later := by
  by_cases ended : s.hasEnded = true
  · have hpass : s.after .pass = { s with now := s.now + 1 } := by simp [after, poll, ended]
    have still : (s.after .pass).hasEnded = true := by rw [hpass]; exact ended
    rw [engineAt, if_pos still, engineAt, if_pos ended, hpass]
  · have hpass : s.after .pass =
        { s with engine := s.engine.tick s.workshop s.surface s.now, now := s.now + 1 } := by
      simp [after, poll, ended]
    obtain ⟨closed, alive⟩ : s.closed = false ∧ s.engine.crashed = false := by
      simpa [hasEnded] using ended
    have hlater : s.engineAt later =
        (s.engine.tick s.workshop s.surface s.now).tick s.workshop s.surface later := by
      rw [engineAt, if_neg ended, Engine.tick_tick _ _ h]
    rw [hlater, hpass, engineAt]
    split
    next stopped =>
      have crashed : (s.engine.tick s.workshop s.surface s.now).crashed = true := by
        simpa [hasEnded, closed] using stopped
      have nothing := Engine.pending_tick_of_crashed (by simp [alive]) crashed
      exact (Engine.tick_of_none _ _ (by simp [Engine.due?, nothing])).symm
    · rfl

/-- The clock goes on by `n`. -/
theorem afterAll_pass (s : Session) (n : Nat) :
    s.afterAll (List.replicate n .pass ++ [.poll]) =
      { s with engine := s.engineAt (s.now + n), now := s.now + n } := by
  induction n generalizing s with
  | zero =>
    show s.poll = _
    unfold poll engineAt
    split <;> rfl
  | succ n ih =>
    have hnow : (s.after .pass).now = s.now + 1 := by
      simp only [after, poll]
      split <;> rfl
    have hstep : s.afterAll (List.replicate (n + 1) .pass ++ [.poll]) =
        (s.after .pass).afterAll (List.replicate n .pass ++ [.poll]) := by
      simp [List.replicate_succ, afterAll]
    rw [hstep, ih, hnow, Nat.add_assoc, Nat.add_comm 1 n, engineAt_pass s (Nat.le_add_right ..)]
    simp only [after, poll]
    split <;> rfl

/-- A session that sleeps takes the commands that wait, and then the clock goes on. -/
theorem sleep_eq (s : Session) (ms : Nat) (going : s.hasEnded = false) :
    s.sleep ms =
      { s.afterAll (s.queue.map .take ++ (List.replicate ms .pass ++ [.poll])) with
        queue := [] } := by
  obtain ⟨closed, alive⟩ : s.closed = false ∧ s.engine.crashed = false := by
    simpa [hasEnded] using going
  rw [afterAll_append, afterAll_take s closed s.queue (by simp [alive]), afterAll_pass]
  simp only [sleep, settle, engineAt, hasEnded, closed, alive, Bool.false_or, Bool.false_eq_true,
    if_false]

/-- A session that is shut down takes the commands that wait, and then closes. -/
theorem shutdown_eq (s : Session) (going : s.hasEnded = false) :
    s.shutdown = { s.afterAll (s.queue.map .take ++ [.close]) with queue := [] } := by
  obtain ⟨closed, alive⟩ : s.closed = false ∧ s.engine.crashed = false := by
    simpa [hasEnded] using going
  rw [afterAll_append, afterAll_take s closed s.queue (by simp [alive])]
  rfl

/-! ## Sessions call by call -/

/-- What waits in the queue plays no part in a move. -/
theorem after_queue (s : Session) (q : List Command) (m : Move) :
    { s with queue := q }.after m = { s.after m with queue := q } := by
  have same : { s with queue := q }.hasEnded = s.hasEnded := rfl
  by_cases ended : s.hasEnded = true
  · cases m <;> simp [after, poll, same, ended]
  · cases m <;> simp [after, poll, same, ended]

theorem afterAll_queue (s : Session) (q : List Command) (ms : List Move) :
    { s with queue := q }.afterAll ms = { s.afterAll ms with queue := q } := by
  induction ms generalizing s with
  | nil => rfl
  | cons m ms ih =>
    simp only [afterAll, List.foldl_cons] at ih ⊢
    rw [after_queue, ih]

/-- Once a session has ended, only the clock goes on. -/
theorem afterAll_pass_of_ended (s : Session) (ended : s.hasEnded = true) (n : Nat) :
    s.afterAll (List.replicate n .pass) = { s with now := s.now + n } := by
  induction n generalizing s with
  | zero => rfl
  | succ n ih =>
    have step : s.after .pass = { s with now := s.now + 1 } := by simp [after, poll, ended]
    rw [List.replicate_succ, afterAll, List.foldl_cons, step]
    exact (ih { s with now := s.now + 1 } ended).trans (by simp [Nat.add_assoc, Nat.add_comm 1 n])

theorem pending_after {s : Session} (idle : s.engine.crashed = true → s.engine.pending = none)
    (m : Move) : (s.after m).engine.crashed = true → (s.after m).engine.pending = none := by
  by_cases ended : s.hasEnded = true
  · cases m <;> simpa [after, poll, ended] using idle
  · cases m with
    | take c => simpa [after, ended] using Engine.pending_handle idle
    | poll => simpa [after, poll, ended] using Engine.pending_tick_of_crashed idle
    | pass => simpa [after, poll, ended] using Engine.pending_tick_of_crashed idle
    | swap surface => exact idle
    | close => exact idle

theorem pending_afterAll {s : Session} (idle : s.engine.crashed = true → s.engine.pending = none)
    (ms : List Move) :
    (s.afterAll ms).engine.crashed = true → (s.afterAll ms).engine.pending = none := by
  induction ms generalizing s with
  | nil => exact idle
  | cons m ms ih => exact ih (pending_after idle m)

/-- An engine that takes no commands any more stays as it is. -/
theorem settle_of_ended {s : Session} (tidy : s.Tidy) (ended : s.hasEnded = true) :
    s.queue.foldl (Engine.handle s.workshop s.surface s.now) s.engine = s.engine := by
  by_cases closed : s.closed = true
  · rw [tidy.queue closed, List.foldl_nil]
  · have crashed : s.engine.crashed = true := by simpa [hasEnded, closed] using ended
    have hd : s.engine.due? s.now = none := by simp [Engine.due?, tidy.pending crashed]
    induction s.queue with
    | nil => rfl
    | cons c cs ih =>
      rw [List.foldl_cons, Engine.handle_of_crashed] <;> rw [Engine.tick_of_none _ _ hd]
      · exact ih
      · exact crashed

/-- A call comes to the same as some moves. -/
theorem exists_moves_call {s : Session} (tidy : s.Tidy) (c : Call) :
    ∃ ms, { s.call c with queue := [] } = { s with queue := [] }.afterAll ms := by
  simp only [afterAll_queue]
  cases c with
  | send c =>
    refine ⟨[], ?_⟩
    simp only [call, send]
    split <;> rfl
  | sleep ms =>
    by_cases ended : s.hasEnded = true
    · exact ⟨List.replicate ms .pass, by simp [call, sleep, ended, afterAll_pass_of_ended]⟩
    · exact ⟨_, by rw [call, sleep_eq s ms (by simpa using ended)]⟩
  | swap surface => exact ⟨[.swap surface], rfl⟩
  | shutdown =>
    by_cases ended : s.hasEnded = true
    · refine ⟨[.close], ?_⟩
      simpa [call, shutdown, settle, afterAll, after] using settle_of_ended tidy ended
    · exact ⟨_, by rw [call, shutdown_eq s (by simpa using ended)]⟩

theorem Tidy.call {s : Session} (tidy : s.Tidy) (c : Call) : (s.call c).Tidy := by
  obtain ⟨ms, hms⟩ := exists_moves_call tidy c
  rw [afterAll_queue] at hms
  have engine : (s.call c).engine = (s.afterAll ms).engine := by injection hms
  refine ⟨?_, by rw [engine]; exact pending_afterAll tidy.pending ms⟩
  cases c with
  | send c =>
    simp only [Session.call, send]
    split
    · exact tidy.queue
    next going =>
      intro closed
      refine absurd closed ?_
      simp only [hasEnded, Bool.not_eq_true, Bool.or_eq_false_iff] at going
      simp [Except.toOption, going.1]
  | sleep ms =>
    simp only [Session.call, sleep]
    split
    · exact tidy.queue
    · exact fun _ => rfl
  | swap surface => exact tidy.queue
  | shutdown => exact fun _ => rfl

/-- Whatever is asked of a session, there are moves by which it comes to the same. -/
theorem exists_moves {s : Session} (tidy : s.Tidy) (calls : List Call) :
    ∃ ms, { s.callAll calls with queue := [] } = { s with queue := [] }.afterAll ms := by
  induction calls generalizing s with
  | nil => exact ⟨[], rfl⟩
  | cons c calls ih =>
    obtain ⟨ms, hms⟩ := exists_moves_call tidy c
    obtain ⟨ns, hns⟩ := ih (tidy.call c)
    refine ⟨ms ++ ns, ?_⟩
    rw [afterAll_append, ← hms]
    exact hns

end Session

/-! ## Recorded sessions -/

theorem snoc_eq_append_cons {α : Type} {l b c : List α} {a x : α} :
    l ++ [a] = b ++ x :: c ↔
      c = [] ∧ l = b ∧ a = x ∨ ∃ c', c = c' ++ [a] ∧ l = b ++ x :: c' := by
  rcases List.eq_nil_or_concat c with rfl | ⟨c', y, rfl⟩
  · simp
  · rw [List.concat_eq_append, ← List.cons_append, ← List.append_assoc]
    constructor
    · intro h
      obtain ⟨h1, h2⟩ := List.append_inj' h rfl
      cases h2
      exact .inr ⟨c', rfl, h1⟩
    · rintro (⟨h, -⟩ | ⟨d, h, rfl⟩)
      · simp at h
      · obtain ⟨rfl, h2⟩ := List.append_inj' h rfl
        cases h2
        rfl

theorem builds_snoc (log : List Event) (event : Event) :
    builds (log ++ [event]) = builds log ++ event.start?.toList := by
  unfold builds
  cases h : event.start? <;> simp [h]

theorem builds_append (log events : List Event) :
    builds (log ++ events) = builds log ++ builds events := List.filterMap_append

/-- A session with the workshop `w` can come to `s`, its engine having done `log`. The clock goes on
only when nothing is due. -/
inductive Recorded (w : Workshop) : Session → List Event → Prop
  | start (surface : Surface) : Recorded w (.fresh w surface) []
  | does {s : Session} {log events : List Event} {e : Engine} (h : Recorded w s log)
      (going : s.hasEnded = false) (step : Engine.Does w s.now s.engine events e) :
      Recorded w { s with engine := e } (log ++ events)
  | pass {s : Session} {log : List Event} (h : Recorded w s log)
      (idle : s.hasEnded = false → s.engine.due? s.now = none) :
      Recorded w { s with now := s.now + 1 } log
  | swap {s : Session} {log : List Event} (h : Recorded w s log) (surface : Surface) :
      Recorded w { s with surface := surface } log
  | close {s : Session} {log : List Event} (h : Recorded w s log) (going : s.hasEnded = false) :
      Recorded w { s with closed := true } (log ++ [.closed])
  /-- A session that has ended may be closed once more. -/
  | reclose {s : Session} {log : List Event} (h : Recorded w s log) (ended : s.hasEnded = true) :
      Recorded w { s with closed := true } log

namespace Recorded

variable {w : Workshop} {s : Session} {log : List Event}

theorem workshop (h : Recorded w s log) : s.workshop = w := by
  induction h with
  | start => rfl
  | does _ _ _ ih => exact ih
  | pass _ _ ih => exact ih
  | swap _ _ ih => exact ih
  | close _ _ ih => exact ih
  | reclose _ _ ih => exact ih

theorem poll (h : Recorded w s log) : Recorded w s.poll (log ++ s.pollEvents) := by
  obtain rfl := h.workshop
  unfold Session.poll Session.pollEvents
  split
  · simpa using h
  next going =>
    cases hd : s.engine.due? s.now with
    | none =>
      rw [Engine.tick_of_none _ _ hd]
      simpa [Engine.turnEvents, hd] using h
    | some r => exact h.does (by simpa using going) (Engine.does_tick _ s.surface hd)

/-- After a turn nothing is due, unless the session has ended. -/
theorem due?_poll (s : Session) (going : s.poll.hasEnded = false) :
    s.poll.engine.due? s.poll.now = none := by
  unfold Session.poll at going ⊢
  split at going
  next ended => simp [ended] at going
  next goes =>
    rw [if_neg goes]
    exact Engine.due?_tick _ _ _ _

theorem take (h : Recorded w s log) (c : Command) :
    Recorded w (s.after (.take c)) (log ++ s.events (.take c)) := by
  have hp := h.poll
  obtain rfl := h.workshop
  simp only [Session.after, Session.events, ← List.append_assoc]
  by_cases ended : s.hasEnded = true
  · simpa [Session.poll, ended] using hp
  · have hpoll : s.poll = { s with engine := s.engine.tick s.workshop s.surface s.now } := by
      simp [Session.poll, ended]
    rw [if_neg ended]
    by_cases crashed : (s.engine.tick s.workshop s.surface s.now).crashed = true
    · have : s.poll.hasEnded = true := by simp [hpoll, Session.hasEnded, crashed]
      rw [Engine.handle_of_crashed _ _ _ _ _ crashed, if_pos this, List.append_nil, ← hpoll]
      exact hp
    · have going : s.poll.hasEnded = false := by
        simp only [Session.hasEnded, Bool.or_eq_true, not_or, Bool.not_eq_true] at ended crashed
        simp [hpoll, Session.hasEnded, ended.1, crashed]
      have step := Engine.does_handle s.workshop s.surface s.now s.engine c (by simpa using crashed)
      rw [hpoll] at going hp ⊢
      simpa [going] using hp.does going step

theorem after (h : Recorded w s log) (m : Move) : Recorded w (s.after m) (log ++ s.events m) := by
  cases m with
  | take c => exact h.take c
  | poll => exact h.poll
  | pass => exact h.poll.pass (due?_poll s)
  | swap surface => simpa [Session.events, Session.after] using h.swap surface
  | close =>
    simp only [Session.events, Session.after]
    split
    next ended => simpa using h.reclose ended
    next going => exact h.close (by simpa using going)

theorem afterAll (h : Recorded w s log) (ms : List Move) :
    Recorded w (s.afterAll ms) (log ++ s.log ms) := by
  induction ms generalizing s log with
  | nil => simpa [Session.log, Session.afterAll] using h
  | cons m ms ih =>
    simp only [Session.log, ← List.append_assoc]
    exact ih (h.after m)

/-- The engine counts the builds that it starts. -/
theorem length_builds (h : Recorded w s log) : (builds log).length = s.engine.builds := by
  induction h with
  | start => rfl
  | @does s log events e h going step ih =>
    have added : e.builds = s.engine.builds + (builds events).length := by
      cases step <;> rfl
    show (builds (log ++ events)).length = e.builds
    rw [builds_append, List.length_append, ih, added]
  | pass _ _ ih => exact ih
  | swap _ _ ih => exact ih
  | close _ _ ih => simpa [builds_snoc, Event.start?] using ih
  | reclose _ _ ih => exact ih

end Recorded

/-- Every sequence of moves is recorded. -/
theorem recorded_moves (w : Workshop) (surface : Surface) (ms : List Move) :
    Recorded w ((Session.fresh w surface).afterAll ms) ((Session.fresh w surface).log ms) := by
  simpa using (Recorded.start surface).afterAll ms

end LivePreview
