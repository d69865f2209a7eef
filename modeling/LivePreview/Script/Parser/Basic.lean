import LivePreview.Script.Progress

/-!
# The state and steps of parsing

A parser reads tokens and either yields a value, having noted faults on the way, or stops at a
fault it cannot get over. Alternatives are tried by running a parser and going back to the state
before when it stops. What the grammar allows at a place (`Scope`) is passed down.

No parser goes back behind where it started: every parser carries a proof of this (`Parser.leads`),
which those made of others get from their parts.
-/

namespace LivePreview.Script

/-- What kind of source a text is. -/
structure SourceKind where
  /-- Types may be written. -/
  types : Bool
  /-- Elements may be written. -/
  jsx : Bool
  /-- The source is a module, so `await` stands at its top. -/
  module : Bool
  deriving DecidableEq, Repr, Inhabited

/-- What is allowed at a place in the grammar. -/
structure Scope where
  kind : SourceKind
  /-- The number of characters in the source, and so a bound on the steps of any loop. -/
  fuel : Nat
  /-- `in` is an operator. -/
  allowIn : Bool
  inGenerator : Bool
  inAsync : Bool
  inFunction : Bool
  inDecorator : Bool
  ambient : Bool
  /-- A conditional type may not start here. -/
  noConditional : Bool
  /-- Some bracket is open. -/
  enclosed : Bool
  /-- Some element is open. -/
  inElement : Bool
  deriving Inhabited

/-- How far parsing has come. -/
structure State where
  lexer : Lexer
  /-- The token to be dealt with next. -/
  token : Token
  /-- The end of the token before. -/
  prevStop : Nat
  /-- Faults in the grammar that parsing got over, newest first. -/
  errors : List Diagnostic
  /-- Starts of shorthand properties with an initializer that no pattern has claimed yet. -/
  covers : List Nat
  /-- Starts of arrays and objects that end in a comma. -/
  trailing : List Nat
  /-- The names exported so far, newest first. -/
  exports : List String
  /-- Faults in the exports, newest first. -/
  exportErrors : List Diagnostic
  defaultExports : Nat
  /-- What is no type in the type at hand, newest first. -/
  parts : List TypePart
  deriving Inhabited

/-- The outcome of a parser. -/
inductive Reply (α : Type) where
  | ok (value : α) (state : State)
  | stop (faults : List Diagnostic)

namespace State

/-- The token of the state was read from the text `cs`, at or behind the end of the one before. -/
structure InPlace (cs : List Char) (s : State) : Prop where
  behind : s.prevStop ≤ s.token.start
  token : s.lexer.Follows ⟨cs, 0⟩ s.token

/-- A parser of `cs` may come from `s` to `t`. -/
structure Leads (cs : List Char) (s t : State) : Prop where
  inPlace : t.InPlace cs
  prevStop : s.prevStop ≤ t.prevStop
  start : s.token.start ≤ t.token.start
  errors : t.errors = [] → s.errors = []

variable {cs : List Char} {s t u : State}

theorem Leads.refl (h : s.InPlace cs) : s.Leads cs s := ⟨h, Nat.le_refl _, Nat.le_refl _, id⟩

theorem Leads.trans (h : s.Leads cs t) (h' : t.Leads cs u) : s.Leads cs u :=
  ⟨h'.inPlace, Nat.le_trans h.prevStop h'.prevStop, Nat.le_trans h.start h'.start,
    fun none => h.errors (h'.errors none)⟩

/-- The states differ in notes only. -/
structure Still (s t : State) : Prop where
  lexer : t.lexer = s.lexer
  token : t.token = s.token
  prevStop : t.prevStop = s.prevStop
  errors : t.errors = [] → s.errors = []

theorem Still.leads (h : s.Still t) (hs : s.InPlace cs) : s.Leads cs t := by
  obtain ⟨hl, ht, hp, he⟩ := h
  exact ⟨⟨by rw [hp, ht]; exact hs.behind, by rw [ht, hl]; exact hs.token⟩,
    Nat.le_of_eq hp.symm, Nat.le_of_eq (congrArg Token.start ht).symm, he⟩

end State

/-- A parser for `α`. -/
structure Parser (α : Type) where
  run : Scope → State → Reply α
  /-- It does not go back. -/
  leads {cs : List Char} {c : Scope} {s t : State} {a : α} (h : s.InPlace cs)
    (hr : run c s = .ok a t) : s.Leads cs t

namespace Parser

@[inline] protected def pure {α : Type} (a : α) : Parser α where
  run _ s := .ok a s
  leads h hr := by
    cases hr
    exact .refl h

@[inline] protected def bind {α β : Type} (p : Parser α) (f : α → Parser β) : Parser β where
  run scope s :=
    match p.run scope s with
    | .ok a s => (f a).run scope s
    | .stop faults => .stop faults
  leads h hr := by
    split at hr
    next hp =>
      have first := p.leads h hp
      exact first.trans ((f _).leads first.inPlace hr)
    · cases hr

instance : Monad Parser where
  pure := Parser.pure
  bind := Parser.bind

/-- Yields what `f` makes of the state, and leaves it. -/
@[inline] def reader {α : Type} (f : Scope → State → α) : Parser α where
  run c s := .ok (f c s) s
  leads h hr := by
    cases hr
    exact .refl h

def scope : Parser Scope := reader fun c _ => c

def state : Parser State := reader fun _ s => s

/-- Changes notes. -/
def modify (f : State → State)
    (still : ∀ s : State, State.Still s (f s) := by exact fun _ => ⟨rfl, rfl, rfl, id⟩) :
    Parser Unit where
  run _ s := .ok () (f s)
  leads h hr := by
    cases hr
    exact (still _).leads h

/-- The parser that `p` makes, made when it is run. -/
@[inline] def delayed {α : Type} (p : Unit → Parser α) : Parser α where
  run c s := (p ()).run c s
  leads h hr := (p ()).leads h hr

/-- Runs `p` where other things are allowed. -/
@[inline] def within {α : Type} (f : Scope → Scope) (p : Parser α) : Parser α where
  run c s := p.run (f c) s
  leads h hr := p.leads h hr

/-- Runs `p` inside brackets. -/
@[inline] def enclosed {α : Type} (p : Parser α) : Parser α :=
  within (fun c => { c with enclosed := true }) p

/-- Runs `p`; if it stops, nothing has happened. -/
def attempt {α : Type} (p : Parser α) : Parser (Option α) where
  run c s :=
    match p.run c s with
    | .ok a s => .ok (some a) s
    | .stop _ => .ok none s
  leads h hr := by
    split at hr
    next hp =>
      cases hr
      exact p.leads h hp
    · cases hr
      exact .refl h

/-- Runs `p`; if it yields nothing, nothing has happened. -/
def orBack {α : Type} (p : Parser (Option α)) : Parser (Option α) where
  run c s :=
    match p.run c s with
    | .ok (some a) s => .ok (some a) s
    | .ok none _ => .ok none s
    | .stop faults => .stop faults
  leads h hr := by
    split at hr
    next hp =>
      cases hr
      exact p.leads h hp
    · cases hr
      exact .refl h
    · cases hr

/-- Runs `p` for its value only; if it stops, the value is `default`. -/
def lookahead {α : Type} (default : α) (p : Parser α) : Parser α :=
  reader fun c s =>
    match p.run c s with
    | .ok a _ => a
    | .stop _ => default

/-- Notes a part of the type at hand. -/
def notePart (part : TypePart) : Parser Unit := modify fun s => { s with parts := part :: s.parts }

/-- Runs `p`, and yields with its value the parts that it notes, in the order of the source. -/
def collecting {α : Type} (p : Parser α) : Parser (α × List TypePart) where
  run c s :=
    match p.run c { s with parts := [] } with
    | .ok a t => .ok (a, t.parts.reverse) { t with parts := s.parts }
    | .stop faults => .stop faults
  leads {_ _ s _ _} h hr := by
    split at hr
    next t hp =>
      cases hr
      have cleared : State.Still s { s with parts := [] } := ⟨rfl, rfl, rfl, id⟩
      have restored : State.Still t { t with parts := s.parts } := ⟨rfl, rfl, rfl, id⟩
      have begins := cleared.leads h
      have runs := p.leads begins.inPlace hp
      exact begins.trans (runs.trans (restored.leads runs.inPlace))
    · cases hr

/-- The parts that `p` notes, in the order of the source. -/
def partsOf (p : Parser Unit) : Parser (List TypePart) := return (← collecting p).2

/-- Stops with the faults that `f` tells. -/
@[inline] def stop {α : Type} (f : Scope → State → List Diagnostic) : Parser α where
  run c s := .stop (f c s)
  leads _ hr := by cases hr

/-- Runs `p` at most `n` times over a value, as long as it asks for more. -/
def iterate {β : Type} (p : β → Parser (β × Bool)) : Nat → β → Parser β
  | 0, b => Parser.pure b
  | n + 1, b => Parser.bind (p b) fun (b, more) => if more then iterate p n b else Parser.pure b

/-- Runs `p` over a value as long as it asks for more. -/
def loop {β : Type} (b : β) (p : β → Parser (β × Bool)) : Parser β := do
  iterate p ((← scope).fuel + 1) b

/-- Collects what `p` yields until `done` holds. -/
def manyUntil {α : Type} (done : Parser Bool) (p : Parser α) : Parser (List α) := do
  let items ← loop ([] : List α) fun acc => do
    if ← done then return (acc, false)
    return ((← p) :: acc, true)
  return items.reverse

/-! ## Faults -/

/-- Notes a fault and goes on. -/
def report (d : Diagnostic) : Parser Unit :=
  modify (fun s => { s with errors := d :: s.errors }) fun _ => ⟨rfl, rfl, rfl, nofun⟩

/-- The faults in the exports seen so far. With types about, a name may be exported many times. -/
def exportFaults (c : Scope) (s : State) : List Diagnostic :=
  if c.kind.types then [] else
  s.exportErrors.reverse ++ (if 1 < s.defaultExports then [.multipleDefaults] else [])

/-- The faults to be told when parsing stops at `d`. Faults of the characters come first. With such
faults about, `d` itself is told only if nothing had to be closed (`closing`) before the end of the
text; within an element it is told alone. -/
def faultsAt (d : Diagnostic) (closing : Bool) (c : Scope) (s : State) : List Diagnostic :=
  let lexical := s.lexer.errors.reverse
  let told :=
    if lexical.isEmpty || c.inElement then s.errors.reverse ++ [d]
    else if closing || c.enclosed || s.token.isEof then lexical ++ s.errors.reverse
    else lexical ++ s.errors.reverse ++ [d]
  told ++ s.covers.map (fun _ => .coverInitializer) ++ exportFaults c s

/-- Stops at the fault `d`. -/
def fail {α : Type} (d : Diagnostic) : Parser α := stop (faultsAt d false)

/-- The current token begins a line, and so do seven equal signs as they mark the sides of an
unfinished merge. -/
def atMergeMarker (s : State) : Bool :=
  (s.token.newLine || s.token.start == 0) &&
  match s.token.kind with
  | .punct p =>
    match p.text.toList with
    | [] => false
    | c :: cs =>
      let signs := (c :: cs) ++ s.lexer.cursor.rest.take 7
      "<=>|".toList.contains c && signs.take 7 == List.replicate 7 c && signs[7]? != some c
  | _ => false

/-- What is wrong at a token that cannot stand where it does. -/
def faultHere (d : Diagnostic) (s : State) : Diagnostic :=
  if atMergeMarker s then .mergeMarker else d

/-- Stops at the current token. If there is none for a reason already known, that is the fault. -/
def unexpected {α : Type} : Parser α := stop fun c s =>
  match s.token.kind, s.lexer.errors with
  | .eof, d :: rest | .invalid, d :: rest =>
    faultsAt d false c { s with lexer := { s.lexer with errors := rest } }
  | _, _ => faultsAt (faultHere .unexpectedToken s) false c s

/-! ## Tokens -/

def token : Parser Token := reader fun _ s => s.token

/-- Takes what a reader makes of the current token in its place. -/
def relex (f : Nat → Lexer → Token → Token × Lexer) (rereads : Lexer.Rereads f) : Parser Unit where
  run c s :=
    let (t, l) := f c.fuel s.lexer s.token
    .ok () { s with token := t, lexer := l }
  leads {_ c s _ _} h hr := by
    cases hr
    obtain ⟨d, hd, ht⟩ := h.token
    have token := rereads c.fuel d s.lexer s.token ht
    have start := token.start.trans ht.start.symm
    exact ⟨⟨Nat.le_trans h.behind (Nat.le_of_eq start.symm), d, hd, token⟩, Nat.le_refl _,
      Nat.le_of_eq start.symm, id⟩

theorem leads_follow {cs : List Char} {s : State} (h : s.InPlace cs) {t : Token} {l : Lexer}
    (follows : l.Follows s.lexer.cursor t) {errors : List Diagnostic}
    (he : errors = [] → s.errors = []) :
    s.Leads cs { s with token := t, lexer := l, prevStop := s.token.stop, errors := errors } := by
  have stop : s.token.stop ≤ t.start := by
    obtain ⟨d, hd, ht⟩ := h.token
    exact ht.stop ▸ follows.le
  have order := h.token.ordered
  exact ⟨⟨stop, follows.after h.token.reaches⟩, Nat.le_trans h.behind order,
    Nat.le_trans order stop, he⟩

/-- Moves to the token that `next` reads. A keyword may not be written with escapes. -/
def advanceWith (next : Nat → Bool → Lexer → Token × Lexer)
    (follows : ∀ n html l, (next n html l).2.Follows l.cursor (next n html l).1) :
    Parser Unit where
  run c s :=
    let errors := match s.token.kind with
      | .word name (some _) => if isKeyword name then .escapedKeyword :: s.errors else s.errors
      | _ => s.errors
    let (t, l) := next (c.fuel + 1) (!c.kind.module) s.lexer
    .ok () { s with token := t, lexer := l, prevStop := s.token.stop, errors := errors }
  leads h hr := by
    cases hr
    refine leads_follow h (follows ..) ?_
    split
    · split
      · exact nofun
      · exact id
    · exact id

def advance : Parser Unit :=
  advanceWith (fun fuel html l => l.next fuel html false) fun _ _ _ => Lexer.follows_next ..

/-- Moves to the next token among the children of an element. -/
def advanceJsxChild : Parser Unit :=
  advanceWith (fun _ _ l => l.nextJsxChild) fun _ _ _ => Lexer.follows_nextJsxChild _

/-- Moves to the next token, where a string is the value of an attribute. -/
def advanceJsxValue : Parser Unit :=
  advanceWith (fun fuel html l => l.next fuel html true) fun _ _ _ => Lexer.follows_next ..

/-- Moves on from a word that is used as a name. -/
def advanceName : Parser Unit where
  run c s :=
    let (t, l) := s.lexer.next (c.fuel + 1) (!c.kind.module) false
    .ok () { s with token := t, lexer := l, prevStop := s.token.stop }
  leads h hr := by
    cases hr
    exact leads_follow h (Lexer.follows_next ..) id

def at? (p : Punct) : Parser Bool := return (← token).isPunct p

def atWord? (name : String) : Parser Bool := return (← token).isWord name

def newLine? : Parser Bool := return (← token).newLine

/-- Moves past the sign `p` if it is next, and tells so. -/
def eat (p : Punct) : Parser Bool := do
  if ← at? p then advance; return true
  return false

/-- Moves past the word `name` if it is next, and tells so. -/
def eatWord (name : String) : Parser Bool := do
  if ← atWord? name then advance; return true
  return false

/-- Stops because `wanted` is not next. -/
def failExpected {α : Type} (wanted : String) : Parser α := stop fun c s =>
  faultsAt (faultHere (.expected wanted s.token.kind.title) s) true c s

def expectWith (move : Parser Unit) (p : Punct) : Parser Unit := do
  if ← at? p then move else failExpected p.text

def expect (p : Punct) : Parser Unit := expectWith advance p

def expectWord (name : String) : Parser Unit := do
  if ← atWord? name then advance else failExpected name

/-- The token after the current one. -/
def peek : Parser Token := lookahead default do
  advance
  token

/-- The current token is led by a comment that satisfies `p`. -/
def ledBy (p : Comment → Bool) : Parser Bool := do
  let t ← token
  return ((← state).lexer.trivia.settled.takeWhile (·.leads == some t.start)).any p

/-! ## Spans -/

def startPos : Parser Nat := return (← token).start

/-- The span from `start` to the end of the last token. -/
def spanFrom (start : Nat) : Parser Span := return ⟨start, (← state).prevStop⟩

/-! ## Statement ends and lists -/

/-- A statement may end before the current token. -/
def canEndStatement : Parser Bool := do
  let t ← token
  return t.isPunct .semicolon || t.isPunct .rbrace || t.isEof || t.newLine

/-- Ends a statement, by a semicolon or where one may be left out. -/
def endStatement : Parser Unit := do
  if ← canEndStatement then
    let _ ← eat .semicolon
  else fail .missingSemicolon

/-- Items between separators up to `close`, which is left to be read. Also tells whether the last
item is followed by a separator. -/
def delimited {α : Type} (close separator : Punct) (item : Parser α) : Parser (List α × Bool) := do
  let ends : Parser Bool := do
    let t ← token
    return t.isPunct close || t.isEof || t.kind == .invalid
  if ← ends then return ([], false)
  let first ← item
  let (items, trailing) ← loop ([first], false) fun (items, _) => do
    if ← ends then return ((items, false), false)
    let t ← token
    if !t.isPunct separator then
      stop (faultsAt (.expectedInList separator.text close.text t.kind.title) true)
    else
      advance
      if ← at? close then return ((items, true), false)
      return (((← item) :: items, false), true)
  return (items.reverse, trailing)

/-! ## Names -/

/-- Any word, as a name. -/
def identifierName : Parser (Span × String) := do
  let t ← token
  match t.kind with
  | .word name _ =>
    advanceName
    return (⟨t.start, t.stop⟩, name)
  | _ => unexpected

/-- `await` and `yield` are no names where they are operators. -/
def checkName (name : String) : Parser Unit := do
  let c ← scope
  if name == "await" && c.inAsync then report .awaitAsIdentifier
  else if name == "yield" && c.inGenerator then report .yieldAsIdentifier

/-- A name that is bound. -/
def bindingName : Parser (Span × String) := do
  let t ← token
  match t.kind with
  | .word name _ =>
    if isReservedWord name then fail (.reservedWord name)
    checkName name
    advanceName
    return (⟨t.start, t.stop⟩, name)
  | _ => unexpected

/-- A name that refers to a binding. -/
def referenceName : Parser (Span × String) := do
  let t ← token
  match t.kind with
  | .word name _ =>
    if isReservedWord name then unexpected
    checkName name
    advanceName
    return (⟨t.start, t.stop⟩, name)
  | _ => unexpected

/-- A string literal. -/
def stringLiteral : Parser (Span × StringValue) := do
  let t ← token
  match t.kind with
  | .string value =>
    advance
    return (⟨t.start, t.stop⟩, value)
  | _ => unexpected

/-- Types may be written here. -/
def types? : Parser Bool := return (← scope).kind.types

/-- Elements may be written here. -/
def jsx? : Parser Bool := return (← scope).kind.jsx

end Parser

end LivePreview.Script
