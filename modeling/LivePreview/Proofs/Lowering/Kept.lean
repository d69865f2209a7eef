import LivePreview.Proofs.Lowering.Weave

/-!
# The code that is kept

A lowered source is the source with each import and export patched and all other text as it was
(`lower_eq_weave`). No other statement loses its text, and the words of the exports are what is
taken off, exactly when no comment before the `default` of a default export says `default` too
(`lower_keeps_text_iff`).

This is about text. The code need not read as the statements of the source: words that are left over
are no statement (`lower_leaves_default`), and what is left standing of an export can join the
statement in front of it (`lower_joins_lines`).
-/

namespace LivePreview.Module

open Script Text

variable {cs : List Char}

/-! ## Where the patches stand -/

/-- The words of a default export are told to end behind `export` and not behind `default`. -/
def Cuts (cs : List Char) (words : Span → Stmt → Nat) : Prop :=
  ∀ span inner, DefaultAt cs span.start → (behindExport cs span.start).stop ≤ inner.span.start →
    span.start < words span inner ∧ words span inner ≤ (behindExport cs span.start).stop

theorem cuts_wordsFound (cs : List Char) : Cuts cs (wordsFound cs) := fun _ _ words behind =>
  ⟨(wordsFound_spec words behind).1, (wordsFound_spec words behind).2.1⟩

/-- Where the words of a default export end. -/
def wordsMeant (cs : List Char) (span : Span) (_ : Stmt) : Nat := (behindExport cs span.start).stop

theorem cuts_wordsMeant (cs : List Char) : Cuts cs (wordsMeant cs) := by
  intro span inner words behind
  have length : (behindExport cs span.start).stop = (behindExport cs span.start).start + 7 :=
    words.spelled.2
  have ordered := words.ordered
  exact ⟨by rw [wordsMeant]; omega, Nat.le_refl _⟩

variable {around : Surroundings} {words : Span → Stmt → Nat} {lo hi n : Nat} {span : Span}

theorem Patch.Within.part {front back : String} {keep : Nat} (start : span.start < keep)
    (stop : keep ≤ span.stop) : (Patch.mk span front keep back).Within span.start span.stop :=
  ⟨Nat.le_refl _, start, stop, Nat.le_refl _⟩

theorem Patch.Within.whole (text : String) (room : span.start < span.stop) :
    (Patch.whole span text).Within span.start span.stop :=
  .part room (Nat.le_refl _)

theorem within_declaredPatch {inner : Span} (start : span.start < inner.start)
    (stop : inner.start ≤ span.stop) (name : Option String) :
    (declaredPatch around span inner name).Within span.start span.stop := by
  unfold declaredPatch
  split
  · exact .part start stop
  · split
    · exact .part start stop
    · split
      · exact .whole "" (Nat.lt_of_lt_of_le start stop)
      · exact .part start stop

/-- Where the text that an export keeps starts; the words of a default export end at `words`. -/
def keptFrom (words : Span → Stmt → Nat) : Stmt → Nat
  | .exportDecl _ inner => inner.span.start
  | .exportDefault span inner =>
    match inner with
    | .function f => f.span.start
    | .class c => c.span.start
    | .interface declared _ _ _ => declared.start
    | _ => words span inner
  | s => s.span.stop

/-- What stands for a statement stands in its span, if that has text to take off. -/
theorem within_span {s : Stmt} {p : Patch} (start : s.span.start < keptFrom words s)
    (stop : keptFrom words s ≤ s.span.stop) (h : patch? around words n s = some p) :
    p.Within s.span.start s.span.stop := by
  cases s
  case exportDefault span inner =>
    cases h
    cases inner
    case function f => exact within_declaredPatch start stop _
    case «class» c => exact within_declaredPatch start stop _
    all_goals exact .part start stop
  case exportDecl =>
    cases h
    exact .part start stop
  case importDecl | exportNames | exportAll =>
    cases h
    exact .whole _ start
  all_goals cases h

/-- What stands for a statement stands where the statement does. -/
theorem within_patch (cuts : Cuts cs words) {s : Stmt} {p : Patch} (placed : Placed cs lo s hi)
    (h : patch? around words n s = some p) : p.Within lo hi := by
  suffices room : Framed lo s.span hi ∧ s.span.start < keptFrom words s ∧
      keptFrom words s ≤ s.span.stop by
    obtain ⟨framed, start, stop⟩ := room
    exact (within_span start stop h).mono framed.start framed.stop
  cases s
  case exportDefault span inner =>
    obtain ⟨framed, atWords, reach, holds, kind⟩ := placed
    obtain ⟨low, high⟩ := cuts span inner atWords holds.start
    have start : span.start < inner.span.start :=
      Nat.lt_of_lt_of_le low (Nat.le_trans high holds.start)
    refine ⟨framed, ?_⟩
    cases inner
    case function | «class» | interface => exact ⟨start, holds.stop rfl⟩
    case expr => exact ⟨low, Nat.le_trans high reach⟩
    all_goals cases kind
  case exportDecl span inner =>
    obtain ⟨framed, kind, holds⟩ := placed
    have start : span.start < inner.span.start := by
      have := holds.start
      omega
    exact ⟨framed, start, holds.stop kind⟩
  case importDecl span _ _ _ _ _ | exportNames span _ _ _ _ | exportAll span _ _ _ _ =>
    have framed : Framed lo span hi := placed
    have room : span.start < span.stop := by
      have := framed.word
      omega
    exact ⟨framed, room, Nat.le_refl _⟩
  all_goals cases h

theorem patch_eq_none {s : Stmt} (h : s.edited? = none) : patch? around words n s = none := by
  cases s <;> first | rfl | cases h

theorem fits_patches (cuts : Cuts cs words) {statements : List Stmt}
    (laid : Laid cs lo statements) : Fits cs lo (patches around words n statements) := by
  induction statements generalizing lo n with
  | nil => trivial
  | cons s rest ih =>
    obtain ⟨hi, reach, bounded, placed, laid⟩ := laid
    rw [patches]
    cases h : patch? around words n s with
    | none => exact (ih laid).mono reach
    | some p =>
      have within := within_patch cuts placed h
      exact ⟨within.mono (Nat.le_refl _) bounded, (ih laid).mono within.stop⟩

/-- The text of a statement without a patch stays whole. -/
theorem infix_weave_patches (cuts : Cuts cs words) {statements : List Stmt} {s : Stmt}
    (laid : Laid cs hi statements) (le : lo ≤ hi) (mem : s ∈ statements)
    (kind : s.edited? = none) :
    between cs s.span.start s.span.stop <:+: weave cs lo (patches around words n statements) := by
  induction statements generalizing lo hi n with
  | nil => cases mem
  | cons first rest ih =>
    obtain ⟨mid, reach, bounded, placed, laid⟩ := laid
    rw [patches]
    cases mem with
    | head =>
      have stands := (placed_iff kind).1 placed
      rw [patch_eq_none kind]
      exact infix_weave (fits_patches cuts laid) (Nat.le_trans le stands.start) stands.stop bounded
    | tail _ mem =>
      cases h : patch? around words n first with
      | none => exact ih laid (Nat.le_trans le reach) mem
      | some p =>
        have within := within_patch cuts placed h
        exact (ih laid within.stop mem).trans (List.suffix_append ..).isInfix

/-! ## Lowered code -/

/-- The code of a source that keeps all that is not an import or export; the words of its default
exports end at `words`. -/
def codeWith (words : Span → Stmt → Nat) (role : Role) (cs : List Char) (statements : List Stmt) :
    String :=
  let around := Surroundings.of role cs statements
  String.ofList (weave cs 0 (patches around words 0 statements)) ++
    if role = .module then epilogue (gather around statements) else ""

theorem module_ofPath (path : String) : (SourceKind.ofPath path true).module = true := by
  unfold SourceKind.ofPath
  split <;> rfl

/-- What the statements of a source are lowered to. -/
def Lowered.ofStatements (role : Role) (cs : List Char) (statements : List Stmt) : Lowered :=
  let l := gather (.of role cs statements) statements
  { code := String.ofList (Edit.applyAll l.edits cs) ++ if role = .module then epilogue l else ""
    imports := allImports l.imports (requireCalls statements)
    namedExports := l.exports.map (·.1)
    defaultExport := l.defaultExport }

theorem lower_of_parse (role : Role) {path source : String} {program : Program}
    (parsed : parse (.ofPath path true) source = .ok program) :
    lower role path source = .ok (.ofStatements role source.toList program.body.statements) := by
  rw [lower, parsed]
  cases role with
  | entry =>
    rw [Lowered.ofStatements, if_neg nofun, String.append_empty]
    rfl
  | module => rfl

/-- Lowering succeeds with the sources that can be read. -/
theorem lower_eq_ok_iff {role : Role} {path source : String} {lowered : Lowered} :
    lower role path source = .ok lowered ↔
      ∃ program, parse (.ofPath path true) source = .ok program ∧
        lowered = .ofStatements role source.toList program.body.statements := by
  cases parsed : parse (.ofPath path true) source with
  | error faults => simp [lower, parsed]
  | ok program => simp [lower_of_parse role parsed, eq_comm]

/-- The code of a source is its text with the edits of its statements, and for a module the
assignments behind it. -/
theorem lower_eq_applyAll {role : Role} {path source : String} {lowered : Lowered}
    (h : lower role path source = .ok lowered) :
    ∃ program, parse (.ofPath path true) source = .ok program ∧
      let l := gather (.of role source.toList program.body.statements) program.body.statements
      lowered.code = String.ofList (Edit.applyAll l.edits source.toList) ++
        if role = .module then epilogue l else "" := by
  obtain ⟨program, parsed, rfl⟩ := lower_eq_ok_iff.1 h
  exact ⟨program, parsed, rfl⟩

theorem fits_of_parse (role : Role) {path source : String} {program : Program}
    (parsed : parse (.ofPath path true) source = .ok program) :
    Fits source.toList 0 (patches (.of role source.toList program.body.statements)
      (wordsFound source.toList) 0 program.body.statements) :=
  fits_patches (cuts_wordsFound source.toList) (laid_of_parse (module_ofPath path) parsed)

/-- Lowering keeps the text between imports and exports and patches each of them. -/
theorem lower_eq_weave {role : Role} {path source : String} {lowered : Lowered}
    (h : lower role path source = .ok lowered) :
    ∃ program, parse (.ofPath path true) source = .ok program ∧
      lowered.code =
        codeWith (wordsFound source.toList) role source.toList program.body.statements := by
  obtain ⟨program, parsed, code⟩ := lower_eq_applyAll h
  have edits := edits_gather (.of role source.toList program.body.statements)
    program.body.statements {}
  rw [List.nil_append] at edits
  refine ⟨program, parsed, ?_⟩
  rw [code, codeWith, ← applyAll_edits (fits_of_parse role parsed), gather, edits]
  rfl

/-! ## Words taken off too early -/

/-- The statement is the default export of an expression, and a comment between its words says
`default`. -/
def mistaken (cs : List Char) : Stmt → Bool
  | .exportDefault span (.expr _ _) => saysDefault cs span.start
  | _ => false

theorem patch_eq_or {s : Stmt} (placed : Placed cs lo s hi) :
    (patch? around (wordsFound cs) n s = patch? around (wordsMeant cs) n s ∧
      mistaken cs s = false) ∨
    ∃ p q, patch? around (wordsFound cs) n s = some p ∧ patch? around (wordsMeant cs) n s = some q ∧
      p.Keeps q ∧ (p = q ↔ mistaken cs s = false) := by
  cases s
  case exportDefault span inner =>
    obtain ⟨-, words, -, holds, kind⟩ := placed
    cases inner
    case expr value =>
      obtain ⟨-, le, eq⟩ := wordsFound_spec words holds.start
      refine .inr ⟨_, _, rfl, rfl, ⟨rfl, rfl, rfl, le⟩, ?_⟩
      rw [mistaken, ← eq]
      simp [defaultPatch, wordsMeant]
    case function | «class» | interface => exact .inl ⟨rfl, rfl⟩
    all_goals cases kind
  all_goals exact .inl ⟨rfl, rfl⟩

theorem keeps_patches (around : Surroundings) (n : Nat) {statements : List Stmt}
    (laid : Laid cs lo statements) :
    List.Forall₂ Patch.Keeps (patches around (wordsFound cs) n statements)
        (patches around (wordsMeant cs) n statements) ∧
      (patches around (wordsFound cs) n statements = patches around (wordsMeant cs) n statements ↔
        ∀ s ∈ statements, mistaken cs s = false) := by
  induction statements generalizing lo n with
  | nil => exact ⟨.nil, by simp [patches]⟩
  | cons s rest ih =>
    obtain ⟨hi, -, -, placed, laid⟩ := laid
    obtain ⟨keeps, same⟩ := ih (n + (passesOn around.role s).toNat) laid
    rw [List.forall_mem_cons, ← same, patches, patches]
    rcases patch_eq_or placed with ⟨eq, right⟩ | ⟨p, q, hp, hq, patch, eq⟩
    · rw [eq]
      cases patch? around (wordsMeant cs) n s with
      | none => simpa [right] using keeps
      | some p => simpa [right] using ⟨.refl p, keeps⟩
    · rw [hp, hq, ← eq]
      simpa using ⟨patch, keeps⟩

/-- The lowered code keeps the text of every other statement whole, and keeps all text but that of
the imports, the exports and their words, unless a comment between the words of a default export
says `default`. -/
theorem lower_keeps_text_iff {role : Role} {path source : String} {lowered : Lowered}
    (h : lower role path source = .ok lowered) :
    ∃ program, parse (.ofPath path true) source = .ok program ∧
      Laid source.toList 0 program.body.statements ∧
      (∀ s ∈ program.body.statements, s.edited? = none →
        between source.toList s.span.start s.span.stop <:+: lowered.code.toList) ∧
      (lowered.code =
          codeWith (wordsMeant source.toList) role source.toList program.body.statements ↔
        ∀ s ∈ program.body.statements, mistaken source.toList s = false) := by
  obtain ⟨program, parsed, code⟩ := lower_eq_weave h
  have laid := laid_of_parse (module_ofPath path) parsed
  obtain ⟨keeps, same⟩ :=
    keeps_patches (.of role source.toList program.body.statements) 0 laid
  refine ⟨program, parsed, laid, fun s mem kind => ?_, ?_⟩
  · rw [code, codeWith, String.toList_append, String.toList_ofList]
    refine .trans ?_ (List.prefix_append ..).isInfix
    exact infix_weave_patches (cuts_wordsFound _) laid (Nat.le_refl 0) mem kind
  · rw [code, codeWith, codeWith, String.append_left_inj, String.ofList_inj,
      weave_eq_iff keeps (fits_patches (cuts_wordsMeant _) laid), same]

/-- After a comment that says `default` the keyword stays in the code, which is no script. -/
theorem lower_leaves_default :
    ∃ lowered,
      lower .entry "App.jsx" "function App() { return 1; }\nexport /* default */ default App;" =
        .ok lowered ∧
      lowered.code = "function App() { return 1; }\n */ default App;" ∧
      parse (.ofPath "App.jsx" false) lowered.code matches .error _ := by
  obtain ⟨lowered, h, code⟩ := exists_ok
    (x := lower .entry "App.jsx"
      "function App() { return 1; }\nexport /* default */ default App;")
    (p := fun lowered => lowered.code == "function App() { return 1; }\n */ default App;")
    (by decide +kernel)
  have code := eq_of_beq code
  refine ⟨lowered, h, code, ?_⟩
  rw [code]
  decide +kernel

/-- What is left standing of a default export joins the statement in front of it if that ends with
its line: the code calls `make`. -/
theorem lower_joins_lines :
    ∃ program lowered code,
      parse (.ofPath "App.jsx" true) "const App = make\nexport default (App);" = .ok program ∧
      lower .entry "App.jsx" "const App = make\nexport default (App);" = .ok lowered ∧
      lowered.code = "const App = make\n (App);" ∧
      parse (.ofPath "App.jsx" false) lowered.code = .ok code ∧
      program.body.statements.length = 2 ∧ code.body.statements.length = 1 := by
  obtain ⟨program, parsed, two⟩ := exists_ok
    (x := parse (.ofPath "App.jsx" true) "const App = make\nexport default (App);")
    (p := fun program => program.body.statements.length == 2) (by decide +kernel)
  obtain ⟨lowered, h, text⟩ := exists_ok
    (x := lower .entry "App.jsx" "const App = make\nexport default (App);")
    (p := fun lowered => lowered.code == "const App = make\n (App);") (by decide +kernel)
  obtain ⟨code, read, one⟩ := exists_ok
    (x := parse (.ofPath "App.jsx" false) "const App = make\n (App);")
    (p := fun code => code.body.statements.length == 1) (by decide +kernel)
  refine ⟨program, lowered, code, parsed, h, eq_of_beq text, ?_, eq_of_beq two, eq_of_beq one⟩
  rw [eq_of_beq text]
  exact read

end LivePreview.Module
