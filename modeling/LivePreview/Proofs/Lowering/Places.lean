import LivePreview.Proofs.Lowering.Course
import LivePreview.Proofs.Lowering.Frames

/-!
# Where imports and exports stand

One rule for each production of statements, in the order of the grammar: what a declaration yields
stands from its first word on (`Declares`), other statements are no imports or exports (`Other`),
and all of them stand between the tokens before and behind them (`after_anyStatement`).
-/

namespace LivePreview.Script

open Script.Parser

namespace Grammar

variable (g : Grammar) {cs : List Char} {c : Scope} {n : Nat}

/-! ## Declarations -/

/-- What a declaration from `start` on is, once it has ended: no import or export. -/
structure Declares (start n : Nat) (s : Stmt) (stop : Nat) : Prop where
  reach : n ≤ stop
  start : s.span.start = start
  stop : s.span.stop ≤ stop
  kind : s.edited? = none ∧ s.isExpression = false

/-- A span from `start` on that ended, behind `n`. -/
structure Spans (start n : Nat) (span : Span) (stop : Nat) : Prop where
  reach : n ≤ stop
  start : span.start = start
  stop : span.stop ≤ stop

theorem Declares.of_spans {start n stop stop' : Nat} {s : Stmt} (h : Spans start n s.span stop)
    (kind : s.edited? = none ∧ s.isExpression = false) (le : stop ≤ stop') :
    Declares start n s stop' :=
  ⟨Nat.le_trans h.reach le, h.start, Nat.le_trans h.stop le, kind⟩

theorem after_classFrom (start : Nat) (marks : List Expr) (ambient : Bool) :
    After cs c n (classFrom g start marks ambient) fun value => Spans start n value.span := by
  refine .eat (eats_expectWord _) fun _ => ?_
  repeat' first
    | exact .close fun _ h => ⟨h, rfl, Nat.le_refl _⟩
    | refine .bind fun _ => ?_
    | split

theorem past_functionRest (lhs : Parser Expr) (start : Nat) (name : Option (Span × String))
    (place : FunctionPlace) (flags : FunctionFlags) :
    Past cs c n (functionRest g lhs start name place flags)
      fun value => Spans start n value.1.span := by
  refine .bind fun ⟨params, typedThis, body⟩ => ?_
  repeat' first
    | exact .close fun _ h => ⟨h, rfl, Nat.le_refl _⟩
    | exact After.stop.past
    | refine .bind fun _ => ?_
    | split

theorem after_functionFrom (lhs : Parser Expr) (start : Nat) (async : Bool) (place : FunctionPlace)
    (ambient : Bool) :
    After cs c n (functionFrom g lhs start async place ambient)
      fun value => Spans start n value.span := by
  refine .eat (eats_expectWord _) fun _ => .bind fun generator => .bind fun name => ?_
  exact .seq (past_functionRest ..) fun value stop h =>
    .pure fun _ le => ⟨Nat.le_trans h.reach le, h.start, Nat.le_trans h.stop le⟩

theorem past_variableDeclaration (start : Nat) (kind : VarKind) (ambient : Bool) :
    Past cs c n (variableDeclaration g start kind ambient) (Declares start n) :=
  .bind fun _ => .bind fun _ => .close fun _ h => ⟨h, rfl, Nat.le_refl _, rfl, rfl⟩

theorem after_enumFrom (start : Nat) (names : List String) :
    After cs c n (enumFrom g start names) (Declares start n) := by
  refine .eat (eats_expectWord _) fun _ => ?_
  repeat' first
    | exact .close fun _ h => ⟨h, rfl, Nat.le_refl _, rfl, rfl⟩
    | refine .bind fun _ => ?_

theorem after_typeAliasFrom (start : Nat) (names : List String) :
    After cs c n (typeAliasFrom g start names) (Declares start n) := by
  refine .bind fun _ => .eat (eats_expectWord _) fun _ => ?_
  repeat' first
    | exact .close fun _ h => ⟨h, rfl, Nat.le_refl _, rfl, rfl⟩
    | refine .bind fun _ => ?_

theorem after_interfaceFrom (start : Nat) (names : List String) :
    After cs c n (interfaceFrom g start names)
      fun s stop => Declares start n s stop ∧ s.mayBeDefault = true := by
  refine .bind fun _ => .eat (eats_expectWord _) fun _ => ?_
  repeat' first
    | exact .span fun _ h => .bind fun _ => .pure fun _ le =>
        ⟨⟨Nat.le_trans h le, rfl, le, rfl, rfl⟩, rfl⟩
    | refine .bind fun _ => ?_
    | split

theorem after_namespaceFrom (start : Nat) (names : List String) :
    After cs c n (namespaceFrom g start names) (Declares start n) := by
  refine .eat eats_bindingName fun _ => .bind fun _ => .bind fun _ => .bind fun _ => ?_
  exact .span fun _ h => .pure fun _ le => ⟨Nat.le_trans h le, rfl, le, rfl, rfl⟩

theorem after_quotedModule (start : Nat) (declared : Bool) :
    After cs c n (quotedModule g start declared) (Declares start n) := by
  refine .eat eats_stringLiteral fun _ => .bind fun _ => ?_
  split
  · exact .bind fun _ => .close fun _ h => ⟨h, rfl, Nat.le_refl _, rfl, rfl⟩
  · exact .bind fun _ => .close fun _ h => ⟨h, rfl, Nat.le_refl _, rfl, rfl⟩

theorem after_importAlias (start : Nat) (typeOnly : Bool) (name : String) :
    After cs c n (importAlias start typeOnly name) (Declares start n) := by
  refine .eat (eats_expect _) fun _ => ?_
  repeat' first
    | exact .close fun _ h => ⟨h, rfl, Nat.le_refl _, rfl, rfl⟩
    | refine .bind fun _ => ?_
    | split
    | dsimp only

/-- A declaration stands from its first word, the modifiers before it included. -/
theorem after_declaration (start : Nat) (marks : List Expr) (names : List String) :
    After cs c n (declaration g start marks names) (Declares start n) := by
  have checked (s : Stmt) (stop : Nat) (h : Declares start n s stop) (allowed : List String) :
      Past cs c stop (do checkDeclaration names allowed; return s) (Declares start n) :=
    .bind fun _ => .pure fun _ le =>
      ⟨Nat.le_trans h.reach le, h.start, Nat.le_trans h.stop le, h.kind⟩
  refine .bind fun t => ?_
  split
  · exact .seq (after_classFrom ..) fun value stop h =>
      checked (.class value) stop (.of_spans h ⟨rfl, rfl⟩ (Nat.le_refl _)) _
  refine .bind fun _ => .bind fun typed => ?_
  extract_lets kind plain
  have h (u : PUnit) : After cs c n (plain u) (Declares start n) := by
    clear_value kind
    cases kind with
    | some kind =>
      refine .eat eats_advance fun _ => .bind fun _ => .bind fun _ => ?_
      split
      · exact (after_enumFrom ..).past
      · exact .seq (past_variableDeclaration ..) fun s stop h => checked s stop h _
    | none =>
      refine .bind fun _ => ?_
      split
      · refine .bind fun _ => .seq (.within (after_functionFrom ..)) fun value stop h => ?_
        exact checked (.function value) stop (.of_spans h ⟨rfl, rfl⟩ (Nat.le_refl _)) _
      · exact .stop
  split
  · split
    · refine .eat eats_advance fun _ => .bind fun _ => ?_
      split
      · exact (after_quotedModule ..).past
      · exact (after_namespaceFrom ..).past
    refine .bind fun _ => ?_
    split
    · exact .eat eats_advance fun _ => .bind fun _ => .close fun _ h =>
        ⟨h, rfl, Nat.le_refl _, rfl, rfl⟩
    split
    · exact after_typeAliasFrom ..
    split
    · exact after_enumFrom ..
    split
    · exact (after_interfaceFrom ..).imp fun _ _ h => h.1
    split
    · exact .eat eats_advance fun _ => .bind fun _ => (after_importAlias ..).past
    · exact h ()
  · exact h ()

/-! ## Other statements -/

/-- A statement that is no import or export, and stands between `n` and `stop`. -/
structure Other (n : Nat) (s : Stmt) (stop : Nat) : Prop where
  kind : s.edited? = none
  stands : Stands n s.span stop

theorem Other.placed {lo hi : Nat} {s : Stmt} (h : Other lo s hi) : Placed cs lo s hi :=
  (placed_iff h.kind).2 h.stands

theorem Other.reach {lo hi hi' : Nat} {s : Stmt} (h : Other lo s hi) (le : hi ≤ hi') :
    Other lo s hi' :=
  ⟨h.kind, h.stands.mono (Nat.le_refl _) le⟩

theorem Other.of_spans {start m stop : Nat} {s : Stmt} (hs : n ≤ start)
    (h : Spans start m s.span stop) (kind : s.edited? = none) : Other n s stop :=
  ⟨kind, h.start ▸ hs, h.stop⟩

variable {start m : Nat} (hs : n ≤ start)

include hs

theorem other_of_declares {p : Parser Stmt} (h : After cs c m p (Declares start m)) :
    After cs c m p (Other n) :=
  h.imp fun _ _ h => ⟨h.kind.1, h.start ▸ hs, h.stop⟩

theorem after_expressionEnd (value : Expr) : After cs c m (expressionEnd start value) (Other n) :=
  .bind fun _ => .close fun _ => ⟨rfl, hs, Nat.le_refl _⟩

theorem after_variableStatement (kind : VarKind) (place : StmtPlace) :
    After cs c m (variableStatement g start kind place) (Other n) := by
  have declares : After cs c m (variableDeclaration g start kind false) (Other n) :=
    .bind fun _ => .bind fun _ => .close fun _ => ⟨rfl, hs, Nat.le_refl _⟩
  refine .seq declares fun s stop h => ?_
  dsimp only
  split
  · exact .bind fun _ => .pure fun _ => h.reach
  · exact .pure fun _ => h.reach

theorem after_classStatement (marks : List Expr) (place : StmtPlace) :
    After cs c m (classStatement g start marks place) (Other n) := by
  refine .seq (after_classFrom ..) fun value stop h => ?_
  have other : Other n (.class value) stop := .of_spans hs h rfl
  split
  · exact .bind fun _ => .pure fun _ => other.reach
  · exact .pure fun _ => other.reach

theorem after_forRest (awaits : Bool) (init : Option Stmt) :
    After cs c m (forRest g start awaits init) (Other n) := by
  repeat' first
    | exact .close fun _ => ⟨rfl, hs, Nat.le_refl _⟩
    | refine .bind fun _ => ?_
    | split

theorem after_forInRest (awaits : Bool) (left : Stmt) :
    After cs c m (forInRest g start awaits left) (Other n) := by
  repeat' first
    | exact .close fun _ => ⟨rfl, hs, Nat.le_refl _⟩
    | refine .bind fun _ => ?_
    | split

theorem after_forOfRest (awaits : Bool) (left : Stmt) :
    After cs c m (forOfRest g start awaits left) (Other n) := by
  repeat' first
    | exact .close fun _ => ⟨rfl, hs, Nat.le_refl _⟩
    | refine .bind fun _ => ?_

theorem after_forDeclaration (begins : Nat) (awaits : Bool) (kind : VarKind) :
    After cs c m (forDeclaration g start begins awaits kind) (Other n) := by
  repeat' first
    | exact after_forInRest g hs ..
    | exact after_forOfRest g hs ..
    | exact after_forRest g hs ..
    | refine .bind fun _ => ?_
    | split

omit hs

theorem after_block : After cs c n (block g) (Other n) :=
  .start fun _ hs => .bind fun _ => .close fun _ => ⟨rfl, hs, Nat.le_refl _⟩

theorem after_expressionOrLabel : After cs c n (expressionOrLabel g) (Other n) := by
  refine .start fun start hs => .bind fun e => ?_
  split
  · refine .bind fun _ => ?_
    split
    · exact .bind fun _ => .close fun _ => ⟨rfl, hs, Nat.le_refl _⟩
    · exact after_expressionEnd hs _
  · exact after_expressionEnd hs _

theorem after_functionStatement (place : StmtPlace) :
    After cs c n (functionStatement g place) (Other n) := by
  refine .start fun start hs => .bind fun _ => .seq (after_functionFrom ..) fun f stop h => ?_
  have other : Other n (.function f) stop := .of_spans hs h rfl
  repeat' first
    | exact .pure fun _ => other.reach
    | refine .bind fun _ => ?_
    | split

theorem after_letStatement (place : StmtPlace) :
    After cs c n (letStatement g place) (Other n) := by
  refine .start fun start hs => .bind fun _ => ?_
  dsimp only
  split
  · exact .bind fun _ => after_expressionEnd hs _
  · split
    · exact .bind fun _ => after_expressionEnd hs _
    · exact .bind fun _ => after_variableStatement g hs ..

theorem after_constStatement (place : StmtPlace) :
    After cs c n (constStatement g place) (Other n) := by
  refine .start fun start hs => .bind fun _ => .bind fun _ => .bind fun _ => ?_
  split
  · exact other_of_declares hs (after_enumFrom ..)
  · exact after_variableStatement g hs ..

theorem after_usingStatement (hs : n ≤ start) (place : StmtPlace) :
    After cs c n (usingStatement g start place) (Other n) := by
  refine .bind fun kind => ?_
  split
  · exact .bind fun _ => after_variableStatement g hs ..
  · exact after_expressionOrLabel g

theorem after_forStatement : After cs c n (forStatement g) (Other n) := by
  refine .start fun start hs => ?_
  repeat' first
    | exact after_forInRest g hs ..
    | exact after_forOfRest g hs ..
    | exact after_forRest g hs ..
    | exact after_forDeclaration g hs ..
    | refine .bind fun _ => ?_
    | split

theorem after_jump {build : Span → Option String → Stmt}
    (kind : ∀ span label, (build span label).edited? = none)
    (span : ∀ span label, (build span label).span = span) :
    After cs c n (jump build) (Other n) := by
  refine .start fun start hs => ?_
  have other (stop : Nat) (label : Option String) : Other n (build ⟨start, stop⟩ label) stop :=
    ⟨kind .., span .. ▸ ⟨hs, Nat.le_refl _⟩⟩
  repeat' first
    | exact .close fun _ => other ..
    | refine .bind fun _ => ?_
    | split

theorem after_returnStatement : After cs c n (returnStatement g) (Other n) := by
  refine .start fun start hs => ?_
  repeat' first
    | exact .close fun _ => ⟨rfl, hs, Nat.le_refl _⟩
    | refine .bind fun _ => ?_
    | split

theorem after_throwStatement : After cs c n (throwStatement g) (Other n) := by
  refine .start fun start hs => ?_
  repeat' first
    | exact .close fun _ => ⟨rfl, hs, Nat.le_refl _⟩
    | refine .bind fun _ => ?_
    | split

theorem after_switchStatement : After cs c n (switchStatement g) (Other n) := by
  refine .start fun start hs => ?_
  repeat' first
    | exact .close fun _ => ⟨rfl, hs, Nat.le_refl _⟩
    | refine .bind fun _ => ?_

theorem after_tryStatement : After cs c n (tryStatement g) (Other n) := by
  refine .start fun start hs => ?_
  repeat' first
    | exact .close fun _ => ⟨rfl, hs, Nat.le_refl _⟩
    | refine .bind fun _ => ?_
    | split
    | dsimp only

theorem after_whileStatement : After cs c n (whileStatement g) (Other n) :=
  .start fun _ hs => .bind fun _ => .bind fun _ => .bind fun _ =>
    .close fun _ => ⟨rfl, hs, Nat.le_refl _⟩

theorem after_doStatement : After cs c n (doStatement g) (Other n) := by
  refine .start fun start hs => ?_
  repeat' first
    | exact .close fun _ => ⟨rfl, hs, Nat.le_refl _⟩
    | refine .bind fun _ => ?_

theorem after_ifStatement : After cs c n (ifStatement g) (Other n) := by
  refine .start fun start hs => ?_
  repeat' first
    | exact .close fun _ => ⟨rfl, hs, Nat.le_refl _⟩
    | refine .bind fun _ => ?_
    | split

theorem after_withStatement : After cs c n (withStatement g) (Other n) :=
  .start fun _ hs => .bind fun _ => .bind fun _ => .bind fun _ =>
    .close fun _ => ⟨rfl, hs, Nat.le_refl _⟩

theorem after_typedDeclaration : After cs c n (typedDeclaration g) (Other n) :=
  .start fun _ hs => .bind fun _ => other_of_declares hs (after_declaration ..)

/-! ## Imports and exports -/

theorem past_importRest {start : Nat} (hs : n ≤ start) (phase : ImportPhase) (typeOnly : Bool)
    (default : Option (Span × String)) :
    Past cs c (start + 6) (importRest start phase typeOnly default) (Placed cs n) := by
  repeat' first
    | exact .close fun _ h => ⟨hs, h, Nat.le_refl _⟩
    | refine .bind fun _ => ?_
    | split

theorem after_importDeclaration : After cs c n importDeclaration (Placed cs n) := by
  refine .word rfl fun start hs => .bind fun ⟨phase, typeOnly, default⟩ => ?_
  dsimp only
  split
  · refine .bind fun found => ?_
    split
    · refine .seq (other_of_declares hs (after_importAlias ..)).past fun s stop h => ?_
      refine .bind fun _ => ?_
      split
      · exact .bind fun _ => .pure fun _ le => (h.reach le).placed
      · exact .pure fun _ le => (h.reach le).placed
    · exact past_importRest hs ..
  · exact past_importRest hs ..

theorem past_exportedNames {start : Nat} (hs : n ≤ start) (typeOnly : Bool) :
    Past cs c (start + 6) (exportedNames start typeOnly) (Placed cs n) := by
  repeat' first
    | exact .close fun _ h => ⟨hs, h, Nat.le_refl _⟩
    | refine .bind fun _ => ?_
    | split
    | dsimp only

theorem past_exportAll {start : Nat} (hs : n ≤ start) (typeOnly : Bool) :
    Past cs c (start + 6) (exportAll start typeOnly) (Placed cs n) := by
  repeat' first
    | exact .close fun _ h => ⟨hs, h, Nat.le_refl _⟩
    | refine .bind fun _ => ?_
    | split

theorem past_exportedDeclaration {start : Nat} (hs : n ≤ start) (marks : List Expr) :
    Past cs c (start + 6) (exportedDeclaration g start marks) (Placed cs n) := by
  refine .start fun begins hb => .bind fun later => .bind fun names => ?_
  refine .seq (after_declaration ..) fun inner stop h => .bind fun _ => .close fun hi le => ?_
  have reach : begins ≤ hi := Nat.le_trans h.reach le
  refine ⟨⟨hs, Nat.le_trans hb reach, Nat.le_refl _⟩, h.kind.2, ?_, fun _ => ?_⟩
  · rw [h.start]
    exact hb
  · rw [h.start]
    exact reach

/-- What a default export declares stands behind its words. -/
def Defaults (words : Nat) (inner : Stmt) (stop : Nat) : Prop :=
  Holds words inner stop ∧ inner.mayBeDefault = true

theorem after_defaultValue : After cs c n (defaultValue g) (Defaults n) := by
  refine .start fun start hs => .bind fun found => ?_
  split
  · refine .bind fun async => .seq (after_functionFrom ..) fun value stop h => .pure fun _ le => ?_
    exact ⟨.of_start (s := .function value) h.start hs (Nat.le_trans h.reach le), rfl⟩
  · exact .bind fun value => .span fun _ => .bind fun _ => .pure fun _ _ => ⟨⟨hs, nofun⟩, rfl⟩

theorem after_defaultDeclaration (marks : List Expr) :
    After cs c n (defaultDeclaration g marks) (Defaults n) := by
  refine .start fun start hs => .bind fun later => .bind fun t => .bind fun next => ?_
  have declared :
      After cs c start
        (classFrom g start (marks ++ later) false >>= fun value => pure (.class value))
        (Defaults n) :=
    .seq (after_classFrom ..) fun value stop h => .pure fun _ le =>
      ⟨.of_start (s := .class value) h.start hs (Nat.le_trans h.reach le), rfl⟩
  have plain : After cs c start (defaultValue g) (Defaults n) := (after_defaultValue g).mono hs
  dsimp only
  split
  · exact declared
  · refine .bind fun typed => ?_
    split
    · split
      · exact .bind fun _ => declared
      · split
        · exact (after_interfaceFrom ..).imp fun _ _ h =>
            ⟨.of_start h.1.start hs h.1.reach, h.2⟩
        · exact plain
    · exact plain

theorem exportDefault_at {start : Nat} (hs : n ≤ start) (marks : List Expr) :
    At cs c (behindExport cs start) (start + 6) (exportDefault g start marks) (Placed cs n) where
  yields {s t a} h ht hn hr clean := by
    obtain ⟨u, s', hw, hf⟩ := run_bind hr
    obtain ⟨word, moved⟩ := run_expectWord hw
    have place := (expectWord _).leads h hw
    have clean' := (Parser.leads _ place.inPlace hf).errors clean
    have spelled := spells_of_advance h word rfl moved clean'
    have token : DefaultAt cs start := by
      have next := h.token.reaches.eq_drop
      rw [spelled.offset, ← Spells.stop_eq h spelled] at next
      rw [next, ht] at spelled
      exact ⟨ht ▸ Nat.le_trans hn h.behind, spelled⟩
    have reach : (behindExport cs start).stop ≤ s'.prevStop := by
      cases moved
      exact Nat.le_of_eq (congrArg Token.stop ht.symm)
    have words : start + 6 ≤ (behindExport cs start).stop :=
      ht ▸ Nat.le_trans hn (Nat.le_trans h.behind h.token.ordered)
    have rest : Past cs c (behindExport cs start).stop (do
        noteDefault
        let inner ← defaultDeclaration g marks
        return .exportDefault (← spanFrom start) inner) (Placed cs n) := by
      refine .bind fun _ => ?_
      refine .seq (after_defaultDeclaration g marks).past.reach fun inner stop h => ?_
      refine .close fun hi le => ⟨⟨hs, ?_, Nat.le_refl _⟩, ?_, ?_, ?_⟩
      · exact Nat.le_trans words (Nat.le_trans h.1 le)
      · exact token
      · exact Nat.le_trans h.1 le
      · exact ⟨⟨h.2.1.start, fun hk => Nat.le_trans (h.2.1.stop hk) le⟩, h.2.2⟩
    exact rest.yields place.inPlace reach hf clean

theorem exportRest_at {start : Nat} (hs : n ≤ start) (marks : List Expr) :
    At cs c (behindExport cs start) (start + 6) (exportRest g start marks) (Placed cs n) := by
  refine .token ?_
  split
  · exact (past_exportAll hs _).at
  split
  · exact (past_exportedNames hs _).at
  split
  · exact exportDefault_at g hs marks
  refine Past.at (.bind fun typed => ?_)
  have plain : Past cs c (start + 6) (exportedDeclaration g start marks) (Placed cs n) :=
    past_exportedDeclaration g hs marks
  split
  · refine .bind fun next => ?_
    split
    · exact .bind fun _ => .bind fun _ => .bind fun _ => .close fun _ _ => ⟨hs, Nat.le_refl _⟩
    split
    · exact .bind fun _ => .bind fun _ => .bind fun _ => .bind fun _ => .close fun _ _ =>
        ⟨hs, Nat.le_refl _⟩
    split
    · exact .bind fun _ => past_exportedNames hs _
    split
    · exact .bind fun _ => past_exportAll hs _
    · exact plain
  · exact plain

theorem after_exportDeclaration (marks : List Expr) (fuel : c.fuel = cs.length)
    (goal : c.kind.module = true) :
    After cs c n (exportDeclaration g marks) (Placed cs n) where
  yields {s t a} hs hn hr clean := by
    obtain ⟨start, s₀, here, hr⟩ := run_bind hr
    cases here
    obtain ⟨u, s', hw, hf⟩ := run_bind hr
    obtain ⟨word, moved⟩ := run_expectWord hw
    have leads := (expectWord _).leads hs hw
    have clean' := ((exportRest g s.token.start marks).leads leads.inPlace hf).errors clean
    have spelled := spells_of_advance hs word rfl moved clean'
    have place : s.lexer.cursor = ⟨cs.drop (s.token.start + 6), s.token.start + 6⟩ := by
      have eq := hs.token.reaches.eq_drop
      rwa [spelled.offset] at eq
    have token : s'.token = behindExport cs s.token.start := by
      cases moved
      simp only [fuel, goal]
      exact Lexer.next_congr _ _ _ place
    have behind : s.token.start + 6 ≤ s'.prevStop := by
      cases moved
      exact Nat.le_of_eq (Spells.stop_eq hs spelled).symm
    exact (exportRest_at g hn marks).yields leads.inPlace token behind hf clean

theorem after_decoratedStatement (place : StmtPlace) (fuel : c.fuel = cs.length)
    (goal : c.kind.module = true) :
    After cs c n (decoratedStatement g place) (Placed cs n) := by
  refine .start fun start hs => .bind fun marks => .bind fun found => ?_
  split
  · exact (after_exportDeclaration g marks fuel goal).imp fun _ _ h => h.mono hs (Nat.le_refl _)
  repeat' first
    | exact .seq (after_classFrom ..) fun value stop h => .pure fun _ le =>
        ((Other.of_spans (s := .class value) hs h rfl).reach le).placed
    | exact .stop
    | exact .seq (after_classStatement g hs ..) fun s stop h =>
        .bind fun _ => .pure fun _ le => (h.reach le).placed
    | refine .bind fun _ => ?_
    | split

/-- One rule for all statements that are no imports or exports, and one each for what may be. -/
theorem unmarkedStatement_of {Q : Stmt → Nat → Prop} (place : StmtPlace)
    (others : ∀ s stop, Other n s stop → Q s stop)
    (decorated : After cs c n (decoratedStatement g place) Q)
    (exported : After cs c n (exportDeclaration g []) Q)
    (imported : After cs c n importDeclaration Q) :
    After cs c n (unmarkedStatement g place) Q := by
  have other {p : Parser Stmt} (h : After cs c n p (Other n)) : After cs c n p Q := h.imp others
  refine .token fun t hs => ?_
  split
  · exact other (after_block g)
  · exact .bind fun _ => .close fun _ => others _ _ ⟨rfl, hs, Nat.le_refl _⟩
  · exact decorated
  · split
    · exact other (after_ifStatement g)
    · exact other (after_doStatement g)
    · exact other (after_whileStatement g)
    · exact other (after_forStatement g)
    · exact other (after_jump (fun _ _ => rfl) fun _ _ => rfl)
    · exact other (after_jump (fun _ _ => rfl) fun _ _ => rfl)
    · exact other (after_withStatement g)
    · exact other (after_switchStatement g)
    · exact other (after_throwStatement g)
    · exact other (after_tryStatement g)
    · exact .bind fun _ => .bind fun _ => .close fun _ => others _ _ ⟨rfl, hs, Nat.le_refl _⟩
    · exact other (after_classStatement g hs ..)
    · exact exported
    · exact other (after_returnStatement g)
    · exact .bind fun _ => other (after_variableStatement g hs ..)
    · exact other (after_functionStatement ..)
    · split
      · exact other (after_expressionOrLabel g)
      · exact other (after_letStatement ..)
    · refine .bind fun _ => ?_
      split
      · exact other (after_functionStatement ..)
      · exact other (after_expressionOrLabel g)
    · refine .bind fun _ => ?_
      split
      · exact other (after_expressionOrLabel g)
      · exact imported
    · exact other (after_constStatement ..)
    · exact other (after_usingStatement g hs ..)
    · exact other (after_usingStatement g hs ..)
    · repeat' first
        | exact other (after_typedDeclaration g)
        | exact other (after_expressionOrLabel g)
        | refine .bind fun _ => ?_
        | split
  · exact other (after_expressionOrLabel g)

theorem after_unmarkedStatement (place : StmtPlace) (fuel : c.fuel = cs.length)
    (goal : c.kind.module = true) :
    After cs c n (unmarkedStatement g place) (Placed cs n) :=
  unmarkedStatement_of g place (fun _ _ h => h.placed) (after_decoratedStatement g place fuel goal)
    (after_exportDeclaration g [] fuel goal) after_importDeclaration

theorem after_anyStatement (place : StmtPlace) (fuel : c.fuel = cs.length)
    (goal : c.kind.module = true) :
    After cs c n (anyStatement g place) (Placed cs n) := by
  refine .bind fun free => .seq (after_unmarkedStatement g place fuel goal) fun s stop h => ?_
  refine .pure fun stop' le => ?_
  split
  · exact h.markFree.mono (Nat.le_refl _) le
  · exact h.mono (Nat.le_refl _) le

end Grammar

end LivePreview.Script
