import LivePreview.Proofs.Exports.Mounting
import LivePreview.Proofs.Imports.Nodes

/-!
# What a lowered source asks the loader for

The code that stands for imports and exports as lines (`Line`), some of which require a module, and
that lowering puts the texts of these lines into the source (`stands_patches`). A statement requires
one module at most (`requested?`), and what lowering gathers is what its lines require
(`imports_gather`).

`lower_imports`: the imports of a lowered source are what these lines require and what is required
by hand anywhere in the source, save that what a preloaded global serves is listed if it is passed
on.
-/

namespace LivePreview.Module

open Script Text

/-! ## Lines -/

/-- A value in the code that stands for imports and exports. -/
inductive Value where
  /-- The module that the loader has for a specifier. -/
  | required (specifier : String)
  | named (name : String)
  /-- The default export of the module that a variable holds. -/
  | default (holder : String)

namespace Value

def text : Value → String
  | required specifier => requireOf specifier
  | named name => name
  | default m => m ++ " && " ++ m ++ ".__esModule ? " ++ m ++ ".default : " ++ m

def required? : Value → Option String
  | required specifier => some specifier
  | _ => none

end Value

/-- A line of the code that stands for imports and exports. -/
inductive Line where
  | call (specifier : String)
  | bind (name : String) (value : Value)
  /-- Binds members of a value, each under a name. -/
  | unpack (members : List (String × String)) (value : Value)

namespace Line

def text : Line → String
  | call specifier => requireOf specifier ++ ";"
  | bind name value => bindTo name value.text
  | unpack members value =>
    destructure (members.map fun (imported, bound) => entryOf imported bound) value.text

/-- The specifier that the line calls `require` with. -/
def required? : Line → Option String
  | call specifier => some specifier
  | bind _ value | unpack _ value => value.required?

/-- Binds members of a value, if there are any. -/
def unpackAny (members : List (String × String)) (value : Value) : List Line :=
  if members.isEmpty then [] else [unpack members value]

end Line

/-- The lines that stand for an import which binds something. -/
def importStanding (specifier : String) (specifiers : List ImportSpecifier) : List Line :=
  let members := valueNames specifiers
  match defaultName? specifiers, namespaceName? specifiers with
  | none, none => Line.unpackAny members (.required specifier)
  | none, some ns => .bind ns (.required specifier) :: Line.unpackAny members (.named ns)
  | some name, some ns =>
    .bind ns (.required specifier) :: .bind name (.default ns) ::
      Line.unpackAny members (.named ns)
  | some name, none =>
    let held := "__mod_" ++ name ++ "__"
    .bind held (.required specifier) :: .bind name (.default held) ::
      Line.unpackAny members (.named held)

/-- The line that binds a whole preloaded global, unless it has the name already. -/
def globalLine? (global : String) : ImportSpecifier → Option Line
  | .default _ name | .namespace _ name =>
    if name == global then none else some (.bind name (.named global))
  | .named _ _ _ _ => none

/-- The lines that stand for an import from a preloaded global. -/
def builtinStanding (global : String) (specifiers : List ImportSpecifier) : List Line :=
  specifiers.filterMap (globalLine? global) ++
  Line.unpackAny ((valueNames specifiers).filter fun (imported, bound) =>
    !(bound == global || (bound == imported && Globals.hooks.contains bound))) (.named global)

/-- The line that stands for a module that is passed on after `n` others. -/
def passedLine (role : Role) (n : Nat) (specifier : String) : Line :=
  match role with
  | .entry => .call specifier
  | .module => .bind (holder n) (.required specifier)

/-- The lines that stand for a statement after `n` passed-on modules, if it is edited. -/
def standing? (role : Role) (n : Nat) : Stmt → Option (List Line)
  | .importDecl _ _ typeOnly specifiers source _ =>
    if typeOnly then some [] else
    match Globals.builtin? source.text with
    | some global => some (builtinStanding global (specifiers.getD []))
    | none =>
      if (specifiers.getD []).isEmpty then some [.call source.text]
      else some (importStanding source.text (specifiers.getD []))
  | .exportDecl _ _ | .exportDefault _ _ => some []
  | .exportNames _ false _ (some source) _ | .exportAll _ false _ source _ =>
    some [passedLine role n source.text]
  | .exportNames _ _ _ _ _ | .exportAll _ _ _ _ _ => some []
  | _ => none

/-- The lines that stand for the edited statements, behind `n` passed-on modules. -/
def standing (role : Role) : Nat → List Stmt → List (List Line)
  | _, [] => []
  | n, s :: rest =>
    (standing? role n s).toList ++ standing role (n + (passesOn role s).toNat) rest

/-- All lines that stand for statements of a source. -/
def emitted (role : Role) (statements : List Stmt) : List Line :=
  (standing role 0 statements).flatten

/-! ## Requests -/

/-- The specifier is one of a type. -/
def isTypeSpecifier : ImportSpecifier → Bool
  | .named _ _ _ typeOnly => typeOnly
  | _ => false

/-- The statement imports or passes on types alone, or declares a type in which nothing is required
by hand. -/
def isErased : Stmt → Bool
  | .importDecl _ _ typeOnly specifiers _ _ =>
    typeOnly || !(specifiers.getD []).isEmpty && (specifiers.getD []).all isTypeSpecifier
  | .exportNames _ typeOnly _ _ _ | .exportAll _ typeOnly _ _ _ => typeOnly
  | s => (topType? s).isSome && (requireCalls [s]).isEmpty

/-- The module that a statement passes something on from. -/
def passed? : Stmt → Option String
  | .exportNames _ false _ (some source) _ | .exportAll _ false _ source _ => some source.text
  | _ => none

/-- The module that a statement requires. -/
def requested? (s : Stmt) : Option String :=
  match s with
  | .importDecl _ _ _ _ source _ =>
    if isErased s || Globals.isBuiltin source.text then none else some source.text
  | _ => passed? s

/-- The imports of a source with the statements. -/
def importsOf (statements : List Stmt) : List String :=
  allImports (statements.filterMap requested?) (requireCalls statements)

/-! ## The texts of lines -/

theorem map_text_unpackAny (members : List (String × String)) (value : Value) :
    let entries := members.map fun (imported, bound) => entryOf imported bound
    (Line.unpackAny members value).map Line.text =
      if entries.isEmpty then [] else [destructure entries value.text] := by
  intro entries
  rw [Line.unpackAny, List.isEmpty_map]
  split <;> rfl

theorem map_text_importStanding (specifier : String) (specifiers : List ImportSpecifier) :
    (importStanding specifier specifiers).map Line.text = importLines specifier specifiers := by
  unfold importStanding importLines
  cases defaultName? specifiers <;> cases namespaceName? specifiers <;>
    simp [map_text_unpackAny, Line.text, Value.text]

theorem map_text_builtinStanding (global : String) (specifiers : List ImportSpecifier) :
    (builtinStanding global specifiers).map Line.text = builtinLines global specifiers := by
  have members := filterMap_unless
    (fun (imported, bound) =>
      bound == global || (bound == imported && Globals.hooks.contains bound))
    (fun (imported, bound) => entryOf imported bound) (valueNames specifiers)
  rw [builtinStanding, List.map_append, map_text_unpackAny, ← members, List.map_filterMap]
  unfold builtinLines
  congr 2
  funext s
  cases s with
  | named => rfl
  | default span name | «namespace» span name =>
    by_cases same : name = global
    · simp [globalLine?, same]
    · simp [globalLine?, same, Line.text, Value.text]

/-! ## What is required -/

theorem required_unpackAny (members : List (String × String)) (value : Value) :
    (Line.unpackAny members value).filterMap Line.required? =
      if members.isEmpty then [] else value.required?.toList := by
  rw [Line.unpackAny]
  split
  · rfl
  · cases h : value.required? <;> simp [Line.required?, h]

/-- An import has specifiers of types alone if it binds nothing. -/
theorem all_isTypeSpecifier_iff {specifiers : List ImportSpecifier} :
    specifiers.all isTypeSpecifier = true ↔ defaultName? specifiers = none ∧
      namespaceName? specifiers = none ∧ valueNames specifiers = [] := by
  simp only [defaultName?, namespaceName?, valueNames, List.getLast?_eq_none_iff,
    List.filterMap_eq_nil_iff, List.all_eq_true]
  constructor
  · intro types
    refine ⟨fun s hs => ?_, fun s hs => ?_, fun s hs => ?_⟩
    all_goals
      have type := types s hs
      cases s <;> simp_all [isTypeSpecifier]
  · rintro ⟨default, «namespace», named⟩ s hs
    cases s with
    | default => cases default _ hs
    | «namespace» => cases «namespace» _ hs
    | named span imported name typeOnly => simpa [isTypeSpecifier] using named _ hs

/-- The lines of an import require its module once, and not at all if they bind nothing. -/
theorem required_importStanding (specifier : String) (specifiers : List ImportSpecifier) :
    (importStanding specifier specifiers).filterMap Line.required? =
      if specifiers.all isTypeSpecifier then [] else [specifier] := by
  unfold importStanding
  simp only [all_isTypeSpecifier_iff]
  cases defaultName? specifiers <;> cases namespaceName? specifiers <;>
    simp [required_unpackAny, List.filterMap_cons, Line.required?, Value.required?]

theorem required_builtinStanding (global : String) (specifiers : List ImportSpecifier) :
    (builtinStanding global specifiers).filterMap Line.required? = [] := by
  have whole : ∀ s ∈ specifiers, (globalLine? global s).bind Line.required? = none := by
    intro s _
    cases s with
    | named => rfl
    | default span name | «namespace» span name =>
      by_cases same : name = global
      · simp [globalLine?, same]
      · simp [globalLine?, same, Line.required?, Value.required?]
  rw [builtinStanding, List.filterMap_append, required_unpackAny, List.filterMap_filterMap]
  simp only [Value.required?, Option.toList_none, ite_self, List.append_nil]
  exact List.filterMap_eq_nil_iff.2 whole

/-- The lines that stand for a statement require what the statement requests. -/
theorem required_standing? (role : Role) (n : Nat) (s : Stmt) :
    ((standing? role n s).getD []).filterMap Line.required? = (requested? s).toList := by
  have passed (specifier : String) : [passedLine role n specifier].filterMap Line.required? =
      [specifier] := by cases role <;> rfl
  cases s
  case importDecl span phase typeOnly specifiers source attributes =>
    cases typeOnly with
    | true => rfl
    | false =>
      cases builtin : Globals.builtin? source.text with
      | some global =>
        simp [standing?, requested?, Globals.isBuiltin, builtin, required_builtinStanding]
      | none =>
        cases empty : (specifiers.getD []).isEmpty with
        | true =>
          simp [standing?, requested?, isErased, Globals.isBuiltin, builtin, empty, Line.required?]
        | false =>
          rw [standing?, builtin, empty]
          simp only [Bool.false_eq_true, if_false, Option.getD_some, required_importStanding]
          cases types : (specifiers.getD []).all isTypeSpecifier <;>
            simp [requested?, isErased, Globals.isBuiltin, builtin, empty, types]
  case exportNames span typeOnly specifiers source attributes =>
    cases typeOnly <;> cases source <;> first | rfl | exact passed _
  case exportAll span typeOnly name source attributes =>
    cases typeOnly <;> first | rfl | exact passed _
  all_goals rfl

/-- All lines that stand for statements require what the statements request. -/
theorem required_standing (role : Role) (n : Nat) (statements : List Stmt) :
    (standing role n statements).flatten.filterMap Line.required? =
      statements.filterMap requested? := by
  induction statements generalizing n with
  | nil => rfl
  | cons s rest ih =>
    have here : (standing? role n s).toList.flatten = (standing? role n s).getD [] := by
      cases standing? role n s <;> simp
    rw [standing, List.flatten_append, List.filterMap_append, ih, here, required_standing?,
      List.filterMap_cons]
    cases requested? s <;> rfl

/-! ## What is gathered -/

theorem imports_foldl {α : Type} {f : Lowering → α → Lowering}
    (same : ∀ l a, (f l a).imports = l.imports) (items : List α) (l : Lowering) :
    (items.foldl f l).imports = l.imports := by
  induction items generalizing l with
  | nil => rfl
  | cons a rest ih => rw [List.foldl_cons, ih, same]

theorem importLines_eq_nil_iff {specifier : String} {specifiers : List ImportSpecifier} :
    importLines specifier specifiers = [] ↔ specifiers.all isTypeSpecifier = true := by
  rw [← map_text_importStanding, List.map_eq_nil_iff, all_isTypeSpecifier_iff, importStanding]
  cases defaultName? specifiers <;> cases namespaceName? specifiers <;> simp [Line.unpackAny]

theorem imports_lowerImport (l : Lowering) (span : Span) (phase : ImportPhase) (typeOnly : Bool)
    (specifiers : Option (List ImportSpecifier)) (source : StringValue)
    (attributes : Option (String × List (ModuleName × StringValue))) :
    (lowerImport l span typeOnly specifiers source.text).imports = l.imports ++
      (requested? (.importDecl span phase typeOnly specifiers source attributes)).toList := by
  cases typeOnly with
  | true => exact (List.append_nil _).symm
  | false =>
    cases builtin : Globals.builtin? source.text with
    | some global =>
      simp [lowerImport, builtin, requested?, Globals.isBuiltin, Lowering.replace]
    | none =>
      cases empty : (specifiers.getD []).isEmpty with
      | true =>
        simp [lowerImport, builtin, empty, requested?, isErased, Globals.isBuiltin,
          Lowering.replace, Lowering.request]
      | false =>
        cases types : (specifiers.getD []).all isTypeSpecifier with
        | true =>
          simp [lowerImport, builtin, empty, requested?, isErased, types,
            importLines_eq_nil_iff.2 types, Lowering.remove, Lowering.replace]
        | false =>
          have bound : (importLines source.text (specifiers.getD [])).isEmpty = false := by
            rw [List.isEmpty_eq_false_iff, Ne, importLines_eq_nil_iff, types]
            exact Bool.false_ne_true
          simp [lowerImport, builtin, empty, bound, requested?, isErased, types, Globals.isBuiltin,
            Lowering.replace, Lowering.request]

theorem imports_lowerDefault (around : Surroundings) (l : Lowering) (span : Span) (inner : Stmt) :
    (lowerDefault around l span inner).imports = l.imports := by
  have declared : ∀ (at' : Span) (name : Option String),
      (lowerDefaultDeclaration around l span at' name).imports = l.imports := by
    intro at' name
    unfold lowerDefaultDeclaration
    split
    · rfl
    · rfl
    · dsimp only
      split <;> rfl
    · split <;> rfl
  cases inner
  case function f => exact declared f.span f.name?
  case «class» c => exact declared c.span c.name?
  all_goals rfl

theorem imports_lowerExportDecl (around : Surroundings) (l : Lowering) (span : Span)
    (inner : Stmt) : (lowerExportDecl around l span inner).imports = l.imports := by
  unfold lowerExportDecl
  dsimp only
  split
  · refine imports_foldl (fun l name => ?_) _ _
    rfl
  · rfl

theorem imports_lowerExportNames (around : Surroundings) (l : Lowering) (span : Span)
    (typeOnly : Bool) (specifiers : List ExportSpecifier) (source : Option StringValue)
    (attributes : Option (String × List (ModuleName × StringValue))) :
    (lowerExportNames around l span typeOnly specifiers source).imports = l.imports ++
      (requested? (.exportNames span typeOnly specifiers source attributes)).toList := by
  rcases around with ⟨role, text, declaresApp, types⟩
  cases typeOnly with
  | true => exact (List.append_nil _).symm
  | false =>
    cases role with
    | entry =>
      cases source with
      | none => exact (List.append_nil _).symm
      | some source => rfl
    | module =>
      cases source with
      | none =>
        refine (imports_foldl (fun l s => ?_) _ _).trans (List.append_nil _).symm
        split <;> rfl
      | some source =>
        refine imports_foldl (fun l s => ?_) _ _
        rfl

/-- What lowering a statement requests. -/
theorem imports_lowerStatement (around : Surroundings) (l : Lowering) (s : Stmt) :
    (lowerStatement around l s).imports = l.imports ++ (requested? s).toList := by
  cases s
  case importDecl => exact imports_lowerImport ..
  case exportDefault span inner =>
    exact (imports_lowerDefault around l span inner).trans (List.append_nil _).symm
  case exportDecl span inner =>
    exact (imports_lowerExportDecl around l span inner).trans (List.append_nil _).symm
  case exportNames => exact imports_lowerExportNames ..
  case exportAll span typeOnly name source attributes =>
    rcases around with ⟨role, text, declaresApp, types⟩
    cases typeOnly <;> cases role <;> cases name <;> first | rfl | exact (List.append_nil _).symm
  all_goals exact (List.append_nil _).symm

/-- What lowering the statements of a source requests. -/
theorem imports_gather (around : Surroundings) (statements : List Stmt) (l : Lowering) :
    (statements.foldl (lowerStatement around) l).imports =
      l.imports ++ statements.filterMap requested? := by
  induction statements generalizing l with
  | nil => exact (List.append_nil _).symm
  | cons s rest ih =>
    rw [List.foldl_cons, ih, imports_lowerStatement, List.append_assoc, List.filterMap_cons]
    cases requested? s <;> rfl

theorem mem_allImports {declared called : List String} {specifier : String} :
    specifier ∈ allImports declared called ↔
      specifier ∈ declared ∨ Globals.isBuiltin specifier = false ∧ specifier ∈ called := by
  induction called generalizing declared with
  | nil => simp [allImports]
  | cons first rest ih =>
    rw [allImports, List.foldl_cons, ← allImports, ih, List.mem_cons]
    split
    next passed =>
      rw [Bool.or_eq_true, List.contains_iff_mem] at passed
      constructor
      · rintro (there | ⟨other, there⟩)
        · exact .inl there
        · exact .inr ⟨other, .inr there⟩
      · rintro (there | ⟨other, rfl | there⟩)
        · exact .inl there
        · rcases passed with builtin | there
          · rw [builtin] at other
            cases other
          · exact .inl there
        · exact .inr ⟨other, there⟩
    next new =>
      rw [Bool.or_eq_true, not_or, Bool.not_eq_true] at new
      rw [List.mem_append, List.mem_singleton]
      constructor
      · rintro ((there | rfl) | ⟨other, there⟩)
        · exact .inl there
        · exact .inr ⟨new.1, .inl rfl⟩
        · exact .inr ⟨other, .inr there⟩
      · rintro (there | ⟨other, rfl | there⟩)
        · exact .inl (.inl there)
        · exact .inl (.inr rfl)
        · exact .inr ⟨other, there⟩

/-- What the statements of a source are lowered to imports what they request and require. -/
theorem imports_lower (role : Role) {path source : String} {program : Program}
    (parsed : parse (.ofPath path true) source = .ok program) :
    ∃ lowered, lower role path source = .ok lowered ∧
      lowered.imports = importsOf program.body.statements := by
  have gathered := imports_gather (.of role source.toList program.body.statements)
    program.body.statements {}
  rw [List.nil_append] at gathered
  refine ⟨_, lower_of_parse role parsed, ?_⟩
  rw [importsOf, ← gathered]
  rfl

/-! ## Erased statements -/

theorem requireCalls_cons (s : Stmt) (rest : List Stmt) :
    requireCalls (s :: rest) = requireCalls [s] ++ requireCalls rest := by
  simp [requireCalls, Stmt.listExpressions]

/-- A statement of types alone calls nothing and requests nothing. -/
theorem nothing_of_isErased {s : Stmt} (h : isErased s = true) :
    requireCalls [s] = [] ∧ requested? s = none := by
  have declared (type : ((topType? s).isSome && (requireCalls [s]).isEmpty) = true) :
      requireCalls [s] = [] :=
    List.isEmpty_iff.1 (Bool.and_eq_true_iff.1 type).2
  cases s
  case importDecl => exact ⟨rfl, by rw [requested?, h, Bool.true_or, if_pos rfl]⟩
  case exportNames span typeOnly specifiers source attributes =>
    obtain rfl : typeOnly = true := h
    exact ⟨rfl, rfl⟩
  case exportAll span typeOnly name source attributes =>
    obtain rfl : typeOnly = true := h
    exact ⟨rfl, rfl⟩
  all_goals exact ⟨declared h, rfl⟩

/-- Statements of types alone contribute nothing. -/
theorem importsOf_filter (statements : List Stmt) :
    importsOf (statements.filter (!isErased ·)) = importsOf statements := by
  have both :
      (statements.filter (!isErased ·)).filterMap requested? = statements.filterMap requested? ∧
        requireCalls (statements.filter (!isErased ·)) = requireCalls statements := by
    induction statements with
    | nil => exact ⟨rfl, rfl⟩
    | cons s rest ih =>
      obtain ⟨requests, calls⟩ := ih
      cases erased : isErased s with
      | true =>
        obtain ⟨silent, nothing⟩ := nothing_of_isErased erased
        simp [erased, nothing, requests, calls, requireCalls_cons s rest, silent]
      | false =>
        simp [erased, requests, calls, requireCalls_cons s rest,
          requireCalls_cons s (rest.filter _), List.filterMap_cons]
  rw [importsOf, importsOf, both.1, both.2]

/-! ## The text of a lowered source -/

/-- The lines stand in the patch: they are all of it, or the patch puts an assignment around what it
keeps and requires nothing. -/
inductive StandsIn : List Line → Patch → Prop
  | whole (lines : List Line) (span : Span) :
      StandsIn lines (.whole span ("\n".intercalate (lines.map Line.text)))
  | around {p : Patch}
      (front : p.front ∈ ["", "exports.default =", "exports.default = ", "var App =", "var App = "])
      (back : p.back ∈ ["", ";"] ∨ ∃ name, p.back = "\nvar App = " ++ name ++ ";") :
      StandsIn [] p

theorem standsIn_declaredPatch (around : Surroundings) (span inner : Span) (name : Option String) :
    StandsIn [] (declaredPatch around span inner name) := by
  cases name with
  | some name =>
    refine .around (by simp [declaredPatch]) ?_
    dsimp only [declaredPatch]
    split
    · exact .inr ⟨name, rfl⟩
    · exact .inl (by simp)
  | none =>
    rw [declaredPatch]
    cases around.role with
    | module => exact .around (by simp) (by simp)
    | entry =>
      cases around.declaresApp with
      | true => exact .whole [] span
      | false => exact .around (by simp) (by simp)

/-- The text of an import is that of the lines that stand for it. -/
theorem importText_eq (role : Role) (n : Nat) (span : Span) (phase : ImportPhase) (typeOnly : Bool)
    (specifiers : Option (List ImportSpecifier)) (source : StringValue)
    (attributes : Option (String × List (ModuleName × StringValue))) :
    ∃ lines,
      standing? role n (.importDecl span phase typeOnly specifiers source attributes) =
        some lines ∧
      importText typeOnly (specifiers.getD []) source.text =
        "\n".intercalate (lines.map Line.text) := by
  rw [standing?, importText]
  cases typeOnly with
  | true => exact ⟨[], rfl, rfl⟩
  | false =>
    rw [if_neg Bool.false_ne_true, if_neg Bool.false_ne_true]
    cases Globals.builtin? source.text with
    | some global =>
      refine ⟨builtinStanding global (specifiers.getD []), rfl, ?_⟩
      rw [map_text_builtinStanding]
    | none =>
      cases empty : (specifiers.getD []).isEmpty with
      | true => exact ⟨[.call source.text], rfl, rfl⟩
      | false =>
        refine ⟨importStanding source.text (specifiers.getD []), rfl, ?_⟩
        rw [map_text_importStanding]
        rfl

/-- The lines that stand for a statement stand in its patch. -/
theorem standsIn_patch? (around : Surroundings) (words : Span → Stmt → Nat) (n : Nat) (s : Stmt) :
    Option.Rel StandsIn (standing? around.role n s) (patch? around words n s) := by
  have removed (span : Span) : Option.Rel StandsIn (some []) (some (.whole span "")) :=
    .some (.whole [] span)
  have passed (span : Span) (specifier : String) :
      Option.Rel StandsIn (some [passedLine around.role n specifier])
        (some (.whole span (passedText around.role n specifier))) := by
    have text : passedText around.role n specifier =
        "\n".intercalate ([passedLine around.role n specifier].map Line.text) := by
      cases around.role <;> rfl
    rw [text]
    exact .some (.whole _ span)
  cases s
  case importDecl span phase typeOnly specifiers source attributes =>
    obtain ⟨lines, standing, text⟩ :=
      importText_eq around.role n span phase typeOnly specifiers source attributes
    rw [standing, patch?, text]
    exact .some (.whole lines span)
  case exportDecl => exact .some (.around (.head _) (.inl (.head _)))
  case exportDefault span inner =>
    cases inner
    case function f => exact .some (standsIn_declaredPatch around span f.span f.name?)
    case «class» c => exact .some (standsIn_declaredPatch around span c.span c.name?)
    case interface => exact .some (.around (.head _) (.inl (.head _)))
    all_goals
      refine .some (.around ?_ (by simp [defaultPatch]))
      dsimp only [defaultPatch]
      cases around.role with
      | module => simp
      | entry => cases around.declaresApp <;> simp
  case exportNames span typeOnly specifiers source attributes =>
    cases typeOnly with
    | true => exact removed span
    | false =>
      cases source with
      | none => exact removed span
      | some source => exact passed span source.text
  case exportAll span typeOnly name source attributes =>
    cases typeOnly with
    | true => exact removed span
    | false => exact passed span source.text
  all_goals exact .none

/-- The lines that stand for statements stand in their patches. -/
theorem standsIn_patches (around : Surroundings) (words : Span → Stmt → Nat) (n : Nat)
    (statements : List Stmt) :
    List.Forall₂ StandsIn (standing around.role n statements)
      (patches around words n statements) := by
  induction statements generalizing n with
  | nil => exact .nil
  | cons s rest ih =>
    have later := ih (n + (passesOn around.role s).toNat)
    rw [standing, patches]
    have here := standsIn_patch? around words n s
    generalize standing? around.role n s = lines at here
    generalize patch? around words n s = patch at here
    cases here with
    | none => exact later
    | some here => exact .cons here later

/-! ## Main statement -/

theorem mem_importsOf {statements : List Stmt} {specifier : String} :
    specifier ∈ importsOf statements ↔ (∃ s ∈ statements, requested? s = some specifier) ∨
      Globals.isBuiltin specifier = false ∧ ∃ s ∈ statements, Requires (.stmt s) specifier := by
  rw [importsOf, mem_allImports, List.mem_filterMap, mem_requireCalls_iff]

/-- What the lines that stand for statements require is what the statements request. -/
theorem exists_line_iff {role : Role} {statements : List Stmt} {specifier : String} :
    (∃ line ∈ emitted role statements, line.required? = some specifier) ↔
      ∃ s ∈ statements, requested? s = some specifier := by
  rw [← List.mem_filterMap, ← List.mem_filterMap, emitted, required_standing]

theorem requested?_of_passed? {s : Stmt} {specifier : String} (h : passed? s = some specifier) :
    requested? s = some specifier := by
  cases s
  case importDecl => cases h
  all_goals exact h

/-- What a statement requests is no builtin, unless it is passed on. -/
theorem builtin_of_requested? {s : Stmt} {specifier : String} (h : requested? s = some specifier) :
    Globals.isBuiltin specifier = false ∨ passed? s = some specifier := by
  cases s
  case importDecl =>
    obtain ⟨needed, same⟩ := Option.ite_none_left_eq_some.1 h
    rw [Bool.or_eq_true, not_or, Option.some.inj same] at needed
    exact .inl (Bool.eq_false_iff.2 needed.2)
  all_goals exact .inr h

/-- No import is a builtin if and only if none is passed on. -/
theorem importsOf_unpreloaded_iff {statements : List Stmt} :
    (∀ specifier ∈ importsOf statements, Globals.isBuiltin specifier = false) ↔
      ∀ s ∈ statements, ∀ specifier, passed? s = some specifier →
        Globals.isBuiltin specifier = false := by
  constructor
  · intro none s hs specifier passed
    exact none specifier (mem_importsOf.2 (.inl ⟨s, hs, requested?_of_passed? passed⟩))
  · intro none specifier mem
    rcases mem_importsOf.1 mem with ⟨s, hs, requested⟩ | ⟨other, -⟩
    · rcases builtin_of_requested? requested with other | passed
      · exact other
      · exact none s hs specifier passed
    · exact other

/-- The imports of a lowered source are what the lines that lowering puts into it require, and what
else is required by hand anywhere in the source, inside its types too, and no preloaded global
serves. None of them is served by one if and only if no statement passes on such a package. They are
the same without the statements of types alone. The code is the source with the texts of the lines
in their places, and the assignments of a module behind it. -/
theorem lower_imports {role : Role} {path source : String} {program : Program}
    (parsed : parse (.ofPath path true) source = .ok program) :
    let statements := program.body.statements
    ∃ lowered, lower role path source = .ok lowered ∧
      (∀ specifier, specifier ∈ lowered.imports ↔
        (∃ line ∈ emitted role statements, line.required? = some specifier) ∨
          Globals.isBuiltin specifier = false ∧
            ∃ s ∈ statements, Requires (.stmt s) specifier) ∧
      ((∀ specifier ∈ lowered.imports, Globals.isBuiltin specifier = false) ↔
        ∀ s ∈ statements, ∀ specifier, passed? s = some specifier →
          Globals.isBuiltin specifier = false) ∧
      lowered.imports = importsOf (statements.filter (!isErased ·)) ∧
      ∃ ps, List.Forall₂ StandsIn (standing role 0 statements) ps ∧
        lowered.code = String.ofList (weave source.toList 0 ps) ++
          if role = .module then appended statements else "" := by
  intro statements
  obtain ⟨lowered, lowers, imports⟩ := imports_lower role parsed
  obtain ⟨program', parsed', code⟩ := lower_eq_weave lowers
  cases parsed.symm.trans parsed'
  have stands :=
    standsIn_patches (.of role source.toList statements) (wordsFound source.toList) 0 statements
  refine ⟨lowered, lowers, fun specifier => ?_, ?_, ?_, _, stands, ?_⟩
  · rw [imports, mem_importsOf, exists_line_iff]
  · rw [imports]
    exact importsOf_unpreloaded_iff
  · rw [imports, importsOf_filter]
  · rw [code, codeWith]
    cases role with
    | entry => rfl
    | module => rw [epilogue_gather]

/-- A package that a preloaded global serves is an import where it is passed on. -/
theorem lower_imports_builtin :
    ∃ lowered, lower .module "m.js" "export \x7b useState \x7d from 'react';" = .ok lowered ∧
      lowered.imports = ["react"] ∧ Globals.isBuiltin "react" = true := by
  obtain ⟨lowered, lowers, imports⟩ := exists_ok
    (x := lower .module "m.js" "export \x7b useState \x7d from 'react';")
    (p := fun l => l.imports == ["react"]) (by decide +kernel)
  exact ⟨lowered, lowers, eq_of_beq imports, by decide⟩

/-- Calls inside a function and inside a type are found, and what is imported for types alone is
left out. -/
theorem lower_imports_nested :
    let source := "import type \x7b C \x7d from './c';\n" ++
      "let f: \x7b [require('./e')]: C \x7d = () => [require('./d')];"
    ∃ program lowered, parse (.ofPath "m.ts" true) source = .ok program ∧
      lower .module "m.ts" source = .ok lowered ∧ lowered.imports = ["./e", "./d"] ∧
      ∀ specifier ∈ lowered.imports, ∃ s ∈ program.body.statements,
        Requires (.stmt s) specifier := by
  intro source
  obtain ⟨program, parsed, silent⟩ := exists_ok (x := parse (.ofPath "m.ts" true) source)
    (p := fun program => (program.body.statements.filterMap requested?).isEmpty) (by decide +kernel)
  obtain ⟨lowered, lowers, which, -⟩ := @lower_imports .module _ _ _ parsed
  obtain ⟨lowered', lowers', imports⟩ := exists_ok (x := lower .module "m.ts" source)
    (p := fun l => l.imports == ["./e", "./d"]) (by decide +kernel)
  cases lowers.symm.trans lowers'
  refine ⟨program, lowered, parsed, lowers, eq_of_beq imports, fun specifier mem => ?_⟩
  rcases (which specifier).1 mem with emitted | ⟨-, byHand⟩
  · obtain ⟨s, hs, requested⟩ := exists_line_iff.1 emitted
    have mem := List.mem_filterMap.2 ⟨s, hs, requested⟩
    rw [List.isEmpty_iff.1 silent] at mem
    cases mem
  · exact byHand

end LivePreview.Module
