import LivePreview.Proofs.Exports.Assignments
import LivePreview.Script.Declared
import LivePreview.Script.Plain.Tree

/-!
# Values that are kept

Which names the statements of a module make values (`made`), and that what makes them is still in
its lowered code (`stays_of_makes`): the declaration with its text, the line that binds a name of an
import, or the line that holds a module that is passed on. Names that the preview binds itself are
left to it.
-/

namespace LivePreview.Script

/-- The values that a declaration declares; what is only declared to be there is none of them. -/
def Stmt.values : Stmt → List String
  | .declare _ _ ds ambient => if ambient then [] else Declarator.listNames ds
  | .function (.mk _ name flags _ _ _ _) =>
    if flags.ambient then [] else (name.map (·.2)).toList
  | .class (.mk _ _ name _ _ _ _ ambient) => if ambient then [] else (name.map (·.2)).toList
  | .enum _ name _ ambient => if ambient then [] else [name]
  | .namespace _ name body ambient =>
    if !ambient && (body.map Body.isFilled).getD true then [name] else []
  | _ => []

mutual

/-- The variables that the statements inside a statement make for the function around. -/
def Stmt.vars : Stmt → List String
  | .declare _ .var ds ambient => if ambient then [] else Declarator.listNames ds
  | .block _ body => Stmt.listVars body
  | .ifElse _ _ yes no => yes.vars ++ Stmt.optionVars no
  | .forLoop _ init _ _ body => Stmt.optionVars init ++ body.vars
  | .forIn _ left _ body | .forOf _ _ left _ body => left.vars ++ body.vars
  | .whileLoop _ _ body | .doWhile _ body _ | .with _ _ body | .labeled _ _ body => body.vars
  | .switch _ _ cases => SwitchCase.listVars cases
  | .tryCatch _ block handler finalizer =>
    block.vars
      ++ (match handler with
        | none => []
        | some (.mk _ _ _ body) => body.vars)
      ++ Stmt.optionVars finalizer
  | _ => []

def Stmt.optionVars : Option Stmt → List String
  | none => []
  | some s => s.vars

def Stmt.listVars : List Stmt → List String
  | [] => []
  | s :: ss => s.vars ++ Stmt.listVars ss

def SwitchCase.listVars : List SwitchCase → List String
  | [] => []
  | .mk _ _ body :: cs => Stmt.listVars body ++ SwitchCase.listVars cs

end

/-- The names that a statement makes values where it stands. -/
def Stmt.made : Stmt → List String
  | .function f => if f.hasBody then (Stmt.function f).values else []
  | .importAlias _ name typeOnly _ _ => if typeOnly then [] else [name]
  | .labeled _ _ inner => inner.made
  | s => s.values ++ s.vars

theorem Function.name?_of_made {f : Function} {name : String} (h : name ∈ (Stmt.function f).made) :
    f.name? = some name := by
  obtain ⟨span, named, flags, types, params, result, body⟩ := f
  rw [Stmt.made] at h
  split at h
  · rw [Stmt.values] at h
    split at h
    · cases h
    · exact Option.mem_toList.1 h
  · cases h

theorem Class.name?_of_made {c : Class} {name : String} (h : name ∈ (Stmt.class c).made) :
    c.name? = some name := by
  replace h : name ∈ (Stmt.class c).values :=
    (List.mem_append.1 h).resolve_right (List.not_mem_nil)
  cases c
  rw [Stmt.values] at h
  split at h
  · cases h
  · exact Option.mem_toList.1 h

end LivePreview.Script

namespace LivePreview.Module

open Script Text

/-- The names that an import binds to values. -/
def boundNames (specifiers : List ImportSpecifier) : List String :=
  (defaultName? specifiers).toList ++ (namespaceName? specifiers).toList
    ++ (valueNames specifiers).map (·.2)

/-- The names that a statement of a module makes values, if `n` modules are passed on before it. -/
def makes (n : Nat) : Stmt → List String
  | .importDecl _ _ typeOnly specifiers _ _ =>
    if typeOnly then [] else boundNames (specifiers.getD [])
  | .exportNames _ false _ (some _) _ | .exportAll _ false _ _ _ => [holder n]
  | .exportNames _ _ _ _ _ | .exportAll _ _ _ _ _ => []
  | .exportDecl _ inner | .exportDefault _ inner => inner.made
  | s => s.made

/-- The names that the statements of a module make values. -/
def made (statements : List Stmt) : List String :=
  (numbered 0 statements).flatMap fun (n, s) => makes n s

/-- The line binds the name. -/
def Binds (line name : String) : Prop :=
  (∃ value, line = bindTo name value) ∨
    ∃ entries object imported, line = destructure entries object ∧ entryOf imported name ∈ entries

/-- Names that the preview binds itself: a preloaded global and the names of its exports. -/
def Preloaded (specifier name : String) : Prop :=
  ∃ global, Globals.builtin? specifier = some global ∧ (name = global ∨ name ∈ Globals.hooks)

/-- What makes the name a value in a statement of the text `cs` is in the code, unless it is the
preview that makes it one. -/
def Stays (cs code : List Char) (name : String) : Stmt → Prop
  | .importDecl _ _ _ _ source _ =>
    (∃ line, Binds line name ∧ line.toList <:+: code) ∨ Preloaded source.text name
  | .exportNames _ _ _ _ _ | .exportAll _ _ _ _ _ => ∃ line, Binds line name ∧ line.toList <:+: code
  | .exportDecl span inner | .exportDefault span inner =>
    between cs inner.span.start span.stop <:+: code
  | s => between cs s.span.start s.span.stop <:+: code

/-! ## Lines of imports -/

theorem infix_intercalate {line : String} {lines : List String} (h : line ∈ lines) :
    line.toList <:+: ("\n".intercalate lines).toList := by
  induction lines with
  | nil => cases h
  | cons first rest ih =>
    cases rest with
    | nil =>
      have alone : line = "\n".intercalate [first] :=
        (List.mem_singleton.1 h).trans String.intercalate_singleton.symm
      exact alone ▸ List.infix_refl _
    | cons next rest =>
      rw [String.intercalate_cons_cons, String.toList_append, String.toList_append]
      rcases List.mem_cons.1 h with rfl | h
      · exact ⟨[], _, by rw [List.nil_append, List.append_assoc]⟩
      · exact (ih h).trans (List.suffix_append ..).isInfix

theorem binds_destructure {names : List (String × String)} {imported name : String}
    (h : (imported, name) ∈ names) (object : String) :
    Binds (destructure (names.map fun (imported, bound) => entryOf imported bound) object) name :=
  .inr ⟨_, object, imported, rfl, List.mem_map.2 ⟨(imported, name), h, rfl⟩⟩

theorem mem_boundNames {specifiers : List ImportSpecifier} {name : String} :
    name ∈ boundNames specifiers ↔ defaultName? specifiers = some name ∨
      namespaceName? specifiers = some name ∨
      ∃ imported, (imported, name) ∈ valueNames specifiers := by
  simp [boundNames]

theorem binds_importLines (specifier : String) {name : String} {specifiers : List ImportSpecifier}
    (h : name ∈ boundNames specifiers) :
    ∃ line ∈ importLines specifier specifiers, Binds line name := by
  unfold importLines
  rcases mem_boundNames.1 h with default | whole | ⟨imported, named⟩
  · rw [default]
    cases namespaceName? specifiers with
    | none => exact ⟨_, List.mem_append_left _ (.tail _ (.head _)), .inl ⟨_, rfl⟩⟩
    | some ns => exact ⟨_, List.mem_append_left _ (.tail _ (.head _)), .inl ⟨_, rfl⟩⟩
  · rw [whole]
    exact ⟨_, List.mem_append_left _ (List.mem_append_left _ (.head _)), .inl ⟨_, rfl⟩⟩
  · have some : ((valueNames specifiers).map fun (imported, bound) =>
        entryOf imported bound).isEmpty = false := by
      rw [List.isEmpty_map]
      exact List.isEmpty_eq_false_iff_exists_mem.2 ⟨_, named⟩
    dsimp only
    rw [some]
    exact ⟨_, List.mem_append_right _ (.head _), binds_destructure named _⟩

/-- The name of a whole module is that of a specifier. -/
theorem exists_specifier {specifiers : List ImportSpecifier} {name : String}
    (h : defaultName? specifiers = some name ∨ namespaceName? specifiers = some name) :
    ∃ s ∈ specifiers, ∃ span, s = .default span name ∨ s = .namespace span name := by
  rcases h with h | h
  · obtain ⟨s, mem, named⟩ := List.mem_filterMap.1 (List.mem_of_getLast? h)
    split at named
    · cases named
      exact ⟨_, mem, _, .inl rfl⟩
    · cases named
  · obtain ⟨s, mem, named⟩ := List.mem_filterMap.1 (List.mem_of_getLast? h)
    split at named
    · cases named
      exact ⟨_, mem, _, .inr rfl⟩
    · cases named

theorem binds_builtinLines (global : String) {name : String} {specifiers : List ImportSpecifier}
    (h : name ∈ boundNames specifiers) :
    (name = global ∨ name ∈ Globals.hooks) ∨
      ∃ line ∈ builtinLines global specifiers, Binds line name := by
  by_cases shared : name = global ∨ name ∈ Globals.hooks
  · exact .inl shared
  refine .inr ?_
  obtain ⟨other, unhooked⟩ := not_or.1 shared
  unfold builtinLines
  rcases or_assoc.2 (mem_boundNames.1 h) with whole | ⟨imported, named⟩
  · obtain ⟨s, mem, span, rfl | rfl⟩ := exists_specifier whole
    all_goals
      refine ⟨bindTo name global, List.mem_append_left _ ?_, .inl ⟨_, rfl⟩⟩
      exact List.mem_filterMap.2 ⟨_, mem, by simp [other]⟩
  · have entry : entryOf imported name ∈ (valueNames specifiers).filterMap
        fun (imported, bound) =>
          if bound == global || (bound == imported && Globals.hooks.contains bound) then none
          else some (entryOf imported bound) :=
      List.mem_filterMap.2 ⟨_, named, by simp [other, unhooked]⟩
    refine ⟨_, List.mem_append_right _ ?_, .inr ⟨_, global, imported, rfl, entry⟩⟩
    rw [List.isEmpty_eq_false_iff_exists_mem.2 ⟨_, entry⟩]
    exact List.mem_cons_self

/-! ## What the patches keep -/

theorem mem_of_mem_numbered {n m : Nat} {s : Stmt} {statements : List Stmt}
    (h : (m, s) ∈ numbered n statements) : s ∈ statements := by
  induction statements generalizing n with
  | nil => cases h
  | cons first rest ih =>
    rcases List.mem_cons.1 h with same | h
    · cases same
      exact List.mem_cons_self
    · exact List.mem_cons_of_mem _ (ih h)

theorem placed_of_mem {cs : List Char} {lo : Nat} {s : Stmt} {statements : List Stmt}
    (laid : Laid cs lo statements) (h : s ∈ statements) : ∃ lo hi, Placed cs lo s hi := by
  induction statements generalizing lo with
  | nil => cases h
  | cons first rest ih =>
    obtain ⟨hi, -, -, placed, laid⟩ := laid
    rcases List.mem_cons.1 h with rfl | h
    · exact ⟨lo, hi, placed⟩
    · exact ih laid h

/-- What stands for a statement of a module is one of its patches. -/
theorem mem_patches {words : Span → Stmt → Nat} {around : Surroundings}
    (role : around.role = .module) {statements : List Stmt} {s : Stmt} {n m : Nat} {p : Patch}
    (mem : (m, s) ∈ numbered n statements) (patched : patch? around words m s = some p) :
    p ∈ patches around words n statements := by
  induction statements generalizing n with
  | nil => cases mem
  | cons first rest ih =>
    rw [patches, role]
    rcases List.mem_cons.1 mem with same | mem
    · cases same
      exact List.mem_append_left _ (Option.mem_toList.2 patched)
    · exact List.mem_append_right _ (ih mem)

/-- The source of a module without the assignments that follow. -/
def keptText (cs : List Char) (statements : List Stmt) : List Char :=
  weave cs 0 (patches (.of .module cs statements) (wordsFound cs) 0 statements)

theorem text_whole (cs : List Char) (span : Span) (text : String) :
    (Patch.whole span text).text cs = text.toList := by
  simp [Patch.text, Patch.whole, between]

theorem text_front (cs : List Char) (span : Span) (keep : Nat) :
    Patch.text cs ⟨span, "", keep, ""⟩ = between cs keep span.stop := by
  simp [Patch.text]

theorem binds_passedText (n : Nat) (specifier : String) :
    Binds (passedText .module n specifier) (holder n) := .inl ⟨requireOf specifier, rfl⟩

/-- The text that stands for an import binds what the import makes values. -/
theorem binds_importText {specifier name : String} {specifiers : List ImportSpecifier}
    (h : name ∈ boundNames specifiers) :
    (∃ line, Binds line name ∧ line.toList <:+: (importText false specifiers specifier).toList) ∨
      Preloaded specifier name := by
  unfold importText
  cases builtin : Globals.builtin? specifier with
  | some global =>
    rcases binds_builtinLines global h with shared | ⟨line, mem, binds⟩
    · exact .inr ⟨global, builtin, shared⟩
    · exact .inl ⟨line, binds, infix_intercalate mem⟩
  | none =>
    obtain ⟨line, mem, binds⟩ := binds_importLines specifier h
    have some : specifiers.isEmpty = false := by
      cases specifiers with
      | nil => cases h
      | cons s rest => rfl
    simp only [some, Bool.false_eq_true, if_false]
    exact .inl ⟨line, binds, infix_intercalate mem⟩

/-- A default export that makes a name a value keeps its declaration, and where the name is not to
be shown, that is all. -/
theorem defaultPatch_of_made {around : Surroundings} {name : String}
    (hidden : (around.role == .entry && name != "App" && !around.declaresApp) = false)
    {inner : Stmt} (kind : inner.mayBeDefault = true) (h : name ∈ inner.made) (words : Nat)
    (span : Span) : defaultPatch around words span inner = ⟨span, "", inner.span.start, ""⟩ := by
  have declared (inner : Span) :
      declaredPatch around span inner (some name) = ⟨span, "", inner.start, ""⟩ := by
    simp [declaredPatch, hidden]
  cases inner
  case function f =>
    rw [defaultPatch, Function.name?_of_made h]
    exact declared f.span
  case «class» c =>
    rw [defaultPatch, Class.name?_of_made h]
    exact declared c.span
  case interface | expr => cases h
  all_goals cases kind

theorem stays_of_makes {cs : List Char} {statements : List Stmt} (laid : Laid cs 0 statements)
    {n : Nat} {s : Stmt} (mem : (n, s) ∈ numbered 0 statements) {name : String}
    (h : name ∈ makes n s) : Stays cs (keptText cs statements) name s := by
  have kept {p : Patch}
      (patched : patch? (.of .module cs statements) (wordsFound cs) n s = some p) :
      p.text cs <:+: keptText cs statements := infix_weave_of_mem (mem_patches rfl mem patched)
  have whole (plain : s.edited? = none) :
      between cs s.span.start s.span.stop <:+: keptText cs statements :=
    infix_weave_patches (cuts_wordsFound cs) laid (Nat.le_refl 0) (mem_of_mem_numbered mem) plain
  cases s
  case importDecl span phase typeOnly specifiers source attributes =>
    cases typeOnly with
    | true => cases h
    | false =>
      have text := kept rfl
      rw [text_whole] at text
      exact (binds_importText h).imp_left fun ⟨line, binds, here⟩ => ⟨line, binds, here.trans text⟩
  case exportNames span typeOnly specifiers source attributes =>
    cases typeOnly with
    | true => cases h
    | false =>
      cases source with
      | none => cases h
      | some source =>
        have text := kept rfl
        rw [text_whole] at text
        cases List.mem_singleton.1 h
        exact ⟨_, binds_passedText n source.text, text⟩
  case exportAll span typeOnly star source attributes =>
    cases typeOnly with
    | true => cases h
    | false =>
      have text := kept rfl
      rw [text_whole] at text
      cases List.mem_singleton.1 h
      exact ⟨_, binds_passedText n source.text, text⟩
  case exportDecl span inner =>
    have text := kept rfl
    rwa [text_front] at text
  case exportDefault span inner =>
    obtain ⟨_, _, -, -, -, -, kind⟩ := placed_of_mem laid (mem_of_mem_numbered mem)
    have text := kept rfl
    rwa [defaultPatch_of_made rfl kind h, text_front] at text
  all_goals exact whole rfl

end LivePreview.Module
