import LivePreview.Proofs.Lowering.Order
import LivePreview.Proofs.Lowering.Words

/-!
# What stands for imports and exports

The rule for each import and export as one patch of its text (`patch?`), and that
lowering a statement makes the edits of its patch (`adds_lowerStatement`).
-/

namespace LivePreview.Module

open Script Text

/-- A declaration is kept from `keep` to its end; `front` stands for what was before, and `back`
follows. -/
structure Patch where
  span : Span
  front : String
  keep : Nat
  back : String

namespace Patch

/-- Nothing of the declaration is kept; `text` stands for it. -/
def whole (span : Span) (text : String) : Patch := ⟨span, text, span.stop, ""⟩

/-- What stands for the declaration. -/
def text (cs : List Char) (p : Patch) : List Char :=
  p.front.toList ++ between cs p.keep p.span.stop ++ p.back.toList

/-- The edits that make the patch. -/
def edits (p : Patch) : List Edit :=
  ⟨p.span.start, p.keep, p.front.toList⟩ ::
    if p.back = "" then [] else [⟨p.span.stop, p.span.stop, p.back.toList⟩]

end Patch

/-! ## The rules -/

def importText (typeOnly : Bool) (specifiers : List ImportSpecifier) (specifier : String) :
    String :=
  if typeOnly then "" else
  match Globals.builtin? specifier with
  | some global => "\n".intercalate (builtinLines global specifiers)
  | none =>
    if specifiers.isEmpty then requireOf specifier ++ ";"
    else "\n".intercalate (importLines specifier specifiers)

/-- The default export of a function or class: a name can be assigned later, other values are
assigned where they stand. -/
def declaredPatch (around : Surroundings) (span inner : Span) : Option String → Patch
  | some name =>
    let shows := around.role == .entry && name != "App" && !around.declaresApp
    ⟨span, "", inner.start, if shows then "\nvar App = " ++ name ++ ";" else ""⟩
  | none =>
    match around.role with
    | .module => ⟨span, "exports.default = ", inner.start, ";"⟩
    | .entry =>
      if around.declaresApp then .whole span "" else ⟨span, "var App = ", inner.start, ";"⟩

/-- A default export; the words of one whose value is an expression end at `words`. -/
def defaultPatch (around : Surroundings) (words : Nat) (span : Span) : Stmt → Patch
  | .function f => declaredPatch around span f.span f.name?
  | .class c => declaredPatch around span c.span c.name?
  | .interface inner _ _ _ => ⟨span, "", inner.start, ""⟩
  | _ =>
    let front := match around.role with
      | .module => "exports.default ="
      | .entry => if around.declaresApp then "" else "var App ="
    ⟨span, front, words, ""⟩

/-- What stands for a module that is passed on, after `n` others. -/
def passedText (role : Role) (n : Nat) (specifier : String) : String :=
  match role with
  | .entry => requireOf specifier ++ ";"
  | .module => bindTo ("__reexport_" ++ toString (n + 1) ++ "__") (requireOf specifier)

/-- The rule for a statement after `n` passed-on modules; `words` tells where the words of a default
export end. Statements without a rule stay as they are. -/
def patch? (around : Surroundings) (words : Span → Stmt → Nat) (n : Nat) : Stmt → Option Patch
  | .importDecl span _ typeOnly specifiers source _ =>
    some (.whole span (importText typeOnly (specifiers.getD []) source.text))
  | .exportDecl span inner => some ⟨span, "", inner.span.start, ""⟩
  | .exportDefault span inner => some (defaultPatch around (words span inner) span inner)
  | .exportNames span typeOnly _ source _ =>
    some (.whole span (match typeOnly, source with
      | false, some source => passedText around.role n source.text
      | _, _ => ""))
  | .exportAll span typeOnly _ source _ =>
    some (.whole span (if typeOnly then "" else passedText around.role n source.text))
  | _ => none

/-- The statement passes a module on under a name of its own. -/
def passesOn (role : Role) : Stmt → Bool
  | .exportNames _ typeOnly _ source _ => role == .module && !typeOnly && source.isSome
  | .exportAll _ typeOnly _ _ _ => role == .module && !typeOnly
  | _ => false

/-! ## Edits -/

namespace Lowering

/-- From `l` to `l'` the edits `edits` are made and `n` modules passed on. -/
structure Adds (l : Lowering) (edits : List Edit) (n : Nat) (l' : Lowering) : Prop where
  edits : l'.edits = l.edits ++ edits
  reexports : l'.reexports = l.reexports + n

theorem adds_replace (l : Lowering) (start stop : Nat) (text : String) :
    l.Adds [⟨start, stop, text.toList⟩] 0 (l.replace start stop text) := ⟨rfl, rfl⟩

theorem adds_foldl {α : Type} (f : Lowering → α → Lowering)
    (h : ∀ l a, (f l a).edits = l.edits ∧ (f l a).reexports = l.reexports) (items : List α)
    (l : Lowering) : l.Adds [] 0 (items.foldl f l) := by
  induction items generalizing l with
  | nil => exact ⟨by simp, rfl⟩
  | cons a rest ih =>
    obtain ⟨edits, reexports⟩ := h l a
    obtain ⟨hedits, hreexports⟩ := ih (f l a)
    exact ⟨by simp [hedits, edits], by simp [hreexports, reexports]⟩

theorem Adds.trans {l l' l'' : Lowering} {edits edits' : List Edit} {m n : Nat}
    (h : l.Adds edits m l') (h' : l'.Adds edits' n l'') : l.Adds (edits ++ edits') (m + n) l'' :=
  ⟨by rw [h'.edits, h.edits, List.append_assoc], by rw [h'.reexports, h.reexports, Nat.add_assoc]⟩

end Lowering

open Lowering

theorem adds_whole {l l' : Lowering} {n : Nat} (h : l.Adds [] n l') (span : Span) (text : String) :
    l.Adds (Patch.whole span text).edits n (l'.replace span.start span.stop text) :=
  h.trans (l'.adds_replace ..)

theorem adds_request (l : Lowering) (specifier : String) : l.Adds [] 0 (l.request specifier) :=
  ⟨(List.append_nil _).symm, rfl⟩

theorem adds_self (l : Lowering) : l.Adds [] 0 l := ⟨(List.append_nil _).symm, rfl⟩

theorem adds_lowerImport (l : Lowering) (span : Span) (typeOnly : Bool)
    (specifiers : Option (List ImportSpecifier)) (specifier : String) :
    l.Adds (Patch.whole span (importText typeOnly (specifiers.getD []) specifier)).edits 0
      (lowerImport l span typeOnly specifiers specifier) := by
  unfold lowerImport importText
  cases typeOnly with
  | true => exact adds_whole (adds_self l) ..
  | false =>
    cases Globals.builtin? specifier with
    | some global => exact adds_whole (adds_self l) ..
    | none =>
      by_cases empty : (specifiers.getD []).isEmpty = true
      · simp only [empty, if_true, Bool.false_eq_true, if_false]
        simpa using adds_whole (adds_request l specifier) span (requireOf specifier ++ ";")
      · simp only [empty, Bool.false_eq_true, if_false]
        split
        · next none =>
          rw [List.isEmpty_iff.1 none]
          exact adds_whole (adds_self l) ..
        · exact adds_whole (adds_request l specifier) ..

theorem adds_front (l : Lowering) (span : Span) (front : String) (keep : Nat) :
    l.Adds (Patch.edits ⟨span, front, keep, ""⟩) 0 (l.replace span.start keep front) :=
  adds_replace ..

theorem adds_back (l : Lowering) (span : Span) (front : String) (keep : Nat) {back : String}
    (h : back ≠ "") :
    l.Adds (Patch.edits ⟨span, front, keep, back⟩) 0
      ((l.replace span.start keep front).insert span.stop back) := by
  rw [Patch.edits, if_neg h]
  exact (adds_replace l ..).trans (adds_replace ..)

theorem adds_lowerDeclared (around : Surroundings) (l : Lowering) (span inner : Span)
    (name : Option String) :
    l.Adds (declaredPatch around span inner name).edits 0
      (lowerDefaultDeclaration around l span inner name) := by
  rcases around with ⟨role, source, declaresApp, types⟩
  cases role with
  | module =>
    cases name with
    | some name => exact ⟨(adds_front l span "" inner.start).edits, rfl⟩
    | none => exact adds_back l span "exports.default = " inner.start nofun
  | entry =>
    cases name with
    | some name =>
      by_cases shows : (name != "App" && !declaresApp) = true
      · have back : "\nvar App = " ++ name ++ ";" ≠ "" := by simp
        simpa [declaredPatch, lowerDefaultDeclaration, shows] using
          adds_back l span "" inner.start back
      · simpa [declaredPatch, lowerDefaultDeclaration, shows] using
          adds_front l span "" inner.start
    | none =>
      cases declaresApp with
      | true => exact adds_whole (adds_self l) span ""
      | false => exact adds_back l span "var App = " inner.start nofun

theorem adds_lowerDefault (around : Surroundings) (l : Lowering) (span : Span) (inner : Stmt) :
    l.Adds (defaultPatch around (wordsFound around.source span inner) span inner).edits 0
      (lowerDefault around l span inner) := by
  cases inner
  case function => exact adds_lowerDeclared ..
  case «class» => exact adds_lowerDeclared ..
  all_goals exact adds_front ..

theorem adds_expose (f : ExportSpecifier → String) (l : Lowering) (items : List ExportSpecifier) :
    l.Adds [] 0 (items.foldl (fun l s => l.expose s.exported.text (f s)) l) := by
  refine adds_foldl _ (fun l s => ?_) ..
  exact ⟨rfl, rfl⟩

theorem adds_lowerExportDecl (around : Surroundings) (l : Lowering) (span : Span) (inner : Stmt) :
    l.Adds (Patch.edits ⟨span, "", inner.span.start, ""⟩) 0
      (lowerExportDecl around l span inner) := by
  unfold lowerExportDecl
  dsimp only
  split
  · refine (adds_front ..).trans (adds_foldl _ (fun l name => ?_) ..)
    exact ⟨rfl, rfl⟩
  · exact adds_front ..

theorem adds_passOn (l : Lowering) (span : Span) (specifier : String) :
    l.Adds (Patch.whole span (passedText .module l.reexports specifier)).edits 1
      (l.passOn span specifier).1 :=
  ⟨rfl, rfl⟩

theorem adds_lowerExportNames (around : Surroundings) (l : Lowering) (span : Span) (typeOnly : Bool)
    (specifiers : List ExportSpecifier) (source : Option StringValue) :
    l.Adds (Patch.whole span (match typeOnly, source with
        | false, some source => passedText around.role l.reexports source.text
        | _, _ => "")).edits
      (around.role == .module && !typeOnly && source.isSome).toNat
      (lowerExportNames around l span typeOnly specifiers source) := by
  rcases around with ⟨role, text, declaresApp, types⟩
  cases typeOnly with
  | true =>
    cases role <;> exact adds_whole (adds_self l) span ""
  | false =>
    cases role with
    | entry =>
      cases source with
      | none => exact adds_whole (adds_self l) span ""
      | some source =>
        exact adds_whole (adds_request l source.text) span (requireOf source.text ++ ";")
    | module =>
      cases source with
      | none =>
        refine (adds_whole (adds_self l) span "").trans (adds_foldl _ (fun l s => ?_) ..)
        split <;> exact ⟨rfl, rfl⟩
      | some source => exact (adds_passOn l span source.text).trans (adds_expose ..)

theorem adds_lowerExportAll (around : Surroundings) (l : Lowering) (span : Span) (typeOnly : Bool)
    (name : Option ModuleName) (specifier : String) :
    l.Adds (Patch.whole span
        (if typeOnly then "" else passedText around.role l.reexports specifier)).edits
      (around.role == .module && !typeOnly).toNat
      (lowerExportAll around l span typeOnly name specifier) := by
  rcases around with ⟨role, text, declaresApp, types⟩
  cases typeOnly with
  | true =>
    cases role <;> exact adds_whole (adds_self l) span ""
  | false =>
    cases role with
    | entry => exact adds_whole (adds_request l specifier) span (requireOf specifier ++ ";")
    | module =>
      have passed := adds_passOn l span specifier
      cases name with
      | none => exact ⟨passed.edits, passed.reexports⟩
      | some name => exact ⟨passed.edits, passed.reexports⟩

/-- Lowering a statement makes its patch. -/
theorem adds_lowerStatement (around : Surroundings) (l : Lowering) (s : Stmt) :
    l.Adds (((patch? around (wordsFound around.source) l.reexports s).map Patch.edits).getD [])
      (passesOn around.role s).toNat (lowerStatement around l s) := by
  cases s
  case importDecl => exact adds_lowerImport ..
  case exportDecl => exact adds_lowerExportDecl ..
  case exportDefault => exact adds_lowerDefault ..
  case exportNames => exact adds_lowerExportNames ..
  case exportAll => exact adds_lowerExportAll ..
  all_goals exact adds_self l

end LivePreview.Module
