import LivePreview.Proofs.Lowering.Kept

/-!
# What a module is made to export

The assignments on `exports` that follow the code of a module, told from its statements: those of
its exports by name (`assignments`), those of whole modules (`stars`) and that of its named default
export (`defaults`). They are what lowering gathers (`gather_records`) and appends
(`epilogue_gather`).
-/

namespace LivePreview.Module

open Script Text

/-- An assignment on `exports`: of what a name at the top of the source stands for, or of a member
of it. -/
structure Assignment where
  exported : String
  name : String
  member? : Option String := none
  deriving DecidableEq, Repr

namespace Assignment

/-- The expression that is assigned. -/
def value (a : Assignment) : String :=
  match a.member? with
  | none => a.name
  | some member => memberOf a.name member

def text (a : Assignment) : String :=
  "\n" ++ memberOf "exports" a.exported ++ " = " ++ a.value ++ ";"

/-- The assignment of a value under its own name. -/
def own (name : String) : Assignment := ⟨name, name, none⟩

end Assignment

/-- The assignments for a list of names at the top of the source. -/
def listed (specifiers : List ExportSpecifier) : List Assignment :=
  (valueExports specifiers).map fun s => ⟨s.exported.text, s.source.text, none⟩

/-- The variable that holds the module that is passed on after `n` others. -/
def holder (n : Nat) : String := "__reexport_" ++ toString (n + 1) ++ "__"

/-- The statements of a module, each with the number of modules that are passed on before it. -/
def numbered : Nat → List Stmt → List (Nat × Stmt)
  | _, [] => []
  | n, s :: rest => (n, s) :: numbered (n + (passesOn .module s).toNat) rest

/-- The assignments that a statement asks for, where `types` are the names of types. -/
def assigned (types : List String) (n : Nat) : Stmt → List Assignment
  | .exportDecl _ inner => (declaredNames inner).map .own
  | .exportNames _ false specifiers none _ =>
    (listed specifiers).filter fun a => !types.contains a.name
  | .exportNames _ false specifiers (some _) _ =>
    (valueExports specifiers).map fun s => ⟨s.exported.text, holder n, some s.source.text⟩
  | .exportAll _ false (some name) _ _ => [⟨name.text, holder n, none⟩]
  | _ => []

/-- The variable whose members the statement exports under their own names. -/
def starred (n : Nat) : Stmt → List String
  | .exportAll _ false none _ _ => [holder n]
  | _ => []

/-- The name of the declaration that the statement exports as default. -/
def namedDefault? : Stmt → Option String
  | .exportDefault _ (.function f) => f.name?
  | .exportDefault _ (.class c) => c.name?
  | _ => none

section
variable (statements : List Stmt)

/-- The names of types at the top of a source. -/
def typeNames : List String := statements.filterMap topType?

def assignments : List Assignment :=
  (numbered 0 statements).flatMap fun (n, s) => assigned (typeNames statements) n s

def stars : List String := (numbered 0 statements).flatMap fun (n, s) => starred n s

def defaults : List String := statements.filterMap namedDefault?

/-- What follows the code of a module. -/
def appended : String :=
  String.join ((stars statements).map fun v =>
      "\nObject.keys(" ++ v ++ ").forEach(function (k) \x7b if (k !== \"default\" && k !== "
        ++ "\"__esModule\") exports[k] = " ++ v ++ "[k]; \x7d);")
    ++ (match (defaults statements).getLast? with
      | some name => "\nexports.default = " ++ name ++ ";"
      | none => "")
    ++ "\nexports.__esModule = true;"
    ++ String.join ((assignments statements).map Assignment.text) ++ "\n"

end

/-! ## What is gathered -/

namespace Lowering

/-- From `l` to `l'` exports are added: by name, as whole modules, and as default. -/
structure Records (l : Lowering) (named : List Assignment) (whole : List String)
    (default : Option String) (l' : Lowering) : Prop where
  exports : l'.exports = l.exports ++ named.map fun a => (a.exported, a.value)
  stars : l'.stars = l.stars ++ whole
  default : l'.defaultExport = Option.or default l.defaultExport

theorem Records.of_same {l l' : Lowering} (exports : l'.exports = l.exports)
    (stars : l'.stars = l.stars) (default : l'.defaultExport = l.defaultExport) :
    l.Records [] [] none l' :=
  ⟨by simp [exports], by simp [stars], by simp [default]⟩

theorem records_self (l : Lowering) : l.Records [] [] none l := .of_same rfl rfl rfl

theorem Records.trans {l l' l'' : Lowering} {named named' : List Assignment}
    {whole whole' : List String} {default default' : Option String}
    (h : l.Records named whole default l') (h' : l'.Records named' whole' default' l'') :
    l.Records (named ++ named') (whole ++ whole') (default'.or default) l'' :=
  ⟨by rw [h'.exports, h.exports, List.map_append, List.append_assoc],
    by rw [h'.stars, h.stars, List.append_assoc], by rw [h'.default, h.default, Option.or_assoc]⟩

theorem records_foldl {α : Type} {f : Lowering → α → Lowering} {g : α → List Assignment}
    (h : ∀ (l : Lowering) a, l.Records (g a) [] none (f l a)) (items : List α) (l : Lowering) :
    l.Records (items.flatMap g) [] none (items.foldl f l) := by
  induction items generalizing l with
  | nil => exact records_self l
  | cons a rest ih => exact (h l a).trans (ih (f l a))

theorem records_expose (l : Lowering) (a : Assignment) :
    l.Records [a] [] none (l.expose a.exported a.value) :=
  ⟨rfl, (List.append_nil _).symm, rfl⟩

end Lowering

open Lowering

theorem records_lowerImport (l : Lowering) (span : Span) (typeOnly : Bool)
    (specifiers : Option (List ImportSpecifier)) (specifier : String) :
    l.Records [] [] none (lowerImport l span typeOnly specifiers specifier) := by
  unfold lowerImport
  cases typeOnly with
  | true => exact .of_same rfl rfl rfl
  | false =>
    cases Globals.builtin? specifier with
    | some global => exact .of_same rfl rfl rfl
    | none =>
      simp only [Bool.false_eq_true, if_false]
      split
      · exact .of_same rfl rfl rfl
      · split <;> exact .of_same rfl rfl rfl

theorem declaredNames_of_isTypeOnly {s : Stmt} (h : isTypeOnly s = true) :
    declaredNames s = [] := by
  cases s
  case declare => exact if_pos h
  case function f =>
    cases f
    exact if_pos h
  case «class» c =>
    cases c
    exact if_pos h
  case «enum» => exact if_pos h
  all_goals rfl

theorem flatMap_unless {α β : Type} (p : α → Bool) (f : α → β) (as : List α) :
    (as.flatMap fun a => if p a = true then [] else [f a]) = (as.filter (!p ·)).map f := by
  induction as with
  | nil => rfl
  | cons a as ih =>
    rw [List.flatMap_cons, ih, List.filter_cons]
    cases p a <;> rfl

section
variable {around : Surroundings} (role : around.role = .module) (l : Lowering)
include role

theorem records_lowerDeclared (span inner : Span) (name : Option String) :
    l.Records [] [] name (lowerDefaultDeclaration around l span inner name) := by
  unfold lowerDefaultDeclaration
  rw [role]
  cases name with
  | none => exact .of_same rfl rfl rfl
  | some name => exact ⟨(List.append_nil _).symm, (List.append_nil _).symm, rfl⟩

theorem records_lowerDefault (span : Span) (inner : Stmt) :
    l.Records [] [] (namedDefault? (.exportDefault span inner))
      (lowerDefault around l span inner) := by
  cases inner
  case function f => exact records_lowerDeclared role l span f.span f.name?
  case «class» c => exact records_lowerDeclared role l span c.span c.name?
  all_goals exact .of_same rfl rfl rfl

theorem records_lowerExportDecl (span : Span) (inner : Stmt) :
    l.Records ((declaredNames inner).map .own) [] none
      (lowerExportDecl around l span inner) := by
  have exposed := records_foldl (f := fun l name => l.expose name name)
    (g := fun name => [.own name]) (fun l name => records_expose l (.own name))
    (declaredNames inner) (l.replace span.start inner.span.start "")
  rw [← List.map_eq_flatMap] at exposed
  unfold lowerExportDecl
  rw [role]
  cases only : isTypeOnly inner with
  | true =>
    rw [declaredNames_of_isTypeOnly only]
    exact .of_same rfl rfl rfl
  | false => exact ⟨exposed.exports, exposed.stars, exposed.default⟩

theorem records_lowerExportNames (span : Span) (typeOnly : Bool) (specifiers : List ExportSpecifier)
    (source : Option StringValue)
    (attributes : Option (String × List (ModuleName × StringValue))) :
    l.Records
      (assigned around.types l.reexports
        (.exportNames span typeOnly specifiers source attributes)) [] none
      (lowerExportNames around l span typeOnly specifiers source) := by
  unfold lowerExportNames
  rw [role]
  cases typeOnly with
  | true => exact .of_same rfl rfl rfl
  | false =>
    cases source with
    | none =>
      have exposed := records_foldl
        (f := fun l (s : ExportSpecifier) =>
          if around.types.contains s.source.text then l
          else l.expose s.exported.text s.source.text)
        (g := fun s => if around.types.contains s.source.text then []
          else [⟨s.exported.text, s.source.text, none⟩])
        (fun l s => by
          split
          · exact records_self l
          · exact records_expose l ⟨s.exported.text, s.source.text, none⟩)
        (valueExports specifiers) (l.remove span)
      rw [flatMap_unless] at exposed
      rw [assigned, listed, List.filter_map]
      exact ⟨exposed.exports, exposed.stars, exposed.default⟩
    | some source =>
      let m := l.reexports
      have exposed := records_foldl
        (f := fun l (s : ExportSpecifier) =>
          l.expose s.exported.text (memberOf (holder m) s.source.text))
        (g := fun s => [⟨s.exported.text, holder m, some s.source.text⟩])
        (fun l s => records_expose l ⟨s.exported.text, holder m, some s.source.text⟩)
        (valueExports specifiers) (l.passOn span source.text).1
      rw [← List.map_eq_flatMap] at exposed
      exact ⟨exposed.exports, exposed.stars, exposed.default⟩

theorem records_lowerExportAll (span : Span) (typeOnly : Bool) (name : Option ModuleName)
    (source : StringValue) (attributes : Option (String × List (ModuleName × StringValue))) :
    l.Records (assigned around.types l.reexports (.exportAll span typeOnly name source attributes))
      (starred l.reexports (.exportAll span typeOnly name source attributes)) none
      (lowerExportAll around l span typeOnly name source.text) := by
  unfold lowerExportAll
  rw [role]
  cases typeOnly with
  | true => exact .of_same rfl rfl rfl
  | false =>
    cases name with
    | none => exact ⟨(List.append_nil _).symm, rfl, rfl⟩
    | some name => exact ⟨rfl, (List.append_nil _).symm, rfl⟩

/-- What lowering a statement records. -/
theorem records_lowerStatement (s : Stmt) :
    l.Records (assigned around.types l.reexports s) (starred l.reexports s) (namedDefault? s)
      (lowerStatement around l s) := by
  cases s
  case importDecl => exact records_lowerImport ..
  case exportDecl => exact records_lowerExportDecl role ..
  case exportDefault => exact records_lowerDefault role ..
  case exportNames => exact records_lowerExportNames role ..
  case exportAll => exact records_lowerExportAll role ..
  all_goals exact records_self l

/-- What lowering the statements of a module records. -/
theorem gather_records (statements : List Stmt) :
    l.Records
      ((numbered l.reexports statements).flatMap fun (n, s) => assigned around.types n s)
      ((numbered l.reexports statements).flatMap fun (n, s) => starred n s)
      (statements.filterMap namedDefault?).getLast?
      (statements.foldl (lowerStatement around) l) := by
  induction statements generalizing l with
  | nil => exact records_self l
  | cons s rest ih =>
    have both := (records_lowerStatement role l s).trans (ih (lowerStatement around l s))
    have last : (rest.filterMap namedDefault?).getLast?.or (namedDefault? s)
        = ((s :: rest).filterMap namedDefault?).getLast? := by
      rw [List.filterMap_cons]
      cases namedDefault? s with
      | none => rw [Option.or_none]
      | some name =>
        rw [List.getLast?_cons]
        cases (rest.filterMap namedDefault?).getLast? <;> rfl
    rw [(adds_lowerStatement around l s).reexports, role, last] at both
    exact both

end

/-- What a module is lowered to ends in the assignments that its statements ask for. -/
theorem epilogue_gather (cs : List Char) (statements : List Stmt) :
    epilogue (gather (.of .module cs statements) statements) = appended statements := by
  obtain ⟨exports, stars, default⟩ :=
    gather_records (show (Surroundings.of .module cs statements).role = .module from rfl) {}
      statements
  rw [epilogue, appended, gather, exports, stars, default, List.nil_append, List.nil_append,
    Option.or_none, List.map_map]
  rfl

end LivePreview.Module
