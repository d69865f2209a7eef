import LivePreview.Script.Parser
import LivePreview.Script.Plain.Tree
import LivePreview.Script.Usage

/-!
# Plain scripts

`Program.plain` takes the types and elements out of a source: what is left is a script in the
base language.
-/

namespace LivePreview.Script

/-! ## Aliases -/

/-- Leaves out the aliases of members that are not used, also in namespaces. An alias that is left
out uses nothing itself; `kept` are the statements before. -/
def Stmt.pruneAliases (kept : List Stmt) : List Stmt → List Stmt
  | [] => kept.reverse
  | s :: ss =>
    match s with
    | .importAlias _ name _ _ _ =>
      let used := (Stmt.listUsage (kept ++ s :: ss)).free.contains name
      Stmt.pruneAliases (if used then s :: kept else kept) ss
    | _ => Stmt.pruneAliases (s :: kept) ss

mutual

/-- Leaves out the aliases in a namespace that are not used. -/
def Stmt.withoutAliases : Stmt → Stmt
  | .namespace span name (some (.mk bspan directives statements)) ambient =>
    .namespace span name
      (some (.mk bspan directives (Stmt.pruneAliases [] (Stmt.listWithoutAliases statements))))
      ambient
  | .exportDecl span inner => .exportDecl span inner.withoutAliases
  | s => s

def Stmt.listWithoutAliases : List Stmt → List Stmt
  | [] => []
  | s :: ss => s.withoutAliases :: Stmt.listWithoutAliases ss

end

/-! ## Imports and exports without a value -/

/-- The statement makes its source a module. -/
def Stmt.isModular : Stmt → Bool
  | .importDecl _ _ _ _ _ _ | .exportDecl _ _ | .exportNames _ _ _ _ _ | .exportAll _ _ _ _ _
  | .exportDefault _ _ | .exportNamespace _ _ => true
  | _ => false

/-- What decides which imports and exports stay. -/
structure Linkage where
  settings : JsxSettings
  declared : List Declared
  usage : Usage

namespace Linkage

/-- The declarations of a name. -/
def declarations (l : Linkage) (name : String) : List Declared :=
  l.declared.filter (·.name == name)

/-- A name that only stands for types, or for a value that is not made here. -/
def isVoid (l : Linkage) (name : String) : Bool :=
  let ds := l.declarations name
  !ds.isEmpty && (ds.all (!·.value) || ds.all (·.ambient))

/-- The object that a pragma is a member of. -/
def root (pragma : String) : String :=
  String.ofList (pragma.toList.takeWhile (· != '.'))

/-- The elements of the source are made by what the name stands for. -/
def makesElements (l : Linkage) (name : String) : Bool :=
  let u := l.usage
  ((u.hasElement || u.hasFragment) && root l.settings.pragma == name)
    || (u.hasFragment && root l.settings.pragmaFrag == name)

/-- An import of the name stays: the name is used and nothing else declares it as a value. -/
def keepsImport (l : Linkage) (name : String) : Bool :=
  !(l.declarations name).any (fun d => d.value && !d.imported)
    && (l.usage.free.contains name || l.makesElements name)

/-- Leaves out the imports of names that are not used. -/
def pruneImports (l : Linkage) (s : Stmt) : Option Stmt :=
  match s with
  | .importDecl span phase typeOnly (some []) source attributes =>
    some (.importDecl span phase typeOnly none source attributes)
  | .importDecl span phase typeOnly (some specifiers) source attributes =>
    let kept := specifiers.filter fun
      | .default _ name | .namespace _ name | .named _ _ name _ => l.keepsImport name
    if kept.isEmpty then none
    else some (.importDecl span phase typeOnly (some kept) source attributes)
  | _ => some s

/-- Leaves out the exports of names that have no value. -/
def pruneExports (l : Linkage) (s : Stmt) : Option Stmt :=
  match s with
  | .exportNames span typeOnly specifiers none attributes =>
    let kept := specifiers.filter fun s => !l.isVoid s.source.text
    if kept.isEmpty && !specifiers.isEmpty then none
    else some (.exportNames span typeOnly kept none attributes)
  | .exportDefault _ (.expr _ (.name _ name)) => if l.isVoid name then none else some s
  | _ => some s

end Linkage

/-- The exported declaration of a namespace or enum, which is first turned into other statements. -/
def Stmt.isExportedGroup : Stmt → Bool
  | .exportDecl _ (.namespace _ _ _ _) | .exportDecl _ (.enum _ _ _ false) => true
  | _ => false

/-- A module whose imports and exports are all gone still says that it is one. -/
def stayModule (before after : List Stmt) : List Stmt :=
  let gone := before.any fun s => s.isModular && !s.isExportedGroup
  if gone && !after.any Stmt.isModular then
    after ++ [.exportNames .none false [] none none]
  else after

/-! ## Whole sources -/

/-- The faults of exported variables come first. -/
def Plain.State.allFaults (s : Plain.State) : List Diagnostic :=
  let found := s.faults.reverse
  found.filter (· == .namespaceNonConst) ++ found.filter (· != .namespaceNonConst)

/-- The plain statements of a source without types, and what is wrong with it. -/
def plainStatements (settings : JsxSettings) (statements : List Stmt) :
    List Stmt × List Diagnostic :=
  let (plain, state) := (Stmt.listPlain [] statements).run ⟨settings, [], none, false⟩
    |>.run ⟨[], [], []⟩
  (plain, state.allFaults)

/-- The plain statements of a source with types, and what is wrong with it. -/
def untypedStatements (settings : JsxSettings) (statements : List Stmt) :
    List Stmt × List Diagnostic :=
  let statements' := Stmt.pruneAliases [] (Stmt.listWithoutAliases statements)
  let usage := Stmt.listUsage statements'
  let linkage : Linkage := ⟨settings, Stmt.bodyDeclared statements', usage⟩
  let names := linkage.declared.map (·.name) ++ usage.bound ++ usage.free
  let (plain, state) := (Stmt.listPlain [] statements').run ⟨settings, [], none, false⟩
    |>.run ⟨[], names.filterMap MadeName.of?, []⟩
  let kept := (plain.filterMap linkage.pruneExports).filterMap linkage.pruneImports
  (stayModule statements kept, state.allFaults)

/-- The source without types and elements. -/
def Program.plain (types : Bool) (settings : JsxSettings) (p : Program) :
    Except (List Diagnostic) Program :=
  let target := ElementTarget.of settings p.comments
  match p.body with
  | .mk span directives statements =>
    let (statements, faults) :=
      if types then untypedStatements target.settings statements
      else plainStatements target.settings statements
    match target.faults ++ faults with
    | [] => .ok { p with body := .mk span directives statements }
    | faults => .error faults

end LivePreview.Script
