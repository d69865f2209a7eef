import LivePreview.Build
import LivePreview.Proofs.Registry.Ownership

/-!
# The lookup of the loader

What the function `load` of the loader comes to, read off its text: which of its tables answers a
specifier, and with what. The page is a parameter: which globals it has, and which modules have
been defined.

`candidates_ofRegistry` and `loaderPackage_eq`: the paths that the loader tries and the package that
it falls back to are those that a build goes by. `Registry.Closed`: every spelling of a registry
belongs to a file that the registry has; `closed_ofProject`, since it belongs to the one with the
best right to it.
-/

namespace LivePreview

/-- What answers a specifier. -/
inductive Answer where
  | builtin (global : String)
  | package (global : String)
  | stylesheet (path : String)
  | module (path : String)
  deriving DecidableEq, Repr

/-- The package that the loader takes a specifier to belong to. -/
def loaderPackage (id : String) : String :=
  let parts := Text.splitChars '/' id.toList
  match id.toList with
  | '@' :: _ => String.ofList (Text.joinChars ['/'] (parts.take 2))
  | _ => String.ofList (parts.headD [])

namespace LoaderTables

/-- Adds the spellings of `id` to the paths to try. -/
def expand (t : LoaderTables) (id : String) (out : List String) : List String :=
  let bare := Path.dropDotSlash id
  let out := Path.pushUnique out id
  let out := t.suffixes.foldl (fun out suffix => Path.pushUnique out (bare ++ suffix)) out
  t.prefixedSuffixes.foldl (fun out suffix => Path.pushUnique out ("./" ++ bare ++ suffix)) out

/-- The paths to try for `id`, required by `importer`. -/
def candidates (t : LoaderTables) (id importer : String) : List String :=
  let near :=
    if importer ≠ "" ∧ Specifier.isRelative id = true then
      let dir := Path.dirname importer
      if dir ≠ "" then
        match Specifier.join? dir id with
        | some joined => t.expand joined []
        | none => []
      else []
    else []
  t.expand id near

/-- What answers `id`, required by `importer`, on a page that has the globals in `loaded` and the
modules in `defined`. -/
def lookup (t : LoaderTables) (loaded defined : String → Bool) (id importer : String) :
    Option Answer :=
  let tries := t.candidates id importer
  let base := loaderPackage id
  ((t.builtins.lookup id).map .builtin)
    |>.or (((t.globals.get? id).filter loaded).map .package)
    |>.or ((tries.findSome? t.stylesheetAliases.get?).map .stylesheet)
    |>.or (if base ≠ id then ((t.globals.get? base).filter loaded).map .package else none)
    |>.or ((tries.findSome? fun path => (t.aliases.get? path).filter defined).map .module)

end LoaderTables

/-! ## Spellings and packages -/

theorem expand_ofRegistry (r : Registry) (globals : Table String) (id : String)
    (out : List String) :
    (LoaderTables.ofRegistry r globals).expand id out =
      (Specifier.spellings id).foldl Path.pushUnique out := by
  simp only [LoaderTables.expand, LoaderTables.ofRegistry, Specifier.spellings, List.cons_append,
    List.foldl_cons, List.foldl_append, List.foldl_map]

theorem candidates_ofRegistry (r : Registry) (globals : Table String) (id importer : String) :
    (LoaderTables.ofRegistry r globals).candidates id importer =
      Specifier.candidates id (some importer) := by
  have root : Path.dirname "" = "" := by decide
  simp only [LoaderTables.candidates, Specifier.candidates, Specifier.fromImporter?,
    expand_ofRegistry, Path.unique, List.foldl_append]
  congr 1
  by_cases hi : importer = ""
  · subst hi
    simp [root]
  · by_cases hr : Specifier.isRelative id = true
    · by_cases hd : Path.dirname importer = ""
      · simp [hi, hr, hd]
      · simp only [ne_eq, hi, hr, hd, not_false_eq_true, and_self, if_true, bne_iff_ne,
          Bool.true_and]
        cases Specifier.join? (Path.dirname importer) id <;> rfl
    · simp [hr]

theorem splitChars_cons_of_ne {sep c : Char} (h : c ≠ sep) (cs : List Char) :
    ∃ piece pieces, Text.splitChars sep cs = piece :: pieces ∧
      Text.splitChars sep (c :: cs) = (c :: piece) :: pieces := by
  obtain ⟨piece, pieces, hp⟩ := List.exists_cons_of_ne_nil (Text.splitChars_ne_nil sep cs)
  exact ⟨piece, pieces, hp, by rw [Text.splitChars, if_neg h, hp]⟩

theorem loaderPackage_eq (id : String) : loaderPackage id = Specifier.basePackage id := by
  unfold loaderPackage Specifier.basePackage
  cases id.toList with
  | nil => rfl
  | cons c cs =>
    by_cases slash : c = '/'
    · subst slash
      simp [Text.splitChars]
    · obtain ⟨piece, pieces, -, hp⟩ := splitChars_cons_of_ne slash cs
      rw [hp]
      by_cases scope : c = '@'
      · subst scope
        cases pieces <;> simp [Text.joinChars]
      · simp [scope]

/-! ## Registries -/

namespace Registry

/-- Every spelling belongs to a file of the registry. -/
structure Closed (r : Registry) : Prop where
  modules : ∀ {v path}, r.moduleAliases.get? v = some path → (r.modules.get? path).isSome = true
  stylesheets : ∀ {v path}, r.stylesheetAliases.get? v = some path →
    (r.stylesheets.get? path).isSome = true

/-- The registry of a project has a file for each of its spellings. -/
theorem closed_ofProject (entryPath : String) (bootstrap : Pattern) (jsx : Script.JsxSettings)
    (p : Project) : (ofProject entryPath bootstrap jsx p).Closed where
  modules hv := ((fair_ofProject entryPath bootstrap jsx p).moduleAliases.owner hv).1.1
  stylesheets hv := ((fair_ofProject entryPath bootstrap jsx p).stylesheetAliases.owner hv).1.1

theorem isSome_stylesheetOf? {r : Registry} (h : r.Closed) (v : String) :
    (r.stylesheetOf? v).isSome = (r.stylesheetAliases.get? v).isSome := by
  unfold stylesheetOf?
  cases hv : r.stylesheetAliases.get? v with
  | none => rfl
  | some path => exact h.stylesheets hv

theorem isSome_moduleOf? (r : Registry) (v : String) :
    (r.moduleOf? v).isSome =
      ((r.moduleAliases.get? v).filter fun path => (r.modules.get? path).isSome).isSome := by
  unfold moduleOf?
  cases r.moduleAliases.get? v with
  | none => rfl
  | some path => cases hm : r.modules.get? path <;> simp [hm]

/-- What an import names, in terms of the spellings alone. -/
theorem isSome_resolve {r : Registry} (h : r.Closed) (specifier : String)
    (importer : Option String) :
    (r.resolve specifier importer).isSome = true ↔
      ((Specifier.candidates specifier importer).findSome? r.stylesheetAliases.get?).isSome = true ∨
      ((Specifier.candidates specifier importer).findSome? fun path =>
        (r.moduleAliases.get? path).filter fun path => (r.modules.get? path).isSome).isSome =
          true := by
  have sheets : ((Specifier.candidates specifier importer).findSome? r.stylesheetOf?).isSome =
      ((Specifier.candidates specifier importer).findSome? r.stylesheetAliases.get?).isSome := by
    rw [Bool.eq_iff_iff]
    simp only [List.findSome?_isSome_iff, isSome_stylesheetOf? h]
  have modules : ((Specifier.candidates specifier importer).findSome? r.moduleOf?).isSome =
      ((Specifier.candidates specifier importer).findSome? fun path =>
        (r.moduleAliases.get? path).filter fun path => (r.modules.get? path).isSome).isSome := by
    rw [Bool.eq_iff_iff]
    simp only [List.findSome?_isSome_iff, isSome_moduleOf?]
  rw [← sheets, ← modules]
  simp only [resolve]
  cases (Specifier.candidates specifier importer).findSome? r.stylesheetOf? with
  | some s => simp
  | none => simp only [Option.isSome_map, Option.isSome_none, Bool.false_eq_true, false_or]

end Registry

end LivePreview
