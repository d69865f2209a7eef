import LivePreview.Proofs.Loader.Report

/-!
# From the importer and from the root

An import from below the root stands for two groups of paths: those of the file that it names from
the importer's directory, and those of the file that it names from the root. They are tried as one
list without repetitions, once for stylesheets and once for modules. A repetition that is left out
comes behind its first place, so what is found first stays so (`findSome?_unique`), and each pass
searches the two groups one behind the other.

`resolve_importer_first`: hence a nearer file comes before a farther one of its kind, and a
stylesheet before a module wherever they are.
-/

namespace LivePreview

namespace Path

variable {α : Type}

theorem findSome?_foldl_pushUnique (f : String → Option α) (xs out : List String) :
    (xs.foldl pushUnique out).findSome? f = (out ++ xs).findSome? f := by
  induction xs generalizing out with
  | nil => simp
  | cons x xs ih =>
    rw [List.foldl_cons, ih]
    unfold pushUnique
    split
    · rename_i there
      have there : x ∈ out := by simpa using there
      simp only [List.findSome?_append, List.findSome?_cons]
      cases found : out.findSome? f with
      | some a => rfl
      | none => rw [List.findSome?_eq_none_iff.1 found x there]
    · simp

/-- What is found first is found first without repetitions. -/
theorem findSome?_unique (f : String → Option α) (xs : List String) :
    (unique xs).findSome? f = xs.findSome? f :=
  (findSome?_foldl_pushUnique f xs []).trans (by simp)

end Path

namespace Specifier

theorem findSome?_candidates_none {α : Type} (f : String → Option α) (specifier : String) :
    (candidates specifier none).findSome? f = (spellings specifier).findSome? f :=
  Path.findSome?_unique f _

/-- The paths from the importer's directory are tried before those from the root. -/
theorem findSome?_candidates {α : Type} (f : String → Option α) {specifier importer joined : String}
    (near : fromImporter? specifier (some importer) = some joined) :
    (candidates specifier (some importer)).findSome? f =
      ((candidates joined none).findSome? f).or ((candidates specifier none).findSome? f) := by
  simp only [findSome?_candidates_none]
  rw [candidates, near, Path.findSome?_unique, List.findSome?_append]

/-- What is not named from the importer's directory is named from the root alone. -/
theorem candidates_of_none {specifier : String} {importer : Option String}
    (far : fromImporter? specifier importer = none) :
    candidates specifier importer = candidates specifier none := by
  have root : fromImporter? specifier none = none := rfl
  rw [candidates, candidates, far, root]

theorem fromImporter?_of_join {specifier importer joined : String}
    (relative : isRelative specifier = true) (below : Path.dirname importer ≠ "")
    (join : join? (Path.dirname importer) specifier = some joined) :
    fromImporter? specifier (some importer) = some joined := by
  simp [fromImporter?, relative, below, join]

theorem fromImporter?_eq_none {specifier importer : String}
    (h : join? (Path.dirname importer) specifier = none ∨ isRelative specifier = false ∨
      Path.dirname importer = "") : fromImporter? specifier (some importer) = none := by
  rcases h with escapes | bare | root
  · simp [fromImporter?, escapes]
  · simp [fromImporter?, bare]
  · simp [fromImporter?, root]

end Specifier

namespace Registry

/-- The stylesheet that a specifier finds from the root. -/
def stylesheetAt? (r : Registry) (specifier : String) : Option RegisteredStylesheet :=
  (Specifier.candidates specifier none).findSome? r.stylesheetOf?

/-- The module that a specifier finds from the root, stylesheets apart. -/
def moduleAt? (r : Registry) (specifier : String) : Option RegisteredModule :=
  (Specifier.candidates specifier none).findSome? r.moduleOf?

theorem resolve_eq (r : Registry) (specifier : String) (importer : Option String) :
    r.resolve specifier importer =
      (((Specifier.candidates specifier importer).findSome? r.stylesheetOf?).map .stylesheet).or
        (((Specifier.candidates specifier importer).findSome? r.moduleOf?).map .module) := by
  simp only [resolve]
  cases (Specifier.candidates specifier importer).findSome? r.stylesheetOf? with
  | none => rfl
  | some s => rfl

/-- Where every alias is one of a file, the first path with a file is the first alias. -/
theorem findSome?_files {α : Type} {aliases : Table String} {files : Table α}
    (owned : ∀ {v path}, aliases.get? v = some path → (files.get? path).isSome = true)
    (tried : List String) :
    (tried.findSome? fun v => (aliases.get? v).bind files.get?) =
      (tried.findSome? aliases.get?).bind files.get? := by
  induction tried with
  | nil => rfl
  | cons v tried ih =>
    rw [List.findSome?_cons, List.findSome?_cons]
    cases ho : aliases.get? v with
    | none => exact ih
    | some path =>
      obtain ⟨file, hf⟩ := Option.isSome_iff_exists.1 (owned ho)
      simp [hf]

/-- A relative import from below the root finds the stylesheet that it names from the importer's
directory, else the one from the root, else the module from the importer's directory, else the one
from the root. An import that is not relative, leaves the root, or comes from a file at the root is
looked up from the root alone. What a specifier finds from the root is the file of the first of its
paths that is an alias, as every alias is one of a file. -/
theorem resolve_importer_first (r : Registry) (specifier importer : String) :
    (∀ joined, Specifier.isRelative specifier = true → Path.dirname importer ≠ "" →
      Specifier.join? (Path.dirname importer) specifier = some joined →
      r.resolve specifier (some importer) =
        (((r.stylesheetAt? joined).or (r.stylesheetAt? specifier)).map .stylesheet).or
          (((r.moduleAt? joined).or (r.moduleAt? specifier)).map .module)) ∧
    (Specifier.join? (Path.dirname importer) specifier = none ∨
        Specifier.isRelative specifier = false ∨ Path.dirname importer = "" →
      r.resolve specifier (some importer) = r.resolve specifier none) ∧
    (r.Closed → ∀ x,
      r.stylesheetAt? x = ((Specifier.candidates x none).findSome? r.stylesheetAliases.get?).bind
        r.stylesheets.get? ∧
      r.moduleAt? x = ((Specifier.candidates x none).findSome? r.moduleAliases.get?).bind
        r.modules.get?) := by
  refine ⟨fun joined relative below join => ?_, fun h => ?_, fun closed x => ⟨?_, ?_⟩⟩
  · have near := Specifier.fromImporter?_of_join relative below join
    rw [resolve_eq, Specifier.findSome?_candidates _ near, Specifier.findSome?_candidates _ near]
    rfl
  · rw [resolve_eq, Specifier.candidates_of_none (Specifier.fromImporter?_eq_none h), ← resolve_eq]
  · exact findSome?_files closed.stylesheets _
  · exact findSome?_files closed.modules _

/-- A stylesheet at the root is found before a module next to the importer. What does not begin with
a dot, or is imported by a file at the root, is looked up from the root. -/
theorem resolve_importer_first_theme :
    let r := ofProject "App.jsx" .index {}
      (Project.ofList [("theme.css", ""), ("ui/theme.css.js", ""), ("ui/Card.jsx", "")])
    (r.moduleAt? "ui/theme.css").isSome = true ∧
      r.resolve "./theme.css" (some "ui/Card.jsx") =
        (r.stylesheetAt? "./theme.css").map .stylesheet ∧
      (r.stylesheetAt? "./theme.css").isSome = true ∧
      r.resolve "theme.css" (some "ui/Card.jsx") = r.resolve "theme.css" none ∧
      r.resolve "./theme.css" (some "App.jsx") = r.resolve "./theme.css" none := by
  intro r
  have relative : Specifier.isRelative "./theme.css" = true := by decide
  have bare : Specifier.isRelative "theme.css" = false := by decide
  have below : Path.dirname "ui/Card.jsx" ≠ "" := by decide +kernel
  have root : Path.dirname "App.jsx" = "" := by decide +kernel
  have join : Specifier.join? (Path.dirname "ui/Card.jsx") "./theme.css" = some "ui/theme.css" := by
    decide +kernel
  have closed : r.Closed := closed_ofProject _ _ _ _
  have module : (r.moduleAt? "ui/theme.css").isSome = true := by decide +kernel
  have plain : (r.stylesheetAt? "ui/theme.css").isNone = true := by decide +kernel
  obtain ⟨near, -, files⟩ := resolve_importer_first r "./theme.css" "ui/Card.jsx"
  obtain ⟨-, bareFar, -⟩ := resolve_importer_first r "theme.css" "ui/Card.jsx"
  obtain ⟨-, rootFar, -⟩ := resolve_importer_first r "./theme.css" "App.jsx"
  have sheet : (r.stylesheetAt? "./theme.css").isSome = true := by
    rw [(files closed "./theme.css").1]
    decide +kernel
  refine ⟨module, ?_, sheet, bareFar (.inr (.inl bare)), rootFar (.inr (.inr root))⟩
  obtain ⟨found, isFound⟩ := Option.isSome_iff_exists.1 sheet
  rw [near _ relative below join, Option.isNone_iff_eq_none.1 plain, isFound]
  rfl

end Registry

end LivePreview
