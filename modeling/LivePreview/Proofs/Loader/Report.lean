import LivePreview.Proofs.Loader.Lookup

/-!
# Reports and loaders

A build reports the imports that nothing answers; when the preview runs, its loader goes by tables
that the build made. `Builder.answer?` is the loader's lookup over these tables.

Both find what is preloaded and what the project has. They differ in the packages: the report asks
whether the import, or its package, is among those asked for (`Builder.Vouched`), the loader
whether a global of either has been loaded (`Builder.Carried`). `report_agrees_iff`: they agree on
an import exactly if it is served without packages, or the two answers are the same. With an
orderly catalog, as the built-in one is (`orderly_builtin`), they are the same unless a path is
asked for and not its package (`vouched_iff_carried`), so that a report without unknown packages is
right about all imports (`report_agrees_of_known`).
-/

namespace LivePreview

/-- The global that a package itself declares. -/
def Catalog.declared? (c : Catalog) (package : String) : Option String :=
  (c.get? package).bind (·.global?)

namespace Builder

variable (b : Builder) (request : Request)

/-- The tables that a build passes to the loader. -/
def tables : LoaderTables := .ofRegistry (b.registry request) b.catalog.globals

/-- The page has a global if a package that was asked for declares it. -/
def loaded (global : String) : Bool :=
  request.dependencies.any fun package => b.catalog.declared? package == some global

/-- What the loader of a build answers to `specifier`, required by `importer`. -/
def answer? (importer specifier : String) : Option Answer :=
  (b.tables request).lookup (b.loaded request)
    (fun path => ((b.registry request).modules.get? path).isSome) specifier importer

/-- A file of the project that is not left out imports `specifier`. -/
def Imports (importer specifier : String) : Prop :=
  (importer = b.entryPath ∧ ∃ entry,
    Module.lower .entry b.entryPath request.entrySource = .ok entry ∧
    specifier ∈ entry.imports) ∨
  ∃ m ∈ (b.registry request).modules.values, m.path = importer ∧ specifier ∈ m.imports

/-- The specifier is answered without packages. -/
def Served (importer specifier : String) : Prop :=
  Globals.isBuiltin specifier = true ∨
    ((b.registry request).resolve specifier (some importer)).isSome = true

/-- The report takes the specifier to be answered by a package. -/
def Vouched (specifier : String) : Prop :=
  Specifier.isRelative specifier = false ∧ (b.catalog.global? specifier).isSome = true ∧
    (specifier ∈ request.dependencies ∨ Specifier.basePackage specifier ∈ request.dependencies)

/-- The loader finds a global for the specifier, or for the package that it is a path in. -/
def Carried (specifier : String) : Prop :=
  (∃ g, b.catalog.declared? specifier = some g ∧ b.loaded request g = true) ∨
  (Specifier.basePackage specifier ≠ specifier ∧
    ∃ g, b.catalog.declared? (Specifier.basePackage specifier) = some g ∧
      b.loaded request g = true)

/-- The specifier is asked for, but not the package that it lies in, whose global it would read. -/
def Astray (specifier : String) : Prop :=
  Specifier.isRelative specifier = false ∧
    (b.catalog.declared? (Specifier.basePackage specifier)).isSome = true ∧
    specifier ∈ request.dependencies ∧ Specifier.basePackage specifier ∉ request.dependencies

end Builder

namespace Builder

variable {b : Builder} {request : Request}

theorem answers_iff {importer specifier : String} :
    b.answers (b.registry request) request importer specifier = true ↔
      b.Served request importer specifier ∨ b.Vouched request specifier := by
  simp only [answers, Served, Vouched, Bool.or_eq_true, Bool.and_eq_true, Bool.not_eq_true',
    List.any_eq_true, beq_iff_eq, and_assoc]
  have named : (∃ d ∈ request.dependencies, d = specifier ∨ Specifier.basePackage specifier = d) ↔
      (specifier ∈ request.dependencies ∨
        Specifier.basePackage specifier ∈ request.dependencies) := by
    constructor
    · rintro ⟨d, hd, rfl | rfl⟩
      · exact .inl hd
      · exact .inr hd
    · rintro (hd | hd)
      · exact ⟨_, hd, .inl rfl⟩
      · exact ⟨_, hd, .inr rfl⟩
  rw [named]

theorem mem_unresolved {r : Registry} {importer specifier file : String}
    {specifiers : List String} :
    ⟨importer, specifier⟩ ∈ b.unresolved r request file specifiers ↔
      file = importer ∧ specifier ∈ specifiers ∧
        b.answers r request importer specifier = false := by
  simp only [unresolved, List.mem_map, List.mem_filter, Bool.not_eq_true',
    UnresolvedImport.mk.injEq]
  constructor
  · rintro ⟨s, ⟨hs, ha⟩, rfl, rfl⟩
    exact ⟨rfl, hs, ha⟩
  · rintro ⟨rfl, hs, ha⟩
    exact ⟨specifier, ⟨hs, ha⟩, rfl, rfl⟩

/-- A build that succeeds reports on the imports that the entry has when it is lowered. -/
theorem report_eq {output : Output} (build : b.build request = .ok output) :
    ∃ entry, Module.lower .entry b.entryPath request.entrySource = .ok entry ∧
      output.report = b.report (b.registry request) request entry.imports := by
  unfold Builder.build at build
  cases hl : Module.lower .entry b.entryPath request.entrySource with
  | error e =>
    rw [hl] at build
    cases build
  | ok entry =>
    rw [hl] at build
    refine ⟨entry, rfl, ?_⟩
    cases hj : Script.transpile b.config.jsx b.entryPath entry.code with
    | error e => simp [hj, bind, Except.bind] at build
    | ok js =>
      simp only [hj, bind, Except.bind, pure, Except.pure, Except.ok.injEq] at build
      exact (congrArg Output.report build).symm

/-- An import is reported if neither the project nor a package is taken to answer it. -/
theorem mem_report {output : Output} (build : b.build request = .ok output)
    {importer specifier : String} (imported : b.Imports request importer specifier) :
    ⟨importer, specifier⟩ ∈ output.report.unresolved ↔
      ¬ (b.Served request importer specifier ∨ b.Vouched request specifier) := by
  obtain ⟨entry, hl, hr⟩ := report_eq build
  rw [← answers_iff, Bool.not_eq_true, hr]
  simp only [report, List.mem_append, List.mem_flatMap, mem_unresolved]
  constructor
  · rintro (⟨-, -, ha⟩ | ⟨_, -, -, -, ha⟩)
    · exact ha
    · exact ha
  · intro ha
    rcases imported with ⟨rfl, entry', hl', hs⟩ | ⟨m, hm, rfl, hs⟩
    · obtain rfl : entry = entry' := Except.ok.inj (hl.symm.trans hl')
      exact .inl ⟨rfl, hs, ha⟩
    · exact .inr ⟨m, hm, rfl, hs, ha⟩

theorem get?_globals (c : Catalog) (package : String) :
    c.globals.get? package = c.declared? package := Table.get?_filterMap _ _ _

theorem isSome_answer? (importer specifier : String) :
    (b.answer? request importer specifier).isSome = true ↔
      b.Served request importer specifier ∨ b.Carried request specifier := by
  have closed : (b.registry request).Closed := Registry.closed_ofProject _ _ _ _
  have carried : ∀ package, ((b.catalog.globals.get? package).filter (b.loaded request)).isSome =
      true ↔ ∃ g, b.catalog.declared? package = some g ∧ b.loaded request g = true := by
    intro package
    simp [get?_globals, Option.any_eq_true]
  have inside : (if Specifier.basePackage specifier ≠ specifier then
        ((b.catalog.globals.get? (Specifier.basePackage specifier)).filter (b.loaded request)).map
          Answer.package
      else none).isSome = true ↔ Specifier.basePackage specifier ≠ specifier ∧
        ∃ g, b.catalog.declared? (Specifier.basePackage specifier) = some g ∧
          b.loaded request g = true := by
    split
    next h => simp only [Option.isSome_map, carried, h, ne_eq, not_false_eq_true, true_and]
    next h => simp [h]
  simp only [answer?, LoaderTables.lookup, Option.isSome_or, Option.isSome_map, Bool.or_eq_true,
    tables, candidates_ofRegistry, loaderPackage_eq, Served, Registry.isSome_resolve closed,
    Carried]
  simp only [LoaderTables.ofRegistry, carried, inside, Globals.isBuiltin, Globals.builtin?]
  grind

theorem answer?_eq_none (importer specifier : String) :
    b.answer? request importer specifier = none ↔
      ¬ (b.Served request importer specifier ∨ b.Carried request specifier) := by
  rw [← isSome_answer?, Bool.not_eq_true, Option.isSome_eq_false_iff, Option.isNone_iff_eq_none]

end Builder

/-! ## Orderly catalogs -/

/-- Every name is that of a whole package, and no two packages share a global. -/
structure Catalog.Orderly (c : Catalog) : Prop where
  whole : ∀ {package}, (c.get? package).isSome = true →
    Specifier.basePackage package = package ∧ package ≠ "." ∧ package ≠ ".."
  apart : ∀ {p q g}, c.declared? p = some g → c.declared? q = some g → p = q

namespace Catalog.Orderly

variable {c : Catalog}

theorem declared?_of_ne (h : c.Orderly) {specifier : String}
    (inside : Specifier.basePackage specifier ≠ specifier) : c.declared? specifier = none := by
  unfold Catalog.declared?
  cases hg : c.get? specifier with
  | none => rfl
  | some d => exact absurd (h.whole (by simp [hg])).1 inside

/-- In an orderly catalog a specifier reads the global of its package. -/
theorem global?_eq (h : c.Orderly) (specifier : String) :
    c.global? specifier = c.declared? (Specifier.basePackage specifier) := by
  unfold Catalog.global?
  cases hg : c.get? specifier with
  | none => rfl
  | some d =>
    rw [(h.whole (by simp [hg])).1]
    simp [Catalog.declared?, hg]

end Catalog.Orderly

/-- What is named from where the importer is lies in no package. -/
theorem basePackage_of_isRelative {specifier : String}
    (relative : Specifier.isRelative specifier = true) :
    Specifier.basePackage specifier = "." ∨ Specifier.basePackage specifier = ".." := by
  simp only [Specifier.isRelative, Bool.or_eq_true, List.isPrefixOf_iff_prefix] at relative
  unfold Specifier.basePackage
  rcases relative with ⟨rest, hs⟩ | ⟨rest, hs⟩
  · left
    rw [← hs]
    rfl
  · right
    rw [← hs]
    rfl

theorem loaded_iff {b : Builder} {request : Request} (orderly : b.catalog.Orderly)
    {package global : String} (declared : b.catalog.declared? package = some global) :
    b.loaded request global = true ↔ package ∈ request.dependencies := by
  simp only [Builder.loaded, List.any_eq_true, beq_iff_eq]
  constructor
  · rintro ⟨p, hp, hg⟩
    rwa [orderly.apart declared hg]
  · exact fun hp => ⟨package, hp, declared⟩

theorem carried_iff {b : Builder} {request : Request} (orderly : b.catalog.Orderly)
    (specifier : String) : b.Carried request specifier ↔
      ∃ g, b.catalog.declared? (Specifier.basePackage specifier) = some g ∧
        Specifier.basePackage specifier ∈ request.dependencies := by
  have asked : (∃ g, b.catalog.declared? (Specifier.basePackage specifier) = some g ∧
        b.loaded request g = true) ↔
      ∃ g, b.catalog.declared? (Specifier.basePackage specifier) = some g ∧
        Specifier.basePackage specifier ∈ request.dependencies :=
    exists_congr fun g => and_congr_right fun hg => loaded_iff orderly hg
  unfold Builder.Carried
  by_cases inside : Specifier.basePackage specifier = specifier
  · simpa [inside] using asked
  · simpa [inside, orderly.declared?_of_ne inside] using asked

/-- With an orderly catalog the report sees all that the loader sees, and what went astray. -/
theorem vouched_iff {b : Builder} {request : Request} (orderly : b.catalog.Orderly)
    (specifier : String) : b.Vouched request specifier ↔
      b.Carried request specifier ∨ b.Astray request specifier := by
  rw [carried_iff orderly, Builder.Vouched, Builder.Astray, orderly.global?_eq]
  constructor
  · rintro ⟨bare, declared, asked⟩
    by_cases package : Specifier.basePackage specifier ∈ request.dependencies
    · obtain ⟨g, hg⟩ := Option.isSome_iff_exists.1 declared
      exact .inl ⟨g, hg, package⟩
    · exact .inr ⟨bare, declared, asked.resolve_right package, package⟩
  · rintro (⟨g, hg, asked⟩ | ⟨bare, declared, asked, -⟩)
    · refine ⟨?_, by simp [hg], .inr asked⟩
      rw [← Bool.not_eq_true]
      intro relative
      obtain ⟨d, hd, -⟩ := Option.bind_eq_some_iff.1 hg
      obtain ⟨-, here, above⟩ := orderly.whole (Option.isSome_of_eq_some hd)
      rcases basePackage_of_isRelative relative with h | h
      · exact here h
      · exact above h
    · exact ⟨bare, declared, .inl asked⟩

theorem vouched_iff_carried {b : Builder} {request : Request} (orderly : b.catalog.Orderly)
    (specifier : String) : (b.Vouched request specifier ↔ b.Carried request specifier) ↔
      ¬ b.Astray request specifier := by
  have apart : b.Carried request specifier → ¬ b.Astray request specifier := by
    rw [carried_iff orderly]
    rintro ⟨g, -, asked⟩ ⟨-, -, -, package⟩
    exact package asked
  rw [vouched_iff orderly]
  constructor
  · exact fun same astray => apart (same.1 (.inr astray)) astray
  · exact fun found => ⟨fun h => h.resolve_right found, .inl⟩

theorem isSome_get?_of_unknown {c : Catalog} {requested : List String}
    (h : c.unknown requested = []) : ∀ package ∈ requested, (c.get? package).isSome = true := by
  intro package hp
  have := List.filter_eq_nil_iff.1 h package hp
  simpa [Catalog.contains, Table.contains, Catalog.get?, Option.isSome_iff_ne_none] using this

/-- With an orderly catalog, a report that knows all the packages asked for lists exactly the
imports that the loader finds nothing for. -/
theorem report_agrees_of_known {b : Builder} {request : Request} {output : Output}
    (orderly : b.catalog.Orderly) (build : b.build request = .ok output)
    (known : output.report.unknownDependencies = []) {importer specifier : String}
    (imported : b.Imports request importer specifier) :
    ⟨importer, specifier⟩ ∈ output.report.unresolved ↔
      b.answer? request importer specifier = none := by
  obtain ⟨entry, -, hr⟩ := Builder.report_eq build
  rw [hr] at known
  have found : ¬ b.Astray request specifier := by
    rintro ⟨-, -, asked, package⟩
    rw [(orderly.whole (isSome_get?_of_unknown known _ asked)).1] at package
    exact package asked
  rw [Builder.mem_report build imported, Builder.answer?_eq_none,
    (vouched_iff_carried orderly specifier).2 found]

theorem orderly_builtin : Catalog.builtin.Orderly where
  whole {package} h := by
    obtain ⟨d, hd⟩ := Option.isSome_iff_exists.1 h
    have all : ∀ e ∈ Catalog.builtin.table.entries,
        Specifier.basePackage e.1 = e.1 ∧ e.1 ≠ "." ∧ e.1 ≠ ".." := by decide +kernel
    exact all _ (Table.mem_of_get? hd)
  apart {p q g} hp hq := by
    have all : ∀ e ∈ Catalog.builtin.table.entries, ∀ e' ∈ Catalog.builtin.table.entries,
        e.2.global?.isSome = true → e.2.global? = e'.2.global? → e.1 = e'.1 := by decide +kernel
    obtain ⟨d, hd, hdg⟩ := Option.bind_eq_some_iff.1 hp
    obtain ⟨d', hd', hdg'⟩ := Option.bind_eq_some_iff.1 hq
    exact all _ (Table.mem_of_get? hd) _ (Table.mem_of_get? hd') (by simp [hdg])
      (hdg.trans hdg'.symm)

/-! ## The default configuration -/

/-- The characters of a text, and then something more. -/
def Pattern.word (text : String) (rest : Pattern) : Pattern :=
  text.toList.foldr (fun c p => .seq (.one ⟨[(c.toNat, c.toNat)]⟩) p) rest

/-- The pattern of the default configuration. -/
def Pattern.index : Pattern :=
  let optional (c : Char) : Pattern := .seq (.times (.one ⟨[(c.toNat, c.toNat)]⟩) 0 (some 1)) .empty
  .seq (.boundary .textStart) (word "index." (.seq
    (.group (.alt (word "js" (optional 'x')) (word "ts" (optional 'x'))))
    (.seq (.boundary .textEnd) .empty)))

/-- The builder of the default configuration. -/
def Builder.standard : Builder := ⟨{}, .index, .builtin⟩

theorem ofConfig_standard : Builder.ofConfig {} = .ok .standard := eq_ok (by decide +kernel)

theorem imports_entry {request : Request} {specifier : String}
    (h : (Module.lower .entry "App.jsx" request.entrySource).toOption.any
      (fun l => l.imports.contains specifier) = true) :
    Builder.standard.Imports request "App.jsx" specifier := by
  obtain ⟨entry, hl, hs⟩ := exists_ok h
  exact .inl ⟨rfl, entry, hl, by simpa using hs⟩

/-! ## Main statement -/

/-- The report and the loader agree on an import exactly if the project or React answers it, or a
package does so for both or for neither. With an orderly catalog, that is unless it went astray. -/
theorem report_agrees_iff {b : Builder} {request : Request} {output : Output}
    (build : b.build request = .ok output) {importer specifier : String}
    (imported : b.Imports request importer specifier) :
    ((⟨importer, specifier⟩ ∈ output.report.unresolved ↔
        b.answer? request importer specifier = none) ↔
      b.Served request importer specifier ∨
        (b.Vouched request specifier ↔ b.Carried request specifier)) ∧
    (b.catalog.Orderly →
      ((⟨importer, specifier⟩ ∈ output.report.unresolved ↔
          b.answer? request importer specifier = none) ↔
        b.Served request importer specifier ∨ ¬ b.Astray request specifier)) := by
  have agree : (⟨importer, specifier⟩ ∈ output.report.unresolved ↔
        b.answer? request importer specifier = none) ↔
      b.Served request importer specifier ∨
        (b.Vouched request specifier ↔ b.Carried request specifier) := by
    rw [Builder.mem_report build imported, Builder.answer?_eq_none]
    by_cases served : b.Served request importer specifier
    · simp [served]
    · by_cases vouched : b.Vouched request specifier
      · simp [served, vouched]
      · simp [served, vouched]
  refine ⟨agree, fun orderly => ?_⟩
  rw [agree, vouched_iff_carried orderly]

/-- A path in a package that was asked for is carried by its global. -/
theorem report_agrees_on_path :
    let request : Request :=
      { entrySource := "import \"lodash/debounce\"", dependencies := ["lodash"] }
    ∃ output, Builder.standard.build request = .ok output ∧
      (⟨"App.jsx", "lodash/debounce"⟩ ∈ output.report.unresolved ↔
        Builder.standard.answer? request "App.jsx" "lodash/debounce" = none) := by
  intro request
  obtain ⟨output, build, -⟩ := exists_ok (x := Builder.standard.build request) (p := fun _ => true)
    (by decide +kernel)
  have imported : Builder.standard.Imports request "App.jsx" "lodash/debounce" :=
    imports_entry (by decide +kernel)
  have found : ¬ Builder.standard.Astray request "lodash/debounce" := by
    rintro ⟨-, -, asked, -⟩
    simp [request] at asked
  exact ⟨output, build, ((report_agrees_iff build imported).2 orderly_builtin).2 (.inr found)⟩

/-- An import that is asked for by its own path, but not by its package, is not reported, and the
loader finds nothing for it. -/
theorem report_misses_path :
    let request : Request :=
      { entrySource := "import \"lodash/debounce\"", dependencies := ["lodash/debounce"] }
    ∃ b output, Builder.ofConfig {} = .ok b ∧ b.build request = .ok output ∧
      b.Imports request "App.jsx" "lodash/debounce" ∧
      ⟨"App.jsx", "lodash/debounce"⟩ ∉ output.report.unresolved ∧
      b.answer? request "App.jsx" "lodash/debounce" = none := by
  intro request
  obtain ⟨output, build, -⟩ := exists_ok (x := Builder.standard.build request) (p := fun _ => true)
    (by decide +kernel)
  have imported : Builder.standard.Imports request "App.jsx" "lodash/debounce" :=
    imports_entry (by decide +kernel)
  have vouched : Builder.standard.Vouched request "lodash/debounce" := by
    unfold Builder.Vouched
    decide +kernel
  refine ⟨.standard, output, ofConfig_standard, build, imported, ?_, by decide +kernel⟩
  rw [Builder.mem_report build imported]
  exact fun h => h (.inr vouched)

end LivePreview
