import LivePreview.Proofs.Loader.Report
import LivePreview.Proofs.Registry.Ownership

/-!
# Files under their own paths

What an import names that gives the path of a registered file in full. A stylesheet is always found
under its path (`resolve_stylesheet`). A script `p` is one spelling among others to the script that
is called `p` with another script extension, and loses it to that one if its extension is the
stronger one (`Shadows`).

`resolve_own_path_iff`: but for this, every file answers to its own path.
-/

namespace LivePreview.Registry

/-- To the script `q` the path `p` is a spelling without extension, and `q` has the better right to
it. -/
def Shadows (q p : String) : Prop :=
  ∃ e : ScriptExtension, q = p ++ "." ++ e.name ∧ '\n' ∉ p.toList ∧ e.rank < Path.extensionRank p

theorem lt_append_of_ne_nil (cs : List Char) {ds : List Char} (h : ds ≠ []) : cs < cs ++ ds := by
  induction cs with
  | nil =>
    obtain ⟨d, ds, rfl⟩ := List.exists_cons_of_ne_nil h
    exact List.nil_lt_cons _ _
  | cons c cs ih => exact List.cons_lt_cons_iff.2 (.inr ⟨rfl, ih⟩)

/-- Of the scripts that have a script's path as a spelling, only those that shadow it have the
better right to it. -/
theorem shadows_iff_precedes {p q : String} {e : ScriptExtension} (hp : Path.Rooted p)
    (hq : Path.Rooted q) (script : Path.classify q = .script e) :
    Shadows q p ↔ p ∈ Path.variants q ∧ Precedes q p := by
  rw [Path.mem_variants_of_script hp hq script]
  have rank := Path.extensionRank_of_script script
  constructor
  · rintro ⟨e', rfl, line, stronger⟩
    have same : e' = e := Path.extension_unique
      ⟨p.toList, by simp⟩ (Path.suffix_of_script script)
    subst same
    exact ⟨.inr ⟨rfl, line⟩, .inl (Nat.lt_of_le_of_lt (Nat.le_of_eq rank) stronger)⟩
  · rintro ⟨rfl | ⟨rfl, line⟩, before⟩
    · exact absurd before (Precedes.irrefl _)
    · refine ⟨e, rfl, line, ?_⟩
      rcases before with stronger | ⟨-, first⟩
      · exact Nat.lt_of_le_of_lt (Nat.le_of_eq rank.symm) stronger
      · have : p < p ++ "." ++ e.name := by
          rw [String.lt_iff, String.append_assoc, String.toList_append]
          exact lt_append_of_ne_nil _ (by simp)
        exact absurd (String.lt_trans first this) (String.lt_irrefl _)

/-! ## Resolving a path -/

theorem resolve_of_stylesheetOf? {r : Registry} {specifier first : String}
    {importer : Option String} {s : RegisteredStylesheet}
    (tried : (Specifier.candidates specifier importer).head? = some first)
    (h : r.stylesheetOf? first = some s) :
    r.resolve specifier importer = some (.stylesheet s) := by
  obtain ⟨rest, hc⟩ := List.head?_eq_some_iff.1 tried
  simp [resolve, hc, h]

theorem resolve_of_moduleOf? {r : Registry} {specifier first : String}
    {importer : Option String} {m : RegisteredModule}
    (tried : (Specifier.candidates specifier importer).head? = some first)
    (sheets : ∀ c ∈ Specifier.candidates specifier importer, r.stylesheetOf? c = none)
    (h : r.moduleOf? first = some m) : r.resolve specifier importer = some (.module m) := by
  obtain ⟨rest, hc⟩ := List.head?_eq_some_iff.1 tried
  simp only [resolve, List.findSome?_eq_none_iff.2 sheets]
  simp [hc, h]

section
variable {paths : List String} {r : Registry} (fair : Fair paths r)
  (rooted : ∀ p ∈ paths, Path.Rooted p)
include fair rooted

/-- A stylesheet is found under its own path. -/
theorem resolve_stylesheet {path : String} {s : RegisteredStylesheet}
    (hs : r.stylesheets.get? path = some s) : r.resolve path none = some (.stylesheet s) := by
  obtain ⟨hpath, -, -⟩ := fair.stylesheet hs
  obtain ⟨o, ho⟩ := Option.isSome_iff_exists.1
    (fair.stylesheetAliases.owned ⟨by rw [hs]; rfl, Path.self_mem_variants path⟩)
  obtain ⟨⟨registered, spelled⟩, -⟩ := fair.stylesheetAliases.owner ho
  obtain ⟨s', hs'⟩ := Option.isSome_iff_exists.1 registered
  obtain ⟨hopath, -, sheet⟩ := fair.stylesheet hs'
  obtain rfl : path = o :=
    (Path.mem_variants_of_stylesheet (rooted _ hpath) (rooted _ hopath) sheet).1 spelled
  exact resolve_of_stylesheetOf? (head?_candidates path)
    (by rw [stylesheetOf?, ho, Option.bind_some, hs])

/-- What does not end as stylesheets do is no spelling of one. -/
theorem stylesheetOf?_of_not_css {c : String} (other : ¬ ".css".toList <:+ c.toList) :
    r.stylesheetOf? c = none := by
  have none : r.stylesheetAliases.get? c = none := by
    rw [Option.eq_none_iff_forall_ne_some]
    intro o ho
    obtain ⟨⟨registered, spelled⟩, -⟩ := fair.stylesheetAliases.owner ho
    obtain ⟨s, hs⟩ := Option.isSome_iff_exists.1 registered
    obtain ⟨hopath, -, sheet⟩ := fair.stylesheet hs
    exact other (Path.suffix_of_mem_variants (rooted _ hopath) sheet spelled)
  rw [stylesheetOf?, none, Option.bind_none]

/-- What ends in a script extension is no spelling of a stylesheet. -/
theorem stylesheetOf?_of_extension {c : String} {e : ScriptExtension}
    (ends : '.' :: e.name.toList <:+ c.toList) : r.stylesheetOf? c = none :=
  stylesheetOf?_of_not_css fair rooted (Path.not_css_of_extension ends)

/-- None of the paths that are tried for a script is a spelling of a stylesheet. -/
theorem stylesheetOf?_of_script {path c : String} (script : Path.isScript path = true)
    (hc : c ∈ Specifier.candidates path none) : r.stylesheetOf? c = none := by
  obtain ⟨e, he⟩ := Path.exists_of_isScript script
  obtain ⟨e', ends⟩ := extension_of_mem_spellings (Path.suffix_of_script he)
    (mem_candidates_none.1 hc)
  exact stylesheetOf?_of_extension fair rooted ends

theorem script_of_registered {path : String} (registered : (r.modules.get? path).isSome = true) :
    Path.Rooted path ∧ ∃ e, Path.classify path = .script e := by
  obtain ⟨m, hm⟩ := Option.isSome_iff_exists.1 registered
  obtain ⟨inside, -, script⟩ := fair.module hm
  exact ⟨rooted path inside, Path.exists_of_isScript script⟩

/-- A registered script that shadows a path has it as a spelling, and the better right to it. -/
theorem shadows_iff {p q : String} (hp : Path.Rooted p)
    (hq : (r.modules.get? q).isSome = true) :
    Shadows q p ↔ p ∈ Path.variants q ∧ Precedes q p := by
  obtain ⟨hq, e, he⟩ := script_of_registered fair rooted hq
  exact shadows_iff_precedes hp hq he

/-- The path of a script finds it, or the one with the best right of those that shadow it. -/
theorem resolve_module {path : String} (hm : (r.modules.get? path).isSome = true) :
    ∃ o n, r.modules.get? o = some n ∧ r.resolve path none = some (.module n) ∧
      (o = path ∨ Shadows o path) ∧
      ∀ q, (r.modules.get? q).isSome = true → Shadows q path → q = o ∨ Precedes o q := by
  obtain ⟨m, hpath⟩ := Option.isSome_iff_exists.1 hm
  obtain ⟨inside, -, script⟩ := fair.module hpath
  have hpath := rooted path inside
  have own : r.HasModule path path := ⟨hm, Path.self_mem_variants path⟩
  obtain ⟨o, ho⟩ := Option.isSome_iff_exists.1 (fair.moduleAliases.owned own)
  obtain ⟨⟨registered, spelled⟩, best⟩ := fair.moduleAliases.owner ho
  obtain ⟨n, hn⟩ := Option.isSome_iff_exists.1 registered
  refine ⟨o, n, hn, ?_, ?_, fun q hq shadows => ?_⟩
  · refine resolve_of_moduleOf? (head?_candidates path)
      (fun c hc => stylesheetOf?_of_script fair rooted script hc) ?_
    rw [moduleOf?, ho, Option.bind_some, hn]
  · rcases best path own with same | before
    · exact .inl same.symm
    · exact .inr ((shadows_iff fair rooted hpath registered).2 ⟨spelled, before⟩)
  · exact best q ⟨hq, ((shadows_iff fair rooted hpath hq).1 shadows).1⟩

/-- A script is found under its own path exactly if no script shadows it. -/
theorem resolve_module_iff {path : String} {m : RegisteredModule}
    (hm : r.modules.get? path = some m) :
    r.resolve path none = some (.module m) ↔
      ∀ q, (r.modules.get? q).isSome = true → ¬ Shadows q path := by
  have registered : (r.modules.get? path).isSome = true := by rw [hm]; rfl
  obtain ⟨inside, hpath, -⟩ := fair.module hm
  obtain ⟨o, n, hn, found, which, best⟩ := resolve_module fair rooted registered
  rw [found]
  constructor
  · rintro ⟨⟩ q hq shadows
    obtain rfl : o = path := (fair.module hn).2.1.symm.trans hpath
    obtain ⟨-, before⟩ := (shadows_iff fair rooted (rooted _ inside) hq).1 shadows
    rcases best q hq shadows with rfl | before'
    · exact Precedes.irrefl _ before
    · exact Precedes.irrefl _ (before.trans before')
  · intro none
    rcases which with rfl | shadows
    · rw [Option.some.inj (hn.symm.trans hm)]
    · exact absurd shadows (none o (by rw [hn]; rfl))

end

theorem mem_modules_iff {paths : List String} {r : Registry} (fair : Fair paths r)
    {m : RegisteredModule} : m ∈ r.modules.values ↔ r.modules.get? m.path = some m :=
  Table.mem_values fun hm => (fair.module hm).2.1

theorem mem_stylesheets_iff {paths : List String} {r : Registry} (fair : Fair paths r)
    {s : RegisteredStylesheet} :
    s ∈ r.stylesheets.values ↔ r.stylesheets.get? s.path = some s :=
  Table.mem_values fun hs => (fair.stylesheet hs).2.1

/-! ## Main statement -/

/-- In a project that is built by insertions every stylesheet answers to its own path, and a script
does unless another one shadows it; then one of those answers in its place. -/
theorem resolve_own_path_iff (files : List (String × String)) (entryPath : String)
    (bootstrap : Pattern) (jsx : Script.JsxSettings) :
    let r := ofProject entryPath bootstrap jsx (Project.ofList files)
    (∀ s ∈ r.stylesheets.values, r.resolve s.path none = some (.stylesheet s)) ∧
    (∀ m ∈ r.modules.values,
      (r.resolve m.path none = some (.module m) ↔
        ∀ n ∈ r.modules.values, ¬ Shadows n.path m.path) ∧
      ∃ n ∈ r.modules.values, r.resolve m.path none = some (.module n) ∧
        (n = m ∨ Shadows n.path m.path)) := by
  intro r
  have fair := fair_ofProject entryPath bootstrap jsx (Project.ofList files)
  have rooted : ∀ p ∈ (Project.ofList files).toList.map (·.1), Path.Rooted p := by
    intro p hp
    obtain ⟨file, hf, rfl⟩ := List.mem_map.1 hp
    exact rooted_of_mem_ofList hf
  refine ⟨fun s hs => resolve_stylesheet fair rooted ((mem_stylesheets_iff fair).1 hs),
    fun m hm => ⟨?_, ?_⟩⟩
  · rw [mem_modules_iff fair] at hm
    rw [resolve_module_iff fair rooted hm]
    constructor
    · intro none n hn
      rw [mem_modules_iff fair] at hn
      exact none n.path (by rw [hn]; rfl)
    · intro none q hq shadows
      obtain ⟨n, hn⟩ := Option.isSome_iff_exists.1 hq
      obtain rfl : n.path = q := (fair.module hn).2.1
      exact none n ((mem_modules_iff fair).2 hn) shadows
  · rw [mem_modules_iff fair] at hm
    obtain ⟨o, n, hn, found, which, -⟩ := resolve_module fair rooted (by rw [hm]; rfl)
    obtain rfl : n.path = o := (fair.module hn).2.1
    refine ⟨n, (mem_modules_iff fair).2 hn, found, which.imp_left fun same => ?_⟩
    rw [same, hm] at hn
    exact (Option.some.inj hn).symm

/-- A script is not found under its own path if another is called so with a stronger extension
behind. -/
theorem own_path_taken :
    let r := ofProject "App.jsx" .index {} (Project.ofList [("a.js", ""), ("a.js.tsx", "")])
    ∃ m ∈ r.modules.values, ∃ n ∈ r.modules.values, m.path = "a.js" ∧ n.path = "a.js.tsx" ∧
      r.resolve m.path none = some (.module n) ∧ r.resolve m.path none ≠ some (.module m) := by
  decide +kernel

end LivePreview.Registry
