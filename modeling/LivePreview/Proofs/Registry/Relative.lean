import LivePreview.Proofs.Registry.OwnPath
import LivePreview.Proofs.Specifier.Joining

/-!
# Files from other directories

An import that goes by the way from its own directory to a file. Below the root the first path that
is tried for it is the path of the file, at the root it is that path behind `./`, which belongs to
whom the path belongs to (`dotted_mem_variants_iff`).

What an import finds is a file of the registry (`holds_of_resolve`). `resolve_relative`: the way to
a registered file finds what its path finds from the root.
-/

namespace LivePreview

namespace Path

theorem stem_prefix (path : String) : (stem path).toList <+: path.toList := by
  simp only [stem]
  split
  next front found =>
    obtain ⟨e, -, cut⟩ := List.mem_filterMap.1 (List.mem_of_head? found)
    split
    · exact List.prefix_rfl
    · rw [String.toList_ofList, dropSuffix?_eq_some.1 cut]
      exact List.prefix_append _ _
  next => exact List.prefix_rfl

/-- A spelling without `./` in front is one of a path exactly if it is so behind `./`. -/
theorem dotted_mem_variants_iff {v path : String} (hv : Rooted v) (hpath : Rooted path) :
    "./" ++ v ∈ variants path ↔ v ∈ variants path := by
  have bare : dropDotSlash path = path := hpath
  have notPath : "./" ++ v ≠ path := (hpath.ne v).symm
  have notStem : "./" ++ v ≠ stem path := by
    intro same
    obtain ⟨rest, ends⟩ := stem_prefix path
    refine hpath.ne (v ++ String.ofList rest) ?_
    rw [← String.toList_inj, ← ends, ← same]
    simp
  simp [mem_variants, bare, notPath, notStem, hv.ne]

end Path

namespace Specifier

open LivePreview.Path

variable {importer path : String} (hi : Plain importer) (h : Plain path)
include hi

theorem dirname_eq_empty_iff : dirname importer = "" ↔ directories importer = [] := by
  constructor
  · intro root
    rw [← start_dirname hi, root]
    rfl
  · intro root
    rw [dirname_eq hi.rooted, root]
    rfl

include h

/-- The way to a file names the file from below the root, and is taken as it is at the root. -/
theorem fromImporter?_relative : fromImporter? (relative importer path) (some importer) =
    if directories importer = [] then none else some path := by
  simp only [fromImporter?, isRelative_relative, Bool.true_and, bne_iff_ne, ne_eq,
    dirname_eq_empty_iff hi, join?_relative hi h, ite_not]

theorem candidates_relative : candidates (relative importer path) (some importer) =
    if directories importer = [] then candidates ("./" ++ path) none
    else unique (spellings path ++ spellings (relative importer path)) := by
  rw [candidates, fromImporter?_relative hi h]
  by_cases root : directories importer = []
  · simp only [root, if_true, relative_of_root path root, candidates, fromImporter?]
  · simp only [root, if_false]

/-- The first path that is tried for the way to a file. -/
theorem head?_candidates_relative :
    (candidates (relative importer path) (some importer)).head? =
      some (if directories importer = [] then "./" ++ path else path) := by
  rw [candidates_relative hi h]
  split
  · exact head?_candidates _
  · exact head?_unique _ _

/-- All paths that are tried for the way to a script end in a script extension. -/
theorem extension_of_mem_relative {c : String} {e : ScriptExtension}
    (ends : '.' :: e.name.toList <:+ path.toList)
    (hc : c ∈ candidates (relative importer path) (some importer)) :
    ∃ e' : ScriptExtension, '.' :: e'.name.toList <:+ c.toList := by
  have relative := suffix_relative importer path (slash_not_mem_extension e) ends
  rw [candidates_relative hi h] at hc
  split at hc
  next root =>
    rw [relative_of_root path root] at relative
    exact extension_of_mem_spellings relative (mem_candidates_none.1 hc)
  next =>
    rcases List.mem_append.1 (mem_unique.1 hc) with near | far
    · exact extension_of_mem_spellings ends near
    · exact extension_of_mem_spellings relative far

end Specifier

namespace Registry

open LivePreview.Path Specifier

/-- The registry has the file under some path. -/
def Holds (r : Registry) : Resolved → Prop
  | .module m => ∃ path, r.modules.get? path = some m
  | .stylesheet s => ∃ path, r.stylesheets.get? path = some s

/-- Whatever an import finds is in the registry. -/
theorem holds_of_resolve {r : Registry} {specifier : String} {importer : Option String}
    {found : Resolved} (h : r.resolve specifier importer = some found) : r.Holds found := by
  simp only [resolve] at h
  split at h
  next s sheet =>
    cases h
    obtain ⟨v, -, owned⟩ := List.exists_of_findSome?_eq_some sheet
    obtain ⟨path, -, file⟩ := Option.bind_eq_some_iff.1 owned
    exact ⟨path, file⟩
  next =>
    obtain ⟨m, module, rfl⟩ := Option.map_eq_some_iff.1 h
    obtain ⟨v, -, owned⟩ := List.exists_of_findSome?_eq_some module
    obtain ⟨path, -, file⟩ := Option.bind_eq_some_iff.1 owned
    exact ⟨path, file⟩

variable {paths : List String} {r : Registry} (fair : Fair paths r)
  (plain : ∀ p ∈ paths, Plain p)
include fair plain

omit plain in
/-- A path behind `./` belongs to whom the path belongs to. -/
theorem aliases_dotted (rooted : ∀ p ∈ paths, Rooted p) {v : String} (hv : Rooted v) :
    r.moduleAliases.get? ("./" ++ v) = r.moduleAliases.get? v ∧
      r.stylesheetAliases.get? ("./" ++ v) = r.stylesheetAliases.get? v := by
  constructor
  · refine fair.moduleAliases.get?_congr Precedes.trans Precedes.irrefl fun p => ?_
    refine and_congr_right fun registered => ?_
    obtain ⟨m, hm⟩ := Option.isSome_iff_exists.1 registered
    exact dotted_mem_variants_iff hv (rooted p (fair.module hm).1)
  · refine fair.stylesheetAliases.get?_congr String.lt_trans String.lt_irrefl fun p => ?_
    refine and_congr_right fun registered => ?_
    obtain ⟨s, hs⟩ := Option.isSome_iff_exists.1 registered
    exact dotted_mem_variants_iff hv (rooted p (fair.stylesheet hs).1)

omit plain in
/-- The path of a script belongs to one. -/
theorem exists_moduleOf? {path : String} (registered : (r.modules.get? path).isSome = true) :
    ∃ m, r.moduleOf? path = some m := by
  obtain ⟨o, ho⟩ := Option.isSome_iff_exists.1
    (fair.moduleAliases.owned ⟨registered, self_mem_variants path⟩)
  obtain ⟨m, hm⟩ := Option.isSome_iff_exists.1 (fair.moduleAliases.owner ho).1.1
  exact ⟨m, by rw [moduleOf?, ho, Option.bind_some, hm]⟩

omit plain in
/-- The path of a stylesheet belongs to one. -/
theorem exists_stylesheetOf? {path : String}
    (registered : (r.stylesheets.get? path).isSome = true) :
    ∃ s, r.stylesheetOf? path = some s := by
  obtain ⟨o, ho⟩ := Option.isSome_iff_exists.1
    (fair.stylesheetAliases.owned ⟨registered, self_mem_variants path⟩)
  obtain ⟨s, hs⟩ := Option.isSome_iff_exists.1 (fair.stylesheetAliases.owner ho).1.1
  exact ⟨s, by rw [stylesheetOf?, ho, Option.bind_some, hs]⟩

variable {importer path : String} (hi : Plain importer)
include hi

theorem resolve_relative_module (registered : (r.modules.get? path).isSome = true) :
    ∃ m, r.resolve path none = some (.module m) ∧
      r.resolve (relative importer path) (some importer) = some (.module m) := by
  obtain ⟨_, hm⟩ := Option.isSome_iff_exists.1 registered
  obtain ⟨inside, -, script⟩ := fair.module hm
  have h := plain path inside
  have rooted : ∀ p ∈ paths, Rooted p := fun p hp => (plain p hp).rooted
  obtain ⟨m, owner⟩ := exists_moduleOf? fair registered
  obtain ⟨e, he⟩ := exists_of_isScript script
  refine ⟨m, resolve_of_moduleOf? (head?_candidates path)
    (fun c hc => stylesheetOf?_of_script fair rooted script hc) owner,
    resolve_of_moduleOf? (head?_candidates_relative hi h) (fun c hc => ?_) ?_⟩
  · obtain ⟨e', ends⟩ := extension_of_mem_relative hi h (suffix_of_script he) hc
    exact stylesheetOf?_of_extension fair rooted ends
  · split
    · rw [moduleOf?, (aliases_dotted fair rooted h.rooted).1, ← moduleOf?, owner]
    · exact owner

theorem resolve_relative_stylesheet (registered : (r.stylesheets.get? path).isSome = true) :
    ∃ s, r.resolve path none = some (.stylesheet s) ∧
      r.resolve (relative importer path) (some importer) = some (.stylesheet s) := by
  obtain ⟨_, hs⟩ := Option.isSome_iff_exists.1 registered
  have h := plain path (fair.stylesheet hs).1
  have rooted : ∀ p ∈ paths, Rooted p := fun p hp => (plain p hp).rooted
  obtain ⟨s, owner⟩ := exists_stylesheetOf? fair registered
  refine ⟨s, resolve_of_stylesheetOf? (head?_candidates path) owner,
    resolve_of_stylesheetOf? (head?_candidates_relative hi h) ?_⟩
  split
  · rw [stylesheetOf?, (aliases_dotted fair rooted h.rooted).2, ← stylesheetOf?, owner]
  · exact owner

end Registry

/-! ## Main statement -/

/-- In a project whose paths have neither empty segments nor dots for segments, the way from any
file to a module or stylesheet finds a file of the registry, and the one that its path finds from
the root. -/
theorem Registry.resolve_relative (entryPath : String) (bootstrap : Pattern)
    (jsx : Script.JsxSettings) (p : Project) (plain : ∀ file ∈ p.toList, Path.Plain file.1)
    (importer path : String) (hi : Path.Plain importer) :
    let r := ofProject entryPath bootstrap jsx p
    (r.modules.get? path).isSome = true ∨ (r.stylesheets.get? path).isSome = true →
      ∃ found, r.resolve (Path.relative importer path) (some importer) = some found ∧
        r.resolve path none = some found ∧ r.Holds found := by
  intro r registered
  have fair := fair_ofProject entryPath bootstrap jsx p
  have plain : ∀ q ∈ p.toList.map (·.1), Path.Plain q := by
    intro q hq
    obtain ⟨file, hf, rfl⟩ := List.mem_map.1 hq
    exact plain file hf
  rcases registered with module | stylesheet
  · obtain ⟨m, far, near⟩ := resolve_relative_module fair plain hi module
    exact ⟨.module m, near, far, holds_of_resolve far⟩
  · obtain ⟨s, far, near⟩ := resolve_relative_stylesheet fair plain hi stylesheet
    exact ⟨.stylesheet s, near, far, holds_of_resolve far⟩

/-- From two directories down, a script one directory down is one step up, and not the script of
that name at the root. -/
theorem Registry.resolve_relative_nested :
    let p := Project.ofList [("components/utils.js", ""), ("utils.js", "")]
    let r := ofProject "App.jsx" .index {} p
    Path.relative "components/ui/Card.jsx" "components/utils.js" = "../utils.js" ∧
      (∀ file ∈ p.toList, Path.Plain file.1) ∧ Path.Plain "components/ui/Card.jsx" ∧
      (r.modules.get? "components/utils.js").isSome = true ∧
      ∃ found, r.resolve "../utils.js" (some "components/ui/Card.jsx") = some found ∧
        r.resolve "components/utils.js" none = some found ∧ r.Holds found := by
  intro p r
  have way : Path.relative "components/ui/Card.jsx" "components/utils.js" = "../utils.js" := by
    decide +kernel
  have plain : ∀ file ∈ p.toList, Path.Plain file.1 := by decide +kernel
  have importer : Path.Plain "components/ui/Card.jsx" := by decide +kernel
  have registered : (r.modules.get? "components/utils.js").isSome = true := by decide +kernel
  have found := Registry.resolve_relative "App.jsx" .index {} p plain _ _ importer
    (.inl registered)
  rw [way] at found
  exact ⟨way, plain, importer, registered, found⟩

end LivePreview
