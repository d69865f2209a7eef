import LivePreview.Proofs.Loader.Report

/-!
# Aliases and their owners

What the registry of a project holds, told from the files of the project. `fate` is what becomes of
a file by itself: it is a module, a stylesheet, skipped, or of no use. `Stocked files r`: the
registry `r` holds what becomes of each of the files, and nothing else (`stocked_ofProject`).

`aliases_owned`: the aliases of a registry are the spellings of what it holds, and an alias belongs
to the one that comes before all others with that spelling.
-/

namespace LivePreview.Registry

/-! ## What becomes of a file -/

/-- What becomes of a file in a registry. -/
inductive Fate where
  | unused
  | module (m : RegisteredModule)
  | stylesheet (s : RegisteredStylesheet)
  | skipped (s : SkippedModule)

/-- What has become of the file at `path`. -/
def Fate.Of (path : String) : Fate → Prop
  | unused => True
  | module m => m.path = path ∧ m.variants = Path.variants path
  | stylesheet s => s.path = path ∧ s.variants = Path.variants path
  | skipped s => s.path = path

/-- The registry with what becomes of one more file. -/
def Fate.addTo (r : Registry) : Fate → Registry
  | unused => r
  | module m => r.addModule m
  | stylesheet s => r.addStylesheet s.path s.text
  | skipped s => { r with skipped := r.skipped ++ [s] }

section
variable (entryPath : String) (bootstrap : Pattern) (jsx : Script.JsxSettings)

/-- What becomes of a file, whatever other files there are. -/
def fate (path source : String) : Fate :=
  if isEntry path entryPath || bootstrap.isMatch path then .unused else
  match Path.classify path with
  | .stylesheet => .stylesheet ⟨path, Path.variants path, source⟩
  | .script _ =>
    match compile jsx path source with
    | .ok m => .module m
    | .error e => .skipped ⟨path, e⟩
  | .other => .unused

/-- The registry holds what becomes of the files. -/
structure Stocked (files : List (String × String)) (r : Registry) : Prop where
  module : ∀ {path m}, r.modules.get? path = some m ↔
    ∃ source, (path, source) ∈ files ∧ fate entryPath bootstrap jsx path source = .module m
  stylesheet : ∀ {path s}, r.stylesheets.get? path = some s ↔
    ∃ source, (path, source) ∈ files ∧ fate entryPath bootstrap jsx path source = .stylesheet s
  skipped : ∀ {s}, s ∈ r.skipped ↔
    ∃ source, (s.path, source) ∈ files ∧
      fate entryPath bootstrap jsx s.path source = .skipped s

end

variable {entryPath : String} {bootstrap : Pattern} {jsx : Script.JsxSettings}

theorem addFile_eq_addTo (r : Registry) (path source : String) :
    addFile entryPath bootstrap jsx r (path, source) =
      (fate entryPath bootstrap jsx path source).addTo r := by
  cases kept : isEntry path entryPath || bootstrap.isMatch path with
  | true => simp [addFile, fate, kept, Fate.addTo]
  | false =>
    cases kind : Path.classify path with
    | stylesheet => simp [addFile, fate, kept, kind, Fate.addTo]
    | other => simp [addFile, fate, kept, kind, Fate.addTo]
    | script e =>
      cases compiled : compile jsx path source with
      | ok m => simp [addFile, fate, kept, kind, compiled, Fate.addTo]
      | error e => simp [addFile, fate, kept, kind, compiled, Fate.addTo]

section
variable {path source : String}

/-- What a file becomes goes by the path of the file, and has its spellings. -/
theorem of_fate {become : Fate} (h : fate entryPath bootstrap jsx path source = become) :
    become.Of path := by
  subst h
  unfold fate
  split
  · trivial
  split
  · exact ⟨rfl, rfl⟩
  · split
    · next compiled => exact compile_paths compiled
    · rfl
  · trivial

/-- A file that becomes something is not kept out of the registry. -/
theorem kept_of_fate (h : fate entryPath bootstrap jsx path source ≠ .unused) :
    isEntry path entryPath = false ∧ bootstrap.isMatch path = false := by
  unfold fate at h
  split at h
  · exact absurd rfl h
  next kept => simpa using kept

end

/-! ## What a registry holds -/

variable {files : List (String × String)} {path source : String}

/-- Under the names of the files stands what they become, the last of them included. -/
theorem get?_insert_iff {α : Type} {t : Table α} {kind : α → Fate}
    (h : ∀ {path a}, t.get? path = some a ↔
      ∃ source, (path, source) ∈ files ∧ fate entryPath bootstrap jsx path source = kind a)
    (inj : ∀ {a b}, kind a = kind b → a = b) {a : α} (new : path ∉ files.map (·.1))
    (becomes : fate entryPath bootstrap jsx path source = kind a) {path' : String} {b : α} :
    (t.insert path a).get? path' = some b ↔
      ∃ source', (path', source') ∈ files ++ [(path, source)] ∧
        fate entryPath bootstrap jsx path' source' = kind b := by
  rw [Table.get?_insert]
  by_cases here : path' = path
  · subst here
    have absent : ∀ source', (path', source') ∉ files := fun source' hm =>
      new (List.mem_map.2 ⟨_, hm, rfl⟩)
    have same : kind a = kind b ↔ a = b := ⟨inj, congrArg kind⟩
    simp [absent, becomes, same]
  · simp [here, h]

/-- A file that becomes something else does not matter. -/
theorem mem_snoc_iff {become : Fate}
    (other : fate entryPath bootstrap jsx path source ≠ become) (path' : String) :
    (∃ source', (path', source') ∈ files ++ [(path, source)] ∧
        fate entryPath bootstrap jsx path' source' = become) ↔
      ∃ source', (path', source') ∈ files ∧
        fate entryPath bootstrap jsx path' source' = become := by
  constructor
  · rintro ⟨source', hm, hb⟩
    rcases List.mem_append.1 hm with hm | hm
    · exact ⟨source', hm, hb⟩
    · cases List.mem_singleton.1 hm
      exact absurd hb other
  · rintro ⟨source', hm, hb⟩
    exact ⟨source', List.mem_append_left _ hm, hb⟩

namespace Stocked

variable {r : Registry}

theorem addTo (h : Stocked entryPath bootstrap jsx files r) (new : path ∉ files.map (·.1)) :
    Stocked entryPath bootstrap jsx (files ++ [(path, source)])
      ((fate entryPath bootstrap jsx path source).addTo r) := by
  cases hf : fate entryPath bootstrap jsx path source with
  | unused =>
    exact ⟨h.module.trans (mem_snoc_iff (by simp [hf]) _).symm,
      h.stylesheet.trans (mem_snoc_iff (by simp [hf]) _).symm,
      h.skipped.trans (mem_snoc_iff (by simp [hf]) _).symm⟩
  | module m =>
    refine ⟨fun {path' m'} => ?_, h.stylesheet.trans (mem_snoc_iff (by simp [hf]) _).symm,
      h.skipped.trans (mem_snoc_iff (by simp [hf]) _).symm⟩
    rw [Fate.addTo, addModule, (of_fate hf).1]
    exact get?_insert_iff h.module Fate.module.inj new hf
  | stylesheet s =>
    refine ⟨h.module.trans (mem_snoc_iff (by simp [hf]) _).symm, fun {path' s'} => ?_,
      h.skipped.trans (mem_snoc_iff (by simp [hf]) _).symm⟩
    obtain ⟨rfl, spelled⟩ := of_fate hf
    have same : (⟨s.path, Path.variants s.path, s.text⟩ : RegisteredStylesheet) = s := by
      rw [← spelled]
    rw [Fate.addTo, addStylesheet, same]
    exact get?_insert_iff h.stylesheet Fate.stylesheet.inj new hf
  | skipped s =>
    refine ⟨h.module.trans (mem_snoc_iff (by simp [hf]) _).symm,
      h.stylesheet.trans (mem_snoc_iff (by simp [hf]) _).symm, fun {s'} => ?_⟩
    obtain rfl := of_fate hf
    rw [Fate.addTo, List.mem_append, h.skipped, List.mem_singleton]
    constructor
    · rintro (⟨source', hm, hs⟩ | rfl)
      · exact ⟨source', List.mem_append_left _ hm, hs⟩
      · exact ⟨source, by simp, hf⟩
    · rintro ⟨source', hm, hs⟩
      rcases List.mem_append.1 hm with hm | hm
      · exact .inl ⟨source', hm, hs⟩
      · obtain ⟨same, rfl⟩ := Prod.mk.inj (List.mem_singleton.1 hm)
        rw [same, hf] at hs
        exact .inr (Fate.skipped.inj hs).symm

/-- After a run over more files, none of which came before, the registry holds these too. -/
theorem foldl {done : List (String × String)} (h : Stocked entryPath bootstrap jsx done r)
    (sorted : ((done ++ files).map (·.1)).Pairwise (· < ·)) :
    Stocked entryPath bootstrap jsx (done ++ files)
      (files.foldl (addFile entryPath bootstrap jsx) r) := by
  induction files generalizing done r with
  | nil => simpa using h
  | cons file files ih =>
    have new : file.1 ∉ done.map (·.1) := by
      intro hm
      rw [List.map_append, List.pairwise_append] at sorted
      exact String.lt_irrefl _ (sorted.2.2 _ hm file.1 (by simp))
    rw [List.append_cons] at sorted ⊢
    rw [List.foldl_cons, addFile_eq_addTo r file.1 file.2]
    exact ih (h.addTo new) sorted

end Stocked

/-- The registry of a project holds what becomes of its files. -/
theorem stocked_ofProject (entryPath : String) (bootstrap : Pattern) (jsx : Script.JsxSettings)
    (p : Project) :
    Stocked entryPath bootstrap jsx p.toList (ofProject entryPath bootstrap jsx p) := by
  have empty : Stocked entryPath bootstrap jsx [] {} := ⟨by simp, by simp, by simp⟩
  exact empty.foldl (List.pairwise_map.2 p.files.sorted)

namespace Stocked

variable {p : Project} {r : Registry}

/-- A file of the project that becomes something is not kept out and, unless it becomes just that,
not skipped. -/
theorem present_of_fate (h : Stocked entryPath bootstrap jsx p.toList r) {become : Fate}
    (file : (path, source) ∈ p.toList)
    (hf : fate entryPath bootstrap jsx path source = become) (used : become ≠ .unused)
    (kept : ∀ s, become ≠ .skipped s) :
    (∃ source, p.get? path = some source) ∧ isEntry path entryPath = false ∧
      bootstrap.isMatch path = false ∧ path ∉ r.skipped.map (·.path) := by
  obtain ⟨notEntry, notBootstrap⟩ := kept_of_fate (by rw [hf]; exact used)
  refine ⟨⟨source, Table.get?_of_mem file⟩, notEntry, notBootstrap, fun skipped => ?_⟩
  obtain ⟨s, hs, rfl⟩ := List.mem_map.1 skipped
  obtain ⟨source', file', hf'⟩ := h.skipped.1 hs
  obtain rfl : source = source' :=
    Option.some.inj ((Table.get?_of_mem file).symm.trans (Table.get?_of_mem file'))
  exact kept s (hf.symm.trans hf')

theorem present_of_module (h : Stocked entryPath bootstrap jsx p.toList r)
    (hm : (r.modules.get? path).isSome = true) :
    (∃ source, p.get? path = some source) ∧ isEntry path entryPath = false ∧
      bootstrap.isMatch path = false ∧ path ∉ r.skipped.map (·.path) := by
  obtain ⟨m, hm⟩ := Option.isSome_iff_exists.1 hm
  obtain ⟨source, file, hf⟩ := h.module.1 hm
  exact h.present_of_fate file hf Fate.noConfusion fun s => Fate.noConfusion

theorem present_of_stylesheet (h : Stocked entryPath bootstrap jsx p.toList r)
    (hs : (r.stylesheets.get? path).isSome = true) :
    (∃ source, p.get? path = some source) ∧ isEntry path entryPath = false ∧
      bootstrap.isMatch path = false ∧ path ∉ r.skipped.map (·.path) := by
  obtain ⟨s, hs⟩ := Option.isSome_iff_exists.1 hs
  obtain ⟨source, file, hf⟩ := h.stylesheet.1 hs
  exact h.present_of_fate file hf Fate.noConfusion fun s => Fate.noConfusion

end Stocked

/-! ## Owners -/

namespace Shared

variable {before has : String → String → Prop} {aliases : Table String}

theorem mem_keys_iff (h : Shared before has aliases) {v : String} :
    v ∈ aliases.keys ↔ ∃ p, has p v := by
  rw [Table.mem_keys]
  constructor
  · intro owned
    obtain ⟨o, ho⟩ := Option.isSome_iff_exists.1 owned
    exact ⟨o, (h.owner ho).1⟩
  · rintro ⟨p, hp⟩
    exact h.owned hp

end Shared

/-- Every value of a table stands under its own path, and has the spellings of that. -/
structure Filed {α : Type} (pathOf : α → String) (variants : α → List String) (t : Table α) :
    Prop where
  path : ∀ {path a}, t.get? path = some a → pathOf a = path
  variants : ∀ {path a}, t.get? path = some a → variants a = Path.variants path

namespace Filed

variable {α : Type} {pathOf : α → String} {variants : α → List String} {t : Table α}

/-- What has a spelling, in terms of the values. -/
theorem has_iff (h : Filed pathOf variants t) {path v : String} :
    (t.get? path).isSome = true ∧ v ∈ Path.variants path ↔
      ∃ a ∈ t.values, pathOf a = path ∧ v ∈ variants a := by
  constructor
  · rintro ⟨registered, spelled⟩
    obtain ⟨a, ha⟩ := Option.isSome_iff_exists.1 registered
    obtain rfl := h.path ha
    exact ⟨a, (Table.mem_values h.path).2 ha, rfl, h.variants ha ▸ spelled⟩
  · rintro ⟨a, mem, rfl, spelled⟩
    have ha := (Table.mem_values h.path).1 mem
    exact ⟨by rw [ha]; rfl, h.variants ha ▸ spelled⟩

theorem eq_of_path_eq (h : Filed pathOf variants t) {a b : α} (ha : a ∈ t.values)
    (hb : b ∈ t.values) (same : pathOf a = pathOf b) : a = b := by
  rw [Table.mem_values h.path] at ha hb
  rw [same, hb] at ha
  exact (Option.some.inj ha).symm

variable {before : String → String → Prop} {aliases : Table String}
  (shared : Shared before
    (fun path v => (t.get? path).isSome = true ∧ v ∈ Path.variants path) aliases)
include shared

/-- The aliases are the spellings of the values. -/
theorem mem_keys_iff (h : Filed pathOf variants t) {v : String} :
    v ∈ aliases.keys ↔ ∃ a ∈ t.values, v ∈ variants a := by
  rw [shared.mem_keys_iff]
  simp only [h.has_iff]
  constructor
  · rintro ⟨path, a, mem, -, spelled⟩
    exact ⟨a, mem, spelled⟩
  · rintro ⟨a, mem, spelled⟩
    exact ⟨pathOf a, a, mem, rfl, spelled⟩

/-- An alias belongs to the value that comes before all others with that spelling. -/
theorem owner_iff (h : Filed pathOf variants t)
    (trans : ∀ {p q r}, before p q → before q r → before p r) (irrefl : ∀ p, ¬ before p p)
    {v o : String} :
    aliases.get? v = some o ↔ ∃ a ∈ t.values, pathOf a = o ∧ v ∈ variants a ∧
      ∀ b ∈ t.values, v ∈ variants b → b = a ∨ before (pathOf a) (pathOf b) := by
  rw [shared.owner_iff trans irrefl]
  simp only [h.has_iff]
  constructor
  · rintro ⟨⟨a, mem, rfl, spelled⟩, best⟩
    refine ⟨a, mem, rfl, spelled, fun b hb hv => ?_⟩
    exact (best _ ⟨b, hb, rfl, hv⟩).imp_left (h.eq_of_path_eq hb mem)
  · rintro ⟨a, mem, rfl, spelled, best⟩
    refine ⟨⟨a, mem, rfl, spelled⟩, ?_⟩
    rintro _ ⟨b, hb, rfl, hv⟩
    exact (best b hb hv).imp_left (congrArg pathOf)

end Filed

namespace Stocked

variable {r : Registry}

theorem filed_modules (h : Stocked entryPath bootstrap jsx files r) :
    Filed RegisteredModule.path RegisteredModule.variants r.modules := by
  have of_fate {path : String} {m : RegisteredModule} (hm : r.modules.get? path = some m) :
      m.path = path ∧ m.variants = Path.variants path := by
    obtain ⟨source, -, hf⟩ := h.module.1 hm
    exact of_fate hf
  exact ⟨fun hm => (of_fate hm).1, fun hm => (of_fate hm).2⟩

theorem filed_stylesheets (h : Stocked entryPath bootstrap jsx files r) :
    Filed RegisteredStylesheet.path RegisteredStylesheet.variants r.stylesheets := by
  have of_fate {path : String} {s : RegisteredStylesheet} (hs : r.stylesheets.get? path = some s) :
      s.path = path ∧ s.variants = Path.variants path := by
    obtain ⟨source, -, hf⟩ := h.stylesheet.1 hs
    exact of_fate hf
  exact ⟨fun hs => (of_fate hs).1, fun hs => (of_fate hs).2⟩

end Stocked

/-! ## Main statement -/

/-- The aliases of a registry are the spellings of its modules and of its stylesheets, and so are
the names of the tables that the page is given. An alias belongs to the module with the strongest
extension of those with the spelling and, among such, with the first path, or to the stylesheet with
the first path; and what it belongs to is a file of the project that is neither kept out nor
skipped. -/
theorem aliases_owned (entryPath : String) (bootstrap : Pattern) (jsx : Script.JsxSettings)
    (p : Project) :
    let r := ofProject entryPath bootstrap jsx p
    (∀ v, v ∈ r.moduleAliases.keys ↔ ∃ m ∈ r.modules.values, v ∈ m.variants) ∧
    (∀ v, v ∈ r.stylesheetAliases.keys ↔ ∃ s ∈ r.stylesheets.values, v ∈ s.variants) ∧
    (∀ v o, r.moduleAliases.get? v = some o ↔
      ∃ m ∈ r.modules.values, m.path = o ∧ v ∈ m.variants ∧
        ∀ n ∈ r.modules.values, v ∈ n.variants → n = m ∨ Precedes m.path n.path) ∧
    (∀ v o, r.stylesheetAliases.get? v = some o ↔
      ∃ s ∈ r.stylesheets.values, s.path = o ∧ v ∈ s.variants ∧
        ∀ t ∈ r.stylesheets.values, v ∈ t.variants → t = s ∨ s.path < t.path) ∧
    (∀ v o, r.moduleAliases.get? v = some o ∨ r.stylesheetAliases.get? v = some o →
      (∃ source, p.get? o = some source) ∧ isEntry o entryPath = false ∧
        bootstrap.isMatch o = false ∧ o ∉ r.skipped.map (·.path)) ∧
    r.factories.keys = r.moduleAliases.keys ∧
    r.stylesheetTexts.keys = r.stylesheetAliases.keys := by
  intro r
  have stocked := stocked_ofProject entryPath bootstrap jsx p
  have fair := fair_ofProject entryPath bootstrap jsx p
  have closed := closed_ofProject entryPath bootstrap jsx p
  refine ⟨fun v => stocked.filed_modules.mem_keys_iff fair.moduleAliases,
    fun v => stocked.filed_stylesheets.mem_keys_iff fair.stylesheetAliases,
    fun v o => stocked.filed_modules.owner_iff fair.moduleAliases Precedes.trans Precedes.irrefl,
    fun v o => stocked.filed_stylesheets.owner_iff fair.stylesheetAliases String.lt_trans
      String.lt_irrefl, ?_, Table.keys_filterMap fun hv => ?_, Table.keys_filterMap fun hv => ?_⟩
  · rintro v o (ho | ho)
    · exact stocked.present_of_module (closed.modules ho)
    · exact stocked.present_of_stylesheet (closed.stylesheets ho)
  · rw [Option.isSome_map]
    exact closed.modules hv
  · rw [Option.isSome_map]
    exact closed.stylesheets hv

/-- Of a script in two languages, beside a stylesheet and one that does not compile, the stronger
one has the name. -/
theorem aliases_owned_shared :
    let r := ofProject "App.jsx" .index {} (Project.ofList
      [("a.js", ""), ("a.ts", ""), ("a.tsx", "let = ;"), ("b.css", ""), ("index.js", "")])
    r.moduleAliases.get? "a" = some "a.ts" ∧ "a.tsx" ∈ r.skipped.map (·.path) ∧
      (∃ m ∈ r.modules.values, m.path = "a.ts" ∧ "a" ∈ m.variants ∧
        ∀ n ∈ r.modules.values, "a" ∈ n.variants → n = m ∨ Precedes m.path n.path) ∧
      "a.ts" ∉ r.skipped.map (·.path) := by
  intro r
  obtain ⟨-, -, owner, -, present, -⟩ := aliases_owned "App.jsx" .index {} (Project.ofList
    [("a.js", ""), ("a.ts", ""), ("a.tsx", "let = ;"), ("b.css", ""), ("index.js", "")])
  have owned : r.moduleAliases.get? "a" = some "a.ts" := by decide +kernel
  exact ⟨owned, by decide +kernel, (owner _ _).1 owned, (present _ _ (.inl owned)).2.2.2⟩

end LivePreview.Registry
