import LivePreview.Proofs.Project.Keys
import LivePreview.Proofs.Registry.Importer
import LivePreview.Proofs.Registry.Relative

/-!
# Directories

An import of a directory goes to one of its index scripts, by the order in which extensions are
tried (`ScriptExtension.tried`). An import of `index` in the directory is a spelling that the index
scripts share, which belongs to the one with the strongest extension (`ScriptExtension.all`).

`resolve_directory`: both find an index script, and the same one unless there are some of the two
stronger extensions and some of the two weaker ones.
-/

namespace LivePreview

/-- The extensions in the order in which a specifier without one is tried with them. -/
def ScriptExtension.tried : List ScriptExtension := [jsx, js, tsx, ts]

namespace ScriptExtension

variable {α : Type} (f : ScriptExtension → Option α)

theorem findSome?_tried : tried.findSome? f = ((f jsx).or (f js)).or ((f tsx).or (f ts)) := by
  simp only [tried, List.findSome?]
  cases f jsx <;> cases f js <;> cases f tsx <;> cases f ts <;> rfl

theorem findSome?_all : all.findSome? f = ((f tsx).or (f ts)).or ((f jsx).or (f js)) := by
  simp only [all, List.findSome?]
  cases f jsx <;> cases f js <;> cases f tsx <;> cases f ts <;> rfl

variable {f}

/-- What the strongest extension has is found first. -/
theorem findSome?_all_of_strongest {e : ScriptExtension} {a : α} (found : f e = some a)
    (strongest : ∀ e', e'.rank < e.rank → f e' = none) : all.findSome? f = some a := by
  rw [findSome?_all]
  cases e with
  | tsx => rw [found]; rfl
  | ts => rw [strongest tsx (by decide), found]; rfl
  | jsx => rw [strongest tsx (by decide), strongest ts (by decide), found]; rfl
  | js =>
    rw [strongest tsx (by decide), strongest ts (by decide), strongest jsx (by decide), found]
    rfl

theorem exists_findSome? {order : List ScriptExtension} {e : ScriptExtension} (he : e ∈ order)
    (found : (f e).isSome = true) : ∃ a, order.findSome? f = some a := by
  obtain ⟨a, ha⟩ := Option.isSome_iff_exists.1 found
  exact Option.isSome_iff_exists.1 (List.findSome?_isSome_iff.2 ⟨e, he, by simp [ha]⟩)

theorem mem_all (e : ScriptExtension) : e ∈ all := by cases e <;> decide

theorem mem_tried (e : ScriptExtension) : e ∈ tried := by cases e <;> decide

/-- The first in one order is the first in the other if all are of the two stronger extensions, or
all of the two weaker ones. -/
theorem findSome?_tried_eq_all_iff {a b : α}
    (inj : ∀ {e e' x}, f e = some x → f e' = some x → e = e')
    (first : tried.findSome? f = some a) (strongest : all.findSome? f = some b) :
    a = b ↔ f tsx = none ∧ f ts = none ∨ f jsx = none ∧ f js = none := by
  rw [findSome?_tried] at first
  rw [findSome?_all] at strongest
  rw [← Option.or_eq_none_iff, ← Option.or_eq_none_iff]
  cases strong : (f tsx).or (f ts) with
  | none =>
    rw [strong, Option.or_none] at first
    rw [strong, Option.none_or] at strongest
    exact iff_of_true (Option.some.inj (first.symm.trans strongest)) (.inl rfl)
  | some b' =>
    cases weak : (f jsx).or (f js) with
    | none =>
      rw [weak, Option.none_or] at first
      rw [weak, Option.or_none] at strongest
      exact iff_of_true (Option.some.inj (first.symm.trans strongest)) (.inr rfl)
    | some a' =>
      rw [weak, Option.some_or, Option.some.injEq] at first
      rw [strong, Option.some_or, Option.some.injEq] at strongest
      subst first strongest
      refine iff_of_false ?_ (by simp)
      rintro rfl
      rcases Option.or_eq_some_iff.1 strong with h | ⟨-, h⟩ <;>
        rcases Option.or_eq_some_iff.1 weak with h' | ⟨-, h'⟩ <;> cases inj h h'

end ScriptExtension

open ScriptExtension (tried)

namespace Path

/-- The index script of a directory in one language. -/
def index (dir : String) (e : ScriptExtension) : String := dir ++ "/index" ++ "." ++ e.name

theorem suffix_extension (path : String) (e : ScriptExtension) :
    '.' :: e.name.toList <:+ (path ++ "." ++ e.name).toList :=
  ⟨path.toList, by simp⟩

theorem index_injective {dir : String} {e e' : ScriptExtension} (h : index dir e = index dir e') :
    e = e' := by
  have ends : '.' :: e.name.toList <:+ (index dir e').toList := h ▸ suffix_extension _ e
  exact extension_unique ends (suffix_extension _ e')

theorem Rooted.of_append {path rest : String} (h : Rooted (path ++ rest)) : Rooted path := by
  unfold Rooted dropDotSlash
  split
  next front dotted =>
    refine absurd ?_ (h.ne (String.ofList front ++ rest))
    rw [← String.toList_inj]
    simp [dotted]
  next => rfl

theorem not_css_index (dir : String) : ¬ ".css".toList <:+ (dir ++ "/index").toList := by
  rintro ⟨front, h⟩
  have := congrArg List.reverse h
  simp at this

/-- The index scripts of a directory are those called so without extension, unless the name of the
directory spans lines. -/
theorem index_mem_variants_iff {dir q : String} {e : ScriptExtension}
    (hdir : Rooted (dir ++ "/index")) (hq : Rooted q) (script : classify q = .script e) :
    dir ++ "/index" ∈ variants q ↔ q = index dir e ∧ '\n' ∉ dir.toList := by
  have other : dir ++ "/index" ≠ q := by
    rintro rfl
    obtain ⟨front, h⟩ := suffix_of_script script
    have := congrArg List.reverse h
    cases e <;> simp [ScriptExtension.name] at this
  have line : '\n' ∈ (dir ++ "/index").toList ↔ '\n' ∈ dir.toList := by simp
  rw [mem_variants_of_script hdir hq script, or_iff_right other, line]
  rfl

end Path

namespace Specifier

/-- What is tried for a path behind `./`: the path, then with an extension, then as a directory, and
the first two once more behind `./`. -/
theorem spellings_dotted (path : String) :
    spellings ("./" ++ path) = [("./" ++ path), path] ++ tried.map (path ++ "." ++ ·.name) ++
      tried.map (Path.index path) ++ ["./" ++ path] ++
        tried.map ("./" ++ path ++ "." ++ ·.name) := by
  have bare : Path.dropDotSlash ("./" ++ path) = path := Path.dropDotSlash_append path
  simp [spellings, bare, suffixes, prefixedSuffixes, tried, Path.index, ScriptExtension.name,
    String.append_assoc]

end Specifier

namespace Registry

open LivePreview.Path

/-- Neither the path nor the path with a script extension is an alias, nor one of them behind
`./`. -/
def Unanswered (r : Registry) (path : String) : Prop :=
  ∀ s ∈ "" :: ScriptExtension.all.map ("." ++ ·.name), ∀ v ∈ [path ++ s, "./" ++ path ++ s],
    r.moduleAliases.get? v = none ∧ r.stylesheetAliases.get? v = none

instance (r : Registry) (path : String) : Decidable (r.Unanswered path) :=
  inferInstanceAs (Decidable (∀ s ∈ "" :: ScriptExtension.all.map ("." ++ ·.name),
    ∀ v ∈ [path ++ s, "./" ++ path ++ s],
      r.moduleAliases.get? v = none ∧ r.stylesheetAliases.get? v = none))

section Unanswered

variable {r : Registry} {dir : String} (unanswered : r.Unanswered dir)
include unanswered

theorem Unanswered.plain : (r.moduleOf? dir = none ∧ r.moduleOf? ("./" ++ dir) = none) ∧
    r.stylesheetOf? dir = none ∧ r.stylesheetOf? ("./" ++ dir) = none := by
  have none := unanswered "" List.mem_cons_self
  simp only [String.append_empty, List.forall_mem_cons] at none
  obtain ⟨⟨module, sheet⟩, ⟨module', sheet'⟩, -⟩ := none
  simp [moduleOf?, stylesheetOf?, module, module', sheet, sheet']

theorem Unanswered.extended (e : ScriptExtension) :
    r.moduleOf? (dir ++ "." ++ e.name) = none ∧
      r.moduleOf? ("./" ++ dir ++ "." ++ e.name) = none := by
  have none := unanswered ("." ++ e.name)
    (List.mem_cons_of_mem _ (List.mem_map.2 ⟨e, e.mem_all, rfl⟩))
  simp only [List.forall_mem_cons, ← String.append_assoc] at none
  obtain ⟨⟨module, -⟩, ⟨module', -⟩, -⟩ := none
  simp [moduleOf?, module, module']

end Unanswered

/-- The modules that are tried for a path behind `./`, where that belongs to whom the path belongs
to. -/
theorem moduleAt?_dotted {r : Registry} {path : String}
    (dotted : r.moduleOf? ("./" ++ path) = r.moduleOf? path) :
    r.moduleAt? ("./" ++ path) =
      (((r.moduleOf? path).or (tried.findSome? fun e => r.moduleOf? (path ++ "." ++ e.name))).or
        (tried.findSome? fun e => r.moduleOf? (Path.index path e))).or
          ((r.moduleOf? path).or
            (tried.findSome? fun e => r.moduleOf? ("./" ++ path ++ "." ++ e.name))) := by
  rw [moduleAt?, Specifier.findSome?_candidates_none, Specifier.spellings_dotted]
  simp only [List.findSome?_append, List.findSome?_map, List.findSome?_cons, List.findSome?_nil,
    dotted, Function.comp_def, Option.or_assoc]
  cases r.moduleOf? path with
  | none => rfl
  | some m => rfl

/-- An import of a directory tries its index scripts. -/
theorem moduleAt?_directory {r : Registry} {dir : String} (unanswered : r.Unanswered dir) :
    r.moduleAt? ("./" ++ dir) = tried.findSome? fun e => r.moduleOf? (Path.index dir e) := by
  obtain ⟨⟨plain, dotted⟩, -⟩ := unanswered.plain
  have near : (tried.findSome? fun e => r.moduleOf? (dir ++ "." ++ e.name)) = none :=
    List.findSome?_eq_none_iff.2 fun e _ => (unanswered.extended e).1
  have far : (tried.findSome? fun e => r.moduleOf? ("./" ++ dir ++ "." ++ e.name)) = none :=
    List.findSome?_eq_none_iff.2 fun e _ => (unanswered.extended e).2
  rw [moduleAt?_dotted (dotted.trans plain.symm), plain, near, far]
  simp only [Option.none_or, Option.or_none]

section

variable {paths : List String} {r : Registry} (fair : Fair paths r)
  (rooted : ∀ p ∈ paths, Rooted p)
include fair rooted

/-- What no stylesheet is called, with and without `./`, finds a module or nothing. -/
theorem resolve_dotted {path : String}
    (plain : r.stylesheetOf? path = none ∧ r.stylesheetOf? ("./" ++ path) = none) :
    r.resolve ("./" ++ path) none = (r.moduleAt? ("./" ++ path)).map .module := by
  have extended : ∀ (front : String) (e : ScriptExtension),
      r.stylesheetOf? (front ++ "." ++ e.name) = none := fun front e =>
    stylesheetOf?_of_extension fair rooted (suffix_extension front e)
  have sheets : (Specifier.candidates ("./" ++ path) none).findSome? r.stylesheetOf? = none := by
    rw [Specifier.findSome?_candidates_none, Specifier.spellings_dotted, List.findSome?_eq_none_iff]
    intro c hc
    simp only [List.mem_append, List.mem_cons, List.mem_map, List.not_mem_nil, or_false] at hc
    rcases hc with ((((rfl | rfl) | ⟨e, -, rfl⟩) | ⟨e, -, rfl⟩) | rfl) | ⟨e, -, rfl⟩
    · exact plain.2
    · exact plain.1
    · exact extended path e
    · exact extended (path ++ "/index") e
    · exact plain.2
    · exact extended ("./" ++ path) e
  rw [resolve_eq, sheets, Option.map_none, Option.none_or, moduleAt?]

theorem extension_of_registered {path : String} {e : ScriptExtension}
    (ends : '.' :: e.name.toList <:+ path.toList)
    (registered : (r.modules.get? path).isSome = true) :
    Rooted path ∧ classify path = .script e := by
  obtain ⟨hpath, e', he'⟩ := script_of_registered fair rooted registered
  rw [extension_unique ends (suffix_of_script he')]
  exact ⟨hpath, he'⟩

variable {dir : String} (hdir : Rooted (dir ++ "/index"))
include hdir

/-- A registered module is called like the index of a directory exactly if it is one of its index
scripts. -/
theorem hasModule_index_iff {q : String} : r.HasModule q (dir ++ "/index") ↔
    (∃ e, q = Path.index dir e ∧ (r.modules.get? q).isSome = true) ∧ '\n' ∉ dir.toList := by
  constructor
  · rintro ⟨registered, spelled⟩
    obtain ⟨hq, e, he⟩ := script_of_registered fair rooted registered
    obtain ⟨rfl, line⟩ := (index_mem_variants_iff hdir hq he).1 spelled
    exact ⟨⟨e, rfl, registered⟩, line⟩
  · rintro ⟨⟨e, rfl, registered⟩, line⟩
    obtain ⟨hq, script⟩ := extension_of_registered fair rooted (suffix_extension _ e) registered
    exact ⟨registered, (index_mem_variants_iff hdir hq script).2 ⟨rfl, line⟩⟩

/-- The spelling that the index scripts of a directory share belongs to the one with the strongest
extension. -/
theorem moduleOf?_index (line : '\n' ∉ dir.toList) : r.moduleOf? (dir ++ "/index") =
    ScriptExtension.all.findSome? fun e => r.modules.get? (Path.index dir e) := by
  cases owner : r.moduleAliases.get? (dir ++ "/index") with
  | none =>
    have absent : ∀ e, r.modules.get? (Path.index dir e) = none := by
      intro e
      rw [← Option.not_isSome_iff_eq_none]
      exact fun registered => fair.moduleAliases.unowned owner
        ((hasModule_index_iff fair rooted hdir).2 ⟨⟨e, rfl, registered⟩, line⟩)
    rw [moduleOf?, owner, Option.bind_none, eq_comm, List.findSome?_eq_none_iff]
    exact fun e _ => absent e
  | some o =>
    obtain ⟨own, best⟩ := fair.moduleAliases.owner owner
    obtain ⟨⟨e, rfl, registered⟩, -⟩ := (hasModule_index_iff fair rooted hdir).1 own
    have rank : ∀ e, (r.modules.get? (Path.index dir e)).isSome = true →
        extensionRank (Path.index dir e) = e.rank := fun e registered =>
      extensionRank_of_script
        (extension_of_registered fair rooted (suffix_extension _ e) registered).2
    obtain ⟨m, hm⟩ := Option.isSome_iff_exists.1 registered
    rw [moduleOf?, owner, Option.bind_some, hm]
    refine (ScriptExtension.findSome?_all_of_strongest hm fun e' stronger => ?_).symm
    rw [← Option.not_isSome_iff_eq_none]
    intro registered'
    have shared := (hasModule_index_iff fair rooted hdir).2 ⟨⟨e', rfl, registered'⟩, line⟩
    rcases best _ shared with same | weaker | ⟨same, -⟩
    · have := rank e' registered'
      rw [same, rank e registered] at this
      omega
    · rw [rank e registered, rank e' registered'] at weaker
      omega
    · rw [rank e registered, rank e' registered'] at same
      omega

/-- An import of the index of a directory finds the strongest index script, and what is tried first
if the name of the directory spans lines. -/
theorem moduleAt?_index {m : RegisteredModule}
    (found : (tried.findSome? fun e => r.moduleOf? (Path.index dir e)) = some m) :
    r.moduleAt? ("./" ++ (dir ++ "/index")) = if '\n' ∈ dir.toList then some m else
      (ScriptExtension.all.findSome? fun e => r.modules.get? (Path.index dir e)).or (some m) := by
  have dotted : r.moduleOf? ("./" ++ (dir ++ "/index")) = r.moduleOf? (dir ++ "/index") := by
    rw [moduleOf?, (aliases_dotted fair rooted hdir).1, moduleOf?]
  have found' : (tried.findSome? fun e => r.moduleOf? (dir ++ "/index" ++ "." ++ e.name)) =
      some m := found
  rw [moduleAt?_dotted dotted, found']
  split
  next line =>
    have none : r.moduleOf? (dir ++ "/index") = none := by
      have unowned : r.moduleAliases.get? (dir ++ "/index") = none := by
        rw [Option.eq_none_iff_forall_ne_some]
        intro o ho
        exact ((hasModule_index_iff fair rooted hdir).1 (fair.moduleAliases.owner ho).1).2 line
      rw [moduleOf?, unowned, Option.bind_none]
    rw [none]
    rfl
  next line =>
    rw [moduleOf?_index fair rooted hdir line]
    cases ScriptExtension.all.findSome? fun e => r.modules.get? (Path.index dir e) with
    | none => rfl
    | some n => rfl

omit rooted hdir in
/-- Where no index script's path belongs to another file, those that are found are the registered
ones. -/
theorem moduleOf?_own (own : ∀ e o, r.moduleAliases.get? (Path.index dir e) = some o →
    o = Path.index dir e) (e : ScriptExtension) :
    r.moduleOf? (Path.index dir e) = r.modules.get? (Path.index dir e) := by
  rw [moduleOf?]
  cases owner : r.moduleAliases.get? (Path.index dir e) with
  | some o => rw [own e o owner, Option.bind_some]
  | none =>
    rw [Option.bind_none, eq_comm, ← Option.not_isSome_iff_eq_none]
    exact fun registered =>
      fair.moduleAliases.unowned owner ⟨registered, self_mem_variants _⟩

omit rooted hdir in
/-- Where no index script's path belongs to another file, the directory and its index are the same
if all registered index scripts have one of the two stronger extensions, or all one of the two
weaker ones. -/
theorem tried_eq_strongest_iff {m n : RegisteredModule}
    (own : ∀ e o, r.moduleAliases.get? (Path.index dir e) = some o → o = Path.index dir e)
    (first : (tried.findSome? fun e => r.moduleOf? (Path.index dir e)) = some m)
    (strongest :
      (ScriptExtension.all.findSome? fun e => r.modules.get? (Path.index dir e)) = some n) :
    (tried.findSome? fun e => r.modules.get? (Path.index dir e)) = some m ∧
      (m = n ↔ r.modules.get? (Path.index dir .tsx) = none ∧
          r.modules.get? (Path.index dir .ts) = none ∨
        r.modules.get? (Path.index dir .jsx) = none ∧
          r.modules.get? (Path.index dir .js) = none) := by
  simp only [moduleOf?_own fair own] at first
  have inj : ∀ {e e' x}, r.modules.get? (Path.index dir e) = some x →
      r.modules.get? (Path.index dir e') = some x → e = e' := fun h h' =>
    index_injective ((fair.module h).2.1.symm.trans (fair.module h').2.1)
  exact ⟨first, ScriptExtension.findSome?_tried_eq_all_iff inj first strongest⟩

omit hdir in
/-- What a directory and its index find. -/
theorem resolve_index {e : ScriptExtension}
    (registered : (r.modules.get? (Path.index dir e)).isSome = true)
    (unanswered : r.Unanswered dir) :
    ∃ m n, r.resolve ("./" ++ dir) none = some (.module m) ∧
      r.resolve ("./" ++ dir ++ "/index") none =
        some (.module (if '\n' ∈ dir.toList then m else n)) ∧
      (tried.findSome? fun e => r.moduleOf? (Path.index dir e)) = some m ∧
      (ScriptExtension.all.findSome? fun e => r.modules.get? (Path.index dir e)) = some n := by
  have hdir : Rooted (dir ++ "/index") :=
    (extension_of_registered fair rooted (suffix_extension _ e) registered).1.of_append.of_append
  obtain ⟨m', hm'⟩ := exists_moduleOf? fair registered
  obtain ⟨m, first⟩ : ∃ m, (tried.findSome? fun e => r.moduleOf? (Path.index dir e)) = some m :=
    ScriptExtension.exists_findSome? e.mem_tried (by rw [hm']; rfl)
  obtain ⟨n, strongest⟩ : ∃ n,
      (ScriptExtension.all.findSome? fun e => r.modules.get? (Path.index dir e)) = some n :=
    ScriptExtension.exists_findSome? e.mem_all registered
  refine ⟨m, n, ?_, ?_, first, strongest⟩
  · rw [resolve_dotted fair rooted unanswered.plain.2, moduleAt?_directory unanswered, first,
      Option.map_some]
  · have sheet : r.stylesheetOf? ("./" ++ (dir ++ "/index")) = none := by
      rw [← String.append_assoc]
      exact stylesheetOf?_of_not_css fair rooted (not_css_index _)
    have plain : r.stylesheetOf? (dir ++ "/index") = none :=
      stylesheetOf?_of_not_css fair rooted (not_css_index dir)
    rw [String.append_assoc, resolve_dotted fair rooted ⟨plain, sheet⟩,
      moduleAt?_index fair rooted hdir first, strongest]
    split <;> rfl

end

/-! ## Main statement -/

/-- In a project under keys let a directory have a registered index script, and no file answer to
the directory itself. Then importing the directory finds the first index script in the order in
which extensions are tried, and importing its `index` the one with the strongest extension, or the
same as before if the name of the directory spans lines. Where no index script's path belongs to
another file, the two are the same if and only if the name of the directory spans lines or the
registered index scripts all have one of the two stronger extensions or all one of the two weaker
ones. -/
theorem resolve_directory (entryPath : String) (bootstrap : Pattern) (jsx : Script.JsxSettings)
    (p : Project) (keyed : p.Keyed) (dir : String) :
    let r := ofProject entryPath bootstrap jsx p
    (∃ e, (r.modules.get? (Path.index dir e)).isSome = true) → r.Unanswered dir →
      ∃ m n, r.resolve ("./" ++ dir) none = some (.module m) ∧
        r.resolve ("./" ++ dir ++ "/index") none = some (.module n) ∧
        (tried.findSome? fun e => r.moduleOf? (Path.index dir e)) = some m ∧
        (if '\n' ∈ dir.toList then n = m else
          (ScriptExtension.all.findSome? fun e => r.modules.get? (Path.index dir e)) = some n) ∧
        ((∀ e o, r.moduleAliases.get? (Path.index dir e) = some o → o = Path.index dir e) →
          (tried.findSome? fun e => r.modules.get? (Path.index dir e)) = some m ∧
          (m = n ↔ '\n' ∈ dir.toList ∨
            r.modules.get? (Path.index dir .tsx) = none ∧
              r.modules.get? (Path.index dir .ts) = none ∨
            r.modules.get? (Path.index dir .jsx) = none ∧
              r.modules.get? (Path.index dir .js) = none)) := by
  have fair := fair_ofProject entryPath bootstrap jsx p
  have rooted : ∀ q ∈ p.toList.map (·.1), Rooted q := fun q hq => (keyed q hq).rooted
  generalize ofProject entryPath bootstrap jsx p = r at fair
  rintro r ⟨e, registered⟩ unanswered
  obtain ⟨m, n, directory, index, first, strongest⟩ :=
    resolve_index fair rooted registered unanswered
  by_cases line : '\n' ∈ dir.toList
  · rw [if_pos line] at index
    refine ⟨m, m, directory, index, first, by rw [if_pos line], fun own => ?_⟩
    exact ⟨(tried_eq_strongest_iff fair own first strongest).1, iff_of_true rfl (.inl line)⟩
  · rw [if_neg line] at index
    refine ⟨m, n, directory, index, first, by rwa [if_neg line], fun own => ?_⟩
    rw [or_iff_right line]
    exact tried_eq_strongest_iff fair own first strongest

/-- With one index script in the stronger and one in the weaker languages, a directory is not its
index. -/
theorem directory_not_index :
    let p := Project.ofList [("d/index.jsx", ""), ("d/index.tsx", "")]
    let r := ofProject "App.jsx" .index {} p
    p.Keyed ∧ (r.modules.get? (Path.index "d" .jsx)).isSome = true ∧ r.Unanswered "d" ∧
      r.resolve ("./" ++ "d") none ≠ r.resolve ("./" ++ "d" ++ "/index") none :=
  ⟨Project.keyed_ofList _, by decide +kernel, by decide +kernel, by decide +kernel⟩

/-- Two index scripts of one kind: the directory and its index are the same. -/
theorem resolve_directory_weaker :
    let r := ofProject "App.jsx" .index {}
      (Project.ofList [("d/index.js", ""), ("d/index.jsx", ""), ("d/other.ts", "")])
    ∃ m, r.modules.get? (Path.index "d" .jsx) = some m ∧
      r.resolve ("./" ++ "d") none = some (.module m) ∧
      r.resolve ("./" ++ "d" ++ "/index") none = some (.module m) := by
  intro r
  have keyed := Project.keyed_ofList [("d/index.js", ""), ("d/index.jsx", ""), ("d/other.ts", "")]
  have registered : (r.modules.get? (Path.index "d" .jsx)).isSome = true := by decide +kernel
  have unanswered : r.Unanswered "d" := by decide +kernel
  have owners : ∀ e ∈ ScriptExtension.all, ∀ o ∈ r.moduleAliases.get? (Path.index "d" e),
      o = Path.index "d" e := by decide +kernel
  have stronger : r.modules.get? (Path.index "d" .tsx) = none ∧
      r.modules.get? (Path.index "d" .ts) = none := by decide +kernel
  obtain ⟨m, n, directory, index, -, -, own⟩ := resolve_directory "App.jsx" .index {} _ keyed "d"
    ⟨.jsx, registered⟩ unanswered
  obtain ⟨first, same⟩ := own fun e o => owners e e.mem_all o
  obtain rfl := same.2 (.inr (.inl stronger))
  obtain ⟨m', found⟩ := Option.isSome_iff_exists.1 registered
  rw [ScriptExtension.findSome?_tried, found, Option.some_or, Option.some_or] at first
  exact ⟨m, found.trans first, directory, index⟩

end Registry

end LivePreview
