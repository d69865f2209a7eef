import LivePreview.Proofs.Registry.Spellings

/-!
# Whose a spelling is

A spelling that several files share belongs to one of them. `Shared before has aliases`: it belongs
to the one that comes before all others. For modules that is the one with the strongest extension
and, of those, the one whose path comes first (`Precedes`); for stylesheets the path alone decides.

`Fair paths r`: this holds of a registry of files with the paths `paths`. It is kept by adding a
file behind them (`Fair.addFile`), so it holds of the registry of a project (`fair_ofProject`).
-/

namespace LivePreview.Registry

/-- Of two scripts that share a spelling, `p` has the better right to it. -/
def Precedes (p q : String) : Prop :=
  Path.extensionRank p < Path.extensionRank q ∨ Path.extensionRank p = Path.extensionRank q ∧ p < q

theorem Precedes.trans {p q r : String} (h : Precedes p q) (h' : Precedes q r) : Precedes p r := by
  rcases h with h | ⟨h, hlt⟩
  · rcases h' with h' | ⟨h', -⟩
    · exact .inl (Nat.lt_trans h h')
    · exact .inl (Nat.lt_of_lt_of_eq h h')
  · rcases h' with h' | ⟨h', hlt'⟩
    · exact .inl (Nat.lt_of_le_of_lt (Nat.le_of_eq h) h')
    · exact .inr ⟨h.trans h', String.lt_trans hlt hlt'⟩

theorem Precedes.irrefl (p : String) : ¬ Precedes p p := by
  rintro (h | ⟨-, h⟩)
  · exact Nat.lt_irrefl _ h
  · exact String.lt_irrefl _ h

/-- Every spelling in `aliases` belongs to the path that comes before all others that have it. -/
structure Shared (before has : String → String → Prop) (aliases : Table String) : Prop where
  owner : ∀ {v o}, aliases.get? v = some o → has o v ∧ ∀ p, has p v → p = o ∨ before o p
  owned : ∀ {p v}, has p v → (aliases.get? v).isSome = true

namespace Shared

variable {before has : String → String → Prop} {aliases aliases' : Table String}

theorem empty (none : ∀ {p v}, ¬ has p v) : Shared before has .empty where
  owner h := by cases h
  owned h := absurd h none

theorem unowned (h : Shared before has aliases) {p v : String} (free : aliases.get? v = none) :
    ¬ has p v := fun hp => by simpa [free] using h.owned hp

/-- A spelling belongs to a path exactly if that comes before all others that have it. -/
theorem owner_iff (h : Shared before has aliases)
    (trans : ∀ {p q r}, before p q → before q r → before p r) (irrefl : ∀ p, ¬ before p p)
    {v o : String} :
    aliases.get? v = some o ↔ has o v ∧ ∀ p, has p v → p = o ∨ before o p := by
  constructor
  · exact h.owner
  · rintro ⟨own, best⟩
    obtain ⟨o', ho'⟩ := Option.isSome_iff_exists.1 (h.owned own)
    obtain ⟨own', best'⟩ := h.owner ho'
    rcases best' o own with rfl | first
    · exact ho'
    · rcases best o' own' with rfl | first'
      · exact ho'
      · exact absurd (trans first first') (irrefl o')

/-- Spellings that the same paths have belong to the same path. -/
theorem get?_congr (h : Shared before has aliases)
    (trans : ∀ {p q r}, before p q → before q r → before p r) (irrefl : ∀ p, ¬ before p p)
    {v w : String} (same : ∀ p, has p v ↔ has p w) : aliases.get? v = aliases.get? w := by
  ext o
  simp only [h.owner_iff trans irrefl, same]

/-- Of the path that came before all others and one that is added, the one that comes before the
other comes before all. -/
theorem best_of_heir {v prev path heir : String}
    (trans : ∀ {p q r}, before p q → before q r → before p r) (hprev : has prev v)
    (best : ∀ p, has p v → p = prev ∨ before prev p)
    (which : heir = path ∧ before path prev ∨ heir = prev ∧ before prev path) :
    (has heir v ∨ heir = path) ∧ ∀ p, has p v ∨ p = path → p = heir ∨ before heir p := by
  rcases which with ⟨rfl, first⟩ | ⟨rfl, first⟩
  · refine ⟨.inr rfl, fun p hp => ?_⟩
    rcases hp with hp | rfl
    · rcases best p hp with rfl | later
      · exact .inr first
      · exact .inr (trans first later)
    · exact .inl rfl
  · refine ⟨.inl hprev, fun p hp => ?_⟩
    rcases hp with hp | rfl
    · exact best p hp
    · exact .inr first

/-- A path is added: it takes over the spellings of which it comes before the owner. -/
theorem add (h : Shared before has aliases) (heir : Option String → String)
    (trans : ∀ {p q r}, before p q → before q r → before p r) {path : String}
    {variants : List String} (none : heir none = path)
    (some : ∀ {o v}, has o v →
      heir (some o) = path ∧ before path o ∨ heir (some o) = o ∧ before o path)
    (get? : ∀ v, aliases'.get? v =
      if v ∈ variants then .some (heir (aliases.get? v)) else aliases.get? v) :
    Shared before (fun p v => has p v ∨ p = path ∧ v ∈ variants) aliases' where
  owner {v o} ho := by
    rw [get?] at ho
    by_cases hv : v ∈ variants
    · rw [if_pos hv] at ho
      obtain rfl := Option.some.inj ho
      simp only [hv, and_true]
      cases hprev : aliases.get? v with
      | none =>
        refine ⟨.inr none, fun p hp => .inl ?_⟩
        rcases hp with hp | rfl
        · simpa [hprev] using h.owned hp
        · exact none.symm
      | some prev =>
        obtain ⟨hasPrev, best⟩ := h.owner hprev
        exact best_of_heir trans hasPrev best (some hasPrev)
    · rw [if_neg hv] at ho
      simpa only [hv, and_false, or_false] using h.owner ho
  owned {p v} hp := by
    rw [get?]
    split
    · rfl
    next hv =>
      rcases hp with hp | ⟨-, hv'⟩
      · exact h.owned hp
      · exact absurd hv' hv

end Shared

/-- Giving spellings one by one, when giving one twice is the same as giving it once. -/
theorem get?_foldl_give {give : Table String → String → Table String}
    (heir : Option String → String)
    (step : ∀ t u v, (give t u).get? v = if v = u then some (heir (t.get? v)) else t.get? v)
    (again : ∀ o, heir (some (heir o)) = heir o) (variants : List String) (t : Table String)
    (v : String) : (variants.foldl give t).get? v =
      if v ∈ variants then some (heir (t.get? v)) else t.get? v := by
  induction variants generalizing t with
  | nil => simp
  | cons u variants ih =>
    rw [List.foldl_cons, ih, step]
    by_cases hu : v = u
    · simp [hu, again]
    · simp [hu]

/-! ## Adding a file -/

/-- A module answers to the spellings of the script that it is compiled from. -/
theorem compile_paths {jsx : Script.JsxSettings} {path source : String} {m : RegisteredModule}
    (h : compile jsx path source = .ok m) : m.path = path ∧ m.variants = Path.variants path := by
  unfold compile at h
  cases hl : Module.lower .module path source with
  | error e =>
    rw [hl] at h
    cases h
  | ok l =>
    cases ht : Script.transpile jsx path l.code with
    | error e => simp [hl, ht, bind, Except.bind] at h
    | ok code =>
      simp only [hl, ht, bind, Except.bind, pure, Except.pure, Except.ok.injEq] at h
      subst h
      exact ⟨rfl, rfl⟩

variable {r : Registry}

def HasModule (r : Registry) (path v : String) : Prop :=
  (r.modules.get? path).isSome = true ∧ v ∈ Path.variants path

def HasStylesheet (r : Registry) (path v : String) : Prop :=
  (r.stylesheets.get? path).isSome = true ∧ v ∈ Path.variants path

/-- What a file that is added answers to, besides what the others do. -/
theorem has_insert {α : Type} {t : Table α} {path p v : String} {file : α} :
    (((t.insert path file).get? p).isSome = true ∧ v ∈ Path.variants p) =
      ((t.get? p).isSome = true ∧ v ∈ Path.variants p ∨ p = path ∧ v ∈ Path.variants path) := by
  rw [Table.get?_insert]
  by_cases here : p = path
  · simp [here]
  · simp [here]

/-- The registry has files of the given paths, each under its path, and every spelling belongs to
the file that has the best right to it. -/
structure Fair (paths : List String) (r : Registry) : Prop where
  module : ∀ {path m}, r.modules.get? path = some m →
    path ∈ paths ∧ m.path = path ∧ Path.isScript path = true
  stylesheet : ∀ {path s}, r.stylesheets.get? path = some s →
    path ∈ paths ∧ s.path = path ∧ Path.classify path = .stylesheet
  moduleAliases : Shared Precedes r.HasModule r.moduleAliases
  stylesheetAliases : Shared (· < ·) r.HasStylesheet r.stylesheetAliases

theorem fair_empty : Fair [] {} where
  module h := by cases h
  stylesheet h := by cases h
  moduleAliases := .empty fun h => by cases h.1
  stylesheetAliases := .empty fun h => by cases h.1

/-- Whose a spelling is that a module claims. -/
def moduleHeir (path : String) : Option String → String
  | some owner => if Path.extensionRank path < Path.extensionRank owner then path else owner
  | none => path

theorem moduleHeir_or {path owner : String} (before : owner < path) :
    moduleHeir path (some owner) = path ∧ Precedes path owner ∨
      moduleHeir path (some owner) = owner ∧ Precedes owner path := by
  unfold moduleHeir
  by_cases stronger : Path.extensionRank path < Path.extensionRank owner
  · exact .inl ⟨if_pos stronger, .inl stronger⟩
  · refine .inr ⟨if_neg stronger, ?_⟩
    rcases Nat.lt_or_eq_of_le (Nat.not_lt.1 stronger) with weaker | same
    · exact .inl weaker
    · exact .inr ⟨same, before⟩

theorem get?_foldl_claim (path : String) (variants : List String) (aliases : Table String)
    (v : String) : (variants.foldl (claim path) aliases).get? v =
      if v ∈ variants then some (moduleHeir path (aliases.get? v)) else aliases.get? v := by
  refine get?_foldl_give (moduleHeir path) (fun t u v => ?_) (fun o => ?_) variants aliases v
  · unfold claim
    cases ho : t.get? u with
    | none =>
      rw [Table.get?_insert]
      by_cases hv : v = u
      · simp [hv, ho, moduleHeir]
      · simp [hv]
    | some owner =>
      by_cases stronger : Path.extensionRank path < Path.extensionRank owner
      · simp only [stronger, if_true, Table.get?_insert]
        by_cases hv : v = u
        · simp [hv, ho, moduleHeir, stronger]
        · simp [hv]
      · simp only [stronger, if_false]
        by_cases hv : v = u
        · simp [hv, ho, moduleHeir, stronger]
        · simp [hv]
  · unfold moduleHeir
    cases o with
    | none => simp
    | some owner =>
      by_cases stronger : Path.extensionRank path < Path.extensionRank owner
      · simp [stronger]
      · simp [stronger]

theorem get?_foldl_insertNew (path : String) (variants : List String) (aliases : Table String)
    (v : String) : (variants.foldl (fun t v => t.insertNew v path) aliases).get? v =
      if v ∈ variants then some ((aliases.get? v).getD path) else aliases.get? v := by
  refine get?_foldl_give (·.getD path) (fun t u v => ?_) (fun o => rfl) variants aliases v
  rw [Table.get?_insertNew]
  by_cases hv : v = u
  · simp [hv]
  · simp [hv]

namespace Fair

variable {paths : List String} {path : String}

/-- A module that comes behind all files takes over the spellings of which its extension is the
stronger one. -/
theorem addModule (h : Fair paths r) (last : ∀ p ∈ paths, p < path) {m : RegisteredModule}
    (hm : m.path = path) (hv : m.variants = Path.variants path)
    (script : Path.isScript path = true) :
    Fair (paths ++ [path]) (r.addModule m) where
  module {p n} hp := by
    rw [Registry.addModule, Table.get?_insert] at hp
    split at hp
    next here =>
      cases hp
      rw [here, hm]
      exact ⟨by simp, rfl, script⟩
    next =>
      obtain ⟨hm, hn⟩ := h.module hp
      exact ⟨List.mem_append_left _ hm, hn⟩
  stylesheet {p s} hp := by
    obtain ⟨hs, hn⟩ := h.stylesheet hp
    exact ⟨List.mem_append_left _ hs, hn⟩
  moduleAliases := by
    have has : (r.addModule m).HasModule =
        fun p v => r.HasModule p v ∨ p = path ∧ v ∈ Path.variants path := by
      funext p v
      rw [HasModule, Registry.addModule, hm]
      exact has_insert
    rw [has]
    refine h.moduleAliases.add (moduleHeir path) Precedes.trans rfl ?_ fun v => ?_
    · intro o v ho
      obtain ⟨n, hn⟩ := Option.isSome_iff_exists.1 ho.1
      exact moduleHeir_or (last o (h.module hn).1)
    · rw [Registry.addModule, hm, hv]
      exact get?_foldl_claim path _ _ v
  stylesheetAliases := h.stylesheetAliases

/-- A stylesheet that comes behind all files takes over nothing. -/
theorem addStylesheet (h : Fair paths r) (last : ∀ p ∈ paths, p < path) (text : String)
    (sheet : Path.classify path = .stylesheet) :
    Fair (paths ++ [path]) (r.addStylesheet path text) where
  module {p n} hp := by
    obtain ⟨hm, hn⟩ := h.module hp
    exact ⟨List.mem_append_left _ hm, hn⟩
  stylesheet {p s} hp := by
    rw [Registry.addStylesheet, Table.get?_insert] at hp
    split at hp
    next here =>
      cases hp
      rw [here]
      exact ⟨by simp, rfl, sheet⟩
    next =>
      obtain ⟨hs, hn⟩ := h.stylesheet hp
      exact ⟨List.mem_append_left _ hs, hn⟩
  moduleAliases := h.moduleAliases
  stylesheetAliases := by
    have has : (r.addStylesheet path text).HasStylesheet =
        fun p v => r.HasStylesheet p v ∨ p = path ∧ v ∈ Path.variants path := by
      funext p v
      exact has_insert
    rw [has]
    refine h.stylesheetAliases.add (·.getD path) String.lt_trans rfl ?_ fun v => ?_
    · intro o v ho
      obtain ⟨s, hs⟩ := Option.isSome_iff_exists.1 ho.1
      exact .inr ⟨rfl, last o (h.stylesheet hs).1⟩
    · exact get?_foldl_insertNew path _ _ v

theorem mono (h : Fair paths r) (path : String) : Fair (paths ++ [path]) r where
  module hp := ⟨List.mem_append_left _ (h.module hp).1, (h.module hp).2⟩
  stylesheet hp := ⟨List.mem_append_left _ (h.stylesheet hp).1, (h.stylesheet hp).2⟩
  moduleAliases := h.moduleAliases
  stylesheetAliases := h.stylesheetAliases

theorem addFile (h : Fair paths r) (entryPath : String) (bootstrap : Pattern)
    (jsx : Script.JsxSettings) (file : String × String) (last : ∀ p ∈ paths, p < file.1) :
    Fair (paths ++ [file.1]) (addFile entryPath bootstrap jsx r file) := by
  unfold Registry.addFile
  split
  · exact h.mono _
  · split
    next sheet => exact h.addStylesheet last _ sheet
    next e script =>
      split
      next m compiled =>
        obtain ⟨hm, hv⟩ := compile_paths compiled
        exact h.addModule last hm hv (by simp [Path.isScript, script])
      next =>
        have := h.mono file.1
        exact ⟨this.module, this.stylesheet, this.moduleAliases, this.stylesheetAliases⟩
    next => exact h.mono _

end Fair

/-- In the registry of a project every spelling belongs to the file that has the best right to
it. -/
theorem fair_ofProject (entryPath : String) (bootstrap : Pattern) (jsx : Script.JsxSettings)
    (p : Project) : Fair (p.toList.map (·.1)) (ofProject entryPath bootstrap jsx p) := by
  have step : ∀ (files : List (String × String)) (paths : List String) (r : Registry),
      Fair paths r → (paths ++ files.map (·.1)).Pairwise (· < ·) →
      Fair (paths ++ files.map (·.1)) (files.foldl (addFile entryPath bootstrap jsx) r) := by
    intro files
    induction files with
    | nil =>
      intro paths r h _
      simpa using h
    | cons file files ih =>
      intro paths r h sorted
      have last : ∀ p ∈ paths, p < file.1 := fun p hp =>
        (List.pairwise_append.1 sorted).2.2 p hp _ (by simp)
      rw [List.map_cons, List.append_cons] at sorted ⊢
      exact ih _ _ (h.addFile entryPath bootstrap jsx file last) sorted
  exact step p.toList [] {} fair_empty (List.pairwise_map.2 p.files.sorted)

end LivePreview.Registry
