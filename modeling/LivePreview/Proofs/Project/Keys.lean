import LivePreview.Project.Loading
import LivePreview.Proofs.Json.Decoding
import LivePreview.Proofs.Json.ReadBack
import LivePreview.Proofs.Registry.Spellings

/-!
# Keys of projects

A file of a project has one spelling, its key: with forward slashes and without `./` or `/` in front
(`IsKey`). `keyOf` leaves keys as they are and makes one of any path (`keyOf_eq_self_iff`,
`isKey_keyOf`), and files are put into a project under their keys, one by one or from a directory.

What is read from the text of a table is not: the names of its members become the paths as they
stand. `keyed_iff_named` says what follows: a project read so is the one that its members are put
into one by one if and only if all of its names are keys, and only then are all of its paths keys
whatever is put into it later.
-/

namespace LivePreview

namespace Table

variable {α : Type}

/-- Of the entries that are put under one name the last one counts. -/
theorem get?_foldl_insert (k : String) : ∀ (es : List (String × α)) (t : Table α),
    (es.foldl (fun t e => t.insert e.1 e.2) t).get? k = (es.reverse.lookup k).or (t.get? k)
  | [], t => rfl
  | (j, a) :: es, t => by
    rw [List.foldl_cons, get?_foldl_insert k es, get?_insert, List.reverse_cons,
      List.lookup_append, Option.or_assoc]
    by_cases here : k = j
    · simp [here]
    · have other : (k == j) = false := by simpa using here
      rw [if_neg here, List.lookup_cons, other, List.lookup_nil, Option.none_or]

theorem get?_ofList (k : String) (es : List (String × α)) :
    (ofList es).get? k = es.reverse.lookup k := by
  rw [ofList, get?_foldl_insert, get?_empty, Option.or_none]

/-- The names of a table are those of the entries that were put into it. -/
theorem mem_keys_ofList {k : String} {es : List (String × α)} :
    k ∈ (ofList es).keys ↔ k ∈ es.map (·.1) := by
  rw [mem_keys, get?_ofList, List.lookup_isSome_iff]
  constructor
  · rintro ⟨e, he, hk⟩
    exact List.mem_map.2 ⟨e, List.mem_reverse.1 he, (beq_iff_eq.1 hk).symm⟩
  · intro h
    obtain ⟨e, he, rfl⟩ := List.mem_map.1 h
    exact ⟨e, List.mem_reverse.2 he, by simp⟩

end Table

namespace Project

/-! ## The one spelling of a path -/

/-- The path has forward slashes, and no `./` or `/` in front. -/
structure IsKey (path : String) : Prop where
  slashes : '\\' ∉ path.toList
  undotted : ¬ ['.', '/'] <+: path.toList
  below : ¬ ['/'] <+: path.toList

instance (path : String) : Decidable (IsKey path) :=
  decidable_of_iff ('\\' ∉ path.toList ∧ ¬ ['.', '/'] <+: path.toList ∧ ¬ ['/'] <+: path.toList)
    ⟨fun ⟨h, h', h''⟩ => ⟨h, h', h''⟩, fun ⟨h, h', h''⟩ => ⟨h, h', h''⟩⟩

theorem dropRoot_suffix (cs : List Char) : dropRoot cs <:+ cs := by
  fun_induction dropRoot cs with
  | case1 cs ih => exact ih.trans (List.suffix_append ['.', '/'] cs)
  | case2 cs ih => exact ih.trans (List.suffix_cons '/' cs)
  | case3 cs dotted rooted => exact List.suffix_rfl

theorem not_prefix_dropRoot (cs : List Char) :
    ¬ ['.', '/'] <+: dropRoot cs ∧ ¬ ['/'] <+: dropRoot cs := by
  fun_induction dropRoot cs with
  | case1 cs ih => exact ih
  | case2 cs ih => exact ih
  | case3 cs dotted rooted =>
    constructor
    · rintro ⟨rest, rfl⟩
      exact dotted rest rfl
    · rintro ⟨rest, rfl⟩
      exact rooted rest rfl

theorem dropRoot_eq_self {cs : List Char} (undotted : ¬ ['.', '/'] <+: cs)
    (below : ¬ ['/'] <+: cs) : dropRoot cs = cs := by
  fun_cases dropRoot cs with
  | case1 cs => exact absurd ⟨cs, rfl⟩ undotted
  | case2 cs => exact absurd ⟨cs, rfl⟩ below
  | case3 cs dotted rooted => rfl

theorem isKey_keyOf (path : String) : IsKey (keyOf path) := by
  obtain ⟨undotted, below⟩ :=
    not_prefix_dropRoot (path.toList.map fun c => if c = '\\' then '/' else c)
  refine ⟨?_, by rwa [keyOf, String.toList_ofList], by rwa [keyOf, String.toList_ofList]⟩
  intro back
  rw [keyOf, String.toList_ofList] at back
  obtain ⟨c, -, hc⟩ := List.mem_map.1 ((dropRoot_suffix _).subset back)
  split at hc
  · cases hc
  · contradiction

/-- The keys are the paths that are their own keys. -/
theorem keyOf_eq_self_iff {path : String} : keyOf path = path ↔ IsKey path := by
  refine ⟨fun h => h ▸ isKey_keyOf path, fun key => ?_⟩
  have slashed : (path.toList.map fun c => if c = '\\' then '/' else c) = path.toList := by
    conv_rhs => rw [← List.map_id path.toList]
    refine List.map_congr_left fun c hc => if_neg ?_
    rintro rfl
    exact key.slashes hc
  rw [keyOf, slashed, dropRoot_eq_self key.undotted key.below, String.ofList_toList]

theorem IsKey.rooted {path : String} (h : IsKey path) : Path.Rooted path :=
  keyOf_eq_self_iff.2 h ▸ rooted_keyOf path

theorem keyOf_keyOf (path : String) : keyOf (keyOf path) = keyOf path :=
  keyOf_eq_self_iff.2 (isKey_keyOf path)

@[simp] theorem keyOf_dotSlash (path : String) : keyOf ("./" ++ path) = keyOf path := by
  simp [keyOf, dropRoot]

@[simp] theorem keyOf_slash (path : String) : keyOf ("/" ++ path) = keyOf path := by
  simp [keyOf, dropRoot]

/-! ## Projects under keys -/

/-- All paths of the project are keys. -/
def Keyed (p : Project) : Prop := ∀ path ∈ p.files.keys, IsKey path

theorem keyed_empty : Keyed .empty := nofun

theorem mem_keys_insert {p : Project} {path content k : String} :
    k ∈ (p.insert path content).files.keys ↔ k = keyOf path ∨ k ∈ p.files.keys := by
  rw [Table.mem_keys, Table.mem_keys, insert, Table.get?_insert]
  split
  · simp [*]
  · simp [*]

theorem Keyed.insert {p : Project} (h : p.Keyed) (path content : String) :
    (p.insert path content).Keyed := by
  intro k hk
  rcases mem_keys_insert.1 hk with rfl | hk
  · exact isKey_keyOf path
  · exact h k hk

mutual

/-- What stays while files are put into a project stays while a directory is added. -/
theorem kept_of_addTree {P : Project → Prop}
    (step : ∀ p path content, P p → P (p.insert path content)) {root : String} :
    ∀ (t : FileTree) (names : List String) (p q : Project),
      addTree root p names t = .ok q → P p → P q
  | .file content => by
    intro names p q h start
    rw [addTree] at h
    split at h
    · cases h
      exact start
    · split at h
      · cases h
        exact step _ _ _ start
      · cases h
  | .directory entries => by
    intro names p q h start
    unfold addTree at h
    split at h
    · split at h
      · cases h
        exact start
      · exact kept_of_addEntries step entries _ _ _ h start
    · exact kept_of_addEntries step entries _ _ _ h start
  | .nowhere fault => by
    intro names p q h start
    cases fault <;> cases h

theorem kept_of_addEntries {P : Project → Prop}
    (step : ∀ p path content, P p → P (p.insert path content)) {root : String} :
    ∀ (entries : List (String × FileTree)) (names : List String) (p q : Project),
      addEntries root p names entries = .ok q → P p → P q
  | [] => by
    intro names p q h start
    cases h
    exact start
  | (name, t) :: entries => by
    intro names p q h start
    rw [addEntries] at h
    cases added : addTree root p (name :: names) t with
    | error e =>
      rw [added] at h
      cases h
    | ok p' =>
      rw [added] at h
      exact kept_of_addEntries step entries _ _ _ h (kept_of_addTree step t _ _ _ added start)

end

/-- The files of a directory are put under keys. -/
theorem keyed_of_ofTree {root : String} {t : FileTree} {p : Project} (h : ofTree root t = .ok p) :
    p.Keyed := by
  unfold ofTree at h
  split at h
  · exact kept_of_addEntries (fun p path content keyed => keyed.insert path content) _ _ _ _ h
      keyed_empty
  · cases h

/-- Under keys, spellings of one file are one entry. -/
theorem Keyed.eq_of_keyOf {p : Project} (h : p.Keyed) {f g : String × String} (hf : f ∈ p.toList)
    (hg : g ∈ p.toList) (same : keyOf f.1 = keyOf g.1) : f = g := by
  have key : ∀ e ∈ p.toList, keyOf e.1 = e.1 := fun e he =>
    keyOf_eq_self_iff.2 (h e.1 (List.mem_map_of_mem he))
  rw [key f hf, key g hg] at same
  have content : some f.2 = some g.2 := by
    rw [← Table.get?_of_mem hf, ← Table.get?_of_mem hg, same]
  exact Prod.ext same (Option.some.inj content)

/-! ## Files one by one -/

theorem ofList_eq (files : List (String × String)) :
    ofList files = ⟨Table.ofList (files.map fun f => (keyOf f.1, f.2))⟩ := by
  have step : ∀ (files : List (String × String)) (p : Project),
      files.foldl (fun p f => p.insert f.1 f.2) p =
        ⟨(files.map fun f => (keyOf f.1, f.2)).foldl (fun t e => t.insert e.1 e.2) p.files⟩ := by
    intro files
    induction files with
    | nil => exact fun _ => rfl
    | cons f files ih => exact fun p => ih (p.insert f.1 f.2)
  exact step files .empty

theorem keyed_ofList (files : List (String × String)) : (ofList files).Keyed := by
  intro path h
  rw [ofList_eq, Table.mem_keys_ofList, List.map_map] at h
  obtain ⟨f, -, rfl⟩ := List.mem_map.1 h
  exact isKey_keyOf f.1

/-- Of the spellings of one file the last one that is put into a project counts. -/
theorem get?_ofList (files : List (String × String)) (k : String) :
    (ofList files).get? k = (files.reverse.find? fun f => keyOf f.1 == k).map (·.2) := by
  have lookup : ∀ files : List (String × String),
      (files.map fun f => (keyOf f.1, f.2)).lookup k =
        (files.find? fun f => keyOf f.1 == k).map (·.2) := by
    intro files
    induction files with
    | nil => rfl
    | cons f files ih =>
      rw [List.map_cons, List.lookup_cons, List.find?_cons, BEq.comm]
      cases keyOf f.1 == k with
      | true => rfl
      | false => exact ih
  rw [ofList_eq, get?, Table.get?_ofList, ← List.map_reverse, lookup]

/-! ## Members of a table -/

/-- The table with files for members. -/
def members (files : List (String × String)) : Json :=
  .table (files.map fun f => (f.1, .string f.2))

/-- The paths of a project that is read are the names of the members as they stand. -/
theorem read_eq {files : List (String × String)} {d : Json.Draft} (h : d.Stands (members files)) :
    Project.read d = .ok ⟨Table.ofList files⟩ := by
  rw [Project.read, h.tableOf_ofList fun _ _ stands => stands.text]
  rfl

theorem decodeText_members (files : List (String × String)) :
    Json.decodeText Project.read (members files).render = .ok ⟨Table.ofList files⟩ := by
  have readable : (members files).Readable Json.Draft.depthLimit := by
    refine ⟨by decide, Json.readableMembers_iff.2 fun m hm => ?_⟩
    obtain ⟨f, -, rfl⟩ := List.mem_map.1 hm
    trivial
  obtain ⟨d, value, decode⟩ := Json.decodeText_of_read (Json.read_render readable)
  rw [decode, read_eq (Json.Draft.stands_of_value value)]

theorem keyed_read_iff {files : List (String × String)} :
    Keyed ⟨Table.ofList files⟩ ↔ ∀ f ∈ files, IsKey f.1 := by
  simp only [Keyed, Table.mem_keys_ofList, List.forall_mem_map]

/-- Reading members is putting them into a project one by one if their names are keys. -/
theorem read_eq_ofList_iff {files : List (String × String)} :
    (⟨Table.ofList files⟩ : Project) = ofList files ↔ ∀ f ∈ files, IsKey f.1 := by
  refine ⟨fun h => keyed_read_iff.1 (h ▸ keyed_ofList files), fun keys => ?_⟩
  have same : (files.map fun f => (keyOf f.1, f.2)) = files := by
    conv_rhs => rw [← List.map_id files]
    exact List.map_congr_left fun f hf => Prod.ext (keyOf_eq_self_iff.2 (keys f hf)) rfl
  rw [ofList_eq, same]

/-! ## All projects -/

/-- Ways to a project: an empty one, what is in a directory, what is read, and files put into it.
The names are those of the members that were read. -/
inductive Made : List String → Project → Prop
  | empty : Made [] .empty
  | ofTree {root : String} {t : FileTree} {p : Project} : ofTree root t = .ok p → Made [] p
  | read {d : Json.Draft} {files : List (String × String)} {p : Project} :
      d.Stands (members files) → Project.read d = .ok p → Made (files.map (·.1)) p
  | insert {names : List String} {p : Project} (path content : String) :
      Made names p → Made names (p.insert path content)

/-- The paths of a project that are no keys are names that were read. -/
theorem Made.mem_keys_iff {names : List String} {p : Project} (h : Made names p) {k : String}
    (odd : ¬ IsKey k) : k ∈ p.files.keys ↔ k ∈ names := by
  induction h with
  | empty => exact Iff.rfl
  | ofTree added => exact iff_of_false (fun hk => odd (keyed_of_ofTree added k hk)) List.not_mem_nil
  | read stands reads =>
    cases (read_eq stands).symm.trans reads
    exact Table.mem_keys_ofList
  | insert path content _ ih =>
    rw [mem_keys_insert, ih, or_iff_right]
    rintro rfl
    exact odd (isKey_keyOf path)

theorem Made.keyed_iff {names : List String} {p : Project} (h : Made names p) :
    p.Keyed ↔ ∀ name ∈ names, IsKey name := by
  constructor
  · intro keyed name hn
    refine Decidable.byContradiction fun odd => ?_
    exact odd (keyed name ((h.mem_keys_iff odd).2 hn))
  · intro keys path hp
    refine Decidable.byContradiction fun odd => ?_
    exact odd (keys path ((h.mem_keys_iff odd).1 hp))

/-- Files that are read as the members of a table make the project that they make when they are put
into it one by one if and only if all of their paths are keys. However a project is made, its paths
are keys if and only if all names that were read for it are. Under keys a file is one entry, and of
the spellings that are put one by one it holds the last content. -/
theorem keyed_iff_named (files : List (String × String)) :
    (∃ p, (∀ d : Json.Draft, d.Stands (members files) → Project.read d = .ok p) ∧
        Json.decodeText Project.read (members files).render = .ok p ∧
        (p = ofList files ↔ ∀ f ∈ files, IsKey f.1)) ∧
      (∀ names p, Made names p → (p.Keyed ↔ ∀ name ∈ names, IsKey name)) ∧
      (∀ p : Project, p.Keyed → ∀ f ∈ p.toList, ∀ g ∈ p.toList, keyOf f.1 = keyOf g.1 → f = g) ∧
      ∀ path, keyOf ("./" ++ path) = keyOf path ∧ keyOf ("/" ++ path) = keyOf path ∧
        (ofList files).get? (keyOf path) =
          (files.reverse.find? fun f => keyOf f.1 == keyOf path).map (·.2) := by
  refine ⟨⟨⟨Table.ofList files⟩, fun d => read_eq, decodeText_members files, read_eq_ofList_iff⟩,
    fun names p h => h.keyed_iff, fun p keyed f hf g hg => keyed.eq_of_keyOf hf hg, fun path => ?_⟩
  exact ⟨keyOf_dotSlash path, keyOf_slash path, get?_ofList files (keyOf path)⟩

/-- A member whose name begins with `./` keeps it as its path. -/
theorem read_keeps_dots : ¬ ∀ files : List (String × String), (files.map (·.1)).Nodup →
    Json.decodeText Project.read (members files).render = .ok (ofList files) := by
  intro h
  have read := h [("./a.js", "x")] (by decide)
  rw [decodeText_members] at read
  have keys := read_eq_ofList_iff.1 (Except.ok.inj read) ("./a.js", "x") List.mem_cons_self
  exact absurd keys (by decide)

end Project

end LivePreview
