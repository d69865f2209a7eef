import LivePreview.Proofs.Project.Keys
import LivePreview.Proofs.Project.Trees
import LivePreview.Proofs.Specifier.Joining

/-!
# The sources in a directory

A directory is loaded by putting its sources into a project one by one (`addTree_plain`): the
scripts and stylesheets that lie in no directory that is passed by (`Store.Source`), each under the
names that lead to it (`mem_sourcesOf`). Different names make different keys (`keyOfNames_inj`), so
that no source hides another and the order in which they come does not matter.

`load_sources`: a directory of files and directories is loaded if and only if its sources are texts,
the project has just these, and directories with the same sources are loaded alike.
-/

namespace LivePreview

/-! ## Tables with the same view -/

namespace Table

variable {α : Type}

theorem nodup_entries (t : Table α) : t.entries.Nodup :=
  t.sorted.imp fun {a b} less same => by
    rw [same] at less
    exact String.lt_irrefl _ less

/-- A table is known by its view. -/
theorem eq_of_get?_eq {s t : Table α} (h : ∀ k, s.get? k = t.get? k) : s = t := by
  have mem : ∀ e, e ∈ s.entries ↔ e ∈ t.entries := by
    intro ⟨k, v⟩
    constructor
    · exact fun he => mem_of_get? (h k ▸ get?_of_mem he)
    · exact fun he => mem_of_get? (h k ▸ get?_of_mem he)
  have perm := (List.perm_ext_iff_of_nodup s.nodup_entries t.nodup_entries).2 mem
  refine ext_entries (perm.eq_of_pairwise (fun a b _ _ ab ba => ?_) s.sorted t.sorted)
  exact absurd (String.lt_trans ab ba) (String.lt_irrefl _)

end Table

/-- Below `d`, `names` lead to a script or stylesheet with this content, through directories that
are not passed by. -/
structure Store.Source (d : Store) (names : List String) (content : ByteArray) : Prop where
  found : d.at? names = some (.file content)
  kind : ∀ name ∈ names.getLast?, Path.classify name ≠ .other
  entered : ∀ dir ∈ names.dropLast, Project.isIgnored dir = false

namespace Project

open Store (IsName)

/-! ## Names and keys -/

theorem keyOfNames_eq (names : List String) :
    keyOfNames names = Path.ofSegments (names.map String.toList) := by
  refine String.toList_injective ?_
  rw [keyOfNames, Path.ofSegments, String.toList_ofList, Text.joinChars_eq_intercalate,
    String.toList_intercalate]
  rfl

theorem segments_keyOfNames {names : List String} (h : ∀ name ∈ names, IsName name)
    (ne : names ≠ []) : Path.segments (keyOfNames names) = names.map String.toList := by
  rw [keyOfNames_eq]
  refine Path.segments_ofSegments (by simpa using ne) fun s hs => ?_
  obtain ⟨name, mem, rfl⟩ := List.mem_map.1 hs
  exact (h name mem).whole

/-- Different names make different keys. -/
theorem keyOfNames_inj {names names' : List String} (h : ∀ name ∈ names, IsName name)
    (h' : ∀ name ∈ names', IsName name) (ne : names ≠ []) (ne' : names' ≠ [])
    (same : keyOfNames names = keyOfNames names') : names = names' := by
  have segments := segments_keyOfNames h ne
  rw [same, segments_keyOfNames h' ne'] at segments
  exact (List.map_injective_iff.2 fun _ _ => String.toList_injective) segments.symm

theorem mem_joinChars {sep : List Char} {pieces : List (List Char)} {c : Char}
    (h : c ∈ Text.joinChars sep pieces) : c ∈ sep ∨ ∃ piece ∈ pieces, c ∈ piece := by
  fun_induction Text.joinChars sep pieces with
  | case1 => cases h
  | case2 piece => exact .inr ⟨piece, List.mem_cons_self, h⟩
  | case3 piece pieces _ ih =>
    rw [List.mem_append, List.mem_append] at h
    rcases h with (h | h) | h
    · exact .inr ⟨piece, List.mem_cons_self, h⟩
    · exact .inl h
    · refine (ih h).imp_right ?_
      rintro ⟨p, mem, inside⟩
      exact ⟨p, List.mem_cons_of_mem _ mem, inside⟩

theorem isKey_keyOfNames {names : List String} (h : ∀ name ∈ names, IsName name)
    (ne : names ≠ []) : IsKey (keyOfNames names) := by
  have segments := segments_keyOfNames h ne
  have first : ∀ seg rest, Path.segments (keyOfNames names) = seg :: rest →
      ∃ name, IsName name ∧ name.toList = seg := by
    intro seg rest eq
    rw [segments, List.map_eq_cons_iff] at eq
    obtain ⟨name, names', eq, same, -⟩ := eq
    exact ⟨name, h name (eq ▸ List.mem_cons_self), same⟩
  refine ⟨fun back => ?_, ?_, ?_⟩
  · rw [keyOfNames_eq, Path.ofSegments, String.toList_ofList] at back
    rcases mem_joinChars back with slash | ⟨piece, mem, inside⟩
    · cases List.mem_singleton.1 slash
    · obtain ⟨name, named, rfl⟩ := List.mem_map.1 mem
      exact (h name named).slashed inside
  · rintro ⟨rest, dotted⟩
    have cut : Path.segments (keyOfNames names) = ['.'] :: Text.splitChars '/' rest := by
      rw [Path.segments, ← dotted]
      rfl
    obtain ⟨name, isName, same⟩ := first _ _ cut
    exact isName.notHere (String.toList_injective same)
  · rintro ⟨rest, rooted⟩
    have cut : Path.segments (keyOfNames names) = [] :: Text.splitChars '/' rest := by
      rw [Path.segments, ← rooted]
      rfl
    obtain ⟨name, isName, same⟩ := first _ _ cut
    exact isName.nonempty (String.toList_injective same)

theorem splitLast_eq_none {sep : Char} {cs : List Char} (h : sep ∉ cs) :
    Text.splitLast sep cs = none := by
  cases cut : Text.splitLast sep cs with
  | none => rfl
  | some parts =>
    rw [eq_of_splitLast cut] at h
    exact absurd (List.mem_append_right _ List.mem_cons_self) h

theorem splitLast_append {sep : Char} {cs : List Char} (h : sep ∉ cs) (front : List Char) :
    Text.splitLast sep (front ++ sep :: cs) = some (front, cs) := by
  have inner : ∀ c ∈ cs.reverse, (c != sep) = true := fun c mem =>
    bne_iff_ne.2 fun same => h (same ▸ List.mem_reverse.1 mem)
  have tail : ((front ++ sep :: cs).reverse.takeWhile (· != sep)).reverse = cs := by
    rw [List.reverse_append, List.reverse_cons, List.append_assoc,
      List.takeWhile_append_of_pos inner]
    simp
  have longer : cs.length ≠ (front ++ sep :: cs).length := by
    rw [List.length_append, List.length_cons]
    omega
  have short : (front ++ sep :: cs).length - cs.length - 1 = front.length := by
    rw [List.length_append, List.length_cons]
    omega
  simp only [Text.splitLast, tail]
  rw [if_neg longer, short, List.take_left]

/-- What a file is depends on its own name alone. -/
theorem classify_keyOfNames {name : String} (h : IsName name) (dirs : List String) :
    Path.classify (keyOfNames (dirs ++ [name])) = Path.classify name := by
  have own : Path.extension? (keyOfNames (dirs ++ [name])) = Path.extension? name := by
    have last : Text.splitLast '/' name.toList = none := splitLast_eq_none h.whole
    by_cases root : dirs = []
    · rw [root, List.nil_append, keyOfNames, String.intercalate_singleton]
    · have path : (keyOfNames (dirs ++ [name])).toList =
          (Path.ofSegments (dirs.map String.toList)).toList ++ '/' :: name.toList := by
        rw [keyOfNames_eq, List.map_append, Path.ofSegments_append (by simpa using root) (by simp)]
        simp [Path.ofSegments, Text.joinChars]
      rw [Path.extension?, Path.extension?, path, splitLast_append h.whole, last]
  rw [Path.classify, own, Path.classify]

/-! ## Putting sources one by one -/

/-- Puts the file under the given names. -/
def addSource (p : Project) (source : List String × ByteArray) : Except ProjectError Project :=
  match String.fromUTF8? source.2 with
  | some text => .ok (p.insert (keyOfNames source.1) text)
  | none => .error (.unreadable .badText)

mutual

/-- The sources under `names`, deepest first, in the order in which they come. -/
def sourcesOf (names : List String) : Store → List (List String × ByteArray)
  | .file content =>
    if Path.classify (keyOfNames names.reverse) = .other then [] else [(names.reverse, content)]
  | .link _ => []
  | .directory entries => if names.head?.any isIgnored then [] else sourcesIn names entries

def sourcesIn (names : List String) : List (String × Store) → List (List String × ByteArray)
  | [] => []
  | (name, s) :: es => sourcesOf (name :: names) s ++ sourcesIn names es

end

mutual

/-- To add a directory is to put its sources one by one. -/
theorem addTree_plain (root : String) :
    ∀ (d : Store) (p : Project) (names : List String), d.Regular →
      addTree root p names d.plain = (sourcesOf names d).foldlM addSource p
  | .file content, p, names, _ => by
    rw [Store.plain, addTree, sourcesOf]
    split
    · rfl
    · rw [List.foldlM_cons]
      simp only [addSource]
      cases String.fromUTF8? content with
      | none => rfl
      | some text => rfl
  | .link _, _, _, h => h.elim
  | .directory entries, p, names, ⟨_, h⟩ => by
    rw [Store.plain, sourcesOf]
    have inside := addEntries_plain root entries p names h
    cases names with
    | nil => exact inside
    | cons name names =>
      rw [addTree, List.head?_cons, Option.any_some]
      split
      · rfl
      · exact inside

theorem addEntries_plain (root : String) :
    ∀ (entries : List (String × Store)) (p : Project) (names : List String),
      Store.RegularEntries entries →
      addEntries root p names (Store.plainEntries entries) =
        (sourcesIn names entries).foldlM addSource p
  | [], _, _, _ => rfl
  | (name, s) :: es, p, names, ⟨_, here, later⟩ => by
    rw [Store.plainEntries, addEntries, sourcesIn, List.foldlM_append,
      addTree_plain root s p (name :: names) here]
    exact bind_congr fun q => addEntries_plain root es q names later

end

/-- The sources that are texts, under their keys. -/
def filesOf (sources : List (List String × ByteArray)) : List (String × String) :=
  sources.filterMap fun s => (String.fromUTF8? s.2).map (keyOfNames s.1, ·)

theorem foldlM_addSource_ok {sources : List (List String × ByteArray)}
    (h : ∀ s ∈ sources, (String.fromUTF8? s.2).isSome) (p : Project) :
    sources.foldlM addSource p =
      .ok ((filesOf sources).foldl (fun p f => p.insert f.1 f.2) p) := by
  induction sources generalizing p with
  | nil => rfl
  | cons s sources ih =>
    obtain ⟨here, later⟩ := List.forall_mem_cons.1 h
    obtain ⟨text, decoded⟩ := Option.isSome_iff_exists.1 here
    rw [List.foldlM_cons, addSource, filesOf, List.filterMap_cons, decoded]
    exact ih later _

theorem foldlM_addSource_error {sources : List (List String × ByteArray)}
    {s : List String × ByteArray} (mem : s ∈ sources) (odd : String.fromUTF8? s.2 = none)
    (p : Project) : sources.foldlM addSource p = .error (.unreadable .badText) := by
  induction sources generalizing p with
  | nil => cases mem
  | cons s' sources ih =>
    rw [List.foldlM_cons, addSource]
    cases decoded : String.fromUTF8? s'.2 with
    | none => rfl
    | some text =>
      refine ih ?_ _
      rcases List.mem_cons.1 mem with rfl | mem
      · rw [odd] at decoded
        cases decoded
      · exact mem

/-! ## What the sources are -/

/-- The entry that the names begin with, and what lies under the others there. -/
theorem at?_directory_iff {entries : List (String × Store)} (h : (entries.map (·.1)).Nodup)
    {names : List String} {content : ByteArray} :
    (Store.directory entries).at? names = some (.file content) ↔
      ∃ e ∈ entries, ∃ rest, names = e.1 :: rest ∧ e.2.at? rest = some (.file content) := by
  cases names with
  | nil => simp [Store.at?]
  | cons name names =>
    rw [Store.at?, Option.bind_eq_some_iff]
    constructor
    · rintro ⟨s, found, below⟩
      exact ⟨(name, s), Store.mem_of_lookup found, names, rfl, below⟩
    · rintro ⟨⟨name', s⟩, mem, rest, same, below⟩
      obtain ⟨rfl, rfl⟩ := List.cons.inj same
      exact ⟨s, Store.lookup_of_mem h mem, below⟩

/-- To what lies under an entry, the directory itself is entered too. -/
theorem entered_cons_iff (own? : Option String) (name : String) (rest : List String) :
    (∀ dir ∈ (own?.toList ++ name :: rest).dropLast, isIgnored dir = false) ↔
      own?.any isIgnored = false ∧ ∀ dir ∈ (name :: rest).dropLast, isIgnored dir = false := by
  cases own? with
  | none => simp
  | some own =>
    rw [Option.toList_some, List.singleton_append, List.dropLast_cons_cons, List.forall_mem_cons,
      Option.any_some]

mutual

/-- The sources under `names` are the files below whose paths are those of scripts and stylesheets,
in directories that are not passed by. -/
theorem mem_sourcesOf (k : List String) (content : ByteArray) :
    ∀ (d : Store) (names : List String), d.Regular →
      ((k, content) ∈ sourcesOf names d ↔ ∃ rest, k = names.reverse ++ rest ∧
        d.at? rest = some (.file content) ∧ Path.classify (keyOfNames k) ≠ .other ∧
        ∀ dir ∈ (names.head?.toList ++ rest).dropLast, isIgnored dir = false)
  | .file content', names, _ => by
    have alone : names.head?.toList.dropLast = [] := by cases names <;> rfl
    rw [sourcesOf]
    constructor
    · intro mem
      split at mem
      · cases mem
      · next kind =>
        cases List.mem_singleton.1 mem
        refine ⟨[], (List.append_nil _).symm, rfl, kind, ?_⟩
        rw [List.append_nil, alone]
        nofun
    · rintro ⟨rest, rfl, found, kind, -⟩
      cases rest with
      | cons name rest => cases found
      | nil =>
        cases found
        rw [List.append_nil] at kind ⊢
        rw [if_neg kind]
        exact List.mem_singleton_self _
  | .link _, _, h => h.elim
  | .directory entries, names, ⟨distinct, h⟩ => by
    rw [sourcesOf]
    split
    · next passed =>
      refine iff_of_false List.not_mem_nil ?_
      rintro ⟨_, -, found, -, entered⟩
      obtain ⟨e, -, rest, rfl, -⟩ := (at?_directory_iff distinct).1 found
      rw [entered_cons_iff, passed] at entered
      cases entered.1
    · next open' =>
      rw [Bool.not_eq_true] at open'
      rw [mem_sourcesIn k content entries names h]
      constructor
      · rintro ⟨e, mem, rest, same, found, kind, entered⟩
        exact ⟨e.1 :: rest, same, (at?_directory_iff distinct).2 ⟨e, mem, rest, rfl, found⟩, kind,
          (entered_cons_iff _ e.1 rest).2 ⟨open', entered⟩⟩
      · rintro ⟨_, same, found, kind, entered⟩
        obtain ⟨e, mem, rest, rfl, below⟩ := (at?_directory_iff distinct).1 found
        exact ⟨e, mem, rest, same, below, kind, ((entered_cons_iff _ e.1 rest).1 entered).2⟩

theorem mem_sourcesIn (k : List String) (content : ByteArray) :
    ∀ (entries : List (String × Store)) (names : List String), Store.RegularEntries entries →
      ((k, content) ∈ sourcesIn names entries ↔ ∃ e ∈ entries, ∃ rest,
        k = names.reverse ++ e.1 :: rest ∧ e.2.at? rest = some (.file content) ∧
        Path.classify (keyOfNames k) ≠ .other ∧
        ∀ dir ∈ (e.1 :: rest).dropLast, isIgnored dir = false)
  | [], _, _ => by simp [sourcesIn]
  | (name, s) :: es, names, ⟨_, here, later⟩ => by
    rw [sourcesIn, List.mem_append, mem_sourcesOf k content s (name :: names) here,
      mem_sourcesIn k content es names later, List.exists_mem_cons_iff]
    simp only [List.reverse_cons, List.append_assoc, List.singleton_append, List.head?_cons,
      Option.toList_some]

end

theorem isName_of_at? {d s : Store} {names : List String} (regular : d.Regular)
    (found : d.at? names = some s) : ∀ name ∈ names, IsName name := by
  induction names generalizing d with
  | nil => nofun
  | cons name names ih =>
    cases d with
    | file => cases found
    | link => cases found
    | directory entries =>
      rw [Store.at?, Option.bind_eq_some_iff] at found
      obtain ⟨child, looked, found⟩ := found
      obtain ⟨isName, below⟩ :=
        Store.regularEntries_iff.1 regular.2 _ (Store.mem_of_lookup looked)
      exact List.forall_mem_cons.2 ⟨isName, ih below found⟩

/-- The sources of a directory. -/
theorem mem_sourcesOf_iff {entries : List (String × Store)}
    (regular : (Store.directory entries).Regular) {names : List String} {content : ByteArray} :
    (names, content) ∈ sourcesOf [] (.directory entries) ↔
      (Store.directory entries).Source names content := by
  have kinds : (Store.directory entries).at? names = some (.file content) →
      (Path.classify (keyOfNames names) ≠ .other ↔
        ∀ name ∈ names.getLast?, Path.classify name ≠ .other) := by
    intro found
    have isName := isName_of_at? regular found
    rcases List.eq_nil_or_concat names with rfl | ⟨dirs, name, rfl⟩
    · cases found
    · rw [List.concat_eq_append] at isName ⊢
      have own := isName name (List.mem_append_right _ (List.mem_singleton_self _))
      rw [classify_keyOfNames own, List.getLast?_concat]
      simp
  rw [mem_sourcesOf names content _ [] regular]
  constructor
  · rintro ⟨_, rfl, found, kind, entered⟩
    exact ⟨found, (kinds found).1 kind, entered⟩
  · rintro ⟨found, kind, entered⟩
    exact ⟨names, rfl, found, (kinds found).2 kind, entered⟩

theorem source_names {entries : List (String × Store)}
    (regular : (Store.directory entries).Regular) {names : List String} {content : ByteArray}
    (source : (Store.directory entries).Source names content) :
    names ≠ [] ∧ ∀ name ∈ names, IsName name := by
  refine ⟨?_, isName_of_at? regular source.found⟩
  rintro rfl
  cases source.found

/-! ## The loaded project -/

theorem mem_filesOf {sources : List (List String × ByteArray)} {key text : String} :
    (key, text) ∈ filesOf sources ↔ ∃ names content, (names, content) ∈ sources ∧
      key = keyOfNames names ∧ String.fromUTF8? content = some text := by
  rw [filesOf, List.mem_filterMap]
  constructor
  · rintro ⟨⟨names, content⟩, mem, file⟩
    obtain ⟨_, decoded, same⟩ := Option.map_eq_some_iff.1 file
    cases same
    exact ⟨names, content, mem, rfl, decoded⟩
  · rintro ⟨names, content, mem, rfl, decoded⟩
    exact ⟨(names, content), mem, Option.map_eq_some_iff.2 ⟨text, decoded, rfl⟩⟩

/-- Files under different keys are the files of the project that they are put into. -/
theorem get?_ofList_iff {files : List (String × String)} (keys : ∀ f ∈ files, IsKey f.1)
    (apart : ∀ f ∈ files, ∀ g ∈ files, f.1 = g.1 → f = g) {key text : String} :
    (ofList files).get? key = some text ↔ (key, text) ∈ files := by
  have found : ∀ f, files.reverse.find? (fun f => keyOf f.1 == key) = some f →
      f ∈ files ∧ f.1 = key := by
    intro f h
    have mem := List.mem_reverse.1 (List.mem_of_find?_eq_some h)
    have same := List.find?_some h
    rw [beq_iff_eq, keyOf_eq_self_iff.2 (keys f mem)] at same
    exact ⟨mem, same⟩
  rw [get?_ofList, Option.map_eq_some_iff]
  constructor
  · rintro ⟨f, h, rfl⟩
    obtain ⟨mem, rfl⟩ := found f h
    exact mem
  · intro mem
    cases h : files.reverse.find? (fun f => keyOf f.1 == key) with
    | none =>
      have none := List.find?_eq_none.1 h (key, text) (List.mem_reverse.2 mem)
      rw [beq_iff_eq] at none
      exact absurd (keyOf_eq_self_iff.2 (keys _ mem)) none
    | some f =>
      obtain ⟨mem', same⟩ := found f h
      exact ⟨f, rfl, by rw [apart f mem' _ mem same]⟩

section

variable {s : Store} {path root : String} {there : List String} {entries : List (String × Store)}
  (h : s.resolve Store.linkLimit [] (Store.segments path) = .ok (there, .directory entries))
  (regular : (Store.directory entries).Regular)

include h regular

theorem load_eq : load s path root =
    (sourcesOf [] (.directory entries)).foldlM addSource .empty := by
  rw [load, Store.treeAt_regular h regular]
  exact addEntries_plain root entries .empty [] regular.2

theorem load_ok (texts : ∀ names content, (Store.directory entries).Source names content →
    (String.fromUTF8? content).isSome) :
    load s path root = .ok (ofList (filesOf (sourcesOf [] (.directory entries)))) := by
  rw [load_eq h regular]
  exact foldlM_addSource_ok (fun ⟨names, content⟩ mem =>
    texts names content ((mem_sourcesOf_iff regular).1 mem)) .empty

theorem load_error {names : List String} {content : ByteArray}
    (source : (Store.directory entries).Source names content)
    (odd : String.fromUTF8? content = none) :
    load s path root = .error (.unreadable .badText) := by
  rw [load_eq h regular]
  exact foldlM_addSource_error ((mem_sourcesOf_iff regular).2 source) odd .empty

theorem texts_of_load {p : Project} (loaded : load s path root = .ok p) (names : List String)
    (content : ByteArray) (source : (Store.directory entries).Source names content) :
    (String.fromUTF8? content).isSome := by
  cases decoded : String.fromUTF8? content with
  | some text => rfl
  | none =>
    rw [load_error h regular source decoded] at loaded
    cases loaded

/-- A loaded project has the sources of the directory, and nothing else. -/
theorem get?_load {p : Project} (loaded : load s path root = .ok p) (key text : String) :
    p.get? key = some text ↔ ∃ names content, (Store.directory entries).Source names content ∧
      key = keyOfNames names ∧ String.fromUTF8? content = some text := by
  have same : load s path root = _ := load_ok h regular (texts_of_load h regular loaded)
  cases loaded.symm.trans same
  have mem_iff : ∀ {key text}, (key, text) ∈ filesOf (sourcesOf [] (.directory entries)) ↔
      ∃ names content, (Store.directory entries).Source names content ∧
        key = keyOfNames names ∧ String.fromUTF8? content = some text := by
    intro key text
    simp only [mem_filesOf, mem_sourcesOf_iff regular]
  rw [get?_ofList_iff, mem_iff]
  · intro ⟨key, text⟩ mem
    obtain ⟨names, content, source, rfl, -⟩ := mem_iff.1 mem
    obtain ⟨ne, isName⟩ := source_names regular source
    exact isKey_keyOfNames isName ne
  · intro ⟨key, text⟩ mem ⟨key', text'⟩ mem' same
    obtain ⟨names, content, source, rfl, decoded⟩ := mem_iff.1 mem
    obtain ⟨names', content', source', rfl, decoded'⟩ := mem_iff.1 mem'
    obtain ⟨ne, isName⟩ := source_names regular source
    obtain ⟨ne', isName'⟩ := source_names regular source'
    cases keyOfNames_inj isName isName' ne ne' same
    cases source.found.symm.trans source'.found
    cases decoded.symm.trans decoded'
    rfl

end

/-- A directory of files and directories is loaded if and only if its sources are texts. The project
has each source under the names that lead to it, and nothing else. What else there is in the
directory makes no difference, nor does where the directory lies. -/
theorem load_sources {s : Store} {path : String} {there : List String}
    {entries : List (String × Store)}
    (h : s.resolve Store.linkLimit [] (Store.segments path) = .ok (there, .directory entries))
    (regular : (Store.directory entries).Regular) (root : String) :
    ((∃ p, load s path root = .ok p) ↔ ∀ names content,
      (Store.directory entries).Source names content → (String.fromUTF8? content).isSome) ∧
    (∀ p, load s path root = .ok p → ∀ key text, p.get? key = some text ↔
      ∃ names content, (Store.directory entries).Source names content ∧
        key = keyOfNames names ∧ String.fromUTF8? content = some text) ∧
    ∀ (s' : Store) (path' root' : String) (there' : List String) (entries' : List (String × Store)),
      s'.resolve Store.linkLimit [] (Store.segments path') = .ok (there', .directory entries') →
      (Store.directory entries').Regular →
      (∀ names content, (Store.directory entries).Source names content ↔
        (Store.directory entries').Source names content) →
      load s path root = load s' path' root' := by
  refine ⟨⟨fun ⟨p, loaded⟩ => texts_of_load h regular loaded,
    fun texts => ⟨_, load_ok h regular texts⟩⟩, fun p => get?_load h regular, ?_⟩
  intro s' path' root' there' entries' h' regular' same
  by_cases texts : ∀ names content, (Store.directory entries).Source names content →
      (String.fromUTF8? content).isSome
  · have texts' : ∀ names content, (Store.directory entries').Source names content →
        (String.fromUTF8? content).isSome := fun names content source =>
      texts names content ((same names content).2 source)
    have loaded : load s path root = _ := load_ok h regular texts
    have loaded' : load s' path' root' = _ := load_ok h' regular' texts'
    rw [loaded, loaded']
    refine congrArg Except.ok (congrArg Project.mk (Table.eq_of_get?_eq fun key => ?_))
    refine Option.ext fun text => Iff.trans (get?_load h regular loaded key text) ?_
    simp only [same]
    exact (get?_load h' regular' loaded' key text).symm
  · simp only [not_forall, Bool.not_eq_true, Option.isSome_eq_false_iff,
      Option.isNone_iff_eq_none] at texts
    obtain ⟨names, content, source, odd⟩ := texts
    rw [load_error h regular source odd,
      load_error h' regular' ((same names content).1 source) odd]

/-- A script beside an installed package and a picture that are no texts. -/
def mixedEntries : List (String × Store) :=
  [("a.js", .file ⟨#[49]⟩), ("node_modules", .directory [("b.js", .file ⟨#[255]⟩)]),
    ("c.png", .file ⟨#[255]⟩)]

/-- What is no text does no harm where it is passed by. -/
theorem load_sources_mixed : ∃ p, load (.directory mixedEntries) "" "." = .ok p ∧
    p.get? "a.js" = some "1" ∧ p.get? "node_modules/b.js" = none := by
  have h : (Store.directory mixedEntries).resolve Store.linkLimit [] (Store.segments "") =
      .ok ([], .directory mixedEntries) := by
    have segments : Store.segments "" = [""] := by decide
    simp [segments, Store.resolve, Store.at?]
  have regular : (Store.directory mixedEntries).Regular :=
    ⟨by decide, by decide, trivial, by decide, ⟨by decide, by decide, trivial, trivial⟩,
      by decide, trivial, trivial⟩
  have only : ∀ names content, (Store.directory mixedEntries).Source names content →
      names = ["a.js"] ∧ content = ⟨#[49]⟩ := by
    rintro names content ⟨found, kind, entered⟩
    obtain ⟨e, mem, rest, rfl, below⟩ := (at?_directory_iff regular.1).1 found
    simp only [mixedEntries, List.mem_cons, List.not_mem_nil, or_false] at mem
    rcases mem with rfl | rfl | rfl
    · cases rest with
      | nil =>
        cases below
        exact ⟨rfl, rfl⟩
      | cons => cases below
    · cases rest with
      | nil => cases below
      | cons name rest => exact absurd (entered "node_modules" (by simp)) (by decide)
    · cases rest with
      | nil => exact absurd (kind "c.png" rfl) (by decide)
      | cons => cases below
  have source : (Store.directory mixedEntries).Source ["a.js"] ⟨#[49]⟩ :=
    ⟨rfl, by decide, by decide⟩
  obtain ⟨loads, files, -⟩ := load_sources h regular "."
  have texts : ∀ names content, (Store.directory mixedEntries).Source names content →
      (String.fromUTF8? content).isSome := by
    intro names content source
    obtain ⟨-, rfl⟩ := only names content source
    decide
  obtain ⟨p, loaded⟩ := loads.2 texts
  refine ⟨p, loaded, (files p loaded _ _).2 ⟨_, _, source, by decide, by decide⟩, ?_⟩
  cases other : p.get? "node_modules/b.js" with
  | none => rfl
  | some text =>
    obtain ⟨names, content, source, same, -⟩ := (files p loaded _ _).1 other
    obtain ⟨rfl, -⟩ := only names content source
    exact absurd same (by decide)

end Project

end LivePreview
