import LivePreview.Registry

/-!
# Spellings of paths

Which spellings a path answers to, and which paths an import tries, told by their ends: a script's
path ends in a dot and its extension, and so does every path tried for it; a stylesheet's path and
all of its spellings end in `.css`.

`mem_variants_of_script`: a path that does not begin with `./` is a spelling of no other such path
but of those that add a script extension to it.
-/

namespace LivePreview

/-! ## Ends of texts -/

/-- What is cut at the last separator is put together again. -/
theorem eq_of_splitLast {sep : Char} {cs front tail : List Char}
    (h : Text.splitLast sep cs = some (front, tail)) : cs = front ++ sep :: tail := by
  have cut : (cs.reverse.dropWhile (· != sep)).reverse ++ (cs.reverse.takeWhile (· != sep)).reverse
      = cs := by
    rw [← List.reverse_append, List.takeWhile_append_dropWhile, List.reverse_reverse]
  have stop := List.head?_dropWhile_not (· != sep) cs.reverse
  simp only [Text.splitLast, Option.ite_none_left_eq_some, Option.some.injEq, Prod.mk.injEq] at h
  generalize (cs.reverse.takeWhile (· != sep)).reverse = last at cut h
  generalize cs.reverse.dropWhile (· != sep) = kept at cut stop
  obtain ⟨longer, rfl, rfl⟩ := h
  cases kept with
  | nil => exact absurd (congrArg List.length cut) (by simpa using longer)
  | cons c kept =>
    obtain rfl : c = sep := by simpa using stop
    rw [← cut, List.reverse_cons, List.append_assoc, List.singleton_append]
    congr 1
    have front : (kept.reverse ++ c :: last).length - last.length - 1 = kept.reverse.length := by
      simp only [List.length_append, List.length_cons]
      omega
    rw [front, List.take_left]

/-- What ends a text and has no separator in it ends the last piece. -/
theorem suffix_of_suffix_append {sep : Char} {tail cs ds : List Char} (whole : sep ∉ tail)
    (h : tail <:+ cs ++ sep :: ds) : tail <:+ ds := by
  rcases List.suffix_or_suffix_of_suffix h (List.suffix_append cs (sep :: ds)) with short | long
  · rcases List.suffix_cons_iff.1 short with rfl | short
    · exact absurd (.head _) whole
    · exact short
  · exact absurd (long.subset (.head _)) whole

namespace Path

/-- A text has one of the script extensions at its end at most once. -/
theorem extension_unique {e e' : ScriptExtension} {cs : List Char}
    (h : '.' :: e.name.toList <:+ cs) (h' : '.' :: e'.name.toList <:+ cs) : e = e' := by
  obtain ⟨front, rfl⟩ := h
  obtain ⟨front', he⟩ := h'
  have := congrArg List.reverse he
  cases e <;> cases e' <;> simp [ScriptExtension.name] at this ⊢

/-- No script extension stands where that of a stylesheet does. -/
theorem not_css_of_extension {e : ScriptExtension} {cs : List Char}
    (h : '.' :: e.name.toList <:+ cs) : ¬ ".css".toList <:+ cs := by
  obtain ⟨front, rfl⟩ := h
  rintro ⟨front', he⟩
  have := congrArg List.reverse he
  cases e <;> simp [ScriptExtension.name] at this

/-! ## Kinds of files -/

theorem suffix_of_extension? {path ext : String} (h : extension? path = some ext) :
    '.' :: ext.toList <:+ path.toList := by
  have ends : ∀ {segment stem tail}, segment <:+ path.toList →
      Text.splitLast '.' segment = some (stem, tail) →
      (if stem.isEmpty then none else some (String.ofList tail)) = some ext →
      '.' :: ext.toList <:+ path.toList := by
    intro segment stem tail inside cut h
    obtain ⟨-, rfl⟩ : ¬ stem.isEmpty = true ∧ String.ofList tail = ext := by simpa using h
    rw [String.toList_ofList]
    exact .trans ⟨stem, (eq_of_splitLast cut).symm⟩ inside
  unfold extension? at h
  cases cut : Text.splitLast '/' path.toList with
  | none =>
    simp only [cut] at h
    split at h
    next found => exact ends List.suffix_rfl found h
    next => cases h
  | some pieces =>
    obtain ⟨dir, last⟩ := pieces
    have inside : last <:+ path.toList := ⟨dir ++ ['/'], by simp [eq_of_splitLast cut]⟩
    simp only [cut] at h
    split at h
    next found => exact ends inside found h
    next => cases h

theorem name_of_ofName? {s : String} {e : ScriptExtension}
    (h : ScriptExtension.ofName? s = some e) : e.name = s := by
  simpa using List.find?_some h

theorem suffix_of_script {path : String} {e : ScriptExtension} (h : classify path = .script e) :
    '.' :: e.name.toList <:+ path.toList := by
  unfold classify at h
  split at h
  · cases h
  next ext he =>
    split at h
    next e' hn =>
      cases h
      rw [name_of_ofName? hn]
      exact suffix_of_extension? he
    · split at h <;> cases h

theorem suffix_of_stylesheet {path : String} (h : classify path = .stylesheet) :
    ".css".toList <:+ path.toList := by
  unfold classify at h
  split at h
  · cases h
  next ext he =>
    split at h
    · cases h
    · split at h
      next css =>
        obtain rfl : ext = "css" := by simpa [stylesheetExtensions] using css
        exact suffix_of_extension? he
      · cases h

theorem exists_of_isScript {path : String} (h : isScript path = true) :
    ∃ e, classify path = .script e := by
  unfold isScript at h
  split at h
  next e he => exact ⟨e, he⟩
  next => cases h

theorem extensionRank_of_script {path : String} {e : ScriptExtension}
    (h : classify path = .script e) : extensionRank path = e.rank := by
  simp [extensionRank, h]

/-! ## Stems -/

theorem dropSuffix?_eq_some {tail cs front : List Char} :
    dropSuffix? tail cs = some front ↔ cs = front ++ tail := by
  unfold dropSuffix?
  rw [Option.ite_none_right_eq_some, List.isSuffixOf_iff_suffix]
  constructor
  · rintro ⟨⟨front', rfl⟩, h⟩
    simpa using h
  · rintro rfl
    exact ⟨List.suffix_append _ _, by simp⟩

/-- A path that ends in a script extension loses it, unless its stem spans lines. -/
theorem stem_of_script {path front : String} {e : ScriptExtension}
    (h : path = front ++ "." ++ e.name) :
    stem path = if '\n' ∈ front.toList then path else front := by
  have ends : path.toList = front.toList ++ '.' :: e.name.toList := by simp [h]
  have only : ∀ {e' s}, dropSuffix? ('.' :: e'.name.toList) path.toList = some s → e' = e := by
    intro e' s hs
    exact extension_unique ⟨s, (dropSuffix?_eq_some.1 hs).symm⟩ ⟨front.toList, ends.symm⟩
  have stems : (ScriptExtension.all.filterMap fun e =>
      dropSuffix? ('.' :: e.name.toList) path.toList).head? = some front.toList := by
    have found : dropSuffix? ('.' :: e.name.toList) path.toList = some front.toList :=
      dropSuffix?_eq_some.2 ends
    have none : ∀ e', e' ≠ e → dropSuffix? ('.' :: e'.name.toList) path.toList = none :=
      fun e' ne => Option.eq_none_iff_forall_ne_some.2 fun s hs => ne (only hs)
    cases e <;> simp [ScriptExtension.all, found, none]
  simp [stem, stems]

/-- A path that ends in no script extension is its own stem. -/
theorem stem_of_not_script {path : String}
    (h : ∀ e : ScriptExtension, ¬ '.' :: e.name.toList <:+ path.toList) : stem path = path := by
  have stems : (ScriptExtension.all.filterMap fun e =>
      dropSuffix? ('.' :: e.name.toList) path.toList) = [] := by
    rw [List.filterMap_eq_nil_iff]
    intro e _
    rw [Option.eq_none_iff_forall_ne_some]
    exact fun s hs => h e ⟨s, (dropSuffix?_eq_some.1 hs).symm⟩
  simp [stem, stems]

/-! ## Spellings -/

theorem mem_pushUnique {xs : List String} {x y : String} :
    y ∈ pushUnique xs x ↔ y ∈ xs ∨ y = x := by
  unfold pushUnique
  split
  next h =>
    have : x ∈ xs := by simpa using h
    constructor
    · exact .inl
    · rintro (h | rfl)
      · exact h
      · exact this
  next => simp

theorem mem_foldl_pushUnique {xs out : List String} {y : String} :
    y ∈ xs.foldl pushUnique out ↔ y ∈ out ∨ y ∈ xs := by
  induction xs generalizing out with
  | nil => simp
  | cons x xs ih => rw [List.foldl_cons, ih, mem_pushUnique, List.mem_cons, or_assoc]

theorem mem_unique {xs : List String} {y : String} : y ∈ unique xs ↔ y ∈ xs :=
  mem_foldl_pushUnique.trans (by simp)

theorem head?_foldl_pushUnique {xs out : List String} {x : String} (h : out.head? = some x) :
    (xs.foldl pushUnique out).head? = some x := by
  induction xs generalizing out with
  | nil => exact h
  | cons y xs ih =>
    refine ih ?_
    unfold pushUnique
    split
    · exact h
    · simp [h]

/-- The values without repetitions begin with the first one. -/
theorem head?_unique (x : String) (xs : List String) : (unique (x :: xs)).head? = some x := by
  change (xs.foldl pushUnique [x]).head? = some x
  exact head?_foldl_pushUnique rfl

/-- The path has no `./` in front. -/
def Rooted (path : String) : Prop := dropDotSlash path = path

theorem dropDotSlash_append (path : String) : dropDotSlash ("./" ++ path) = path := by
  simp [dropDotSlash]

theorem Rooted.ne {path : String} (h : Rooted path) (rest : String) : path ≠ "./" ++ rest := by
  rintro rfl
  have := congrArg String.length ((dropDotSlash_append rest).symm.trans h)
  simp at this

theorem mem_variants {v path : String} :
    v ∈ variants path ↔ v = path ∨ v = dropDotSlash path ∨ v = stem (dropDotSlash path) ∨
      v = "./" ++ dropDotSlash path ∨ v = "./" ++ stem (dropDotSlash path) := by
  simp [variants, mem_unique]

theorem self_mem_variants (path : String) : path ∈ variants path := mem_variants.2 (.inl rfl)

/-- A path is a spelling of itself, and of those that add a script extension to it. -/
theorem mem_variants_of_script {p q : String} {e : ScriptExtension} (hp : Rooted p)
    (hq : Rooted q) (script : classify q = .script e) :
    p ∈ variants q ↔ p = q ∨ q = p ++ "." ++ e.name ∧ '\n' ∉ p.toList := by
  obtain ⟨front, ends⟩ := suffix_of_script script
  have hfront : q = String.ofList front ++ "." ++ e.name := by
    rw [← String.toList_inj, ← ends]
    simp
  have stems := stem_of_script hfront
  rw [mem_variants, hq]
  constructor
  · rintro (rfl | rfl | h | h | h)
    · exact .inl rfl
    · exact .inl rfl
    · rw [stems] at h
      split at h
      · exact .inl h
      next line =>
        subst h
        exact .inr ⟨hfront, line⟩
    · exact absurd h (hp.ne _)
    · exact absurd h (hp.ne _)
  · rintro (rfl | ⟨h, line⟩)
    · exact .inl rfl
    · rw [stem_of_script h, if_neg line]
      exact .inr (.inr (.inl rfl))

/-- All spellings of a stylesheet end as its path does. -/
theorem suffix_of_mem_variants {v path : String} (rooted : Rooted path)
    (sheet : classify path = .stylesheet) (h : v ∈ variants path) : ".css".toList <:+ v.toList := by
  have css := suffix_of_stylesheet sheet
  have behind : ".css".toList <:+ ("./" ++ path).toList := by
    rw [String.toList_append]
    exact css.trans (List.suffix_append _ _)
  have whole : stem path = path :=
    stem_of_not_script fun _ script => not_css_of_extension script css
  rw [mem_variants, rooted, whole] at h
  rcases h with rfl | rfl | rfl | rfl | rfl <;> assumption

theorem mem_variants_of_stylesheet {p q : String} (hp : Rooted p) (hq : Rooted q)
    (sheet : classify q = .stylesheet) : p ∈ variants q ↔ p = q := by
  have whole : stem q = q :=
    stem_of_not_script fun _ script => not_css_of_extension script (suffix_of_stylesheet sheet)
  rw [mem_variants, hq, whole]
  simp [hp.ne]

end Path

/-! ## Paths tried for an import -/

theorem head?_candidates (specifier : String) :
    (Specifier.candidates specifier none).head? = some specifier := Path.head?_unique _ _

theorem slash_not_mem_extension (e : ScriptExtension) : '/' ∉ '.' :: e.name.toList := by
  cases e <;> decide

/-- The paths that are tried for what ends in a script extension end in one too. -/
theorem extension_of_mem_spellings {specifier c : String} {e : ScriptExtension}
    (ends : '.' :: e.name.toList <:+ specifier.toList) (h : c ∈ Specifier.spellings specifier) :
    ∃ e' : ScriptExtension, '.' :: e'.name.toList <:+ c.toList := by
  have suffix : ∀ s ∈ Specifier.suffixes ++ Specifier.prefixedSuffixes,
      s = "" ∨ ∃ e' : ScriptExtension, '.' :: e'.name.toList <:+ s.toList := by
    have : ∀ s ∈ Specifier.suffixes ++ Specifier.prefixedSuffixes,
        s = "" ∨ ∃ e' ∈ ScriptExtension.all, '.' :: e'.name.toList <:+ s.toList := by decide
    exact fun s hs => (this s hs).imp_right fun ⟨e', _, h⟩ => ⟨e', h⟩
  have bare : '.' :: e.name.toList <:+ (Path.dropDotSlash specifier).toList := by
    unfold Path.dropDotSlash
    split
    next rest dotted =>
      rw [dotted, show '.' :: '/' :: rest = ['.'] ++ '/' :: rest from rfl] at ends
      rw [String.toList_ofList]
      exact suffix_of_suffix_append (slash_not_mem_extension e) ends
    next => exact ends
  have extended : ∀ s ∈ Specifier.suffixes ++ Specifier.prefixedSuffixes, ∀ front : List Char,
      ∃ e' : ScriptExtension, '.' :: e'.name.toList <:+
        front ++ (Path.dropDotSlash specifier).toList ++ s.toList := by
    intro s hs front
    rcases suffix s hs with rfl | ⟨e', h⟩
    · exact ⟨e, by simpa using bare.trans (List.suffix_append _ _)⟩
    · exact ⟨e', h.trans (List.suffix_append _ _)⟩
  simp only [Specifier.spellings, List.cons_append, List.mem_cons, List.mem_append,
    List.mem_map] at h
  rcases h with rfl | ⟨s, hs, rfl⟩ | ⟨s, hs, rfl⟩
  · exact ⟨e, ends⟩
  · simpa using extended s (List.mem_append_left _ hs) []
  · simpa using extended s (List.mem_append_right _ hs) ['.', '/']

theorem mem_candidates_none {specifier c : String} :
    c ∈ Specifier.candidates specifier none ↔ c ∈ Specifier.spellings specifier :=
  Path.mem_unique

/-! ## Keys of projects -/

theorem dropRoot_rooted (cs : List Char) : Path.Rooted (String.ofList (Project.dropRoot cs)) := by
  fun_induction Project.dropRoot cs with
  | case1 cs ih => exact ih
  | case2 cs ih => exact ih
  | case3 cs dotted =>
    unfold Path.Rooted Path.dropDotSlash
    rw [String.toList_ofList]
    split
    next => exact absurd rfl (dotted _)
    next => rfl

theorem rooted_keyOf (path : String) : Path.Rooted (Project.keyOf path) := dropRoot_rooted _

/-- The paths of a project built by insertions have no `./` in front. -/
theorem rooted_of_mem_ofList {files : List (String × String)} {file : String × String}
    (h : file ∈ (Project.ofList files).toList) : Path.Rooted file.1 := by
  have step : ∀ (files : List (String × String)) (p : Project),
      (∀ file ∈ p.toList, Path.Rooted file.1) →
      ∀ file ∈ (files.foldl (fun p f => p.insert f.1 f.2) p).toList, Path.Rooted file.1 := by
    intro files
    induction files with
    | nil => exact fun _ h => h
    | cons f files ih =>
      intro p h
      refine ih _ fun file hm => ?_
      rcases Table.mem_insertEntry hm with rfl | hm
      · exact rooted_keyOf f.1
      · exact h file hm
  exact step files .empty (by simp [Project.empty, Project.toList, Table.empty]) file h

end LivePreview
