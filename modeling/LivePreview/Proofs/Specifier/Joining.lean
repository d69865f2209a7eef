import LivePreview.Proofs.Registry.Spellings

/-!
# Joining paths

Paths as lists of segments: `segments` cuts a path at the slashes and `ofSegments` puts it together
again. A join starts from the segments of a directory and enters those of the specifier one by one;
`..` leaves a directory, an ordinary segment enters one.

`join?_relative`: the way from the directory of one file to another file, joined to that directory,
is the path of the other file.
-/

namespace LivePreview

/-! ## Cutting and joining -/

namespace Text

theorem splitChars_eq_splitOn (sep : Char) (cs : List Char) :
    splitChars sep cs = cs.splitOn sep := by
  induction cs with
  | nil => rfl
  | cons c cs ih =>
    rw [splitChars, List.splitOn_cons_eq_if_modifyHead, ih]
    simp only [beq_iff_eq]
    congr 1
    obtain ⟨piece, pieces, h⟩ := List.exists_cons_of_ne_nil (List.splitOn_ne_nil sep cs)
    simp [h]

theorem joinChars_eq_intercalate (sep : List Char) (pieces : List (List Char)) :
    joinChars sep pieces = sep.intercalate pieces := by
  fun_induction joinChars sep pieces with
  | case1 => rfl
  | case2 piece => rw [List.intercalate_singleton]
  | case3 piece pieces more ih => rw [ih, List.intercalate_cons_of_ne_nil more]

theorem splitChars_append (sep : Char) (cs ds : List Char) :
    splitChars sep (cs ++ sep :: ds) = splitChars sep cs ++ splitChars sep ds := by
  simp only [splitChars_eq_splitOn, List.splitOn_append_cons_self]

theorem joinChars_append (sep : List Char) {as bs : List (List Char)} (ha : as ≠ [])
    (hb : bs ≠ []) : joinChars sep (as ++ bs) = joinChars sep as ++ sep ++ joinChars sep bs := by
  simp only [joinChars_eq_intercalate]
  induction as with
  | nil => exact absurd rfl ha
  | cons a as ih =>
    cases as with
    | nil => rw [List.singleton_append, List.intercalate_cons_of_ne_nil hb,
        List.intercalate_singleton]
    | cons a' as =>
      rw [List.cons_append, List.intercalate_cons_of_ne_nil (by simp),
        List.intercalate_cons_of_ne_nil (by simp), ih (by simp)]
      simp only [List.append_assoc]

theorem splitChars_eq_singleton {sep : Char} {cs : List Char} (h : sep ∉ cs) :
    splitChars sep cs = [cs] := by
  rw [splitChars_eq_splitOn, List.splitOn_eq_singleton h]

theorem not_mem_takeWhile_ne (sep : Char) (cs : List Char) : sep ∉ cs.takeWhile (· != sep) := by
  intro inside
  simpa using List.all_eq_true.1 List.all_takeWhile sep inside

theorem not_mem_of_splitLast_eq_none {sep : Char} {cs : List Char} (h : splitLast sep cs = none) :
    sep ∉ cs := by
  simp only [splitLast, ite_eq_left_iff, reduceCtorEq, imp_false, Decidable.not_not,
    List.length_reverse] at h
  have whole := (List.takeWhile_prefix (l := cs.reverse) (· != sep)).eq_of_length
    (by rw [h, List.length_reverse])
  rw [← List.mem_reverse, ← whole]
  exact not_mem_takeWhile_ne sep _

theorem not_mem_of_splitLast {sep : Char} {cs front tail : List Char}
    (h : splitLast sep cs = some (front, tail)) : sep ∉ tail := by
  simp only [splitLast, Option.ite_none_left_eq_some, Option.some.injEq, Prod.mk.injEq] at h
  obtain ⟨-, -, rfl⟩ := h
  rw [List.mem_reverse]
  exact not_mem_takeWhile_ne sep _

theorem not_mem_of_mem_splitChars {sep : Char} {cs piece : List Char}
    (h : piece ∈ splitChars sep cs) : sep ∉ piece := by
  fun_induction splitChars sep cs generalizing piece with
  | case1 =>
    obtain rfl := List.mem_singleton.1 h
    exact List.not_mem_nil
  | case2 cs ih =>
    rcases List.mem_cons.1 h with rfl | h
    · exact List.not_mem_nil
    · exact ih h
  | case3 c cs ne _ =>
    obtain rfl := List.mem_singleton.1 h
    simpa using Ne.symm ne
  | case4 c cs ne first pieces found ih =>
    rw [found] at ih
    rcases List.mem_cons.1 h with rfl | h
    · rintro (_ | ⟨_, inside⟩)
      · exact ne rfl
      · exact ih (.head _) inside
    · exact ih (.tail _ h)

end Text

/-! ## Paths as lists of segments -/

namespace Path

/-- The segments of a path. -/
def segments (path : String) : List (List Char) := Text.splitChars '/' path.toList

/-- The path with the given segments. -/
def ofSegments (segments : List (List Char)) : String :=
  String.ofList (Text.joinChars ['/'] segments)

theorem segments_ne_nil (path : String) : segments path ≠ [] :=
  Text.splitChars_ne_nil _ _

@[simp] theorem ofSegments_segments (path : String) : ofSegments (segments path) = path := by
  rw [ofSegments, segments, Text.splitChars_eq_splitOn, Text.joinChars_eq_intercalate,
    List.intercalate_splitOn, String.ofList_toList]

theorem segments_ofSegments {segs : List (List Char)} (ne : segs ≠ [])
    (whole : ∀ s ∈ segs, '/' ∉ s) : segments (ofSegments segs) = segs := by
  rw [segments, ofSegments, String.toList_ofList, Text.joinChars_eq_intercalate,
    Text.splitChars_eq_splitOn, List.splitOn_intercalate _ whole ne]

theorem ofSegments_append {as bs : List (List Char)} (ha : as ≠ []) (hb : bs ≠ []) :
    ofSegments (as ++ bs) = ofSegments as ++ "/" ++ ofSegments bs := by
  simp only [ofSegments, Text.joinChars_append _ ha hb, String.ofList_append]

/-- The segment is the name of a file or directory. -/
def Ordinary (segment : List Char) : Prop :=
  segment ≠ [] ∧ segment ≠ ['.'] ∧ segment ≠ ['.', '.']

instance : DecidablePred Ordinary := fun _ => inferInstanceAs (Decidable (_ ∧ _))

/-- The path leads from the root through directories to a file, with nothing empty on the way and
no detour. -/
def Plain (path : String) : Prop := ∀ s ∈ segments path, Ordinary s

instance : DecidablePred Plain := fun path =>
  inferInstanceAs (Decidable (∀ s ∈ segments path, Ordinary s))

/-- The segments of the directory that a file is in. -/
def directories (path : String) : List (List Char) := (segments path).dropLast

theorem Plain.rooted {path : String} (h : Plain path) : Rooted path := by
  unfold Rooted dropDotSlash
  split
  next rest dotted =>
    have : ['.'] ∈ segments path := by
      rw [segments, dotted, show '.' :: '/' :: rest = ['.'] ++ '/' :: rest from rfl,
        Text.splitChars_append]
      exact List.mem_append_left _ (.head _)
    exact absurd rfl (h _ this).2.1
  next => rfl

/-- The directory part of a path is what its directories make. -/
theorem dirname_eq {path : String} (rooted : Rooted path) :
    dirname path = ofSegments (directories path) := by
  have bare : dropDotSlash path = path := rooted
  rw [dirname, bare, directories, segments]
  cases cut : Text.splitLast '/' path.toList with
  | none =>
    rw [Text.splitChars_eq_singleton (Text.not_mem_of_splitLast_eq_none cut)]
    rfl
  | some pieces =>
    obtain ⟨dir, last⟩ := pieces
    rw [eq_of_splitLast cut, Text.splitChars_append,
      Text.splitChars_eq_singleton (Text.not_mem_of_splitLast cut), List.dropLast_concat]
    have := ofSegments_segments (String.ofList dir)
    rw [segments, String.toList_ofList] at this
    exact this.symm

/-- How many segments two lists share at the front. -/
def shared : List (List Char) → List (List Char) → Nat
  | a :: as, b :: bs => if a = b then shared as bs + 1 else 0
  | _, _ => 0

theorem take_shared (as bs : List (List Char)) :
    as.take (shared as bs) = bs.take (shared as bs) := by
  fun_induction shared as bs with
  | case1 a as bs ih => rw [List.take_succ_cons, List.take_succ_cons, ih]
  | case2 => rfl
  | case3 => rfl

theorem shared_le (as bs : List (List Char)) :
    shared as bs ≤ as.length ∧ shared as bs ≤ bs.length := by
  fun_induction shared as bs with
  | case1 a as bs ih => exact ⟨Nat.succ_le_succ ih.1, Nat.succ_le_succ ih.2⟩
  | case2 => exact ⟨Nat.zero_le _, Nat.zero_le _⟩
  | case3 => exact ⟨Nat.zero_le _, Nat.zero_le _⟩

/-- How many directories the two files are in together. -/
def common (importer path : String) : Nat := shared (directories importer) (directories path)

/-- `..` for each directory of the importer that the file at `path` is not in, or `.` when there is
none. -/
def ups (importer path : String) : List (List Char) :=
  match (directories importer).length - common importer path with
  | 0 => [['.']]
  | n + 1 => List.replicate (n + 1) ['.', '.']

/-- The rest of `path` below the directories that the two files are in together. -/
def downs (importer path : String) : List (List Char) :=
  (segments path).drop (common importer path)

/-- The file at `path` as seen from the directory of `importer`. -/
def relative (importer path : String) : String :=
  ofSegments (ups importer path ++ downs importer path)

section
variable (importer path : String)

theorem common_le : common importer path ≤ (directories importer).length ∧
    common importer path < (segments path).length := by
  obtain ⟨left, right⟩ := shared_le (directories importer) (directories path)
  have nonempty := List.length_pos_iff.2 (segments_ne_nil path)
  have last : (directories path).length = (segments path).length - 1 := List.length_dropLast
  exact ⟨left, by unfold common; omega⟩

theorem downs_ne_nil : downs importer path ≠ [] := by
  rw [downs, ne_eq, List.drop_eq_nil_iff, Nat.not_le]
  exact (common_le importer path).2

theorem ups_ne_nil : ups importer path ≠ [] := by
  unfold ups
  split <;> simp

/-- The directories that the two files are in together, and the rest of `path`. -/
theorem take_common_append_downs :
    (directories importer).take (common importer path) ++ downs importer path = segments path := by
  have short : common importer path ≤ (segments path).length - 1 :=
    Nat.le_sub_one_of_lt (common_le importer path).2
  have front : (directories importer).take (common importer path) =
      (segments path).take (common importer path) := by
    rw [common, take_shared, ← common, directories, List.dropLast_eq_take, List.take_take,
      Nat.min_eq_left short]
  rw [front, downs, List.take_append_drop]

theorem segments_relative : segments (relative importer path) =
    ups importer path ++ downs importer path := by
  refine segments_ofSegments (List.append_ne_nil_of_left_ne_nil (ups_ne_nil _ _) _) fun s hs => ?_
  rcases List.mem_append.1 hs with up | down
  · unfold ups at up
    split at up
    · obtain rfl := List.mem_singleton.1 up
      decide
    · obtain rfl := List.eq_of_mem_replicate up
      decide
  · exact Text.not_mem_of_mem_splitChars (List.mem_of_mem_drop down)

/-- A relative path is the way up and the way down. -/
theorem relative_eq : relative importer path =
    ofSegments (ups importer path) ++ "/" ++ ofSegments (downs importer path) :=
  ofSegments_append (ups_ne_nil _ _) (downs_ne_nil _ _)

theorem isRelative_relative : Specifier.isRelative (relative importer path) = true := by
  have first : ∃ up us, ups importer path ++ downs importer path = [up] ++ us ∧ us ≠ [] ∧
      (up = ['.'] ∨ up = ['.', '.']) := by
    unfold ups
    split
    · exact ⟨_, _, rfl, downs_ne_nil _ _, .inl rfl⟩
    · rw [List.replicate_succ, List.cons_append]
      exact ⟨_, _, rfl, List.append_ne_nil_of_right_ne_nil _ (downs_ne_nil _ _), .inr rfl⟩
  obtain ⟨up, us, split, more, which⟩ := first
  rw [relative, split, ofSegments_append (by simp) more]
  rcases which with rfl | rfl <;> simp [Specifier.isRelative, ofSegments, Text.joinChars]

/-- Seen from the root, a file is at `./` and its path. -/
theorem relative_of_root {importer : String} (root : directories importer = []) :
    relative importer path = "./" ++ path := by
  have none : common importer path = 0 := by rw [common, root, shared]; nofun
  have up : ups importer path = [['.']] := by simp [ups, root]
  rw [relative_eq, up, downs, none, List.drop_zero, ofSegments_segments]
  rfl

/-- A relative path ends as the path does, as far as no slash is in the end. -/
theorem suffix_relative {tail : List Char} (whole : '/' ∉ tail) (h : tail <:+ path.toList) :
    tail <:+ (relative importer path).toList := by
  have below : tail <:+ (ofSegments (downs importer path)).toList := by
    have back := congrArg ofSegments (take_common_append_downs importer path)
    rw [ofSegments_segments] at back
    by_cases apart : (directories importer).take (common importer path) = []
    · rw [← back, apart] at h
      exact h
    · rw [← back, ofSegments_append apart (downs_ne_nil _ _)] at h
      exact suffix_of_suffix_append whole (by simpa [String.toList_append] using h)
  rw [relative_eq, String.toList_append]
  exact below.trans (List.suffix_append _ _)

end

end Path

/-! ## Entering segments -/

namespace Specifier

open LivePreview.Path

theorem enterAll_cons (stack : List (List Char)) (segment : List Char)
    (segments : List (List Char)) :
    enterAll stack (segment :: segments) = (enter stack segment).bind (enterAll · segments) :=
  List.foldlM_cons

theorem enterAll_append (stack : List (List Char)) (as bs : List (List Char)) :
    enterAll stack (as ++ bs) = (enterAll stack as).bind (enterAll · bs) :=
  List.foldlM_append

/-- `..` leaves one directory each. -/
theorem enterAll_replicate {n : Nat} {stack : List (List Char)} (h : n ≤ stack.length) :
    enterAll stack (List.replicate n ['.', '.']) = some (stack.drop n) := by
  induction n generalizing stack with
  | zero => rfl
  | succ n ih =>
    cases stack with
    | nil => cases h
    | cons top stack =>
      rw [List.replicate_succ, List.drop_succ_cons, ← ih (Nat.le_of_succ_le_succ h)]
      rfl

/-- Ordinary segments are entered one below the other. -/
theorem enterAll_ordinary {segs : List (List Char)} (ordinary : ∀ s ∈ segs, Ordinary s)
    (stack : List (List Char)) : enterAll stack segs = some (segs.reverse ++ stack) := by
  induction segs generalizing stack with
  | nil => rfl
  | cons s segs ih =>
    obtain ⟨nonempty, notDot, notUp⟩ := ordinary s (.head _)
    have first : enter stack s = some (s :: stack) := by
      simp [enter, nonempty, notDot, notUp]
    rw [enterAll_cons, first, Option.bind_some, ih fun s hs => ordinary s (.tail _ hs)]
    simp

/-- The directory of a file, as a join starts from it. -/
theorem start_dirname {path : String} (h : Plain path) :
    (Text.splitChars '/' (dirname path).toList).filter (!·.isEmpty) = directories path := by
  change (segments (dirname path)).filter (!·.isEmpty) = directories path
  rw [dirname_eq h.rooted]
  by_cases root : directories path = []
  · rw [root]
    rfl
  · have inside : ∀ s ∈ directories path, s ∈ segments path := (List.dropLast_sublist _).subset
    rw [segments_ofSegments root fun s hs => Text.not_mem_of_mem_splitChars (inside s hs),
      List.filter_eq_self]
    intro s hs
    simpa using (h s (inside s hs)).1

/-- What is left of the importer's directories is what the two files share. -/
theorem enterAll_ups (importer path : String) :
    enterAll (directories importer).reverse (ups importer path) =
      some ((directories importer).take (common importer path)).reverse := by
  have short := (common_le importer path).1
  unfold ups
  split
  next none =>
    rw [List.take_of_length_le (by omega)]
    rfl
  next n more =>
    rw [enterAll_replicate (by rw [List.length_reverse]; omega), ← Nat.succ_eq_add_one, ← more,
      List.drop_reverse, Nat.sub_sub_self short]

/-- The relative path of a file, joined to the directory that it is relative to, is its path. -/
theorem join?_relative {importer path : String} (hi : Plain importer) (h : Plain path) :
    join? (dirname importer) (relative importer path) = some path := by
  have down : ∀ s ∈ downs importer path, Ordinary s := fun s hs => h s (List.mem_of_mem_drop hs)
  have way : enterAll (directories importer).reverse (segments (relative importer path)) =
      some (segments path).reverse := by
    rw [segments_relative, enterAll_append, enterAll_ups, Option.bind_some, enterAll_ordinary down,
      ← List.reverse_append, take_common_append_downs]
  rw [join?, start_dirname hi, ← segments, way, Option.map_some, List.reverse_reverse,
    ← ofSegments, ofSegments_segments]

end Specifier

end LivePreview
