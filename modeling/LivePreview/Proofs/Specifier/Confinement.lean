import LivePreview.Proofs.Specifier.Joining

/-!
# Joins stay below the root

A join walks from a directory along the segments of a specifier and keeps the way back to the root
as a stack. What it ends with is a path again whose segments are that stack
(`named_ofSegments`), so a walk may stop at any slash and go on later. The walk breaks off where
`..` would leave the root, which is decided by counting (`enterAll_eq_none_iff`).

`joining_confined`: joins compose, fail exactly where the count says so, and lead from a plain
directory to names only.
-/

namespace LivePreview

namespace Path

/-- The segments of a path that are not empty. -/
def named (path : String) : List (List Char) := (segments path).filter (!·.isEmpty)

theorem mem_named {path : String} {s : List Char} (h : s ∈ named path) : s ≠ [] ∧ '/' ∉ s := by
  obtain ⟨inside, nonempty⟩ := List.mem_filter.1 h
  exact ⟨by simpa using nonempty, Text.not_mem_of_mem_splitChars inside⟩

/-- Segments that are not empty and hold no slash are those of the path that they make. -/
theorem named_ofSegments {segs : List (List Char)} (h : ∀ s ∈ segs, s ≠ [] ∧ '/' ∉ s) :
    named (ofSegments segs) = segs := by
  -- The path of no segments is empty, and an empty path has one segment, which is empty.
  by_cases root : segs = []
  · rw [root]
    rfl
  · rw [named, segments_ofSegments root fun s hs => (h s hs).2, List.filter_eq_self]
    intro s hs
    simpa using (h s hs).1

theorem segments_append (a b : String) : segments (a ++ "/" ++ b) = segments a ++ segments b := by
  rw [segments, String.toList_append, String.toList_append, List.append_assoc]
  exact Text.splitChars_append '/' a.toList b.toList

end Path

namespace Specifier

open LivePreview.Path

variable {stack stack' : List (List Char)} {segment s : List Char} {segs : List (List Char)}

/-- A join walks from the directory that is named. -/
theorem join?_eq (dir specifier : String) :
    join? dir specifier = (enterAll (named dir).reverse (segments specifier)).map
      fun stack => ofSegments stack.reverse := rfl

/-! ## What is on the stack -/

theorem mem_enter (h : enter stack segment = some stack') (hs : s ∈ stack') :
    s ∈ stack ∨ s = segment ∧ Ordinary segment := by
  unfold enter at h
  split at h
  · cases h
    exact .inl hs
  · next named =>
    rw [not_or] at named
    split at h
    · cases stack with
      | nil => cases h
      | cons top rest =>
        cases h
        exact .inl (.tail _ hs)
    · next notUp =>
      cases h
      rcases List.mem_cons.1 hs with rfl | hs
      · exact .inr ⟨rfl, named.1, named.2, notUp⟩
      · exact .inl hs

/-- Only ordinary segments are entered. -/
theorem mem_enterAll (h : enterAll stack segs = some stack') (hs : s ∈ stack') :
    s ∈ stack ∨ s ∈ segs ∧ Ordinary s := by
  induction segs generalizing stack with
  | nil =>
    cases h
    exact .inl hs
  | cons segment segs ih =>
    rw [enterAll_cons, Option.bind_eq_some_iff] at h
    obtain ⟨mid, first, rest⟩ := h
    rcases ih rest with there | ⟨later, ordinary⟩
    · rcases mem_enter first there with before | ⟨rfl, ordinary⟩
      · exact .inl before
      · exact .inr ⟨.head _, ordinary⟩
    · exact .inr ⟨.tail _ later, ordinary⟩

/-- What a walk from a path along another ends with is made of segments that a path can have. -/
theorem whole_enterAll {dir specifier : String}
    (h : enterAll (named dir).reverse (segments specifier) = some stack) (hs : s ∈ stack) :
    s ≠ [] ∧ '/' ∉ s := by
  rcases mem_enterAll h hs with before | ⟨inside, ordinary⟩
  · exact mem_named (List.mem_reverse.1 before)
  · exact ⟨ordinary.1, Text.not_mem_of_mem_splitChars inside⟩

/-! ## Leaving the root -/

/-- A way down `segs` from a depth leaves the root: some first part of it goes up more often than
there are directories to leave. -/
def Leaves (depth : Nat) (segs : List (List Char)) : Prop :=
  ∃ front, front <+: segs ∧ depth + front.countP (Ordinary ·) < front.count ['.', '.']

theorem not_leaves_nil (depth : Nat) : ¬ Leaves depth [] := by
  rintro ⟨front, none, more⟩
  rw [List.prefix_nil.1 none] at more
  cases more

theorem leaves_cons (depth : Nat) :
    Leaves depth (segment :: segs) ↔ ∃ front, front <+: segs ∧
      depth + (segment :: front).countP (Ordinary ·) < (segment :: front).count ['.', '.'] := by
  constructor
  · rintro ⟨front, part, more⟩
    rcases List.prefix_cons_iff.1 part with rfl | ⟨front, rfl, rest⟩
    · cases more
    · exact ⟨front, rest, more⟩
  · rintro ⟨front, part, more⟩
    exact ⟨segment :: front, List.cons_prefix_cons.2 ⟨rfl, part⟩, more⟩

theorem leaves_stay (depth : Nat) (stays : segment = [] ∨ segment = ['.']) :
    Leaves depth (segment :: segs) ↔ Leaves depth segs := by
  have notOrdinary : ¬ Ordinary segment := by
    rcases stays with rfl | rfl <;> decide
  have notUp : segment ≠ ['.', '.'] := by
    rcases stays with rfl | rfl <;> decide
  rw [leaves_cons]
  simp only [List.countP_cons, List.count_cons, notOrdinary, notUp, beq_iff_eq, decide_false,
    Bool.false_eq_true, if_false, Nat.add_zero, Leaves]

theorem leaves_up (depth : Nat) : Leaves (depth + 1) (['.', '.'] :: segs) ↔ Leaves depth segs := by
  have notOrdinary : ¬ Ordinary ['.', '.'] := by decide
  rw [leaves_cons]
  simp only [List.countP_cons, List.count_cons_self, notOrdinary, decide_false,
    Bool.false_eq_true, if_false, Nat.add_zero, Leaves]
  refine exists_congr fun front => and_congr_right fun _ => ?_
  omega

theorem leaves_root : Leaves 0 (['.', '.'] :: segs) :=
  ⟨[['.', '.']], List.cons_prefix_cons.2 ⟨rfl, List.nil_prefix⟩, by decide⟩

theorem leaves_down (depth : Nat) (ordinary : Ordinary segment) :
    Leaves depth (segment :: segs) ↔ Leaves (depth + 1) segs := by
  rw [leaves_cons]
  simp only [List.countP_cons, List.count_cons_of_ne ordinary.2.2, ordinary, decide_true, if_true,
    Leaves]
  refine exists_congr fun front => and_congr_right fun _ => ?_
  omega

/-- A walk breaks off exactly if the way leaves the root. -/
theorem enterAll_eq_none_iff : enterAll stack segs = none ↔ Leaves stack.length segs := by
  induction segs generalizing stack with
  | nil => exact iff_of_false nofun (not_leaves_nil _)
  | cons segment segs ih =>
    rw [enterAll_cons]
    unfold enter
    split
    · next stays => rw [leaves_stay _ stays, Option.bind_some, ih]
    · next named =>
      rw [not_or] at named
      split
      · next up =>
        subst up
        cases stack with
        | nil => exact iff_of_true rfl leaves_root
        | cons top rest => rw [List.length_cons, leaves_up, Option.bind_some, ih]
      · next notUp =>
        rw [leaves_down _ ⟨named.1, named.2, notUp⟩, Option.bind_some, ih, List.length_cons]

/-! ## Joins -/

theorem join?_append (dir a b : String) :
    (join? dir a).bind (join? · b) = join? dir (a ++ "/" ++ b) := by
  rw [join?_eq dir (a ++ "/" ++ b), segments_append, enterAll_append, join?_eq dir a]
  cases first : enterAll (named dir).reverse (segments a) with
  | none => rfl
  | some stack =>
    have whole : ∀ s ∈ stack.reverse, s ≠ [] ∧ '/' ∉ s := fun s hs =>
      whole_enterAll first (List.mem_reverse.1 hs)
    rw [Option.map_some, Option.bind_some, join?_eq, named_ofSegments whole, List.reverse_reverse,
      Option.bind_some]

/-- A join to a directory without detours has none. -/
theorem ordinary_of_join? {dir specifier path : String}
    (plain : ∀ s ∈ segments dir, s ≠ ['.'] ∧ s ≠ ['.', '.'])
    (h : join? dir specifier = some path) :
    ∃ segs, (∀ s ∈ segs, Ordinary s ∧ '/' ∉ s) ∧ path = ofSegments segs := by
  rw [join?_eq, Option.map_eq_some_iff] at h
  obtain ⟨stack, walk, rfl⟩ := h
  refine ⟨stack.reverse, fun s hs => ?_, rfl⟩
  rw [List.mem_reverse] at hs
  have whole := whole_enterAll walk hs
  refine ⟨?_, whole.2⟩
  rcases mem_enterAll walk hs with before | ⟨-, ordinary⟩
  · rw [List.mem_reverse] at before
    exact ⟨whole.1, plain s (List.mem_filter.1 before).1⟩
  · exact ordinary

/-- From the root a path of ordinary segments leads where it says. -/
theorem join?_root (h : ∀ s ∈ segs, Ordinary s ∧ '/' ∉ s) :
    join? "" (ofSegments segs) = some (ofSegments segs) := by
  by_cases root : segs = []
  · rw [root]
    rfl
  · have walk : enterAll (named "").reverse segs = some segs.reverse := by
      rw [show named "" = [] from rfl, enterAll_ordinary fun s hs => (h s hs).1]
      simp
    rw [join?_eq, segments_ofSegments root fun s hs => (h s hs).2, walk, Option.map_some,
      List.reverse_reverse]

/-- A join along `a` and from there along `b` is the join along `a/b`. A join fails exactly if some
first part of the specifier goes up more often than the directory and that part have names to leave.
And from a directory without `.` and `..` it leads to names only, below the root; the root itself,
whose path is empty, is made of none. -/
theorem joining_confined (dir a b : String) :
    (join? dir a).bind (join? · b) = join? dir (a ++ "/" ++ b) ∧
      (join? dir a = none ↔ ∃ front, front <+: segments a ∧
        (named dir).length + front.countP (Ordinary ·) < front.count ['.', '.']) ∧
      ((∀ s ∈ segments dir, s ≠ ['.'] ∧ s ≠ ['.', '.']) →
        ∀ path, join? dir a = some path →
          (∃ segs, (∀ s ∈ segs, Ordinary s ∧ '/' ∉ s) ∧ path = ofSegments segs) ∧
            join? "" path = some path) := by
  refine ⟨join?_append dir a b, ?_, fun plain path joined => ?_⟩
  · rw [join?_eq, Option.map_eq_none_iff, enterAll_eq_none_iff, List.length_reverse]
    exact Iff.rfl
  · obtain ⟨segs, ordinary, rfl⟩ := ordinary_of_join? plain joined
    exact ⟨⟨segs, ordinary, rfl⟩, join?_root ordinary⟩

/-- A way that goes up, stays and goes down again. -/
theorem joining_confined_detour :
    (∀ s ∈ segments "a/b", s ≠ ['.'] ∧ s ≠ ['.', '.']) ∧
      join? "a/b" "../c/./d" = some "a/c/d" ∧
      (∃ segs, (∀ s ∈ segs, Ordinary s ∧ '/' ∉ s) ∧ "a/c/d" = ofSegments segs) ∧
      join? "" "a/c/d" = some "a/c/d" := by
  have plain : ∀ s ∈ segments "a/b", s ≠ ['.'] ∧ s ≠ ['.', '.'] := by decide
  have joined : join? "a/b" "../c/./d" = some "a/c/d" := by decide
  exact ⟨plain, joined, (joining_confined "a/b" "../c/./d" "..").2.2 plain _ joined⟩

end Specifier

end LivePreview
