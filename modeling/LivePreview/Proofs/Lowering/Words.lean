import LivePreview.Module.Lowering
import LivePreview.Proofs.Lowering.Places
import LivePreview.Proofs.Lowering.Splice

/-!
# The words of a default export

Lowering takes the words of a default export to end behind the first `default` in its text. That is
the keyword unless a comment before it says `default` too (`wordsFound_spec`).
-/

namespace LivePreview.Text

variable {needle text : List Char} {i j : Nat}

theorem prefix_of_indexOf? (h : indexOf? needle text = some i) : needle <+: text.drop i := by
  induction text generalizing i with
  | nil =>
    simp only [indexOf?, List.isEmpty_iff] at h
    split at h
    · next empty => exact empty ▸ List.nil_prefix
    · cases h
  | cons c rest ih =>
    unfold indexOf? at h
    split at h
    · next found =>
      cases h
      exact List.isPrefixOf_iff_prefix.1 found
    · obtain ⟨k, hk, rfl⟩ := Option.map_eq_some_iff.1 h
      exact ih hk

/-- The first occurrence is not behind any other. -/
theorem exists_indexOf? (h : needle <+: text.drop j) (hj : j ≤ text.length) :
    ∃ i ≤ j, indexOf? needle text = some i := by
  induction text generalizing j with
  | nil =>
    have empty : needle = [] := by simpa using h
    exact ⟨0, Nat.zero_le _, by simp [indexOf?, empty]⟩
  | cons c rest ih =>
    unfold indexOf?
    split
    · exact ⟨0, Nat.zero_le _, rfl⟩
    · next here =>
      cases j with
      | zero => exact absurd (List.isPrefixOf_iff_prefix.2 h) here
      | succ j =>
        obtain ⟨i, le, hi⟩ := ih h (Nat.le_of_succ_le_succ hj)
        exact ⟨i + 1, Nat.succ_le_succ le, by rw [hi]; rfl⟩

theorem occurs_iff : occurs needle text = true ↔ ∃ j ≤ text.length, needle <+: text.drop j := by
  rw [occurs, Option.isSome_iff_exists]
  constructor
  · rintro ⟨i, hi⟩
    have found := prefix_of_indexOf? hi
    by_cases le : i ≤ text.length
    · exact ⟨i, le, found⟩
    · rw [List.drop_eq_nil_of_le (by omega)] at found
      exact ⟨text.length, Nat.le_refl _, by simpa using found⟩
  · rintro ⟨j, le, hj⟩
    obtain ⟨i, -, hi⟩ := exists_indexOf? hj le
    exact ⟨i, hi⟩

/-- No `default` starts inside another. -/
theorem not_default_inside {i m : Nat} (hi : "default".toList <+: text.drop i)
    (hm : "default".toList <+: text.drop m) (lt : i < m) : i + 7 ≤ m := by
  by_contra near
  obtain ⟨d, rfl⟩ : ∃ d, m = i + d := ⟨m - i, by omega⟩
  obtain ⟨r, hr⟩ := hi
  obtain ⟨q, hq⟩ := hm
  rw [← List.drop_drop, ← hr] at hq
  have letters : "default".toList = ['d', 'e', 'f', 'a', 'u', 'l', 't'] := rfl
  rw [letters] at hq
  obtain rfl | rfl | rfl | rfl | rfl | rfl : d = 1 ∨ d = 2 ∨ d = 3 ∨ d = 4 ∨ d = 5 ∨ d = 6 := by
    omega
  all_goals simp at hq

/-- The first `default` of a text that has one at `m` is that one, unless there is one before. -/
theorem indexOf?_default {text : List Char} {m : Nat} (h : "default".toList <+: text.drop m) :
    ∃ i ≤ m, indexOf? "default".toList text = some i ∧
      (i = m ↔ occurs "default".toList (text.take m) = false) := by
  have room (n : Nat) (h : "default".toList <+: text.drop n) : n + 7 ≤ text.length := by
    have length := h.length_le
    rw [List.length_drop] at length
    have seven : "default".toList.length = 7 := rfl
    omega
  obtain ⟨i, le, hi⟩ := exists_indexOf? h (by have := room m h; omega)
  have found := prefix_of_indexOf? hi
  refine ⟨i, le, hi, ?_⟩
  rw [← Bool.not_eq_true, occurs_iff]
  constructor
  · rintro rfl ⟨j, -, hj⟩
    rw [List.drop_take, List.prefix_take_iff] at hj
    obtain ⟨hj, short⟩ := hj
    have seven : "default".toList.length = 7 := rfl
    obtain ⟨k, le', hk⟩ := exists_indexOf? hj (by have := room j hj; omega)
    rw [hi] at hk
    cases hk
    omega
  · intro none
    by_contra ne
    have apart := not_default_inside found h (by omega)
    refine none ⟨i, ?_, ?_⟩
    · rw [List.length_take]
      have := room m h
      omega
    · rw [List.drop_take, List.prefix_take_iff]
      have seven : "default".toList.length = 7 := rfl
      exact ⟨found, by omega⟩

end LivePreview.Text

namespace LivePreview.Module

open Script Text

/-- Where lowering takes the words of a default export to end. -/
def wordsFound (cs : List Char) (span : Span) (inner : Stmt) : Nat :=
  match defaultEnd? cs span.start with
  | some stop => if stop ≤ inner.span.start then stop else inner.span.start
  | none => inner.span.start

/-- The text of the default export at `start` before its keyword says `default` already. -/
def saysDefault (cs : List Char) (start : Nat) : Bool :=
  occurs "default".toList (between cs start (behindExport cs start).start)

/-- The words are found where they end, unless a `default` before their keyword is mistaken for
it; then they are taken to end earlier. -/
theorem wordsFound_spec {cs : List Char} {span : Span} {inner : Stmt}
    (words : DefaultAt cs span.start)
    (behind : (behindExport cs span.start).stop ≤ inner.span.start) :
    span.start < wordsFound cs span inner ∧
      wordsFound cs span inner ≤ (behindExport cs span.start).stop ∧
      (wordsFound cs span inner = (behindExport cs span.start).stop ↔
        saysDefault cs span.start = false) := by
  obtain ⟨ordered, rest, length⟩ := words
  rw [saysDefault]
  generalize behindExport cs span.start = keyword at *
  replace length : keyword.stop = keyword.start + 7 := length
  obtain ⟨m, hm⟩ : ∃ m, keyword.start = span.start + m := ⟨keyword.start - span.start, by omega⟩
  have here : "default".toList <+: (cs.drop span.start).drop m := by
    rw [List.drop_drop, ← hm]
    exact ⟨_, rest.symm⟩
  obtain ⟨i, le, hi, eq⟩ := indexOf?_default here
  have found : wordsFound cs span inner = span.start + i + 7 := by
    have stop : defaultEnd? cs span.start = some (span.start + i + 7) := by
      rw [defaultEnd?, hi]
      rfl
    rw [wordsFound, stop]
    exact if_pos (by omega)
  have head : between cs span.start keyword.start = (cs.drop span.start).take m := by
    rw [between, hm, List.drop_take, Nat.add_sub_cancel_left]
  rw [head, ← eq, found, length, hm]
  omega

end LivePreview.Module
