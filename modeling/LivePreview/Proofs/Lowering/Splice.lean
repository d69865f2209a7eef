import LivePreview.Text.Splice
import Mathlib.Data.List.Pairwise

/-!
# Splicing from left to right

Edits that lie in the text and do not overlap come to what one pass from left to right makes of
them (`applyAll_eq_splice`): the text between two edits stays, and each edit puts its own in the
place of its range.
-/

namespace LivePreview.Text

/-- The characters from `start` to `stop`. -/
def between (cs : List Char) (start stop : Nat) : List Char := (cs.take stop).drop start

theorem take_append_between (cs : List Char) {start stop : Nat} (h : start ≤ stop) :
    cs.take start ++ between cs start stop = cs.take stop := by
  have front : cs.take start = (cs.take stop).take start := by
    rw [List.take_take, Nat.min_eq_left h]
  rw [between, front, List.take_append_drop]

theorem between_append (cs : List Char) {start mid stop : Nat} (h : start ≤ mid)
    (h' : mid ≤ stop) : between cs start mid ++ between cs mid stop = between cs start stop := by
  refine (List.append_right_inj (cs.take start)).1 ?_
  rw [← List.append_assoc, take_append_between _ h, take_append_between _ h',
    take_append_between _ (Nat.le_trans h h')]

theorem length_between {cs : List Char} {start stop : Nat} (h : stop ≤ cs.length) :
    (between cs start stop).length = stop - start := by
  rw [between, List.length_drop, List.length_take, Nat.min_eq_left h]

theorem between_length (cs : List Char) (start : Nat) :
    between cs start cs.length = cs.drop start := by
  rw [between, List.take_length]

theorem between_infix (cs : List Char) {lo start stop hi : Nat} (h : lo ≤ start)
    (h' : stop ≤ hi) : between cs start stop <:+: between cs lo hi := by
  by_cases ordered : start ≤ stop
  · refine ⟨between cs lo start, between cs stop hi, ?_⟩
    rw [between_append cs h ordered, between_append cs (Nat.le_trans h ordered) h']
  · have short : (cs.take stop).length ≤ start := by
      rw [List.length_take]
      omega
    rw [between, List.drop_eq_nil_of_le short]
    exact List.nil_infix

namespace Edit

/-- The edit is in the text. -/
structure Inside (cs : List Char) (e : Edit) : Prop where
  ordered : e.start ≤ e.stop
  bounded : e.stop ≤ cs.length

/-- The edit `a` is left of `b`. An insertion is left of a range that starts where it stands, and no
insertion is left of another at its place. -/
structure Ahead (a b : Edit) : Prop where
  apart : a.stop ≤ b.start
  first : a.start < b.stop

/-- What one pass from `pos` on makes of the text, the edits given from left to right. -/
def splice (cs : List Char) : Nat → List Edit → List Char
  | pos, [] => cs.drop pos
  | pos, e :: rest => between cs pos e.start ++ e.text ++ splice cs e.stop rest

variable {cs : List Char} {a b : Edit}

theorem before_iff : a.before b ↔ b.start < a.start ∨ a.start = b.start ∧ b.stop ≤ a.stop := by
  unfold before
  split
  · next h => simp [beq_iff_eq.1 h]
  · next h =>
    have ne : a.start ≠ b.start := by simpa using h
    simp [ne]

theorem Ahead.before (h : a.Ahead b) (ha : a.Inside cs) (hb : b.Inside cs) : b.before a := by
  have := h.apart
  have := h.first
  have := ha.ordered
  have := hb.ordered
  rw [before_iff]
  omega

theorem pairwise_mergeSort_before (edits : List Edit) :
    (edits.mergeSort before).Pairwise fun a b => a.before b := by
  refine List.pairwise_mergeSort (fun a b c => ?_) (fun a b => ?_) edits
  · simp only [before_iff]
    omega
  · simp only [Bool.or_eq_true, before_iff]
    omega

/-- Sorting puts edits that do not overlap from right to left. -/
theorem mergeSort_before {edits ordered : List Edit} (perm : edits.Perm ordered)
    (apart : ordered.Pairwise Ahead) (inside : ∀ e ∈ ordered, e.Inside cs) :
    edits.mergeSort before = ordered.reverse := by
  have sorted : ordered.reverse.Pairwise fun a b => a.before b := by
    rw [List.pairwise_reverse]
    exact apart.imp_of_mem fun ha hb h => h.before (inside _ ha) (inside _ hb)
  refine List.Perm.eq_of_pairwise ?_ (pairwise_mergeSort_before edits) sorted
    ((List.mergeSort_perm ..).trans (perm.trans ordered.reverse_perm.symm))
  intro a b ha hb hab hba
  rw [List.mem_mergeSort, perm.mem_iff] at ha
  rw [List.mem_reverse] at hb
  by_contra ne
  -- two edits at one place do not lie apart
  have symm : Std.Symm fun a b : Edit => a.Ahead b ∨ b.Ahead a := ⟨fun _ _ => Or.symm⟩
  have either : ordered.Pairwise fun a b => a.Ahead b ∨ b.Ahead a := apart.imp Or.inl
  simp only [before_iff] at hab hba
  rcases either.forall ha hb ne with ⟨apart, first⟩ | ⟨apart, first⟩ <;> omega

theorem foldr_apply {ordered : List Edit} {pos : Nat} (apart : ordered.Pairwise Ahead)
    (inside : ∀ e ∈ ordered, e.Inside cs) (behind : ∀ e ∈ ordered, pos ≤ e.start) :
    ordered.foldr apply cs = cs.take pos ++ splice cs pos ordered := by
  induction ordered generalizing pos with
  | nil => simp [splice]
  | cons e rest ih =>
    obtain ⟨ordered, bounded⟩ := inside e List.mem_cons_self
    have length : (cs.take e.stop).length = e.stop := by
      rw [List.length_take, Nat.min_eq_left bounded]
    have tail := ih apart.of_cons (fun e h => inside e (.tail _ h))
      fun d h => (List.rel_of_pairwise_cons apart h).apart
    have front : (cs.take e.stop ++ splice cs e.stop rest).take e.start = cs.take e.start := by
      rw [List.take_append_of_le_length (by omega), List.take_take, Nat.min_eq_left ordered]
    rw [List.foldr_cons, tail, apply, front, List.drop_left' length,
      ← take_append_between cs (behind e List.mem_cons_self), splice]
    simp only [List.append_assoc]

/-- Edits in any order that do not overlap come to one pass from left to right. -/
theorem applyAll_eq_splice {edits ordered : List Edit} (perm : edits.Perm ordered)
    (apart : ordered.Pairwise Ahead) (inside : ∀ e ∈ ordered, e.Inside cs) :
    applyAll edits cs = splice cs 0 ordered := by
  rw [applyAll, mergeSort_before perm apart inside, List.foldl_reverse,
    foldr_apply apart inside fun _ _ => Nat.zero_le _]
  rfl

end Edit

end LivePreview.Text
