import LivePreview.Proofs.Lowering.Patches

/-!
# Weaving

One pass over a text with patches (`weave`) is what their edits come to when the patches stand in
the text one behind the other (`applyAll_edits`). What the statements of a source gather are the
edits of their patches (`edits_gather`).
-/

namespace LivePreview.Module

open Script Text

/-- The patches of the statements behind `n` passed-on modules. -/
def patches (around : Surroundings) (words : Span → Stmt → Nat) : Nat → List Stmt → List Patch
  | _, [] => []
  | n, s :: rest =>
    (patch? around words n s).toList ++
      patches around words (n + (passesOn around.role s).toNat) rest

/-- The text from `pos` on with patches: what is between them stays. -/
def weave (cs : List Char) : Nat → List Patch → List Char
  | pos, [] => cs.drop pos
  | pos, p :: rest => between cs pos p.span.start ++ p.text cs ++ weave cs p.span.stop rest

/-- The patch stands between `lo` and `hi`, and something in it is not kept. -/
structure Patch.Within (lo : Nat) (p : Patch) (hi : Nat) : Prop where
  reach : lo ≤ p.span.start
  start : p.span.start < p.keep
  keep : p.keep ≤ p.span.stop
  stop : p.span.stop ≤ hi

/-- Patches from `lo` on stand in the text one behind the other. -/
def Fits (cs : List Char) : Nat → List Patch → Prop
  | _, [] => True
  | lo, p :: rest => p.Within lo cs.length ∧ Fits cs p.span.stop rest

variable {cs : List Char}

theorem edits_gather (around : Surroundings) (statements : List Stmt) (l : Lowering) :
    (statements.foldl (lowerStatement around) l).edits = l.edits ++
      (patches around (wordsFound around.source) l.reexports statements).flatMap Patch.edits := by
  induction statements generalizing l with
  | nil => simp [patches]
  | cons s rest ih =>
    have adds := adds_lowerStatement around l s
    rw [List.foldl_cons, ih, adds.edits, adds.reexports, patches, List.flatMap_append,
      List.append_assoc]
    congr 2
    cases patch? around (wordsFound around.source) l.reexports s <;> simp

/-! ## The edits of patches -/

theorem Patch.Within.mono {lo lo' hi hi' : Nat} {p : Patch} (h : p.Within lo hi) (le : lo' ≤ lo)
    (le' : hi ≤ hi') : p.Within lo' hi' :=
  ⟨Nat.le_trans le h.reach, h.start, h.keep, Nat.le_trans h.stop le'⟩

theorem Fits.mono {lo lo' : Nat} {ps : List Patch} (h : Fits cs lo ps) (le : lo' ≤ lo) :
    Fits cs lo' ps := by
  cases ps with
  | nil => trivial
  | cons p rest => exact ⟨h.1.mono le (Nat.le_refl _), h.2⟩

/-- The edits of a patch stand in its span. -/
theorem Patch.Within.mem_edits {lo : Nat} {p : Patch} (h : p.Within lo cs.length) {e : Edit}
    (he : e ∈ p.edits) :
    e.Inside cs ∧ p.span.start ≤ e.start ∧ p.span.start < e.stop ∧ e.stop ≤ p.span.stop := by
  obtain ⟨-, start, keep, stop⟩ := h
  rw [Patch.edits, List.mem_cons] at he
  rcases he with rfl | he
  · exact ⟨⟨Nat.le_of_lt start, Nat.le_trans keep stop⟩, Nat.le_refl _, start, keep⟩
  · split at he
    · cases he
    · rw [List.mem_singleton.1 he]
      have lt := Nat.lt_of_lt_of_le start keep
      exact ⟨⟨Nat.le_refl _, stop⟩, Nat.le_of_lt lt, lt, Nat.le_refl _⟩

theorem Fits.mem_edits {lo : Nat} {ps : List Patch} (h : Fits cs lo ps) {e : Edit}
    (he : e ∈ ps.flatMap Patch.edits) : e.Inside cs ∧ lo ≤ e.start ∧ lo < e.stop := by
  induction ps generalizing lo with
  | nil => cases he
  | cons p rest ih =>
    obtain ⟨within, fits⟩ := h
    have reach := within.reach
    rw [List.flatMap_cons, List.mem_append] at he
    rcases he with he | he
    · obtain ⟨inside, low, high, -⟩ := within.mem_edits he
      exact ⟨inside, Nat.le_trans reach low, Nat.lt_of_le_of_lt reach high⟩
    · obtain ⟨inside, low, high⟩ := ih fits he
      have := within.start
      have := within.keep
      exact ⟨inside, by omega, by omega⟩

theorem Fits.pairwise_edits {lo : Nat} {ps : List Patch} (h : Fits cs lo ps) :
    (ps.flatMap Patch.edits).Pairwise Edit.Ahead := by
  induction ps generalizing lo with
  | nil => exact .nil
  | cons p rest ih =>
    obtain ⟨within, fits⟩ := h
    rw [List.flatMap_cons, List.pairwise_append]
    refine ⟨?_, ih fits, fun a ha b hb => ?_⟩
    · rw [Patch.edits]
      split
      · exact List.pairwise_singleton ..
      · refine List.pairwise_cons.2 ⟨fun b hb => ?_, List.pairwise_singleton ..⟩
        rw [List.mem_singleton.1 hb]
        exact ⟨within.keep, Nat.lt_of_lt_of_le within.start within.keep⟩
    · obtain ⟨inside, -, -, high⟩ := within.mem_edits ha
      obtain ⟨-, low, after⟩ := fits.mem_edits hb
      exact ⟨Nat.le_trans high low,
        Nat.lt_of_le_of_lt (Nat.le_trans inside.ordered high) after⟩

theorem splice_of_le {edits : List Edit} {pos mid : Nat} (le : pos ≤ mid)
    (bounded : mid ≤ cs.length) (behind : ∀ e ∈ edits, mid ≤ e.start) :
    Edit.splice cs pos edits = between cs pos mid ++ Edit.splice cs mid edits := by
  cases edits with
  | nil =>
    rw [Edit.splice, Edit.splice, ← between_length, ← between_length,
      between_append cs le bounded]
  | cons e rest =>
    rw [Edit.splice, Edit.splice, ← between_append cs le (behind e List.mem_cons_self)]
    simp only [List.append_assoc]

/-- One pass over the edits of patches is one pass over the patches. -/
theorem splice_edits {ps : List Patch} {lo : Nat} (h : Fits cs lo ps) :
    Edit.splice cs lo (ps.flatMap Patch.edits) = weave cs lo ps := by
  induction ps generalizing lo with
  | nil => rfl
  | cons p rest ih =>
    obtain ⟨within, fits⟩ := h
    have tail := ih fits
    have behind (e : Edit) (he : e ∈ rest.flatMap Patch.edits) : p.span.stop ≤ e.start :=
      (fits.mem_edits he).2.1
    rw [List.flatMap_cons, weave, Patch.text, Patch.edits]
    split
    · next none =>
      rw [List.singleton_append, Edit.splice, splice_of_le within.keep within.stop behind, tail,
        none]
      simp
    · rw [List.cons_append, List.singleton_append, Edit.splice, Edit.splice, tail]
      simp

theorem applyAll_edits {ps : List Patch} (h : Fits cs 0 ps) :
    Edit.applyAll (ps.flatMap Patch.edits) cs = weave cs 0 ps := by
  rw [Edit.applyAll_eq_splice (.refl _) h.pairwise_edits fun e he => (h.mem_edits he).1,
    splice_edits h]

/-- What stands for a patch stands in the patched text. -/
theorem infix_weave_of_mem {p : Patch} {ps : List Patch} {lo : Nat} (h : p ∈ ps) :
    p.text cs <:+: weave cs lo ps := by
  induction ps generalizing lo with
  | nil => cases h
  | cons q ps ih =>
    rcases List.mem_cons.1 h with rfl | h
    · exact ⟨_, _, rfl⟩
    · exact (ih h).trans (List.suffix_append ..).isInfix

/-- A text before the patches stays whole. -/
theorem infix_weave {ps : List Patch} {lo mid start stop : Nat} (fits : Fits cs mid ps)
    (low : lo ≤ start) (high : stop ≤ mid) (bounded : mid ≤ cs.length) :
    between cs start stop <:+: weave cs lo ps := by
  cases ps with
  | nil =>
    rw [weave, ← between_length]
    exact between_infix cs low (Nat.le_trans high bounded)
  | cons p rest =>
    have front := between_infix cs low (Nat.le_trans high fits.1.reach)
    rw [weave, List.append_assoc]
    exact front.trans (List.prefix_append ..).isInfix

/-! ## Keeping more or less -/

/-- The patches make the same of the text, but `p` may keep more of the declaration than `q`. -/
structure Patch.Keeps (p q : Patch) : Prop where
  span : p.span = q.span
  front : p.front = q.front
  back : p.back = q.back
  keep : p.keep ≤ q.keep

theorem Patch.Keeps.refl (p : Patch) : p.Keeps p := ⟨rfl, rfl, rfl, Nat.le_refl _⟩

theorem Patch.Keeps.eq {p q : Patch} (h : p.Keeps q) (keep : q.keep ≤ p.keep) : p = q := by
  obtain ⟨span, front, back, le⟩ := h
  cases p
  cases q
  simp only [mk.injEq]
  exact ⟨span, front, Nat.le_antisymm le keep, back⟩

/-- Patches that keep more make a longer text, unless they are the same. -/
theorem length_weave {lo : Nat} {ps qs : List Patch} (h : List.Forall₂ Patch.Keeps ps qs)
    (fits : Fits cs lo qs) : (weave cs lo qs).length ≤ (weave cs lo ps).length ∧
      ((weave cs lo qs).length = (weave cs lo ps).length → ps = qs) := by
  induction h generalizing lo with
  | nil => exact ⟨Nat.le_refl _, fun _ => rfl⟩
  | @cons p q ps qs keeps _ ih =>
    obtain ⟨within, fits⟩ := fits
    obtain ⟨le, eq⟩ := ih fits
    have keep := keeps.keep
    have keep' := within.keep
    have text (keep : Nat) : (between cs keep q.span.stop).length = q.span.stop - keep :=
      length_between within.stop
    simp only [weave, Patch.text, keeps.span, keeps.front, keeps.back, List.length_append, text]
    refine ⟨by omega, fun same => ?_⟩
    rw [keeps.eq (by omega), eq (by omega)]

/-- Patches that keep more make another text, unless they are the same. -/
theorem weave_eq_iff {lo : Nat} {ps qs : List Patch} (h : List.Forall₂ Patch.Keeps ps qs)
    (fits : Fits cs lo qs) : weave cs lo ps = weave cs lo qs ↔ ps = qs :=
  ⟨fun same => (length_weave h fits).2 (by rw [same]), fun same => by rw [same]⟩

end LivePreview.Module
