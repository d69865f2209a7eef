import LivePreview.Proofs.Lowering.Splice
import Mathlib.Data.List.Pairwise

/-!
# What a spliced text is made of

A text with edits is made of pieces: characters of the source, and the texts of the edits. For edits
that lie apart from each other, given in any order, the pieces are the characters outside the ranges
and the edits, each of them once and from left to right (`Separate.exists_pieces`).

The pieces are those that one pass from left to right collects, so that what is said of them is
shown by induction along that pass.
-/

namespace LivePreview.Text

namespace Edit

variable {cs : List Char} {a b : Edit} {edits : List Edit}

/-- Neither range reaches into the other, and they are not two insertions at one place. -/
structure Clear (a b : Edit) : Prop where
  apart : a.stop ≤ b.start ∨ b.stop ≤ a.start
  single : ¬ (a.start = a.stop ∧ b.start = b.stop ∧ a.start = b.start)

instance : Decidable (a.Inside cs) :=
  decidable_of_iff (a.start ≤ a.stop ∧ a.stop ≤ cs.length)
    ⟨fun ⟨h, h'⟩ => ⟨h, h'⟩, fun ⟨h, h'⟩ => ⟨h, h'⟩⟩

instance : DecidableRel Ahead := fun a b =>
  decidable_of_iff (a.stop ≤ b.start ∧ a.start < b.stop)
    ⟨fun ⟨h, h'⟩ => ⟨h, h'⟩, fun ⟨h, h'⟩ => ⟨h, h'⟩⟩

instance : DecidableRel Clear := fun a b =>
  decidable_of_iff ((a.stop ≤ b.start ∨ b.stop ≤ a.start) ∧
      ¬ (a.start = a.stop ∧ b.start = b.stop ∧ a.start = b.start))
    ⟨fun ⟨h, h'⟩ => ⟨h, h'⟩, fun ⟨h, h'⟩ => ⟨h, h'⟩⟩

/-- The edits lie in the text and clear of each other. -/
structure Separate (cs : List Char) (edits : List Edit) : Prop where
  inside : ∀ e ∈ edits, e.Inside cs
  clear : edits.Pairwise Clear

theorem Clear.symm (h : a.Clear b) : b.Clear a where
  apart := h.apart.symm
  single := fun ⟨hb, ha, same⟩ => h.single ⟨ha, hb, same.symm⟩

theorem Ahead.clear (h : a.Ahead b) : a.Clear b where
  apart := .inl h.apart
  single := by
    rintro ⟨ha, hb, same⟩
    have := h.first
    omega

/-- Of two edits that lie clear of each other, sorting puts the left one last. -/
theorem Clear.ahead (h : a.Clear b) (ha : a.Inside cs) (hb : b.Inside cs) (order : b.before a) :
    a.Ahead b := by
  have := ha.ordered
  have := hb.ordered
  have := h.single
  rw [before_iff] at order
  rcases h.apart with left | right
  · exact ⟨left, by omega⟩
  · exact ⟨by omega, by omega⟩

/-- Edits that lie clear of each other can be put in order. -/
theorem Separate.exists_ordered (h : Separate cs edits) :
    ∃ ordered, edits.Perm ordered ∧ ordered.Pairwise Ahead := by
  have perm : edits.Perm (edits.mergeSort before).reverse :=
    (List.mergeSort_perm ..).symm.trans (List.reverse_perm _).symm
  have clear : (edits.mergeSort before).reverse.Pairwise Clear :=
    perm.pairwise h.clear Clear.symm
  have order : (edits.mergeSort before).reverse.Pairwise fun a b => b.before a :=
    List.pairwise_reverse.2 (pairwise_mergeSort_before edits)
  refine ⟨_, perm, (clear.and order).imp_of_mem fun {a b} ha hb ⟨clear, order⟩ => ?_⟩
  exact clear.ahead (h.inside a (perm.mem_iff.2 ha)) (h.inside b (perm.mem_iff.2 hb)) order

end Edit

/-- A piece of a text with edits. -/
inductive Piece where
  /-- The character of the source at a place. -/
  | kept (place : Nat)
  /-- The text of an edit. -/
  | put (edit : Edit)

namespace Piece

def text (cs : List Char) : Piece → List Char
  | kept i => cs[i]?.toList
  | put e => e.text

def edit? : Piece → Option Edit
  | kept _ => none
  | put e => some e

/-- What stands to the left of what. Where an insertion and the range of another edit meet, the
insertion is on its side of the range (`Edit.Ahead`). -/
def Left : Piece → Piece → Prop
  | kept i, kept j => i < j
  | kept i, put e => i < e.start
  | put e, kept i => e.stop ≤ i
  | put a, put b => a.Ahead b

/-- The places from `start` to `stop`, all kept. -/
def keep (start stop : Nat) : List Piece := (List.range' start (stop - start)).map kept

/-- What one pass from `pos` on collects from a text of `length` characters, the edits given from
left to right. -/
def collect (length : Nat) : Nat → List Edit → List Piece
  | pos, [] => keep pos length
  | pos, e :: rest => keep pos e.start ++ put e :: collect length e.stop rest

variable {cs : List Char} {start stop pos : Nat} {p : Piece} {edits : List Edit}

/-! ## Kept characters -/

theorem mem_keep : p ∈ keep start stop ↔ ∃ i, start ≤ i ∧ i < stop ∧ kept i = p := by
  simp only [keep, List.mem_map, List.mem_range'_1, and_assoc]
  refine exists_congr fun i => and_congr_right fun _ => and_congr_left fun _ => ?_
  omega

theorem flatMap_range' (cs : List Char) (start n : Nat) :
    ((List.range' start n).map kept).flatMap (text cs) = (cs.drop start).take n := by
  induction n generalizing start with
  | zero => rw [List.take_zero]; rfl
  | succ n ih =>
    rw [List.range'_succ, List.map_cons, List.flatMap_cons, ih, text]
    by_cases inside : start < cs.length
    · rw [List.drop_eq_getElem_cons inside, List.take_succ_cons, List.getElem?_eq_getElem inside]
      rfl
    · rw [List.drop_eq_nil_of_le (by omega), List.drop_eq_nil_of_le (by omega),
        List.getElem?_eq_none (by omega), List.take_nil, List.take_nil]
      rfl

theorem flatMap_keep (cs : List Char) (start stop : Nat) :
    (keep start stop).flatMap (text cs) = between cs start stop := by
  rw [keep, flatMap_range', between, List.drop_take]

theorem pairwise_keep (start stop : Nat) : (keep start stop).Pairwise Left :=
  List.pairwise_map.2 List.pairwise_lt_range'

theorem filterMap_keep (start stop : Nat) : (keep start stop).filterMap edit? = [] := by
  rw [List.filterMap_eq_nil_iff]
  intro p hp
  obtain ⟨i, -, -, rfl⟩ := mem_keep.1 hp
  rfl

/-! ## One pass -/

theorem filterMap_collect (length pos : Nat) (edits : List Edit) :
    (collect length pos edits).filterMap edit? = edits := by
  induction edits generalizing pos with
  | nil => exact filterMap_keep ..
  | cons e rest ih =>
    rw [collect, List.filterMap_append, filterMap_keep, List.nil_append, List.filterMap_cons, ih]
    rfl

theorem put_mem_collect {length : Nat} {e : Edit} :
    put e ∈ collect length pos edits ↔ e ∈ edits := by
  constructor
  · intro h
    rw [← filterMap_collect length pos edits]
    exact List.mem_filterMap.2 ⟨_, h, rfl⟩
  · intro h
    rw [← filterMap_collect length pos edits] at h
    obtain ⟨p, hp, found⟩ := List.mem_filterMap.1 h
    cases p with
    | kept i => cases found
    | put e' =>
      cases found
      exact hp

/-- The text of the pieces is what the pass makes of the source. -/
theorem flatMap_collect (cs : List Char) (pos : Nat) (edits : List Edit) :
    (collect cs.length pos edits).flatMap (text cs) = Edit.splice cs pos edits := by
  induction edits generalizing pos with
  | nil => rw [collect, flatMap_keep, between_length, Edit.splice]
  | cons e rest ih =>
    rw [collect, List.flatMap_append, flatMap_keep, List.flatMap_cons, ih, Edit.splice,
      List.append_assoc]
    rfl

section
variable (apart : edits.Pairwise Edit.Ahead) (inside : ∀ e ∈ edits, e.Inside cs)
  (behind : ∀ e ∈ edits, pos ≤ e.start)
include apart inside behind

/-- A pass from `pos` on keeps the characters from there on that are in no range. -/
theorem kept_mem_collect (i : Nat) : kept i ∈ collect cs.length pos edits ↔
    pos ≤ i ∧ i < cs.length ∧ ∀ e ∈ edits, i < e.start ∨ e.stop ≤ i := by
  induction edits generalizing pos with
  | nil => simp [collect, mem_keep]
  | cons e rest ih =>
    obtain ⟨ordered, bounded⟩ := inside e (.head _)
    have reach := behind e (.head _)
    have next : ∀ d ∈ rest, e.stop ≤ d.start := fun d hd =>
      (List.rel_of_pairwise_cons apart hd).apart
    have tail := ih apart.of_cons (fun d hd => inside d (.tail _ hd)) next
    have first : kept i ∈ keep pos e.start ↔ pos ≤ i ∧ i < e.start := by simp [mem_keep]
    rw [collect, List.mem_append, List.mem_cons, first, tail, List.forall_mem_cons]
    constructor
    · rintro (⟨low, high⟩ | same | ⟨low, high, rest⟩)
      · refine ⟨low, by omega, .inl high, fun d hd => .inl ?_⟩
        have := next d hd
        omega
      · cases same
      · exact ⟨by omega, high, .inr low, rest⟩
    · rintro ⟨low, high, left | right, rest⟩
      · exact .inl ⟨low, left⟩
      · exact .inr (.inr ⟨right, high, rest⟩)

-- That the rest of the pass lies behind `e` needs `kept_mem_collect`: the order of its pieces among
-- themselves does not say where the first of them stands.
theorem pairwise_collect : (collect cs.length pos edits).Pairwise Left := by
  induction edits generalizing pos with
  | nil => exact pairwise_keep ..
  | cons e rest ih =>
    obtain ⟨ordered, bounded⟩ := inside e (.head _)
    have ahead : ∀ d ∈ rest, e.Ahead d := fun d hd => List.rel_of_pairwise_cons apart hd
    have later := fun d hd => (ahead d hd).apart
    have within := fun d hd => inside d (.tail _ hd)
    have tail := kept_mem_collect apart.of_cons within later
    rw [collect, List.pairwise_append, List.pairwise_cons]
    refine ⟨pairwise_keep .., ⟨fun p hp => ?_, ih apart.of_cons within later⟩, fun p hp q hq => ?_⟩
    · cases p with
      | kept i => exact ((tail i).1 hp).1
      | put d => exact ahead d (put_mem_collect.1 hp)
    · obtain ⟨i, -, before, rfl⟩ := mem_keep.1 hp
      rcases List.mem_cons.1 hq with rfl | hq
      · exact before
      · cases q with
        | kept j =>
          have := ((tail j).1 hq).1
          exact Nat.lt_of_lt_of_le before (Nat.le_trans ordered this)
        | put d =>
          have := later d (put_mem_collect.1 hq)
          exact Nat.lt_of_lt_of_le before (Nat.le_trans ordered this)

end

end Piece

/-- The pieces are the characters outside the ranges of the edits and the edits, each of them once
and from left to right. -/
structure Spliced (cs : List Char) (edits : List Edit) (pieces : List Piece) : Prop where
  order : pieces.Pairwise Piece.Left
  kept (i : Nat) : .kept i ∈ pieces ↔ i < cs.length ∧ ∀ e ∈ edits, i < e.start ∨ e.stop ≤ i
  put : (pieces.filterMap Piece.edit?).Perm edits

/-- Edits that lie clear of each other, applied from the back to the front, come to the characters
outside their ranges and their texts, each once and from left to right. -/
theorem Edit.Separate.exists_pieces {cs : List Char} {edits : List Edit}
    (h : Separate cs edits) : ∃ pieces, Spliced cs edits pieces ∧
      applyAll edits cs = pieces.flatMap (Piece.text cs) := by
  obtain ⟨ordered, perm, apart⟩ := h.exists_ordered
  have inside : ∀ e ∈ ordered, e.Inside cs := fun e he => h.inside e (perm.mem_iff.2 he)
  have behind : ∀ e ∈ ordered, 0 ≤ e.start := fun _ _ => Nat.zero_le _
  refine ⟨Piece.collect cs.length 0 ordered, ?_, ?_⟩
  · refine ⟨Piece.pairwise_collect apart inside behind, fun i => ?_, ?_⟩
    · rw [Piece.kept_mem_collect apart inside behind]
      simp [perm.mem_iff]
    · rw [Piece.filterMap_collect]
      exact perm.symm
  · rw [Piece.flatMap_collect, applyAll_eq_splice perm apart inside]

end LivePreview.Text
