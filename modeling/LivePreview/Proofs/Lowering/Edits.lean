import LivePreview.Proofs.Lowering.Kept
import LivePreview.Proofs.Lowering.Pieces

/-!
# The edits of statements

Lowering edits each import and export inside its own span, so that the edits of statements that
stand one behind the other lie clear of each other (`separate_gather`).

`splicing_exact`: edits that lie clear of each other are spliced exactly, those of the statements of
a source lie so, and its code is what they come to.
-/

namespace LivePreview

namespace Script

/-- What an export declares. -/
def Stmt.exported? : Stmt → Option Stmt
  | .exportDecl _ inner | .exportDefault _ inner => some inner
  | _ => none

end Script

namespace Module

open Script Text

/-- The statements stand in the text one behind the other. An import or export has text, and what it
declares starts inside of it, behind its keyword. -/
structure Spaced (cs : List Char) (statements : List Stmt) : Prop where
  order : statements.Pairwise fun s t => s.span.stop ≤ t.span.start
  room : ∀ s ∈ statements, s.edited?.isSome = true →
    s.span.start < s.span.stop ∧ s.span.stop ≤ cs.length
  nested : ∀ s ∈ statements, ∀ inner ∈ s.exported?,
    s.span.start < inner.span.start ∧ inner.span.start ≤ s.span.stop

variable {cs : List Char} {around : Surroundings} {lo n : Nat} {s : Stmt} {statements : List Stmt}

theorem Spaced.tail (h : Spaced cs (s :: statements)) : Spaced cs statements where
  order := h.order.of_cons
  room t ht := h.room t (.tail _ ht)
  nested t ht := h.nested t (.tail _ ht)

/-- The words of a default export are found to end behind its start, and in front of what it
declares. -/
theorem wordsFound_bounds (source : List Char) {span : Span} {inner : Stmt}
    (nested : span.start < inner.span.start) :
    span.start < wordsFound source span inner ∧
      wordsFound source span inner ≤ inner.span.start := by
  unfold wordsFound
  split
  · next stop found =>
    obtain ⟨i, -, rfl⟩ := Option.map_eq_some_iff.1 found
    split
    · next before =>
      have seven : "default".length = 7 := rfl
      exact ⟨by omega, before⟩
    · exact ⟨nested, Nat.le_refl _⟩
  · exact ⟨nested, Nat.le_refl _⟩

theorem keptFrom_bounds (source : List Char) (edited : s.edited?.isSome = true)
    (room : s.span.start < s.span.stop)
    (nested : ∀ inner ∈ s.exported?,
      s.span.start < inner.span.start ∧ inner.span.start ≤ s.span.stop) :
    s.span.start < keptFrom (wordsFound source) s ∧
      keptFrom (wordsFound source) s ≤ s.span.stop := by
  cases s
  case exportDefault span inner =>
    obtain ⟨start, stop⟩ := nested inner rfl
    obtain ⟨behind, before⟩ := wordsFound_bounds source start
    cases inner
    case function | «class» | interface => exact ⟨start, stop⟩
    all_goals exact ⟨behind, Nat.le_trans before stop⟩
  case exportDecl span inner => exact nested inner rfl
  case importDecl | exportNames | exportAll => exact ⟨room, Nat.le_refl _⟩
  all_goals cases edited

theorem fits_of_spaced (h : Spaced cs statements) (behind : ∀ s ∈ statements, lo ≤ s.span.start) :
    Fits cs lo (patches around (wordsFound around.source) n statements) := by
  induction statements generalizing lo n with
  | nil => trivial
  | cons s rest ih =>
    rw [patches]
    cases found : patch? around (wordsFound around.source) n s with
    | none => exact ih h.tail fun t ht => behind t (.tail _ ht)
    | some p =>
      have edited : s.edited?.isSome = true := by
        rw [Option.isSome_iff_ne_none]
        intro none
        rw [patch_eq_none none] at found
        cases found
      obtain ⟨room, bounded⟩ := h.room s (.head _) edited
      obtain ⟨start, stop⟩ := keptFrom_bounds around.source edited room (h.nested s (.head _))
      have within := within_span start stop found
      refine ⟨within.mono (behind s (.head _)) bounded, ih h.tail fun t ht => ?_⟩
      exact Nat.le_trans within.stop (List.rel_of_pairwise_cons h.order ht)

theorem Fits.separate {ps : List Patch} (h : Fits cs lo ps) :
    Edit.Separate cs (ps.flatMap Patch.edits) where
  inside _ he := (h.mem_edits he).1
  clear := h.pairwise_edits.imp Edit.Ahead.clear

theorem separate_gather
    (fits : Fits cs lo (patches around (wordsFound around.source) 0 statements)) :
    Edit.Separate cs (gather around statements).edits := by
  rw [gather, edits_gather]
  exact fits.separate

/-- The code of a source is spliced exactly: the edits of its statements lie clear of each other. -/
theorem lower_spliced {role : Role} {path source : String} {lowered : Lowered}
    (h : lower role path source = .ok lowered) :
    ∃ program pieces, parse (.ofPath path true) source = .ok program ∧
      let l := gather (.of role source.toList program.body.statements) program.body.statements
      Edit.Separate source.toList l.edits ∧ Spliced source.toList l.edits pieces ∧
        lowered.code = String.ofList (pieces.flatMap (Piece.text source.toList)) ++
          if role = .module then epilogue l else "" := by
  obtain ⟨program, parsed, code⟩ := lower_eq_applyAll h
  have separate := separate_gather (fits_of_parse role parsed)
  obtain ⟨pieces, spliced, text⟩ := separate.exists_pieces
  dsimp only at code
  rw [text] at code
  exact ⟨program, pieces, parsed, separate, spliced, code⟩

/-- Splicing is exact. Edits of a source that lie clear of each other come, in whatever order they
are given, to its characters outside their ranges and their texts, each once and from left to right;
an insertion that touches a range is on its side of the range. The edits of statements that stand
one behind the other, with what they declare inside of them, lie so, and lowering a source makes
such edits. -/
theorem splicing_exact (source : String) :
    (∀ edits, Edit.Separate source.toList edits → ∃ pieces,
        Spliced source.toList edits pieces ∧
          Edit.applyAll edits source.toList = pieces.flatMap (Piece.text source.toList)) ∧
      (∀ around statements, Spaced source.toList statements →
        Edit.Separate source.toList (gather around statements).edits) ∧
      ∀ role path lowered, lower role path source = .ok lowered →
        ∃ program pieces, parse (.ofPath path true) source = .ok program ∧
          let l := gather (.of role source.toList program.body.statements) program.body.statements
          Edit.Separate source.toList l.edits ∧ Spliced source.toList l.edits pieces ∧
            lowered.code = String.ofList (pieces.flatMap (Piece.text source.toList)) ++
              if role = .module then epilogue l else "" := by
  refine ⟨fun edits h => h.exists_pieces, fun around statements h => ?_,
    fun role path lowered => lower_spliced⟩
  exact separate_gather (fits_of_spaced h fun _ _ => Nat.zero_le _)

/-- Two insertions that touch a range, one from each side, and two exports. -/
theorem splicing_exact_touching :
    let source := "export const a = 1;\nexport default this;"
    let edits : List Edit := [⟨13, 13, ['-']⟩, ⟨7, 7, ['+']⟩, ⟨7, 13, ['x']⟩]
    let statements : List Stmt := [.exportDecl ⟨0, 19⟩ (.declare ⟨7, 19⟩ .const [] false),
      .exportDefault ⟨20, 40⟩ (.expr ⟨35, 39⟩ (.this ⟨35, 39⟩))]
    (Edit.Separate source.toList edits ∧ ∃ pieces, Spliced source.toList edits pieces ∧
        "export +x-a = 1;\nexport default this;".toList =
          pieces.flatMap (Piece.text source.toList)) ∧
      (Spaced source.toList statements ∧ Edit.Separate source.toList
        (gather (.of .entry source.toList statements) statements).edits) ∧
      ∃ lowered program pieces, lower .entry "a.js" source = .ok lowered ∧
        parse (.ofPath "a.js" true) source = .ok program ∧
        Spliced source.toList (gather (.of .entry source.toList program.body.statements)
          program.body.statements).edits pieces ∧
        lowered.code = String.ofList (pieces.flatMap (Piece.text source.toList)) ++ "" := by
  intro source edits statements
  obtain ⟨exact, ofSpaced, ofLowered⟩ := splicing_exact source
  have separate : Edit.Separate source.toList edits := ⟨by decide, by decide⟩
  have spaced : Spaced source.toList statements := ⟨by decide, by decide, by decide⟩
  have ordered : edits.Perm [⟨7, 7, ['+']⟩, ⟨7, 13, ['x']⟩, ⟨13, 13, ['-']⟩] := by decide
  have applied : Edit.applyAll edits source.toList =
      "export +x-a = 1;\nexport default this;".toList := by
    rw [Edit.applyAll_eq_splice ordered (by decide) (by decide)]
    decide
  obtain ⟨lowered, lower, -⟩ := exists_ok (x := lower .entry "a.js" source) (p := fun _ => true)
    (by decide +kernel)
  obtain ⟨program, pieces, parsed, -, spliced, text⟩ := ofLowered _ _ _ lower
  refine ⟨⟨separate, ?_⟩, ⟨spaced, ofSpaced _ _ spaced⟩,
    lowered, program, pieces, lower, parsed, spliced, text⟩
  rw [← applied]
  exact exact edits separate

end Module

end LivePreview
