import LivePreview.Proofs.Imports.Requests
import LivePreview.Proofs.Lowering.Openings

/-!
# Lowering an entry again

A source without imports and exports is its own code (`lower_bare`). Conversely, a source that is
its own code has none, save that a first one may be taken off right in front of a text that starts
like one (`bare_of_lower_eq`): up to the first import or export the two texts agree; there the
source goes on with `import` or `export`, and the code with a line that stands for an import, or
with what comes behind the words that are taken off.

So the texts that are lowered to themselves are those that can be read as modules without imports
and exports (`lower_eq_self_iff`). The code of an entry need not be one of them: what is left
standing of a default export need not be a statement (`lower_again_object`). The names of an entry
are the same each time, as it has none (`exports_lower_entry`).
-/

namespace LivePreview.Module

open Script Text

variable {cs : List Char} {around : Surroundings} {words : Span → Stmt → Nat} {n : Nat}

/-- The code at `path` can be read as a module and has no imports and exports. -/
def Bare (path code : String) : Prop :=
  ∃ program, parse (.ofPath path true) code = .ok program ∧
    ∀ s ∈ program.body.statements, s.edited? = none

/-! ## First letters -/

/-- What imports and exports start with. -/
def Initial (x : Option Char) : Prop := x = some 'i' ∨ x = some 'e'

instance (x : Option Char) : Decidable (Initial x) := inferInstanceAs (Decidable (_ ∨ _))

theorem Initial.of_or {x y : Option Char} (h : Initial (x.or y)) (other : ¬Initial x) :
    x = none ∧ Initial y := by
  cases x with
  | none => exact ⟨rfl, h⟩
  | some => exact absurd h other

theorem initial_of_opens {s : Stmt} {span : Span} (h : Opens cs s)
    (edited : s.edited? = some span) : Initial cs[span.start]? := by
  rw [← List.head?_drop]
  rcases h span edited with ⟨rest, eq⟩ | ⟨rest, eq⟩
  · exact .inl (by rw [← eq]; rfl)
  · exact .inr (by rw [← eq]; rfl)

theorem head?_between {start stop : Nat} (h : start < stop) :
    (between cs start stop).head? = cs[start]? := by
  rw [between, List.head?_drop, List.getElem?_take_of_lt h]

theorem take_between {start stop k : Nat} (h : start + k ≤ stop) :
    (between cs start stop).take k = (cs.drop start).take k := by
  rw [between, List.drop_take, List.take_take, Nat.min_eq_left (by omega)]

/-! ## What stands for imports and exports -/

theorem head?_text (line : Line) :
    line.text.toList.head? = some 'r' ∨ line.text.toList.head? = some 'v' := by
  cases line with
  | call => exact .inl (by simp [Line.text, requireOf])
  | bind => exact .inr (by simp [Line.text, bindTo])
  | unpack => exact .inr (by simp [Line.text, destructure])

/-- The lines that stand for an import or export do not start as imports and exports do. -/
theorem not_initial_lines (lines : List Line) :
    ¬Initial ("\n".intercalate (lines.map Line.text)).toList.head? := by
  cases lines with
  | nil => decide
  | cons line rest =>
    have first : ("\n".intercalate ((line :: rest).map Line.text)).toList.head? =
        line.text.toList.head? := by
      rw [String.toList_intercalate, List.map_cons, List.map_cons]
      cases rest with
      | nil => rw [List.map_nil, List.map_nil, List.intercalate_singleton]
      | cons =>
        rw [List.intercalate_cons_of_ne_nil (by simp), List.append_assoc, List.head?_append]
        rcases head?_text line with h | h <;> rw [h] <;> rfl
    rw [first]
    rcases head?_text line with h | h <;> rw [h] <;> decide

theorem not_initial_passedText (entry : around.role = .entry) (specifier : String) :
    ¬Initial (passedText around.role n specifier).toList.head? := by
  have text : passedText around.role n specifier =
      "\n".intercalate ([Line.call specifier].map Line.text) := by
    rw [entry]
    rfl
  rw [text]
  exact not_initial_lines _

theorem not_initial_assignment {text : String} (h : text ∈ ["", "var App =", "var App = "]) :
    ¬Initial text.toList.head? := by
  simp only [List.mem_cons, List.not_mem_nil, or_false] at h
  rcases h with rfl | rfl | rfl <;> decide

theorem not_initial_declaredPatch (entry : around.role = .entry) (span inner : Span)
    (name : Option String) :
    ¬Initial (declaredPatch around span inner name).front.toList.head? := by
  refine not_initial_assignment ?_
  cases name with
  | some => exact .head _
  | none =>
    rw [declaredPatch, entry]
    cases around.declaresApp <;> simp [Patch.whole]

/-- What an entry has in front of the rest of an import or export starts as neither does. -/
theorem not_initial_front {s : Stmt} {p : Patch} (entry : around.role = .entry)
    (h : patch? around words n s = some p) : ¬Initial p.front.toList.head? := by
  have none : ¬Initial "".toList.head? := by decide
  cases s
  case importDecl span phase typeOnly specifiers source attributes =>
    obtain ⟨lines, -, text⟩ :=
      importText_eq around.role n span phase typeOnly specifiers source attributes
    cases h
    rw [Patch.whole, text]
    exact not_initial_lines lines
  case exportDecl =>
    cases h
    exact none
  case exportDefault span inner =>
    cases h
    cases inner
    case function f => exact not_initial_declaredPatch entry span f.span f.name?
    case «class» c => exact not_initial_declaredPatch entry span c.span c.name?
    case interface => exact none
    all_goals
      refine not_initial_assignment ?_
      dsimp only [defaultPatch]
      rw [entry]
      cases around.declaresApp <;> simp
  case exportNames span typeOnly specifiers source attributes =>
    cases h
    cases typeOnly <;> cases source <;> first | exact none | exact not_initial_passedText entry _
  case exportAll span typeOnly name source attributes =>
    cases h
    cases typeOnly
    · exact not_initial_passedText entry _
    · exact none
  all_goals cases h

theorem not_initial_back {s : Stmt} {p : Patch} (h : patch? around words n s = some p) :
    ¬Initial p.back.toList.head? := by
  have stands := standsIn_patch? around words n s
  rw [h] at stands
  generalize standing? around.role n s = lines at stands
  cases stands with
  | some stands =>
    cases stands with
    | whole => exact (by decide : ¬Initial "".toList.head?)
    | around _ back =>
      rcases back with back | ⟨name, back⟩
      · simp only [List.mem_cons, List.not_mem_nil, or_false] at back
        rcases back with back | back <;> rw [back] <;> decide
      · rw [back]
        simp [Initial]

theorem edited_of_patch? {s : Stmt} {p : Patch} (h : patch? around words n s = some p) :
    s.edited? = some p.span := by
  have declared (span inner : Span) (name : Option String) :
      some span = some (declaredPatch around span inner name).span := by
    cases name with
    | some => rfl
    | none =>
      rw [declaredPatch]
      cases around.role with
      | module => rfl
      | entry => cases around.declaresApp <;> rfl
  cases s
  case exportDefault span inner =>
    cases h
    cases inner
    case function f => exact declared span f.span f.name?
    case «class» c => exact declared span c.span c.name?
    all_goals rfl
  case importDecl | exportDecl | exportNames | exportAll =>
    cases h
    rfl
  all_goals cases h

/-- The rule for a statement is none exactly where the statement is no import or export. -/
theorem patch_eq_none_iff {s : Stmt} : patch? around words n s = none ↔ s.edited? = none := by
  refine ⟨fun none => ?_, patch_eq_none⟩
  cases s
  case importDecl | exportDecl | exportDefault | exportNames | exportAll => cases none
  all_goals rfl

/-! ## Texts with patches -/

/-- Where the patch only takes text off, what it keeps does not start with the six letters that the
declaration starts with; where it keeps less, no letter comes next that imports and exports start
with. -/
def Patch.Apart (cs : List Char) (p : Patch) : Prop :=
  p.front = "" →
    if p.keep + 6 ≤ p.span.stop then (cs.drop p.keep).take 6 ≠ (cs.drop p.span.start).take 6
    else ¬Initial cs[p.keep]?

theorem head?_weave {lo : Nat} {ps : List Patch} (fits : Fits cs lo ps)
    (starts : ∀ p ∈ ps, Initial cs[p.span.start]?) (other : ¬Initial cs[lo]?) :
    (weave cs lo ps).head? = cs[lo]? := by
  cases ps with
  | nil => rw [weave, List.head?_drop]
  | cons p rest =>
    have ne : lo ≠ p.span.start := by
      rintro rfl
      exact other (starts p (.head _))
    have lt : lo < p.span.start := Nat.lt_of_le_of_ne fits.1.reach ne
    have bounded : p.span.start < cs.length :=
      Nat.lt_of_lt_of_le fits.1.start (Nat.le_trans fits.1.keep fits.1.stop)
    rw [weave, List.append_assoc, List.head?_append, head?_between lt,
      List.getElem?_eq_getElem (Nat.lt_trans lt bounded)]
    rfl

/-- Patches do not leave a text as it is if the first is apart from what follows. -/
theorem weave_ne {lo : Nat} {p : Patch} {ps : List Patch} (fits : Fits cs lo (p :: ps))
    (starts : ∀ q ∈ p :: ps, Initial cs[q.span.start]?) (front : ¬Initial p.front.toList.head?)
    (back : ¬Initial p.back.toList.head?) (apart : p.Apart cs) :
    weave cs lo (p :: ps) ≠ cs.drop lo := by
  obtain ⟨⟨reach, start, keep, stop⟩, fits⟩ := fits
  have initial := starts p (.head _)
  intro same
  have split : cs.drop lo = between cs lo p.span.start ++ cs.drop p.span.start := by
    rw [← between_length, ← between_length, between_append cs reach (by omega)]
  rw [weave, split, List.append_assoc, List.append_right_inj] at same
  -- what is left of the first declaration, and what follows, starts as the declaration did
  have first : (p.text cs ++ weave cs p.span.stop ps).head? = cs[p.span.start]? := by
    rw [same, List.head?_drop]
  rw [Patch.text, List.append_assoc, List.append_assoc, List.head?_append] at first
  obtain ⟨noFront, -⟩ := Initial.of_or (first ▸ initial) front
  have empty := List.head?_eq_none_iff.1 noFront
  have apart := apart (String.toList_eq_nil_iff.1 empty)
  rw [noFront, Option.none_or, List.head?_append] at first
  split at apart
  · next long =>
    refine apart ?_
    rw [← same, Patch.text, empty, List.nil_append, List.append_assoc,
      List.take_append_of_le_length (by rw [length_between stop]; omega), take_between long]
  rcases Nat.lt_or_eq_of_le keep with lt | eq
  · rw [head?_between lt, List.getElem?_eq_getElem (Nat.lt_of_lt_of_le lt stop),
      Option.some_or, ← List.getElem?_eq_getElem] at first
    exact apart (first ▸ initial)
  · have nothing : between cs p.keep p.span.stop = [] := by
      rw [← List.length_eq_zero_iff, length_between stop, eq, Nat.sub_self]
    rw [nothing, List.head?_nil, Option.none_or, List.head?_append] at first
    obtain ⟨-, next⟩ := Initial.of_or (first ▸ initial) back
    rw [head?_weave fits (fun q mem => starts q (.tail _ mem)) (eq ▸ apart)] at next
    exact apart (eq ▸ next)

/-! ## Names -/

/-- Lowering an entry exports nothing. -/
theorem exports_lowerStatement (entry : around.role = .entry) (l : Lowering) (s : Stmt) :
    (lowerStatement around l s).exports = l.exports ∧
      (lowerStatement around l s).defaultExport = l.defaultExport := by
  have declared (span inner : Span) (name : Option String) :
      (lowerDefaultDeclaration around l span inner name).exports = l.exports ∧
        (lowerDefaultDeclaration around l span inner name).defaultExport = l.defaultExport := by
    unfold lowerDefaultDeclaration
    rw [entry]
    cases name <;> dsimp only <;> split <;> exact ⟨rfl, rfl⟩
  cases s
  case importDecl span phase typeOnly specifiers source attributes =>
    have records := records_lowerImport l span typeOnly specifiers source.text
    exact ⟨records.exports.trans (List.append_nil _), records.default⟩
  case exportDefault span inner =>
    cases inner
    case function f => exact declared span f.span f.name?
    case «class» c => exact declared span c.span c.name?
    all_goals exact ⟨rfl, rfl⟩
  case exportDecl span inner =>
    simp only [lowerStatement, lowerExportDecl, entry]
    exact ⟨rfl, rfl⟩
  case exportNames span typeOnly specifiers source attributes =>
    simp only [lowerStatement, lowerExportNames, entry]
    cases typeOnly <;> cases source <;> exact ⟨rfl, rfl⟩
  case exportAll span typeOnly name source attributes =>
    simp only [lowerStatement, lowerExportAll, entry]
    cases typeOnly <;> exact ⟨rfl, rfl⟩
  all_goals exact ⟨rfl, rfl⟩

theorem exports_gather (entry : around.role = .entry) (statements : List Stmt) (l : Lowering) :
    (statements.foldl (lowerStatement around) l).exports = l.exports ∧
      (statements.foldl (lowerStatement around) l).defaultExport = l.defaultExport := by
  induction statements generalizing l with
  | nil => exact ⟨rfl, rfl⟩
  | cons s rest ih =>
    obtain ⟨exports, default⟩ := exports_lowerStatement entry l s
    obtain ⟨exports', default'⟩ := ih (lowerStatement around l s)
    exact ⟨exports'.trans exports, default'.trans default⟩

theorem exports_lower_entry {path source : String} {lowered : Lowered}
    (h : lower .entry path source = .ok lowered) :
    lowered.namedExports = [] ∧ lowered.defaultExport = none := by
  obtain ⟨program, -, rfl⟩ := lower_eq_ok_iff.1 h
  have entry : (Surroundings.of .entry source.toList program.body.statements).role = .entry := rfl
  obtain ⟨exports, default⟩ := exports_gather entry program.body.statements {}
  exact ⟨by rw [Lowered.ofStatements, gather, exports]; rfl, default⟩

/-! ## Main statement -/

/-- The patches of an entry. -/
def entryPatches (cs : List Char) (statements : List Stmt) : List Patch :=
  statements.filterMap (entryPatch? cs statements)

/-- The first import or export of the code at `path`, if any is left, is apart from what follows. -/
def Parted (path code : String) : Prop :=
  ∀ program, parse (.ofPath path true) code = .ok program →
    ∀ p ∈ (entryPatches code.toList program.body.statements).head?, p.Apart code.toList

theorem entryPatches_eq_nil_iff {statements : List Stmt} :
    entryPatches cs statements = [] ↔ ∀ s ∈ statements, s.edited? = none := by
  rw [entryPatches, List.filterMap_eq_nil_iff]
  exact forall₂_congr fun _ _ => patch_eq_none_iff

/-- A source without imports and exports is its own code. -/
theorem lower_bare {path code : String} (h : Bare path code) :
    ∃ lowered, lower .entry path code = .ok lowered ∧ lowered.code = code := by
  obtain ⟨program, parsed, none⟩ := h
  have lowers := lower_of_parse .entry parsed
  obtain ⟨program', parsed', -, woven⟩ := lower_entry_eq lowers
  cases parsed.symm.trans parsed'
  rw [← entryPatches, entryPatches_eq_nil_iff.2 none] at woven
  exact ⟨_, lowers, woven.trans (String.ofList_toList ..)⟩

/-- A source that is its own code has no imports and exports, unless a first one is not apart from
what follows. -/
theorem bare_of_lower_eq {path code : String} {lowered : Lowered}
    (lowers : lower .entry path code = .ok lowered) (same : lowered.code = code)
    (parted : Parted path code) : Bare path code := by
  obtain ⟨program, parsed, laid, woven⟩ := lower_entry_eq lowers
  have fits : Fits code.toList 0 (patches (.of .entry code.toList program.body.statements)
      (wordsFound code.toList) 0 program.body.statements) :=
    fits_patches (cuts_wordsFound _) laid
  rw [patches_entry rfl] at fits
  change Fits code.toList 0 (entryPatches code.toList program.body.statements) at fits
  have known (p : Patch) (mem : p ∈ entryPatches code.toList program.body.statements) :
      Initial code.toList[p.span.start]? ∧ ¬Initial p.front.toList.head? ∧
        ¬Initial p.back.toList.head? := by
    obtain ⟨s, there, patch⟩ := List.mem_filterMap.1 mem
    exact ⟨initial_of_opens (opens_of_parse parsed s there) (edited_of_patch? patch),
      not_initial_front rfl patch, not_initial_back patch⟩
  have first := parted program parsed
  suffices nothing : entryPatches code.toList program.body.statements = [] from
    ⟨program, parsed, entryPatches_eq_nil_iff.1 nothing⟩
  rw [← entryPatches, same] at woven
  generalize entryPatches code.toList program.body.statements = ps at *
  cases ps with
  | nil => rfl
  | cons p ps =>
    obtain ⟨-, front, back⟩ := known p (.head _)
    refine absurd ?_ (weave_ne fits (fun q mem => (known q mem).1) front back (first p rfl))
    exact String.toList_ofList.symm.trans (congrArg String.toList woven.symm)

theorem parted_of_bare {path code : String} (h : Bare path code) : Parted path code := by
  obtain ⟨program, parsed, none⟩ := h
  intro program' parsed'
  cases parsed.symm.trans parsed'
  rw [entryPatches_eq_nil_iff.2 none]
  nofun

/-- A text is an entry that is its own code if it can be read as a module and has no imports and
exports, and only then if a first one is apart from what follows. -/
theorem lower_eq_self_iff {path code : String} :
    (∃ lowered, lower .entry path code = .ok lowered ∧ lowered.code = code) ∧ Parted path code ↔
      Bare path code := by
  constructor
  · rintro ⟨⟨lowered, lowers, same⟩, parted⟩
    exact bare_of_lower_eq lowers same parted
  · intro bare
    exact ⟨lower_bare bare, parted_of_bare bare⟩

/-- An object that is left standing as a statement is taken for a block, which is no script. -/
theorem lower_again_object :
    ∃ lowered,
      lower .entry "App.jsx"
          "function App() \x7b return 1; \x7d\nexport default \x7b a: 1, b: 2 \x7d;" =
        .ok lowered ∧
      lower .entry "App.jsx" lowered.code matches .error _ := by
  obtain ⟨lowered, h, code⟩ := exists_ok
    (x := lower .entry "App.jsx"
      "function App() \x7b return 1; \x7d\nexport default \x7b a: 1, b: 2 \x7d;")
    (p := fun lowered => lowered.code ==
      "function App() \x7b return 1; \x7d\n \x7b a: 1, b: 2 \x7d;")
    (by decide +kernel)
  refine ⟨lowered, h, ?_⟩
  rw [eq_of_beq code]
  decide +kernel

end LivePreview.Module
