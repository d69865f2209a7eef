import LivePreview.Script.Lexer

/-!
# Where readers end

No reader of the lexer goes back or leaves the text: the place behind what it has read is reached
from the place where it started (`Cursor.Reaches`). Signs and words are the text between the two
(`Cursor.Spells`).
-/

namespace LivePreview.Script

namespace Cursor

theorem exists_rest_of_peek {c : Cursor} {x : Char} (h : c.peek = some x) :
    ∃ xs, c.rest = x :: xs := List.head?_eq_some_iff.1 h

theorem skip_skip (c : Cursor) (m n : Nat) : (c.skip m).skip n = c.skip (m + n) := by
  simp [skip, List.drop_drop, Nat.add_assoc]

theorem step_eq_skip (c : Cursor) : c.step = c.skip 1 := by simp [step, skip]

/-- One comes to `d` by reading on from `c`. -/
def Reaches (c d : Cursor) : Prop := ∃ n ≤ c.rest.length, d = c.skip n

theorem Reaches.refl (c : Cursor) : c.Reaches c := ⟨0, Nat.zero_le _, by simp [skip]⟩

theorem Reaches.trans {c d e : Cursor} (h : c.Reaches d) (h' : d.Reaches e) : c.Reaches e := by
  obtain ⟨m, hm, rfl⟩ := h
  obtain ⟨n, hn, rfl⟩ := h'
  refine ⟨m + n, ?_, skip_skip ..⟩
  simp only [skip, List.length_drop] at hn
  omega

theorem Reaches.le {c d : Cursor} (h : c.Reaches d) : c.offset ≤ d.offset := by
  obtain ⟨n, -, rfl⟩ := h
  exact Nat.le_add_right _ _

theorem reaches_skip {c : Cursor} (taken : List Char) {rest : List Char}
    (h : c.rest = taken ++ rest) : c.Reaches (c.skip taken.length) :=
  ⟨taken.length, by simp [h], rfl⟩

theorem reaches_step {c : Cursor} {x : Char} {xs : List Char} (h : c.rest = x :: xs) :
    c.Reaches c.step := by
  rw [step_eq_skip]
  exact reaches_skip [x] h

theorem reaches_step_of_peek {c : Cursor} {x : Char} (h : c.peek = some x) : c.Reaches c.step := by
  obtain ⟨xs, hc⟩ := exists_rest_of_peek h
  exact reaches_step hc

theorem reaches_span (c : Cursor) (p : Char → Bool) : c.Reaches (c.span p).2 :=
  reaches_skip _ List.takeWhile_append_dropWhile.symm

theorem Reaches.eq_drop {cs : List Char} {d : Cursor} (h : Reaches ⟨cs, 0⟩ d) :
    d = ⟨cs.drop d.offset, d.offset⟩ := by
  obtain ⟨n, -, rfl⟩ := h
  simp [skip]

/-- The text from `c` to `d` is `text`. -/
structure Spells (c : Cursor) (text : String) (d : Cursor) : Prop where
  rest : c.rest = text.toList ++ d.rest
  offset : d.offset = c.offset + text.length

theorem Reaches.spells {c d : Cursor} (h : c.Reaches d) :
    c.Spells (String.ofList (c.rest.take (d.offset - c.offset))) d := by
  obtain ⟨n, hn, rfl⟩ := h
  constructor
  · simp [skip]
  · simp [skip, hn]

theorem spells_skip {c : Cursor} {taken rest : List Char} (h : c.rest = taken ++ rest) :
    c.Spells (String.ofList taken) (c.skip taken.length) := by
  constructor
  · simp [skip, h]
  · simp [skip]

theorem spells_span (c : Cursor) (p : Char → Bool) :
    c.Spells (String.ofList (c.span p).1) (c.span p).2 :=
  spells_skip List.takeWhile_append_dropWhile.symm

theorem Spells.reaches {c d : Cursor} {text : String} (h : c.Spells text d) : c.Reaches d := by
  obtain ⟨rest, offset⟩ := h
  rcases d with ⟨rest', offset'⟩
  dsimp only at rest offset
  refine ⟨text.length, ?_, ?_⟩
  · simp [rest, ← String.length_toList]
  · simp [skip, rest, offset, ← String.length_toList]

theorem Spells.append {c d e : Cursor} {s t : String} (h : c.Spells s d) (h' : d.Spells t e) :
    c.Spells (s ++ t) e := by
  constructor
  · rw [h.rest, h'.rest, String.toList_append, List.append_assoc]
  · rw [h'.offset, h.offset, String.length_append, Nat.add_assoc]

end Cursor

open Cursor

/-! ## Escapes -/

theorem reaches_readHex {n acc value : Nat} {c next : Cursor}
    (h : readHex n acc c = some (value, next)) : c.Reaches next := by
  induction n generalizing acc c with
  | zero =>
    cases h
    exact .refl _
  | succ n ih =>
    simp only [readHex, Option.bind_eq_bind, Option.bind_eq_some_iff] at h
    obtain ⟨_, hx, _, _, h⟩ := h
    exact (reaches_step_of_peek hx).trans (ih h)

theorem reaches_readBraced {value : Nat} {c next : Cursor}
    (h : readBraced c = some (value, next)) : c.Reaches next := by
  simp only [readBraced] at h
  split at h
  · cases h
  · next closed =>
    simp only [Bool.or_eq_true, not_or, bne_iff_ne, ne_eq, Decidable.not_not] at closed
    cases h
    exact (reaches_span c _).trans (reaches_step_of_peek closed.2)

theorem reaches_readCodePoint {value : Nat} {c next : Cursor}
    (h : readCodePoint c = some (value, next)) : c.Reaches next := by
  unfold readCodePoint at h
  split at h
  · next brace => exact (reaches_step_of_peek (beq_iff_eq.1 brace)).trans (reaches_readBraced h)
  · simp only [Option.bind_eq_bind, Option.bind_eq_some_iff] at h
    obtain ⟨⟨high, c'⟩, hh, h⟩ := h
    have first := reaches_readHex hh
    dsimp only at h
    split at h
    · next pair =>
      split at h
      · next hl =>
        have second := reaches_readHex hl
        split at h
        · simp only [Option.some.injEq, Prod.mk.injEq] at h
          rw [← h.2]
          simp only [startsWith, Bool.and_eq_true, List.isPrefixOf_iff_prefix] at pair
          obtain ⟨rest, hr⟩ := pair.2
          exact first.trans ((reaches_skip _ hr.symm).trans second)
        · simp only [Option.some.injEq, Prod.mk.injEq] at h
          rw [← h.2]
          exact first
      · simp only [Option.some.injEq, Prod.mk.injEq] at h
        rw [← h.2]
        exact first
    · simp only [Option.some.injEq, Prod.mk.injEq] at h
      rw [← h.2]
      exact first

theorem reaches_readEscape (c : Cursor) : c.Reaches (readEscape c).2.1 := by
  unfold readEscape
  split
  · exact .refl _
  · next e _ hc =>
    have step : c.Reaches c.step := reaches_step hc
    dsimp only
    split
    · dsimp only
      split
      · next h => exact step.trans (reaches_step_of_peek (beq_iff_eq.1 h))
      · exact step
    iterate 9 exact step
    · split
      · next h => exact step.trans (reaches_readHex h)
      · exact step
    · split
      · next h => exact step.trans (reaches_readCodePoint h)
      · exact step
    · split
      · refine step.trans ⟨_, ?_, rfl⟩
        exact Nat.le_trans (List.takeWhile_prefix _).length_le (List.length_take_le' _ _)
      · exact step

/-! ## Scans

The text of a token whose kind alone does not tell it is not looked at. -/

/-- The text of a sign or word. A word is told as it is written. -/
def TokenKind.text? : TokenKind → Option String
  | .punct sign => some sign.text
  | .word name spelling => some (spelling.getD name)
  | _ => none

/-- What was read from `c` on. -/
structure Scan.From (c : Cursor) (scan : Scan) : Prop where
  reach : c.Reaches scan.cursor
  spelled : ∀ text, scan.kind.text? = some text → c.Spells text scan.cursor

/-- What was read from `c` or before, and is neither sign nor word. -/
structure Scan.Plain (c : Cursor) (scan : Scan) : Prop where
  reach : c.Reaches scan.cursor
  kind : scan.kind.text? = none

theorem Scan.Plain.after {c d : Cursor} {scan : Scan} (h : scan.Plain d) (hc : c.Reaches d) :
    scan.Plain c := ⟨hc.trans h.reach, h.kind⟩

theorem Scan.Plain.from {c : Cursor} {scan : Scan} (h : scan.Plain c) : scan.From c :=
  ⟨h.reach, fun text ht => by simp [h.kind] at ht⟩

/-! ## Strings, templates and regular expressions -/

theorem plain_scanString (quote : Char) (fuel : Nat) (c : Cursor) (cooked : Cooked)
    (errors : List Diagnostic) : (scanString quote fuel c cooked errors).Plain c := by
  induction fuel generalizing c cooked errors with
  | zero => exact ⟨.refl _, rfl⟩
  | succ fuel ih =>
    unfold scanString
    split
    · exact ⟨.refl _, rfl⟩
    · next h => exact ((ih ..).after (reaches_readEscape _)).after (reaches_step_of_peek h)
    · next h =>
      have step := reaches_step_of_peek h
      split
      · exact ⟨step, rfl⟩
      · split
        · exact ⟨step, rfl⟩
        · exact (ih ..).after step

theorem plain_scanJsxString (quote : Char) (c : Cursor) : (scanJsxString quote c).Plain c := by
  have text := reaches_span c (· != quote)
  unfold scanJsxString
  dsimp only
  split
  · exact ⟨text, rfl⟩
  · next h => exact ⟨text.trans (reaches_step_of_peek h), rfl⟩

theorem plain_scanTemplate (first : Bool) (fuel : Nat) (c : Cursor) (raw : List Char)
    (valid : Bool) : (scanTemplate first fuel c raw valid).Plain c := by
  induction fuel generalizing c raw valid with
  | zero => exact ⟨.refl _, rfl⟩
  | succ fuel ih =>
    unfold scanTemplate
    split
    · exact ⟨.refl _, rfl⟩
    · next h => exact ⟨reaches_step h, rfl⟩
    · next h => exact ⟨reaches_skip ['$', '{'] h, rfl⟩
    · next h => exact ((ih ..).after (reaches_readEscape _)).after (reaches_step h)
    · next h => exact (ih ..).after (reaches_step h)

theorem reaches_scanRegexBody {fuel : Nat} {c next : Cursor} {acc pattern : List Char}
    {escape bracket : Bool} (h : scanRegexBody fuel c acc escape bracket = some (pattern, next)) :
    c.Reaches next := by
  induction fuel generalizing c acc escape bracket with
  | zero => cases h
  | succ fuel ih =>
    unfold scanRegexBody at h
    split at h
    · cases h
    · next hx =>
      have step := reaches_step_of_peek hx
      split at h
      · cases h
      · split at h
        · exact step.trans (ih h)
        · split at h
          · cases h
            exact step
          · exact step.trans (ih h)

theorem plain_scanRegex (fuel : Nat) (opened : List Char) (c : Cursor) :
    (scanRegex fuel opened c).Plain c := by
  unfold scanRegex
  split
  · exact ⟨reaches_span c _, rfl⟩
  · next h => exact ⟨(reaches_scanRegexBody h).trans (reaches_span _ _), rfl⟩

/-! ## Numbers -/

theorem reaches_spanDigits (isDigit : Char → Bool) (fuel : Nat) (c : Cursor) (acc : List Char) :
    c.Reaches (spanDigits isDigit fuel c acc).2.1 := by
  induction fuel generalizing c acc with
  | zero => exact .refl _
  | succ fuel ih =>
    unfold spanDigits
    split
    · next d _ h =>
      split
      · exact (reaches_skip ['_', d] h).trans (ih ..)
      · exact reaches_step h
    · next h => exact reaches_step h
    · next h =>
      split
      · exact (reaches_step h).trans (ih ..)
      · exact .refl _
    · exact .refl _

theorem plain_checkNumberEnd {kind : TokenKind} (plain : kind.text? = none) (c : Cursor)
    (errors : List Diagnostic) : (checkNumberEnd kind c errors).Plain c := by
  unfold checkNumberEnd
  split
  · exact ⟨.refl _, plain⟩
  · next h =>
    split
    · exact ⟨(reaches_step_of_peek h).trans (reaches_span _ _), rfl⟩
    · exact ⟨.refl _, plain⟩

theorem reaches_requiredDigits (fuel : Nat) (c : Cursor) :
    c.Reaches (requiredDigits fuel c).2.1 := by
  unfold requiredDigits
  split
  · split
    · exact reaches_spanDigits ..
    · exact .refl _
  · exact .refl _

theorem reaches_readExponent (fuel : Nat) (c : Cursor) : c.Reaches (readExponent fuel c).2.1 := by
  have signed : c.Reaches (if (c.peek == some '-') || c.peek == some '+' then c.step else c) := by
    split
    · next h =>
      simp only [Bool.or_eq_true, beq_iff_eq] at h
      exact h.elim reaches_step_of_peek reaches_step_of_peek
    · exact .refl _
  exact signed.trans (reaches_requiredDigits fuel _)

theorem plain_finishDecimal (fuel : Nat) (whole fraction : List Char) (form : NumberForm)
    (c : Cursor) (errors : List Diagnostic) :
    (finishDecimal fuel whole fraction form c errors).Plain c := by
  unfold finishDecimal
  dsimp only
  refine (plain_checkNumberEnd rfl ..).after ?_
  split
  · next h =>
    simp only [Bool.or_eq_true, beq_iff_eq] at h
    exact (h.elim reaches_step_of_peek reaches_step_of_peek).trans (reaches_readExponent fuel _)
  · exact .refl _

theorem plain_afterWhole (fuel : Nat) (whole : List Char) (c : Cursor) (errors : List Diagnostic)
    (allowBig : Bool) : (afterWhole fuel whole c errors allowBig).Plain c := by
  unfold afterWhole
  split
  · next h =>
    have step := reaches_step_of_peek h
    dsimp only
    split
    · exact ((plain_finishDecimal ..).after (reaches_spanDigits ..)).after step
    · exact (plain_finishDecimal ..).after step
  · next h =>
    split
    · exact (plain_checkNumberEnd rfl ..).after (reaches_step_of_peek h)
    · exact plain_finishDecimal ..
  · exact plain_finishDecimal ..

theorem plain_scanBased (fuel : Nat) (form : NumberForm) (base : Nat) (c : Cursor) :
    (scanBased fuel form base c).Plain c := by
  have digits := reaches_spanDigits (fun d => (Text.hexValue d).any (· < base)) fuel c []
  unfold scanBased
  dsimp only
  split
  · exact ⟨.refl _, rfl⟩
  · split
    · exact ⟨digits, rfl⟩
    · split
      · next h =>
        exact (plain_checkNumberEnd rfl ..).after
          (digits.trans (reaches_step_of_peek (beq_iff_eq.1 h)))
      · exact (plain_checkNumberEnd rfl ..).after digits

theorem plain_scanLeadingZero (fuel : Nat) (c : Cursor) : (scanLeadingZero fuel c).Plain c := by
  have digits := reaches_span c Char.isDigit
  unfold scanLeadingZero
  dsimp only
  split
  · split
    · exact (plain_checkNumberEnd rfl ..).after digits
    · exact (plain_afterWhole ..).after digits
  · exact (plain_checkNumberEnd rfl ..).after digits

theorem plain_scanNumber (fuel : Nat) (c : Cursor) : (scanNumber fuel c).Plain c := by
  have based {x y : Char} {rest : List Char} (h : c.rest = x :: y :: rest) (form : NumberForm)
      (base : Nat) : (scanBased fuel form base (c.skip 2)).Plain c :=
    (plain_scanBased ..).after (reaches_skip [x, y] h)
  unfold scanNumber
  split
  iterate 6 next h => exact based h _ _
  · next h =>
    split
    · exact plain_scanLeadingZero ..
    · exact (plain_afterWhole ..).after (reaches_step h)
  · exact (plain_afterWhole ..).after (reaches_spanDigits ..)

theorem plain_scanFraction (fuel : Nat) {c : Cursor} {x : Char} {xs : List Char}
    (h : c.rest = x :: xs) : (scanFraction fuel c).Plain c :=
  ((plain_finishDecimal ..).after (reaches_spanDigits _ _ c.step _)).after (reaches_step h)

/-! ## Words and signs -/

theorem reaches_scanWord (fuel : Nat) (c : Cursor) (acc : List Char) (escaped : Bool)
    (errors : List Diagnostic) : c.Reaches (scanWord fuel c acc escaped errors).2.1 := by
  induction fuel generalizing c acc escaped errors with
  | zero => exact .refl _
  | succ fuel ih =>
    unfold scanWord
    split
    · next h =>
      split
      · have skip : c.Reaches (c.skip 2) := reaches_skip ['\\', 'u'] h
        split
        · next hn =>
          refine (skip.trans (reaches_readCodePoint hn)).trans ?_
          dsimp only
          repeat' split
          all_goals exact ih ..
        · exact skip
      · exact reaches_step h
    · next h =>
      split
      · exact (reaches_step h).trans (ih ..)
      · exact .refl _
    · exact .refl _

/-- The letters of a word without escapes are the characters read. -/
theorem scanWord_letters {fuel : Nat} {c next : Cursor} {acc letters : List Char} {escaped : Bool}
    {errors faults : List Diagnostic}
    (h : scanWord fuel c acc escaped errors = (letters, next, false, faults)) :
    escaped = false ∧
      ∃ read, letters = read.reverse ++ acc ∧ c.Spells (String.ofList read) next := by
  have none (c : Cursor) : c.Spells (String.ofList []) c := ⟨by simp, by simp⟩
  induction fuel generalizing c acc escaped errors with
  | zero =>
    cases h
    exact ⟨rfl, [], rfl, none _⟩
  | succ fuel ih =>
    unfold scanWord at h
    split at h
    · split at h
      · split at h
        · dsimp only at h
          repeat' split at h
          all_goals exact absurd (ih h).1 nofun
        · cases h
      · cases h
    · next x xs _ hc =>
      split at h
      · obtain ⟨plain, read, rfl, spelled⟩ := ih h
        refine ⟨plain, x :: read, by simp, ?_, ?_⟩
        · rw [hc]
          simpa [step, hc] using spelled.rest
        · simp only [spelled.offset, step, String.length_ofList, List.length_cons]
          omega
      · cases h
        exact ⟨rfl, [], rfl, none _⟩
    · cases h
      exact ⟨rfl, [], rfl, none _⟩

theorem from_scanIdentifier (fuel : Nat) (c : Cursor) : (scanIdentifier fuel c).From c := by
  have reach := reaches_scanWord fuel c [] false []
  refine ⟨reach, ?_⟩
  unfold scanIdentifier
  rcases h : scanWord fuel c [] false [] with ⟨letters, next, escaped, faults⟩
  rw [h] at reach
  rintro text ⟨⟩
  cases escaped with
  | true => exact reach.spells
  | false =>
    obtain ⟨-, read, rfl, spelled⟩ := scanWord_letters h
    simpa using spelled

theorem plain_scanHidden (fuel : Nat) {c : Cursor} {x : Char} {xs : List Char}
    (h : c.rest = x :: xs) : (scanHidden fuel c).Plain c := by
  have step := reaches_step h
  unfold scanHidden
  split
  · next hn =>
    split
    · exact ⟨step.trans (reaches_scanWord ..), rfl⟩
    · refine ⟨?_, rfl⟩
      rw [← skip_skip c 1 1, ← step_eq_skip, ← step_eq_skip]
      exact step.trans (reaches_step_of_peek hn)
  · exact ⟨step, rfl⟩

theorem spells_text {c : Cursor} {text : String} {n : Nat} (hn : n = text.length)
    (h : text.toList <+: c.rest) : c.Spells text (c.skip n) := by
  obtain ⟨rest, hr⟩ := h
  have spelled := spells_skip hr.symm
  rwa [String.ofList_toList, String.length_toList, ← hn] at spelled

/-- A sign is the text at its place. -/
theorem signOf_eq {cs : List Char} {sign : Punct} {n : Nat} (h : signOf cs = some (sign, n)) :
    n = sign.text.length ∧ sign.text.toList <+: cs := by
  unfold signOf at h
  split at h <;> first
    | (cases h; exact ⟨rfl, _, rfl⟩)
    | (split at h <;> cases h <;> exact ⟨rfl, _, rfl⟩)
    | cases h

theorem signOfGt_eq {cs rest : List Char} (h : cs = '>' :: rest) :
    (signOfGt cs).2 = (signOfGt cs).1.text.length ∧ (signOfGt cs).1.text.toList <+: cs := by
  unfold signOfGt
  split
  iterate 5 exact ⟨rfl, _, rfl⟩
  · subst h
    exact ⟨rfl, _, rfl⟩

/-! ## Tokens -/

theorem reaches_scanBlockComment {fuel : Nat} {c next : Cursor} {acc text : List Char}
    {newline ended : Bool} (h : scanBlockComment fuel c acc newline = some (text, next, ended)) :
    c.Reaches next := by
  induction fuel generalizing c acc newline with
  | zero => cases h
  | succ fuel ih =>
    unfold scanBlockComment at h
    split at h
    · next hc =>
      cases h
      exact reaches_skip ['*', '/'] hc
    · next hc => exact (reaches_step hc).trans (ih h)
    · cases h

/-- The token `t` was read between the places `c` and `d`. -/
structure Token.Between (c : Cursor) (t : Token) (d : Cursor) : Prop where
  start : t.start = c.offset
  stop : t.stop = d.offset
  reach : c.Reaches d
  spelled : ∀ text, t.kind.text? = some text → c.Spells text d

theorem Token.Between.le {c d : Cursor} {t : Token} (h : t.Between c d) : t.start ≤ t.stop := by
  rw [h.start, h.stop]
  exact h.reach.le

theorem from_punct {c : Cursor} {sign : Punct} {n : Nat} (h : signOf c.rest = some (sign, n)) :
    (Scan.mk (.punct sign) (c.skip n) []).From c := by
  obtain ⟨hn, text⟩ := signOf_eq h
  have spelled := spells_text hn text
  exact ⟨spelled.reaches, by rintro _ ⟨⟩; exact spelled⟩

namespace Lexer

theorem reaches_lineComment (l : Lexer) : l.cursor.Reaches l.lineComment.cursor :=
  reaches_span _ _

theorem reaches_skipTrivia (html : Bool) (fuel : Nat) (l : Lexer) (newLine : Bool) :
    l.cursor.Reaches (skipTrivia html fuel l newLine).1.cursor := by
  induction fuel generalizing l newLine with
  | zero => exact .refl _
  | succ fuel ih =>
    unfold skipTrivia
    split
    · exact .refl _
    · next h => exact (reaches_step h).trans (ih (Lexer.mk l.cursor.step _ _) true)
    · next h => exact (reaches_step h).trans (ih (Lexer.mk l.cursor.step _ _) true)
    · exact (reaches_lineComment l).trans (ih ..)
    · next h =>
      split
      · next text next ended hn =>
        have opened : l.cursor.Reaches (l.cursor.skip 2) := reaches_skip ['/', '*'] h
        exact (opened.trans (reaches_scanBlockComment hn)).trans (ih (Lexer.mk next _ _) _)
      · exact ⟨_, Nat.le_refl _, rfl⟩
    · split
      · exact (reaches_lineComment l).trans (ih ..)
      · exact .refl _
    · split
      · exact (reaches_lineComment l).trans (ih ..)
      · exact .refl _
    · next h =>
      split
      · exact (reaches_step h).trans (ih { l with cursor := l.cursor.step } newLine)
      · split
        · exact (reaches_step h).trans (ih { l with cursor := l.cursor.step } true)
        · exact .refl _

/-- Which token is read from a place depends on nothing else that the lexer knows. -/
theorem skipTrivia_congr (html : Bool) (fuel : Nat) {l l' : Lexer} (h : l.cursor = l'.cursor)
    (newLine : Bool) :
    (skipTrivia html fuel l newLine).1.cursor = (skipTrivia html fuel l' newLine).1.cursor ∧
      (skipTrivia html fuel l newLine).2 = (skipTrivia html fuel l' newLine).2 := by
  induction fuel generalizing l l' newLine with
  | zero => exact ⟨h, rfl⟩
  | succ fuel ih =>
    rcases l with ⟨cursor, trivia, errors⟩
    rcases l' with ⟨_, trivia', errors'⟩
    dsimp only at h
    subst h
    unfold skipTrivia
    dsimp only
    split
    · exact ⟨rfl, rfl⟩
    · exact ih (by rfl) _
    · exact ih (by rfl) _
    · exact ih (by rfl) _
    · split
      · exact ih (by rfl) _
      · exact ⟨rfl, rfl⟩
    · split
      · exact ih (by rfl) _
      · exact ⟨rfl, rfl⟩
    · split
      · exact ih (by rfl) _
      · exact ⟨rfl, rfl⟩
    · split
      · exact ih (by rfl) _
      · split
        · exact ih (by rfl) _
        · exact ⟨rfl, rfl⟩

theorem from_scanHere (fuel : Nat) (jsxValue : Bool) (c : Cursor) :
    (scanHere fuel jsxValue c).From c := by
  have wrong {x y : Char} {xs : List Char} (h : c.rest = x :: xs) :
      (Scan.mk .invalid c.step [.invalidCharacter y]).From c :=
    Scan.Plain.from ⟨reaches_step h, rfl⟩
  have quoted {quote : Char} {xs : List Char} (h : c.rest = quote :: xs) :
      (if jsxValue then scanJsxString quote c.step
        else scanString quote fuel c.step [] []).From c := by
    split
    · exact ((plain_scanJsxString ..).after (reaches_step h)).from
    · exact ((plain_scanString ..).after (reaches_step h)).from
  unfold scanHere
  split
  · exact Scan.Plain.from ⟨.refl _, rfl⟩
  · next h => exact quoted h
  · next h => exact quoted h
  · next h => exact ((plain_scanTemplate ..).after (reaches_step h)).from
  · next h => exact (plain_scanHidden _ h).from
  · exact from_scanIdentifier ..
  · next h =>
    split
    · exact (plain_scanFraction _ h).from
    · split
      · next hs => exact from_punct (h ▸ hs)
      · exact wrong h
  · next h =>
    split
    · exact (plain_scanNumber ..).from
    · split
      · exact from_scanIdentifier ..
      · split
        · next hs => exact from_punct hs
        · exact wrong h

/-! ## Steps of the lexer -/

/-- The token `t` stands somewhere behind the place `c`, and `l` reads on behind it. -/
def Follows (l : Lexer) (c : Cursor) (t : Token) : Prop :=
  ∃ d, c.Reaches d ∧ t.Between d l.cursor

theorem Follows.le {c : Cursor} {t : Token} {l : Lexer} (h : l.Follows c t) :
    c.offset ≤ t.start := by
  obtain ⟨d, hd, ht⟩ := h
  exact ht.start ▸ hd.le

theorem Follows.ordered {c : Cursor} {t : Token} {l : Lexer} (h : l.Follows c t) :
    t.start ≤ t.stop := by
  obtain ⟨d, -, ht⟩ := h
  exact ht.le

theorem Follows.after {c d : Cursor} {t : Token} {l : Lexer} (h : l.Follows d t)
    (hc : c.Reaches d) : l.Follows c t := by
  obtain ⟨e, he, ht⟩ := h
  exact ⟨e, hc.trans he, ht⟩

theorem Follows.reaches {c : Cursor} {t : Token} {l : Lexer} (h : l.Follows c t) :
    c.Reaches l.cursor := by
  obtain ⟨d, hd, ht⟩ := h
  exact hd.trans ht.reach

theorem follows_accept {c d : Cursor} {scan : Scan} (hd : c.Reaches d) (hs : scan.From d)
    (l : Lexer) (newLine : Bool) :
    (l.accept d.offset newLine scan).2.Follows c (l.accept d.offset newLine scan).1 :=
  ⟨d, hd, rfl, rfl, hs.reach, hs.spelled⟩

theorem follows_next (fuel : Nat) (html jsxValue : Bool) (l : Lexer) :
    (l.next fuel html jsxValue).2.Follows l.cursor (l.next fuel html jsxValue).1 :=
  follows_accept (reaches_skipTrivia ..) (from_scanHere ..) _ _

theorem next_congr (fuel : Nat) (html jsxValue : Bool) {l l' : Lexer} (h : l.cursor = l'.cursor) :
    (l.next fuel html jsxValue).1 = (l'.next fuel html jsxValue).1 := by
  obtain ⟨place, newLine⟩ := skipTrivia_congr html fuel h (l.cursor.offset == 0)
  simp only [next, accept]
  rw [place, newLine, h]

theorem follows_nextJsxChild (l : Lexer) :
    l.nextJsxChild.2.Follows l.cursor l.nextJsxChild.1 := by
  refine follows_accept (.refl _) ?_ _ _
  have sign {c : Cursor} {x : Char} {xs : List Char} {p : Punct} (h : c.rest = x :: xs)
      (text : p.text.toList = [x]) : (Scan.mk (.punct p) c.step []).From c := by
    refine ⟨reaches_step h, ?_⟩
    rintro text' ⟨⟩
    refine ⟨by simp [step, text, h], ?_⟩
    rw [← String.length_toList, text]
    rfl
  have text := reaches_span l.cursor fun x => x != '{' && x != '}' && x != '<' && x != '>'
  dsimp only
  split
  · exact Scan.Plain.from ⟨.refl _, rfl⟩
  · next h => exact sign h rfl
  · next h => exact sign h rfl
  · split
    · next h => exact Scan.Plain.from ⟨text.trans (reaches_step_of_peek h), rfl⟩
    · next h => exact Scan.Plain.from ⟨text.trans (reaches_step_of_peek h), rfl⟩
    · exact Scan.Plain.from ⟨text, rfl⟩

/-- A reader that makes something else of the token just read. -/
def Rereads (f : Nat → Lexer → Token → Token × Lexer) : Prop :=
  ∀ fuel c l t, t.Between c l.cursor → (f fuel l t).1.Between c (f fuel l t).2.cursor

theorem rereads_extendJsxName : Rereads fun _ l t => l.extendJsxName t := by
  intro fuel c l t h
  unfold extendJsxName
  dsimp only
  split
  · next name spelling hk =>
    have more := reaches_span l.cursor fun x => x == '-' || isIdContinue x
    refine ⟨h.start, rfl, h.reach.trans more, ?_⟩
    rintro text ⟨⟩
    have word := h.spelled (spelling.getD name) (by rw [hk]; rfl)
    exact word.append (spells_span ..)
  · exact h

theorem rereads_plain {scan : Nat → Lexer → Token → Scan}
    (plain : ∀ fuel l t, (scan fuel l t).Plain l.cursor) :
    Rereads fun fuel l t =>
      ({ t with kind := (scan fuel l t).kind, stop := (scan fuel l t).cursor.offset },
        { l with
          cursor := (scan fuel l t).cursor,
          errors := (scan fuel l t).errors ++ l.errors }) :=
  fun fuel _ l t h => ⟨h.start, rfl, h.reach.trans (plain fuel l t).reach,
    fun text ht => by simp [(plain fuel l t).kind] at ht⟩

theorem rereads_retemplate : Rereads fun fuel l t => l.retemplate fuel t :=
  rereads_plain fun _ _ _ => plain_scanTemplate ..

theorem rereads_reregex : Rereads fun fuel l t => l.reregex fuel t :=
  rereads_plain fun _ _ _ => plain_scanRegex ..

theorem rereads_joinGt : Rereads fun _ l t => l.joinGt t := by
  intro fuel c l t h
  unfold joinGt
  dsimp only
  split
  · next gt =>
    split
    · exact h
    · next more =>
      have kind : t.kind = .punct .gt := by simpa [Token.isPunct] using gt
      have one := h.spelled ">" (by rw [kind]; rfl)
      have rest : c.rest = '>' :: l.cursor.rest := one.rest
      obtain ⟨length, text⟩ := signOfGt_eq rest
      rw [rest] at length text
      have joined : c.Spells _ (c.skip _) := spells_text length (by rw [rest]; exact text)
      have place : l.cursor.skip ((signOfGt ('>' :: l.cursor.rest)).2 - 1)
          = c.skip (signOfGt ('>' :: l.cursor.rest)).2 := by
        have offset : l.cursor.offset = c.offset + 1 := one.offset
        obtain ⟨n, hn⟩ : ∃ n, (signOfGt ('>' :: l.cursor.rest)).2 = n + 1 :=
          ⟨(signOfGt ('>' :: l.cursor.rest)).2 - 1, by omega⟩
        simp only [hn, skip, rest, offset, List.drop_succ_cons, Nat.add_sub_cancel, Cursor.mk.injEq,
          true_and]
        omega
      refine ⟨h.start, ?_, ?_, ?_⟩
      · simp only [place, h.start]
        rfl
      · simp only [place]
        exact joined.reaches
      · rintro _ ⟨⟩
        simp only [place]
        exact joined
  · exact h

theorem rereads_splitLt : Rereads fun _ l t => l.splitLt t := by
  intro fuel c l t h
  have back {sign : Punct} (more : List Char) (hk : t.kind = .punct sign)
      (text : sign.text = "<" ++ String.ofList more) :
      (Token.mk (.punct .lt) t.start (t.start + 1) t.newLine).Between c
        ⟨more ++ l.cursor.rest, l.cursor.offset - more.length⟩ := by
    have whole := h.spelled sign.text (by rw [hk]; rfl)
    rw [text] at whole
    have offset := whole.offset
    simp only [String.length_append, String.length_ofList] at offset
    have first : c.Spells "<" ⟨more ++ l.cursor.rest, l.cursor.offset - more.length⟩ := by
      refine ⟨by simpa using whole.rest, ?_⟩
      dsimp only
      omega
    refine ⟨h.start, ?_, first.reaches, by rintro _ ⟨⟩; exact first⟩
    rw [h.start]
    exact first.offset.symm
  unfold splitLt
  dsimp only
  split
  · next hk => exact back ['<'] hk rfl
  · next hk => exact back ['<', '='] hk rfl
  · next hk => exact back ['='] hk rfl
  · exact h

end Lexer

end LivePreview.Script
