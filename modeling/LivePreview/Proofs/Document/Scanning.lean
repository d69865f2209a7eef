import LivePreview.Text.Escape

/-!
# Looking for a word in text

How often a word stands in a text (`Text.count`), and what lies before and behind its first place
(`Text.cut`). Letters are compared by what a function makes of them, `Char.toLower` where case does
not count and `id` where it does.

Text from elsewhere is put together with other text, and a word could come about where the two
meet. A character that the word does not go on with keeps them apart (`countChars_break`). For the
start of a tag (`TagStart`) that is the next tag (`cut_append`), the end of a line (`count_lines`)
or a quote (`count_attribute`). Within one piece of text `guardClose` leaves no end tag
(`countChars_guardClose`).
-/

namespace LivePreview.Text

/-- The number of places of a text where `word` starts. -/
def countChars (fold : Char → Char) (word : List Char) : List Char → Nat
  | [] => 0
  | c :: cs => (if startsWithLetters fold word (c :: cs) then 1 else 0) + countChars fold word cs

/-- What precedes the first place where `word` starts, and what follows the word there. -/
def cutChars (fold : Char → Char) (word : List Char) : List Char → Option (List Char × List Char)
  | [] => none
  | c :: cs =>
    if startsWithLetters fold word (c :: cs) then some ([], (c :: cs).drop word.length)
    else (cutChars fold word cs).map fun parts => (c :: parts.1, parts.2)

/-- How often `word` stands in `text`. -/
def count (fold : Char → Char) (word text : String) : Nat :=
  countChars fold word.toList text.toList

/-- The text in front of the first `word`, and the text behind it. -/
def cut (fold : Char → Char) (word text : String) : Option (String × String) :=
  (cutChars fold word.toList text.toList).map fun parts =>
    (String.ofList parts.1, String.ofList parts.2)

/-- The start of a tag: `<` and characters that are neither another one, nor a quote or the end of
a line. -/
structure TagStart (fold : Char → Char) (word : String) : Prop where
  once : ∃ w, word.toList = '<' :: w ∧ fold '<' ∉ w.map fold
  unquoted : fold '"' ∉ word.toList.map fold
  oneLine : fold '\n' ∉ word.toList.map fold
  /-- No other character stands for `<`. -/
  alone : ∀ c, fold c = fold '<' → c = '<'

variable {fold : Char → Char} {word a b : List Char} {x d : Char}

/-- For literals: their characters are at hand without their bytes being read. -/
theorem count_ofList (fold : Char → Char) (word text : List Char) :
    count fold (String.ofList word) (String.ofList text) = countChars fold word text := by
  rw [count, String.toList_ofList, String.toList_ofList]

/-! ## Where pieces of text meet -/

/-- A word does not reach beyond a character that is none of its own. -/
theorem startsWithLetters_break (h : fold d ∉ word.map fold) :
    startsWithLetters fold word (a ++ d :: b) = startsWithLetters fold word a := by
  induction a generalizing word with
  | nil =>
    cases word with
    | nil => rfl
    | cons w word =>
      have : fold w ≠ fold d := fun same => h (same ▸ List.mem_cons_self)
      simp [startsWithLetters, this]
  | cons c a ih =>
    cases word with
    | nil => rfl
    | cons w word =>
      rw [List.cons_append, startsWithLetters, startsWithLetters,
        ih fun again => h (List.mem_cons_of_mem _ again)]

theorem startsWithLetters_cons_break {c : Char} (h : fold d ∉ word.map fold) :
    startsWithLetters fold (x :: word) (c :: (a ++ d :: b)) =
      startsWithLetters fold (x :: word) (c :: a) := by
  rw [startsWithLetters, startsWithLetters, startsWithLetters_break h]

/-- No place of the word lies across a character that it does not go on with. -/
theorem countChars_break (h : fold d ∉ word.map fold) :
    countChars fold (x :: word) (a ++ d :: b) =
      countChars fold (x :: word) a + countChars fold (x :: word) (d :: b) := by
  induction a with
  | nil => simp [countChars]
  | cons c a ih =>
    simp only [List.cons_append, countChars, startsWithLetters_cons_break h, ih, Nat.add_assoc]

/-- A character that is not in the word keeps two texts apart. -/
theorem countChars_separated (hw : word ≠ []) (h : fold d ∉ word.map fold) :
    countChars fold word (a ++ d :: b) = countChars fold word a + countChars fold word b := by
  cases word with
  | nil => exact absurd rfl hw
  | cons x word =>
    have : fold x ≠ fold d := fun same => h (same ▸ List.mem_cons_self)
    rw [countChars_break fun again => h (List.mem_cons_of_mem _ again), countChars]
    simp [startsWithLetters, this]

/-- Text without the first character of the word does not hold the word. -/
theorem countChars_eq_zero (h : fold x ∉ a.map fold) : countChars fold (x :: word) a = 0 := by
  induction a with
  | nil => rfl
  | cons c a ih =>
    have : fold x ≠ fold c := fun same => h (same ▸ List.mem_cons_self)
    rw [countChars, ih fun again => h (List.mem_cons_of_mem _ again)]
    simp [startsWithLetters, this]

theorem TagStart.ne_nil {word : String} (h : TagStart fold word) : word.toList ≠ [] := by
  obtain ⟨w, hw, -⟩ := h.once
  simp [hw]

/-- The start of a tag stands in the first of several lines or in one behind it. -/
theorem count_lines {word : String} (h : TagStart fold word) (line next : String)
    (lines : List String) :
    count fold word ("\n".intercalate (line :: next :: lines)) =
      count fold word line + count fold word ("\n".intercalate (next :: lines)) := by
  rw [String.intercalate_cons_cons]
  simp only [count, String.toList_append, List.append_assoc]
  exact countChars_separated h.ne_nil h.oneLine

theorem count_lines_eq_zero {word : String} (h : TagStart fold word) {lines : List String}
    (none : ∀ line ∈ lines, count fold word line = 0) :
    count fold word ("\n".intercalate lines) = 0 := by
  induction lines with
  | nil => rfl
  | cons line lines ih =>
    obtain ⟨first, others⟩ := List.forall_mem_cons.1 none
    cases lines with
    | nil => rw [String.intercalate_singleton, first]
    | cons next lines => rw [count_lines h, first, ih others]

/-! ## The first place -/

theorem startsWithLetters_self (fold : Char → Char) (word b : List Char) :
    startsWithLetters fold word (word ++ b) = true := by
  induction word with
  | nil => rfl
  | cons w word ih => simp [startsWithLetters, ih]

/-- The first place of a word is where it is put behind text that does not hold it. -/
theorem cutChars_append (h : fold x ∉ word.map fold)
    (ha : countChars fold (x :: word) a = 0) :
    cutChars fold (x :: word) (a ++ x :: (word ++ b)) = some (a, b) := by
  induction a with
  | nil =>
    have := startsWithLetters_self fold (x :: word) b
    rw [List.cons_append] at this
    simp [cutChars, this]
  | cons c a ih =>
    rw [countChars, Nat.add_eq_zero_iff] at ha
    have none : startsWithLetters fold (x :: word) (c :: (a ++ x :: (word ++ b))) = false := by
      rw [startsWithLetters_cons_break h]
      simpa using ha.1
    simp [cutChars, none, ih ha.2]

theorem cut_append {word a : String} (h : TagStart fold word) (ha : count fold word a = 0)
    (b : String) : cut fold word (a ++ word ++ b) = some (a, b) := by
  obtain ⟨w, hw, once⟩ := h.once
  rw [count, hw] at ha
  simp [cut, hw, cutChars_append once ha]

/-! ## Escaped text -/

theorem toLower_of_le {c : Char} (h : 97 ≤ c.toNat) : c.toLower = c := by
  unfold Char.toLower
  rw [dif_neg]
  rintro ⟨-, hc⟩
  have : c.toNat ≤ 90 := UInt32.le_iff_toNat_le.1 hc
  omega

/-- A character stands for itself, or for a small letter. -/
theorem toLower_eq_or (c : Char) :
    c.toLower = c ∨ 97 ≤ c.toLower.toNat ∧ c.toLower.toNat ≤ 122 := by
  unfold Char.toLower
  split
  case isTrue h =>
    right
    have lower : 65 ≤ c.val.toNat := UInt32.le_iff_toNat_le.1 h.1
    have upper : c.val.toNat ≤ 90 := UInt32.le_iff_toNat_le.1 h.2
    have shift : ('a'.val - 'A'.val).toNat = 32 := rfl
    simp only [Char.toNat, UInt32.toNat_add, shift]
    omega
  case isFalse => exact .inl rfl

/-- What stands before the small letters has no other case. -/
theorem eq_of_toLower_eq {c d : Char} (hd : d.toNat < 97) (h : c.toLower = d) : c = d := by
  rcases toLower_eq_or c with same | ⟨small, -⟩
  · rw [← same, h]
  · rw [h] at small
    omega

theorem foldLetter_toLower (c : Char) : foldLetter c.toLower = foldLetter c := by
  by_cases long : c = '\u017f'
  · subst long
    decide
  · rcases toLower_eq_or c with same | ⟨small, large⟩
    · rw [same]
    · have : c.toLower ≠ '\u017f' := by
        intro h
        rw [h] at large
        exact absurd large (by decide)
      rw [foldLetter, foldLetter, if_neg this, if_neg long, toLower_of_le small]

/-- Letters that differ in case only are one for the escape. -/
theorem startsWithLetters_foldLetter (h : startsWithLetters Char.toLower word a = true) :
    startsWithLetters foldLetter word a = true := by
  induction word generalizing a with
  | nil => rfl
  | cons w word ih =>
    cases a with
    | nil => cases h
    | cons c a =>
      simp only [startsWithLetters, Bool.and_eq_true, beq_iff_eq] at h ⊢
      refine ⟨?_, ih h.2⟩
      rw [← foldLetter_toLower w, h.1, foldLetter_toLower]

/-- The characters at the start of guarded text stood there before, unless a tag begins there. -/
theorem startsWithLetters_of_guardClose {g : Char → Char} (alone : ∀ c, g c = g '<' → c = '<')
    {w : List Char} (hw : '<' ∉ w) (h : startsWithLetters g w (guardClose fold word a) = true) :
    startsWithLetters g w a = true := by
  have tag : ∀ {c w b}, '<' ∉ c :: w → startsWithLetters g (c :: w) ('<' :: b) = false := by
    intro c w b hw
    have : g c ≠ g '<' := fun h => hw (alone c h ▸ List.mem_cons_self)
    simp [startsWithLetters, this]
  fun_induction guardClose fold word a generalizing w with
  | case1 => exact h
  | case2 rest _ ih =>
    cases w with
    | nil => rfl
    | cons c w => simp [tag hw] at h
  | case3 rest _ ih =>
    cases w with
    | nil => rfl
    | cons c w => simp [tag hw] at h
  | case4 c rest _ ih =>
    cases w with
    | nil => rfl
    | cons d w =>
      simp only [startsWithLetters, Bool.and_eq_true] at h ⊢
      exact ⟨h.1, ih (fun again => hw (List.mem_cons_of_mem _ again)) h.2⟩

/-- An end tag is one that the escape looks for. -/
theorem endTag_of_startsWithLetters
    (h : startsWithLetters Char.toLower ('<' :: '/' :: word) a = true) :
    ∃ rest, a = '<' :: '/' :: rest ∧ startsWithLetters foldLetter word rest = true := by
  match a with
  | [] => cases h
  | [c] => simp [startsWithLetters] at h
  | c :: d :: rest =>
    simp only [startsWithLetters, Bool.and_eq_true, beq_iff_eq] at h
    obtain ⟨hc, hd, hrest⟩ := h
    rw [eq_of_toLower_eq (by decide) hc.symm, eq_of_toLower_eq (by decide) hd.symm]
    exact ⟨rest, rfl, startsWithLetters_foldLetter hrest⟩

/-- Guarded text holds no end tag. -/
theorem countChars_guardClose (hw : '<' ∉ word) :
    countChars Char.toLower ('<' :: '/' :: word) (guardClose foldLetter word a) = 0 := by
  -- an end tag at the first character would be one that was there before
  have first : ∀ {c rest}, startsWithLetters Char.toLower ('<' :: '/' :: word)
      (c :: guardClose foldLetter word rest) = true →
      startsWithLetters Char.toLower ('<' :: '/' :: word) (c :: rest) = true := by
    intro c rest h
    rw [startsWithLetters, Bool.and_eq_true] at h ⊢
    exact ⟨h.1, startsWithLetters_of_guardClose (fun _ h => eq_of_toLower_eq (by decide) h)
      (by simp [hw]) h.2⟩
  fun_induction guardClose foldLetter word a with
  | case1 => rfl
  | case2 rest _ ih => simp [countChars, startsWithLetters, ih]
  | case3 rest other ih =>
    have none : ¬ startsWithLetters Char.toLower ('<' :: '/' :: word)
        ('<' :: guardClose foldLetter word ('/' :: rest)) = true := by
      intro h
      obtain ⟨_, same, found⟩ := endTag_of_startsWithLetters (first h)
      cases same
      exact other found
    rw [countChars, if_neg none, ih]
  | case4 c rest other ih =>
    have none : ¬ startsWithLetters Char.toLower ('<' :: '/' :: word)
        (c :: guardClose foldLetter word rest) = true := by
      intro h
      obtain ⟨after, same, -⟩ := endTag_of_startsWithLetters (first h)
      cases same
      exact other after rfl rfl
    rw [countChars, if_neg none, ih]

theorem count_escapeScript (code : String) :
    count Char.toLower "</script" (escapeScript code) = 0 := by
  have letters : '<' ∉ "script".toList := by decide
  have chars : (escapeScript code).toList = guardClose foldLetter "script".toList code.toList :=
    String.toList_ofList
  rw [count, chars]
  exact countChars_guardClose letters

theorem count_escapeStyle (css : String) :
    count Char.toLower "</style" (escapeStyle css) = 0 := by
  have letters : '<' ∉ "style".toList := by decide
  have chars : (escapeStyle css).toList = guardClose foldLetter "style".toList css.toList :=
    String.toList_ofList
  rw [count, chars]
  exact countChars_guardClose letters

/-- Quotes and angle brackets do not stand in a quoted value. -/
theorem not_mem_escapeAttribute {d : Char} (special : d = '"' ∨ d = '<') (value : String) :
    d ∉ (escapeAttribute value).toList := by
  simp only [escapeAttribute, String.toList_ofList, List.mem_flatMap, not_exists, not_and]
  intro c _
  unfold attributeChar
  split
  · rcases special with rfl | rfl <;> decide
  split
  · rcases special with rfl | rfl <;> decide
  split
  · rcases special with rfl | rfl <;> decide
  · next quote open' =>
    rintro (_ | ⟨_, ⟨⟩⟩)
    exact special.elim quote open'

/-- No tag starts in a quoted value. -/
theorem count_escapeAttribute {word : String} (h : TagStart fold word) (value : String) :
    count fold word (escapeAttribute value) = 0 := by
  obtain ⟨w, hw, -⟩ := h.once
  rw [count, hw]
  refine countChars_eq_zero fun mem => not_mem_escapeAttribute (.inr rfl) value ?_
  obtain ⟨c, hc, same⟩ := List.mem_map.1 mem
  rwa [← h.alone c same]

/-- A tag with an attribute has what stands around the value. -/
theorem count_attribute {word : String} (h : TagStart fold word) (start value stop : String) :
    count fold word (start ++ "\"" ++ escapeAttribute value ++ ("\"" ++ stop)) =
      count fold word start + count fold word stop := by
  have quiet := count_escapeAttribute h value
  simp only [count, String.toList_append, List.append_assoc] at quiet ⊢
  have quotes : "\"".toList = ['"'] := rfl
  rw [quotes, List.cons_append, List.nil_append, countChars_separated h.ne_nil h.unquoted,
    List.cons_append, List.nil_append, countChars_separated h.ne_nil h.unquoted, quiet,
    Nat.zero_add]

end LivePreview.Text
