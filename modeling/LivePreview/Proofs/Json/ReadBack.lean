import LivePreview.Proofs.Json.Words

/-!
# Reading what was written: values

The text of a value is read as the value (`read_render`), if the value is nested less deep than
texts may be, has no doubles and no integers but naturals of sixty-four bits (`Readable`). So is its
text with other spellings of its strings in the quotes (`read_charsBy`).
-/

namespace LivePreview.Json

open Text

/-- A character that a value begins with: no blank, and no bracket that closes. -/
def Begins (c : Char) : Prop := Input.isBlank c = false ∧ c ≠ ']' ∧ c ≠ '\x7d'

instance (c : Char) : Decidable (Begins c) := inferInstanceAs (Decidable (_ ∧ _))

theorem begins_of_isDigit {c : Char} (h : c.isDigit = true) : Begins c := by
  refine ⟨?_, ?_, ?_⟩
  · simp only [Input.isBlank, Bool.or_eq_false_iff, beq_eq_false_iff_ne, ne_eq]
    refine ⟨⟨⟨?_, ?_⟩, ?_⟩, ?_⟩
    all_goals
      rintro rfl
      cases h
  · rintro rfl
    cases h
  · rintro rfl
    cases h

theorem integerText_natCast (n : Nat) : integerText n = decimalDigits n := by
  have natural : ¬ (n : Int) < 0 := by omega
  rw [integerText, if_neg natural, Int.toNat_natCast]

theorem skipBlank_of_begins {c : Char} (h : Input.isBlank c = false) (cs : List Char) (p : Place) :
    Input.skipBlank ⟨c :: cs, p⟩ = ⟨c :: cs, p⟩ := by
  simp [Input.skipBlank, Input.span, h]

mutual

/-- A value that is nested less deep than `depth`, without doubles, whose integers are naturals of
sixty-four bits. -/
def Readable (depth : Nat) : Json → Prop
  | null | bool _ | string _ => True
  | integer n => ∃ m : Nat, m ≤ maxNatural ∧ n = m
  | double _ => False
  | list items => 1 < depth ∧ ReadableItems (depth - 1) items
  | table members => 1 < depth ∧ ReadableMembers (depth - 1) members

def ReadableItems (depth : Nat) : List Json → Prop
  | [] => True
  | j :: js => Readable depth j ∧ ReadableItems depth js

def ReadableMembers (depth : Nat) : List (String × Json) → Prop
  | [] => True
  | (_, j) :: ms => Readable depth j ∧ ReadableMembers depth ms

end

theorem readableItems_iff {depth : Nat} {js : List Json} :
    ReadableItems depth js ↔ ∀ j ∈ js, j.Readable depth := by
  induction js with
  | nil => simp [ReadableItems]
  | cons j js ih => simp [ReadableItems, ih]

theorem readableMembers_iff {depth : Nat} {ms : List (String × Json)} :
    ReadableMembers depth ms ↔ ∀ m ∈ ms, m.2.Readable depth := by
  induction ms with
  | nil => simp [ReadableMembers]
  | cons m ms ih => simp [ReadableMembers, ih]

theorem readable_strings {depth : Nat} (deep : 1 < depth) (xs : List String) :
    (strings xs).Readable depth := by
  refine ⟨deep, readableItems_iff.2 fun j mem => ?_⟩
  obtain ⟨x, -, rfl⟩ := List.mem_map.1 mem
  trivial

/-! ## Texts of values -/

mutual

/-- The text of a value whose strings are spelled by `body` between their quotes. -/
def charsBy (body : List Char → List Char) : Json → List Char
  | null => "null".toList
  | bool true => "true".toList
  | bool false => "false".toList
  | integer n => integerText n
  | double d => d.dataText
  | string s => '"' :: body s.toList ++ ['"']
  | list items => '[' :: joinChars [','] (itemCharsBy body items) ++ [']']
  | table members => '\x7b' :: joinChars [','] (memberCharsBy body members) ++ ['\x7d']

def itemCharsBy (body : List Char → List Char) : List Json → List (List Char)
  | [] => []
  | j :: js => charsBy body j :: itemCharsBy body js

def memberCharsBy (body : List Char → List Char) : List (String × Json) → List (List Char)
  | [] => []
  | (k, j) :: ms => ('"' :: body k.toList ++ '"' :: ':' :: charsBy body j) :: memberCharsBy body ms

end

mutual

theorem charsBy_escape : ∀ j : Json, j.charsBy (·.flatMap Quoted.escape) = j.chars
  | null | bool true | bool false | integer _ | double _ => rfl
  | string _ => rfl
  | list items => by rw [charsBy, chars, itemCharsBy_escape items]
  | table members => by rw [charsBy, chars, memberCharsBy_escape members]

theorem itemCharsBy_escape :
    ∀ js : List Json, itemCharsBy (·.flatMap Quoted.escape) js = itemChars js
  | [] => rfl
  | j :: js => by rw [itemCharsBy, itemChars, charsBy_escape j, itemCharsBy_escape js]

theorem memberCharsBy_escape :
    ∀ ms : List (String × Json), memberCharsBy (·.flatMap Quoted.escape) ms = memberChars ms
  | [] => rfl
  | (k, j) :: ms => by
    rw [memberCharsBy, memberChars, charsBy_escape j, memberCharsBy_escape ms, Quoted.encode]
    simp

end

variable {body : List Char → List Char}

theorem begins_charsBy {depth : Nat} {j : Json} (h : j.Readable depth) :
    ∃ c cs, j.charsBy body = c :: cs ∧ Begins c := by
  cases j with
  | null => exact ⟨'n', _, rfl, by decide⟩
  | bool b =>
    cases b with
    | true => exact ⟨'t', _, rfl, by decide⟩
    | false => exact ⟨'f', _, rfl, by decide⟩
  | integer n =>
    obtain ⟨m, -, rfl⟩ := h
    obtain ⟨c, cs, eq, digit, -⟩ := decimalDigits_cons m
    exact ⟨c, cs, by rw [charsBy, integerText_natCast, eq], begins_of_isDigit digit⟩
  | double d => exact absurd h id
  | string s => exact ⟨'"', _, rfl, by decide⟩
  | list items => exact ⟨'[', _, rfl, by decide⟩
  | table members => exact ⟨'\x7b', _, rfl, by decide⟩

theorem begins_items {depth : Nat} {js : List Json} (h : ReadableItems depth js) :
    ∀ j ∈ js, ∃ c cs, j.charsBy body = c :: cs ∧ Begins c := by
  induction js with
  | nil => nofun
  | cons j js ih => exact List.forall_mem_cons.2 ⟨begins_charsBy h.1, ih h.2⟩

theorem readValue_digit {c : Char} (digit : c.isDigit = true) (n : Nat) (cs : List Char)
    (p : Place) : readValue (n + 1) ⟨c :: cs, p⟩ = readNumber false ⟨c :: cs, p⟩ := by
  rw [readValue]
  simp only [skipBlank_of_begins (begins_of_isDigit digit).1]
  split
  all_goals simp_all

theorem joinChars_cons (sep piece : List Char) (pieces : List (List Char)) :
    joinChars sep (piece :: pieces) = piece ++ pieces.flatMap (sep ++ ·) := by
  induction pieces generalizing piece with
  | nil => simp [joinChars]
  | cons next pieces ih =>
    rw [joinChars, ih]
    · simp
    · nofun

theorem itemCharsBy_eq (body : List Char → List Char) (js : List Json) :
    itemCharsBy body js = js.map (charsBy body) := by
  induction js with
  | nil => rfl
  | cons j js ih => rw [itemCharsBy, ih, List.map_cons]

/-- The text of a member. -/
def memberText (body : List Char → List Char) (m : String × Json) : List Char :=
  '"' :: body m.1.toList ++ '"' :: ':' :: m.2.charsBy body

theorem memberCharsBy_eq (body : List Char → List Char) (ms : List (String × Json)) :
    memberCharsBy body ms = ms.map (memberText body) := by
  induction ms with
  | nil => rfl
  | cons m ms ih => rw [memberCharsBy, ih, List.map_cons, memberText]

/-! ## Lists -/

/-- What stands before an item or member. -/
def comma (first : Bool) : List Char := if first then [] else [',']

theorem readItems_close (n : Nat) (first : Bool) (rest : List Char) (p : Place) :
    readItems (n + 1) first ⟨']' :: rest, p⟩ =
      ([], .closed (p.after ']'), some ⟨rest, p.after ']'⟩) := by
  rw [readItems, skipBlank_of_begins (by decide)]
  rfl

/-- A value that can be read is read as the next item. -/
theorem readItems_item {c : Char} (begins : Begins c) {n : Nat} {first : Bool} {cs : List Char}
    {p : Place} {d : Draft} {i : Input}
    (value : readValue n ⟨c :: cs, (comma first).foldl Place.after p⟩ = (d, some i)) :
    ∃ q, readItems (n + 1) first ⟨comma first ++ c :: cs, p⟩ =
      ((some q, d) :: (readItems n false i).1, (readItems n false i).2) := by
  cases first with
  | true =>
    refine ⟨Input.peek ⟨c :: cs, p⟩, ?_⟩
    rw [comma, if_pos rfl, List.nil_append, readItems, skipBlank_of_begins begins.1]
    rw [comma, if_pos rfl, List.foldl_nil] at value
    simp only [value]
    split
    · next h => cases h
    · next h => exact absurd (List.cons.inj h).1 begins.2.1
    · rfl
  | false =>
    refine ⟨Input.peek ⟨c :: cs, p.after ','⟩, ?_⟩
    show readItems (n + 1) false ⟨',' :: c :: cs, p⟩ = _
    replace value : readValue n ⟨c :: cs, p.after ','⟩ = (d, some i) := value
    rw [readItems, skipBlank_of_begins (by decide)]
    simp only [Input.step, skipBlank_of_begins begins.1, value]
    split
    · next h => cases h
    · next h => exact absurd (List.cons.inj h).1 (by decide)
    · next h =>
      rw [if_neg Bool.false_ne_true, if_pos (List.cons.inj h).1.symm]
      split
      · next h => cases h
      · next h => exact absurd (List.cons.inj h).1 begins.2.1
      · rfl

theorem Ends.append {text rest : List Char} (h : Ends text) (h' : Ends rest) :
    Ends (text ++ rest) := by
  cases text with
  | nil => exact h'
  | cons c cs => exact h

theorem ends_close (rest : List Char) : Ends (']' :: rest) := by
  rintro c ⟨⟩
  exact .inr (.inl rfl)

theorem ends_closeTable (rest : List Char) : Ends ('\x7d' :: rest) := by
  rintro c ⟨⟩
  exact .inr (.inr rfl)

/-- Pieces, each after a comma. -/
def tailText (pieces : List (List Char)) : List Char := pieces.flatMap ([','] ++ ·)

theorem ends_tailText (pieces : List (List Char)) : Ends (tailText pieces) := by
  cases pieces with
  | nil => nofun
  | cons piece pieces =>
    rintro c ⟨⟩
    exact .inl rfl

/-- However the text goes on, the value is read from its own text. -/
def ReadsBack (body : List Char → List Char) (depth : Nat) (j : Json) : Prop :=
  ∀ (n : Nat) (rest : List Char) (p : Place), 2 * (j.charsBy body).length ≤ n → Ends rest →
    ∃ d q, readValue n ⟨j.charsBy body ++ rest, p⟩ = (d, some ⟨rest, q⟩) ∧ d.value depth = .ok j

/-- However the text goes on, the items are read from `text` and the bracket behind it. -/
def ItemsBack (depth : Nat) (first : Bool) (text : List Char) (js : List Json) : Prop :=
  ∀ (n : Nat) (rest : List Char) (p : Place), 2 * text.length < n →
    ∃ items q q', readItems n first ⟨text ++ ']' :: rest, p⟩ =
        (items, .closed q, some ⟨rest, q'⟩) ∧
      Draft.itemValues depth items = .ok js

theorem itemsBack_nil (depth : Nat) (first : Bool) : ItemsBack depth first [] [] := by
  intro n rest p enough
  obtain ⟨n, rfl⟩ := Nat.exists_eq_add_one_of_ne_zero (Nat.ne_of_gt enough)
  exact ⟨[], _, _, readItems_close n first rest p, rfl⟩

theorem ItemsBack.cons {depth : Nat} {j : Json} {js : List Json} {text : List Char}
    (tail : ItemsBack depth false text js) (ends : Ends text)
    (back : j.ReadsBack body depth) (begins : ∃ c cs, j.charsBy body = c :: cs ∧ Begins c) (first : Bool) :
    ItemsBack depth first (comma first ++ j.charsBy body ++ text) (j :: js) := by
  intro n rest p enough
  obtain ⟨c, cs, eq, begins⟩ := begins
  rw [List.length_append, List.length_append] at enough
  obtain ⟨n, rfl⟩ := Nat.exists_eq_add_one_of_ne_zero (Nat.ne_of_gt (Nat.zero_lt_of_lt enough))
  have length : 0 < (j.charsBy body).length := by
    rw [eq]
    exact Nat.zero_lt_succ _
  obtain ⟨d, i, value, stands⟩ :=
    back n _ ((comma first).foldl Place.after p) (by omega) (ends.append (ends_close rest))
  obtain ⟨items, q, q', read, values⟩ := tail n rest i (by omega)
  rw [eq, List.cons_append] at value
  obtain ⟨q'', item⟩ := readItems_item begins value
  refine ⟨(some q'', d) :: items, q, q', ?_, ?_⟩
  · rw [List.append_assoc, List.append_assoc, eq, List.cons_append, item, read]
  · rw [Draft.itemValues, stands, values]
    rfl

theorem itemsBack_tail {depth : Nat} {js : List Json} (back : ∀ j ∈ js, j.ReadsBack body depth)
    (begins : ∀ j ∈ js, ∃ c cs, j.charsBy body = c :: cs ∧ Begins c) :
    ItemsBack depth false (tailText (js.map (charsBy body))) js := by
  induction js with
  | nil => exact itemsBack_nil depth false
  | cons j js ih =>
    obtain ⟨here, back⟩ := List.forall_mem_cons.1 back
    obtain ⟨here', begins⟩ := List.forall_mem_cons.1 begins
    exact (ih back begins).cons (ends_tailText _) here here' false

theorem readsBack_list {depth : Nat} {js : List Json} (deep : 1 < depth)
    (back : ∀ j ∈ js, j.ReadsBack body (depth - 1))
    (begins : ∀ j ∈ js, ∃ c cs, j.charsBy body = c :: cs ∧ Begins c) :
    (list js).ReadsBack body depth := by
  have items : ItemsBack (depth - 1) true (joinChars [','] (itemCharsBy body js)) js := by
    rw [itemCharsBy_eq]
    cases js with
    | nil => exact itemsBack_nil _ _
    | cons j js =>
      obtain ⟨here, back⟩ := List.forall_mem_cons.1 back
      obtain ⟨here', begins⟩ := List.forall_mem_cons.1 begins
      rw [List.map_cons, joinChars_cons]
      exact (itemsBack_tail back begins).cons (ends_tailText _) here here' true
  intro n rest p enough _
  rw [charsBy, List.length_append, List.length_cons, List.length_singleton] at enough
  obtain ⟨n, rfl⟩ := Nat.exists_eq_add_one_of_ne_zero (show n ≠ 0 by omega)
  obtain ⟨ds, q, q', read, values⟩ := items n rest (p.after '[') (by omega)
  refine ⟨.list p ds (.closed q), q', ?_, ?_⟩
  · have text : (list js).charsBy body ++ rest =
        '[' :: (joinChars [','] (itemCharsBy body js) ++ ']' :: rest) := by
      simp [charsBy]
    rw [text, readValue, skipBlank_of_begins (by decide)]
    simp only [Input.step, read]
  · rw [Draft.value, if_neg (Nat.not_le.2 deep), values]
    rfl

/-! ## Tables -/

theorem readMembers_close (n : Nat) (first : Bool) (rest : List Char) (p : Place) :
    readMembers (n + 1) first ⟨'\x7d' :: rest, p⟩ =
      ([], .closed (p.after '\x7d'), some ⟨rest, p.after '\x7d'⟩) := by
  rw [readMembers, skipBlank_of_begins (by decide)]
  rfl

/-- A value behind a name that can be read is read as the next member. -/
theorem readMembers_member (n : Nat) (first : Bool) (p : Place) {text cs : List Char} {q : Place}
    {k d : Draft} {i : Input}
    (name : readQuoted ⟨text, ((comma first).foldl Place.after p).after '"'⟩ =
      (k, some ⟨':' :: cs, q⟩))
    (value : readValue n ⟨cs, q.after ':'⟩ = (d, some i)) :
    readMembers (n + 1) first ⟨comma first ++ '"' :: text, p⟩ =
      ((k, some q, d) :: (readMembers n false i).1, (readMembers n false i).2) := by
  cases first with
  | true =>
    replace name : readQuoted ⟨text, p.after '"'⟩ = (k, some ⟨':' :: cs, q⟩) := name
    rw [comma, if_pos rfl, List.nil_append, readMembers, skipBlank_of_begins (by decide)]
    simp only [Input.step, name, skipBlank_of_begins (c := ':') (by decide), value, if_true]
    rfl
  | false =>
    replace name : readQuoted ⟨text, (p.after ',').after '"'⟩ = (k, some ⟨':' :: cs, q⟩) := name
    show readMembers (n + 1) false ⟨',' :: '"' :: text, p⟩ = _
    rw [readMembers, skipBlank_of_begins (by decide)]
    simp only [Input.step, skipBlank_of_begins (c := '"') (by decide), name,
      skipBlank_of_begins (c := ':') (by decide), value]
    rfl

/-- However the text goes on, the members are read from `text` and the bracket behind it. -/
def MembersBack (depth : Nat) (first : Bool) (text : List Char) (ms : List (String × Json)) :
    Prop :=
  ∀ (n : Nat) (rest : List Char) (p : Place), 2 * text.length < n →
    ∃ members q q', readMembers n first ⟨text ++ '\x7d' :: rest, p⟩ =
        (members, .closed q, some ⟨rest, q'⟩) ∧
      Draft.memberValues depth members = .ok ms

theorem membersBack_nil (depth : Nat) (first : Bool) : MembersBack depth first [] [] := by
  intro n rest p enough
  obtain ⟨n, rfl⟩ := Nat.exists_eq_add_one_of_ne_zero (Nat.ne_of_gt enough)
  exact ⟨[], _, _, readMembers_close n first rest p, rfl⟩

theorem MembersBack.cons {depth : Nat} {m : String × Json} {ms : List (String × Json)}
    {text : List Char} (legible : ∀ cs, Quoted.Spells (body cs) cs)
    (tail : MembersBack depth false text ms) (ends : Ends text)
    (back : m.2.ReadsBack body depth) (first : Bool) :
    MembersBack depth first (comma first ++ memberText body m ++ text) (m :: ms) := by
  intro n rest p enough
  obtain ⟨k, j⟩ := m
  replace back : j.ReadsBack body depth := back
  have size : (memberText body (k, j)).length =
      (body k.toList).length + 1 + ((j.charsBy body).length + 2) := by
    rw [memberText, List.length_append]
    rfl
  rw [List.length_append, List.length_append] at enough
  obtain ⟨n, rfl⟩ := Nat.exists_eq_add_one_of_ne_zero (Nat.ne_of_gt (Nat.zero_lt_of_lt enough))
  obtain ⟨q, name⟩ := readQuoted_spells (legible k.toList)
    (':' :: (j.charsBy body ++ (text ++ '\x7d' :: rest)))
    (((comma first).foldl Place.after p).after '"')
  obtain ⟨d, i, value, stands⟩ :=
    back n _ (q.after ':') (by omega) (ends.append (ends_closeTable rest))
  obtain ⟨members, q', q'', read, values⟩ := tail n rest i (by omega)
  refine ⟨(.scalar (.string k) (some q), some q, d) :: members, q', q'', ?_, ?_⟩
  · have member := readMembers_member n first p name value
    simpa [memberText, read] using member
  · simp only [Draft.memberValues, Draft.text, stands, values]
    rfl

theorem membersBack_tail {depth : Nat} {ms : List (String × Json)}
    (legible : ∀ cs, Quoted.Spells (body cs) cs)
    (back : ∀ m ∈ ms, m.2.ReadsBack body depth) :
    MembersBack depth false (tailText (ms.map (memberText body))) ms := by
  induction ms with
  | nil => exact membersBack_nil depth false
  | cons m ms ih =>
    obtain ⟨here, back⟩ := List.forall_mem_cons.1 back
    exact MembersBack.cons legible (ih back) (ends_tailText _) here false

theorem readsBack_table {depth : Nat} {ms : List (String × Json)}
    (legible : ∀ cs, Quoted.Spells (body cs) cs) (deep : 1 < depth)
    (back : ∀ m ∈ ms, m.2.ReadsBack body (depth - 1)) : (table ms).ReadsBack body depth := by
  have members : MembersBack (depth - 1) true (joinChars [','] (memberCharsBy body ms)) ms := by
    rw [memberCharsBy_eq]
    cases ms with
    | nil => exact membersBack_nil _ _
    | cons m ms =>
      obtain ⟨here, back⟩ := List.forall_mem_cons.1 back
      rw [List.map_cons, joinChars_cons]
      exact MembersBack.cons legible (membersBack_tail legible back) (ends_tailText _) here true
  intro n rest p enough _
  rw [charsBy, List.length_append, List.length_cons, List.length_singleton] at enough
  obtain ⟨n, rfl⟩ := Nat.exists_eq_add_one_of_ne_zero (show n ≠ 0 by omega)
  obtain ⟨ds, q, q', read, values⟩ := members n rest (p.after '\x7b') (by omega)
  refine ⟨.table p ds (.closed q), q', ?_, ?_⟩
  · have text : (table ms).charsBy body ++ rest =
        '\x7b' :: (joinChars [','] (memberCharsBy body ms) ++ '\x7d' :: rest) := by
      simp [charsBy]
    rw [text, readValue, skipBlank_of_begins (by decide)]
    simp only [Input.step, read]
  · rw [Draft.value, if_neg (Nat.not_le.2 deep), values]
    rfl

/-! ## Whole texts -/

theorem readsBack_scalar {s : Scalar} {c : Char} {cs : List Char} (text : s.toJson.charsBy body = c :: cs)
    (reads : ∀ n rest p, Ends rest →
      ∃ q, readValue (n + 1) ⟨c :: (cs ++ rest), p⟩ = (.scalar s (some q), some ⟨rest, q⟩))
    (depth : Nat) : s.toJson.ReadsBack body depth := by
  intro n rest p enough ends
  rw [text, List.length_cons] at enough
  obtain ⟨n, rfl⟩ := Nat.exists_eq_add_one_of_ne_zero (show n ≠ 0 by omega)
  obtain ⟨q, read⟩ := reads n rest p ends
  exact ⟨.scalar s (some q), q, by rw [text, List.cons_append, read], rfl⟩

theorem readsBack_word (s : Scalar) {c : Char} {word : List Char}
    (text : s.toJson.charsBy body = c :: word)
    (reads : ∀ n rest p, readValue (n + 1) ⟨c :: rest, p⟩ = readWord s word ⟨rest, p.after c⟩)
    (depth : Nat) : s.toJson.ReadsBack body depth := by
  refine readsBack_scalar text (fun n rest p _ => ?_) depth
  obtain ⟨q, read⟩ := readWord_append s word rest (p.after c)
  exact ⟨q, (reads n _ p).trans read⟩

theorem readsBack_null (depth : Nat) : null.ReadsBack body depth := by
  have text : null.charsBy body = 'n' :: "ull".toList := rfl
  refine readsBack_word .null text (fun n rest p => ?_) depth
  rw [readValue, skipBlank_of_begins (by decide)]
  rfl

theorem readsBack_true (depth : Nat) : (bool true).ReadsBack body depth := by
  have text : (bool true).charsBy body = 't' :: "rue".toList := rfl
  refine readsBack_word (.bool true) text (fun n rest p => ?_) depth
  rw [readValue, skipBlank_of_begins (by decide)]
  rfl

theorem readsBack_false (depth : Nat) : (bool false).ReadsBack body depth := by
  have text : (bool false).charsBy body = 'f' :: "alse".toList := rfl
  refine readsBack_word (.bool false) text (fun n rest p => ?_) depth
  rw [readValue, skipBlank_of_begins (by decide)]
  rfl

theorem readsBack_integer {n : Nat} (fits : n ≤ maxNatural) (depth : Nat) :
    (integer n).ReadsBack body depth := by
  obtain ⟨c, cs, eq, digit, -⟩ := decimalDigits_cons n
  refine readsBack_scalar (s := .integer n) ((integerText_natCast n).trans eq)
    (fun m rest p ends => ?_) depth
  obtain ⟨q, read⟩ := readNumber_decimalDigits fits ends p
  rw [eq, List.cons_append] at read
  exact ⟨q, by rw [readValue_digit digit, read]⟩

theorem readsBack_string (legible : ∀ cs, Quoted.Spells (body cs) cs) (s : String)
    (depth : Nat) : (string s).ReadsBack body depth := by
  refine readsBack_scalar (s := .string s) rfl (fun n rest p _ => ?_) depth
  obtain ⟨q, read⟩ := readQuoted_spells (legible s.toList) rest (p.after '"')
  exact ⟨q, by rw [readValue, skipBlank_of_begins (by decide), ← read]; simp [Input.step]⟩

mutual

theorem readsBack (legible : ∀ cs, Quoted.Spells (body cs) cs) :
    ∀ {depth : Nat} {j : Json}, j.Readable depth → j.ReadsBack body depth
  | depth, null, _ => readsBack_null depth
  | depth, bool true, _ => readsBack_true depth
  | depth, bool false, _ => readsBack_false depth
  | depth, integer _, ⟨_, fits, eq⟩ => eq ▸ readsBack_integer fits depth
  | _, double _, h => h.elim
  | depth, string s, _ => readsBack_string legible s depth
  | _, list _, ⟨deep, h⟩ => readsBack_list deep (readsBack_items legible h) (begins_items h)
  | _, table _, ⟨deep, h⟩ => readsBack_table legible deep (readsBack_members legible h)

theorem readsBack_items (legible : ∀ cs, Quoted.Spells (body cs) cs) :
    ∀ {depth : Nat} {js : List Json}, ReadableItems depth js → ∀ j ∈ js, j.ReadsBack body depth
  | _, [], _ => nofun
  | _, _ :: _, ⟨here, later⟩ =>
    List.forall_mem_cons.2 ⟨readsBack legible here, readsBack_items legible later⟩

theorem readsBack_members (legible : ∀ cs, Quoted.Spells (body cs) cs) :
    ∀ {depth : Nat} {ms : List (String × Json)}, ReadableMembers depth ms →
      ∀ m ∈ ms, m.2.ReadsBack body depth
  | _, [], _ => nofun
  | _, (_, _) :: _, ⟨here, later⟩ =>
    List.forall_mem_cons.2 ⟨readsBack legible here, readsBack_members legible later⟩

end

/-- The text of a value is read as the value, however its strings are spelled. -/
theorem read_charsBy (legible : ∀ cs, Quoted.Spells (body cs) cs) {j : Json}
    (h : j.Readable Draft.depthLimit) :
    read (String.ofList (j.charsBy body)) = .ok j := by
  obtain ⟨d, q, value, stands⟩ :=
    readsBack legible h (2 * (j.charsBy body).length + 2) [] {} (by omega) nofun
  rw [List.append_nil] at value
  simp only [read, decodeText, String.toList_ofList, value, stands]
  rfl

/-- The text of a value is read as the value. -/
theorem read_render {j : Json} (h : j.Readable Draft.depthLimit) : read j.render = .ok j := by
  rw [render, ← charsBy_escape]
  exact read_charsBy Quoted.spells_escape h

end LivePreview.Json
