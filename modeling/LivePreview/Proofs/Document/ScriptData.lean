import LivePreview.Proofs.Document.Scanning
import LivePreview.Proofs.Json.ReadBack
import LivePreview.Sandbox
import LivePreview.Script.Lexer

/-!
# Data in scripts

The script of a document holds texts and tables in quotes, and is guarded as a whole. Guarding puts
backslashes before slashes; `script_data_survives` says that no data is changed by them. A guarded
string is a spelling of the same string (`spells_guardClose`), for readers of data
(`Json.readQuoted_spells`) and for readers of scripts (`Script.scanHere_spells`). In the text of a
value all end tags stand in strings, so that a guarded value is the value with its strings guarded
(`guardClose_charsBy`).
-/

namespace LivePreview

namespace Text

open Quoted (Spells)

variable {fold : Char → Char} {word : List Char}

/-! ## Guarding in pieces -/

theorem guardClose_cons {c : Char} (h : c ≠ '<') (cs : List Char) :
    guardClose fold word (c :: cs) = c :: guardClose fold word cs := by
  rw [guardClose]
  rintro _ rfl
  exact absurd rfl h

theorem guardClose_open {cs : List Char} (h : ∀ rest, cs ≠ '/' :: rest) :
    guardClose fold word ('<' :: cs) = '<' :: guardClose fold word cs := by
  rw [guardClose]
  intro rest _ same
  exact h rest same

theorem guardClose_slash (cs : List Char) :
    guardClose fold word ('<' :: '/' :: cs) =
      if startsWithLetters fold word cs then '<' :: '\\' :: '/' :: guardClose fold word cs
      else '<' :: '/' :: guardClose fold word cs := by
  rw [guardClose, guardClose_cons (by decide)]

theorem guardClose_append_left {a : List Char} (h : '<' ∉ a) (b : List Char) :
    guardClose fold word (a ++ b) = a ++ guardClose fold word b := by
  induction a with
  | nil => rfl
  | cons c a ih =>
    rw [List.mem_cons, not_or] at h
    rw [List.cons_append, guardClose_cons (Ne.symm h.1), ih h.2, List.cons_append]

theorem guardClose_eq_self {a : List Char} (h : '<' ∉ a) : guardClose fold word a = a := by
  have whole : guardClose fold word (a ++ []) = a ++ guardClose fold word [] :=
    guardClose_append_left h []
  rwa [guardClose, List.append_nil] at whole

/-- A character that stands in no end tag. -/
structure Apart (fold : Char → Char) (word : List Char) (d : Char) : Prop where
  notOpen : d ≠ '<'
  notSlash : d ≠ '/'
  notLetter : fold d ∉ word.map fold

/-- The characters that are put around the strings and items of data. -/
theorem apart_script {d : Char} (h : d ∈ ['"', ',', ']', '\x7d']) :
    Apart foldLetter "script".toList d := by
  have word : "script".toList = ['s', 'c', 'r', 'i', 'p', 't'] := String.toList_ofList
  simp only [List.mem_cons, List.not_mem_nil, or_false] at h
  rcases h with rfl | rfl | rfl | rfl
  all_goals
    rw [word]
    exact ⟨by decide, by decide, by decide⟩

/-- No end tag reaches beyond a character that stands in none. -/
theorem guardClose_append {d : Char} (h : Apart fold word d) (a b : List Char) :
    guardClose fold word (a ++ d :: b) = guardClose fold word a ++ d :: guardClose fold word b := by
  fun_induction guardClose fold word a with
  | case1 => exact guardClose_cons h.notOpen b
  | case2 rest starts ih =>
    have starts' := startsWithLetters_break (a := rest) (b := b) h.notLetter
    rw [List.cons_append, List.cons_append, guardClose_slash, if_pos (starts'.trans starts), ih]
    rfl
  | case3 rest other ih =>
    have other' := startsWithLetters_break (a := rest) (b := b) h.notLetter
    rw [← other'] at other
    rw [List.cons_append, guardClose_cons (by decide)] at ih
    rw [List.cons_append, List.cons_append, guardClose_slash, if_neg other, ih]
    rfl
  | case4 c rest other ih =>
    rw [List.cons_append, List.cons_append, ← ih, guardClose]
    rintro after rfl same
    cases rest with
    | nil => exact h.notSlash (List.cons.inj same).1
    | cons e rest => exact other rest rfl (by rw [(List.cons.inj same).1])

/-! ## Guarding twice -/

theorem foldLetter_alone (c : Char) (h : foldLetter c = foldLetter '<') : c = '<' := by
  have bracket : foldLetter '<' = '<' := by decide
  rw [bracket, foldLetter] at h
  split at h
  · exact absurd h (by decide)
  · exact eq_of_toLower_eq (by decide) h

theorem head?_guardClose (a : List Char) : (guardClose fold word a).head? = a.head? := by
  fun_cases guardClose fold word a with
  | case1 => rfl
  | case2 => rfl
  | case3 => rfl
  | case4 => rfl

/-- Guarded text needs no guarding. -/
theorem guardClose_guardClose (alone : ∀ c, fold c = fold '<' → c = '<') (hw : '<' ∉ word)
    (a : List Char) : guardClose fold word (guardClose fold word a) = guardClose fold word a := by
  fun_induction guardClose fold word a with
  | case1 => rfl
  | case2 rest _ ih =>
    have backslash : ∀ after, '\\' :: '/' :: guardClose fold word rest ≠ '/' :: after :=
      fun _ same => absurd (List.cons.inj same).1 (by decide)
    rw [guardClose_open backslash, guardClose_cons (c := '\\') (by decide),
      guardClose_cons (c := '/') (by decide), ih]
  | case3 rest other ih =>
    have other' : ¬ startsWithLetters fold word (guardClose fold word rest) = true := fun starts =>
      other (startsWithLetters_of_guardClose alone hw starts)
    rw [guardClose_cons (c := '/') (by decide)] at ih ⊢
    rw [guardClose_slash, if_neg other']
    rw [guardClose_cons (c := '/') (by decide)] at ih
    rw [(List.cons.inj ih).2]
  | case4 c rest other ih =>
    rw [guardClose, ih]
    rintro after rfl same
    have begins : (guardClose fold word rest).head? = rest.head? := head?_guardClose rest
    rw [same, List.head?_cons, eq_comm, List.head?_eq_some_iff] at begins
    obtain ⟨r, rfl⟩ := begins
    exact other r rfl rfl

theorem toList_escapeScript (code : String) :
    (escapeScript code).toList = guardClose foldLetter "script".toList code.toList :=
  String.toList_ofList

theorem escapeScript_escapeScript (code : String) :
    escapeScript (escapeScript code) = escapeScript code := by
  have letters : '<' ∉ "script".toList := by decide
  refine String.toList_injective ?_
  rw [toList_escapeScript, toList_escapeScript]
  exact guardClose_guardClose foldLetter_alone letters code.toList

/-! ## Guarded strings -/

theorem slash_of_escaped {c : Char} {spelled text rest : List Char}
    (h : Quoted.Escaped c spelled) (same : spelled ++ text = '/' :: rest) :
    c = '/' ∧ text = rest := by
  cases h with
  | letter | number => cases same
  | plain =>
    cases same
    exact ⟨rfl, rfl⟩

/-- What begins with a slash spells a slash. -/
theorem spells_of_slash {rest cs : List Char} (h : Spells ('/' :: rest) cs) :
    ∃ cs', cs = '/' :: cs' ∧ Spells rest cs' := by
  generalize same : '/' :: rest = text at h
  cases h with
  | nil => cases same
  | char c h =>
    obtain ⟨rfl, rfl⟩ := slash_of_escaped (Quoted.escaped_escape c) same.symm
    exact ⟨_, rfl, h⟩
  | slash h => cases same

theorem not_mem_escaped {c : Char} {text : List Char} (h : Quoted.Escaped c text)
    (other : c ≠ '<') : '<' ∉ text := by
  have digits : ∀ n < 16, '<' ≠ hexDigit n := by decide
  cases h with
  | letter named =>
    have apart : ∀ l ∈ Quoted.letters, '<' ∉ ['\\', l.2] := by decide
    exact apart _ named
  | number control =>
    have high := digits (c.toNat / 16) (by omega)
    have low := digits (c.toNat % 16) (by omega)
    simp [high, low]
  | plain => exact fun mem => other (List.mem_singleton.1 mem).symm

/-- A guarded spelling is a spelling of the same characters. -/
theorem spells_guardClose {text cs : List Char} (h : Spells text cs) :
    Spells (guardClose fold word text) cs := by
  induction h with
  | nil => exact .nil
  | @char c text cs _ ih =>
    by_cases bracket : c = '<'
    · subst bracket
      have same : Quoted.escape '<' = ['<'] := by decide
      rw [same, List.singleton_append]
      by_cases slash : ∃ rest, text = '/' :: rest
      · obtain ⟨rest, rfl⟩ := slash
        rw [guardClose_slash]
        split
        · rw [guardClose_cons (by decide)] at ih
          obtain ⟨cs', rfl, spells⟩ := spells_of_slash ih
          exact .char '<' (.slash spells)
        · rw [guardClose_cons (by decide)] at ih
          exact .char '<' ih
      · rw [guardClose_open fun rest same => slash ⟨rest, same⟩]
        exact .char '<' ih
    · rw [guardClose_append_left (not_mem_escaped (Quoted.escaped_escape c) bracket)]
      exact .char c ih
  | slash _ ih =>
    rw [guardClose_cons (c := '\\') (by decide), guardClose_cons (c := '/') (by decide)]
    exact .slash ih

end Text

open Text

/-! ## Guarded values -/

namespace Json

variable {fold : Char → Char} {word : List Char} {body : List Char → List Char}

theorem joinChars_comma (piece next : List Char) (pieces : List (List Char)) :
    joinChars [','] (piece :: next :: pieces) = piece ++ ',' :: joinChars [','] (next :: pieces) := by
  rw [joinChars, List.append_assoc, List.singleton_append]
  exact List.cons_ne_nil next pieces

theorem guardClose_joinChars (comma : Apart fold word ',') :
    ∀ pieces : List (List Char), guardClose fold word (joinChars [','] pieces) =
      joinChars [','] (pieces.map (guardClose fold word))
  | [] => rfl
  | [piece] => rfl
  | piece :: next :: pieces => by
    have rest := guardClose_joinChars comma (next :: pieces)
    rw [joinChars_comma, guardClose_append comma, rest]
    exact (joinChars_comma ..).symm

theorem not_mem_integerText (n : Nat) : '<' ∉ integerText n := by
  rw [integerText_natCast]
  intro mem
  exact absurd (isDigit_of_mem_decimalDigits mem) (by decide)

mutual

/-- The end tags in the text of a value stand in its strings. -/
theorem guardClose_charsBy (apart : ∀ d ∈ ['"', ',', ']', '\x7d'], Apart fold word d) :
    ∀ {depth : Nat} {j : Json}, j.Readable depth →
      guardClose fold word (j.charsBy body) = j.charsBy fun cs => guardClose fold word (body cs)
  | _, null, _ => guardClose_eq_self (a := "null".toList) (by decide)
  | _, bool true, _ => guardClose_eq_self (a := "true".toList) (by decide)
  | _, bool false, _ => guardClose_eq_self (a := "false".toList) (by decide)
  | _, integer _, ⟨n, _, eq⟩ => eq ▸ guardClose_eq_self (not_mem_integerText n)
  | _, double _, h => h.elim
  | _, string s, _ => by
    rw [charsBy, charsBy, List.cons_append, guardClose_cons (by decide),
      guardClose_append (apart '"' (by decide))]
    rfl
  | _, list items, ⟨_, h⟩ => by
    rw [charsBy, charsBy, List.cons_append, guardClose_cons (by decide),
      guardClose_append (apart ']' (by decide)), guardClose_joinChars (apart ',' (by decide)),
      guardClose_itemCharsBy apart h]
    rfl
  | _, table members, ⟨_, h⟩ => by
    rw [charsBy, charsBy, List.cons_append, guardClose_cons (by decide),
      guardClose_append (apart '\x7d' (by decide)), guardClose_joinChars (apart ',' (by decide)),
      guardClose_memberCharsBy apart h]
    rfl

theorem guardClose_itemCharsBy (apart : ∀ d ∈ ['"', ',', ']', '\x7d'], Apart fold word d) :
    ∀ {depth : Nat} {js : List Json}, ReadableItems depth js →
      (itemCharsBy body js).map (guardClose fold word) =
        itemCharsBy (fun cs => guardClose fold word (body cs)) js
  | _, [], _ => rfl
  | _, j :: js, ⟨here, later⟩ => by
    rw [itemCharsBy, itemCharsBy, List.map_cons, guardClose_charsBy apart here,
      guardClose_itemCharsBy apart later]

theorem guardClose_memberCharsBy (apart : ∀ d ∈ ['"', ',', ']', '\x7d'], Apart fold word d) :
    ∀ {depth : Nat} {ms : List (String × Json)}, ReadableMembers depth ms →
      (memberCharsBy body ms).map (guardClose fold word) =
        memberCharsBy (fun cs => guardClose fold word (body cs)) ms
  | _, [], _ => rfl
  | _, (k, j) :: ms, ⟨here, later⟩ => by
    rw [memberCharsBy, memberCharsBy, List.map_cons, List.cons_append,
      guardClose_cons (by decide), guardClose_append (apart '"' (by decide)),
      guardClose_cons (c := ':') (by decide), guardClose_charsBy apart here,
      guardClose_memberCharsBy apart later]
    rfl

end

/-- A guarded value is read as the value. -/
theorem read_escapeScript {j : Json} (h : j.Readable Draft.depthLimit) :
    read (escapeScript j.render) = .ok j := by
  have render : j.render.toList = j.chars := String.toList_ofList
  have text : (escapeScript j.render).toList = j.charsBy fun cs =>
      guardClose foldLetter "script".toList (cs.flatMap Quoted.escape) := by
    rw [toList_escapeScript, render, ← charsBy_escape]
    exact guardClose_charsBy (fun d => apart_script) h
  rw [← String.ofList_toList (s := escapeScript j.render), text]
  exact read_charsBy (fun cs => spells_guardClose (Quoted.spells_escape cs)) h

end Json

/-! ## Literals of scripts -/

namespace Script

open Quoted (Spells)

theorem readHex_escaped {n : Nat} (h : n < 32) (rest : List Char) (offset : Nat) :
    readHex 4 0 ⟨'0' :: '0' :: hexDigit (n / 16) :: hexDigit (n % 16) :: rest, offset⟩ =
      some (n, ⟨rest, offset + 4⟩) := by
  have high := hexValue_hexDigit (n / 16) (by omega)
  have low := hexValue_hexDigit (n % 16) (by omega)
  have zero : hexValue '0' = some 0 := by decide
  have value : ((0 * 16 + 0) * 16 + 0) * 16 + n / 16 = n / 16 := by omega
  simp only [readHex, Cursor.peek, Cursor.step, List.head?_cons, List.tail_cons, zero, high, low,
    Option.bind_eq_bind, Option.bind_some]
  congr 3
  omega

/-- An escaped character is read as the character in one step. -/
theorem scanString_escaped {c : Char} {text : List Char} (h : Quoted.Escaped c text) (fuel : Nat)
    (rest : List Char) (offset : Nat) (cooked : Cooked) (errors : List Diagnostic) :
    ∃ offset', scanString '"' (fuel + 1) ⟨text ++ rest, offset⟩ cooked errors =
      scanString '"' fuel ⟨rest, offset'⟩ (c.toNat :: cooked) errors := by
  cases h with
  | letter named =>
    have short : ∀ l ∈ Quoted.letters, ∃ offset',
        scanString '"' (fuel + 1) ⟨['\\', l.2] ++ rest, offset⟩ cooked errors =
          scanString '"' fuel ⟨rest, offset'⟩ (l.1.toNat :: cooked) errors := by
      simp only [Quoted.letters, List.forall_mem_cons]
      exact ⟨⟨_, rfl⟩, ⟨_, rfl⟩, ⟨_, rfl⟩, ⟨_, rfl⟩, ⟨_, rfl⟩, ⟨_, rfl⟩, ⟨_, rfl⟩,
        List.forall_mem_nil _⟩
    exact short _ named
  | number control =>
    have high : isHighSurrogate c.toNat = false := by simp [isHighSurrogate]; omega
    have digits := readHex_escaped control rest (offset + 1 + 1)
    refine ⟨offset + 1 + 1 + 4, ?_⟩
    have code : readCodePoint ⟨'0' :: '0' :: hexDigit (c.toNat / 16) :: hexDigit (c.toNat % 16) ::
        rest, offset + 1 + 1⟩ = some (c.toNat, ⟨rest, offset + 1 + 1 + 4⟩) := by
      simp [readCodePoint, Cursor.peek, digits, high]
    have escaped : readEscape ⟨'u' :: '0' :: '0' :: hexDigit (c.toNat / 16) ::
        hexDigit (c.toNat % 16) :: rest, offset + 1⟩ =
        ([c.toNat], ⟨rest, offset + 1 + 1 + 4⟩, true) := by
      simp only [readEscape, Cursor.step, List.tail_cons, code]
    simp only [scanString, List.cons_append, List.nil_append, Cursor.peek, List.head?_cons,
      Cursor.step, List.tail_cons, escaped, if_true]
  | plain quote backslash above =>
    refine ⟨offset + 1, ?_⟩
    have here : (⟨c :: rest, offset⟩ : Cursor).peek = some c := rfl
    have newline : c ≠ '\n' := fun same => above (by rw [same]; decide)
    have feed : c ≠ '\r' := fun same => above (by rw [same]; decide)
    rw [List.singleton_append, scanString, here]
    split
    · next h => cases h
    · next h => exact absurd (Option.some.inj h) backslash
    · next x _ h =>
      obtain rfl := Option.some.inj h
      have inner : (c == '"') = false := beq_false_of_ne quote
      have line : (c == '\n' || c == '\r') = false := by simp [newline, feed]
      rw [inner, line]
      rfl

theorem escaped_ne_nil {c : Char} {text : List Char} (h : Quoted.Escaped c text) : text ≠ [] := by
  cases h <;> exact List.cons_ne_nil _ _

theorem scanString_spells {text cs : List Char} (h : Spells text cs) (rest : List Char)
    {fuel : Nat} (enough : text.length < fuel) (offset : Nat) (cooked : Cooked)
    (errors : List Diagnostic) :
    ∃ offset', scanString '"' fuel ⟨text ++ '"' :: rest, offset⟩ cooked errors =
      ⟨.string (.ofCodePoints (cooked.reverse ++ cs.map Char.toNat)), ⟨rest, offset'⟩, errors⟩ := by
  induction h generalizing fuel offset cooked with
  | nil =>
    obtain ⟨fuel, rfl⟩ := Nat.exists_eq_add_one_of_ne_zero (Nat.ne_of_gt enough)
    exact ⟨offset + 1, by rw [List.map_nil, List.append_nil]; rfl⟩
  | @char c text cs _ ih =>
    obtain ⟨fuel, rfl⟩ := Nat.exists_eq_add_one_of_ne_zero (Nat.ne_of_gt (Nat.zero_lt_of_lt enough))
    have escaped := Quoted.escaped_escape c
    obtain ⟨offset', step⟩ :=
      scanString_escaped escaped fuel (text ++ '"' :: rest) offset cooked errors
    have length := List.length_pos_iff.2 (escaped_ne_nil escaped)
    rw [List.length_append] at enough
    have enough' : text.length < fuel := by omega
    obtain ⟨offset'', run⟩ := ih enough' offset' (c.toNat :: cooked)
    refine ⟨offset'', ?_⟩
    rw [List.append_assoc, step, run]
    simp
  | @slash text cs _ ih =>
    obtain ⟨fuel, rfl⟩ := Nat.exists_eq_add_one_of_ne_zero (Nat.ne_of_gt (Nat.zero_lt_of_lt enough))
    rw [List.length_cons, List.length_cons] at enough
    have enough' : text.length < fuel := by omega
    obtain ⟨offset', run⟩ := ih enough' (offset + 1 + 1) ('/'.toNat :: cooked)
    refine ⟨offset', ?_⟩
    have step : scanString '"' (fuel + 1) ⟨'\\' :: '/' :: (text ++ '"' :: rest), offset⟩ cooked
        errors = scanString '"' fuel ⟨text ++ '"' :: rest, offset + 1 + 1⟩ ('/'.toNat :: cooked)
        errors := rfl
    rw [List.cons_append, List.cons_append, step, run]
    simp

theorem isSurrogate_toNat (c : Char) : isSurrogate c.toNat = false := by
  have valid : c.toNat < 0xd800 ∨ 0xdfff < c.toNat ∧ c.toNat < 0x110000 := c.valid
  simp only [isSurrogate, Bool.and_eq_false_iff, decide_eq_false_iff_not]
  omega

theorem ofCodePoints_map (cs : List Char) :
    StringValue.ofCodePoints (cs.map Char.toNat) = ⟨String.ofList cs, false⟩ := by
  have lone : (cs.map Char.toNat).any isSurrogate = false := by
    simp [isSurrogate_toNat]
  simp [StringValue.ofCodePoints, lone, List.flatMap_map, isSurrogate_toNat]

/-- A spelling in quotes is read as the literal of the string, whatever comes behind it. -/
theorem scanHere_spells {text : List Char} {s : String} (h : Spells text s.toList)
    (rest : List Char) {fuel : Nat} (enough : text.length < fuel) (offset : Nat) :
    ∃ offset', Lexer.scanHere fuel false ⟨'"' :: text ++ '"' :: rest, offset⟩ =
      ⟨.string ⟨s, false⟩, ⟨rest, offset'⟩, []⟩ := by
  obtain ⟨offset', run⟩ := scanString_spells h rest enough (offset + 1) [] []
  refine ⟨offset', ?_⟩
  rw [List.reverse_nil, List.nil_append, ofCodePoints_map, String.ofList_toList] at run
  rw [← run]
  rfl

end Script

/-! ## The data of a preview's script -/

theorem toList_escapeScript_quote (s : String) :
    ∃ text, (escapeScript (quote s)).toList = '"' :: text ++ ['"'] ∧
      Quoted.Spells text s.toList := by
  have apart : Apart foldLetter "script".toList '"' := apart_script (by decide)
  refine ⟨guardClose foldLetter "script".toList (s.toList.flatMap Quoted.escape), ?_,
    spells_guardClose (Quoted.spells_escape s.toList)⟩
  have chars : (quote s).toList = '"' :: (s.toList.flatMap Quoted.escape ++ ['"']) :=
    String.toList_ofList
  rw [toList_escapeScript, chars, guardClose_cons (by decide)]
  exact congrArg _ (guardClose_append apart _ [])

theorem readable_members (es : List (String × String)) {depth : Nat} (deep : 1 < depth) :
    (LoaderTables.members es).Readable depth := by
  refine ⟨deep, Json.readableMembers_iff.2 fun m mem => ?_⟩
  obtain ⟨e, -, rfl⟩ := List.mem_map.1 mem
  trivial

theorem readable_tables (t : LoaderTables) : t.toJson.Readable Json.Draft.depthLimit := by
  have deep : 1 < Json.Draft.depthLimit - 1 := by decide
  refine ⟨by decide, readable_members _ deep, readable_members _ deep, readable_members _ deep,
    Json.readable_strings deep _, readable_members _ deep, readable_members _ deep,
    Json.readable_strings deep _, trivial⟩

/-- Guarding changes no data. The tables of a loader, guarded or not, are read as what was put
into them, and a quoted string is read as the string, as data and as a literal of a script. What is
guarded needs no guarding. -/
theorem script_data_survives :
    (∀ (r : Registry) (globals : Table String),
      let text := (LoaderTables.ofRegistry r globals).toJson.render
      Json.read (escapeScript text) = Json.read text ∧
      Json.read text = .ok (.table [
        ("aliases", LoaderTables.members r.moduleAliases.entries),
        ("builtins", LoaderTables.members Globals.builtins),
        ("globals", LoaderTables.members globals.entries),
        ("prefixedSuffixes", .strings Specifier.prefixedSuffixes),
        ("stylesheetAliases", LoaderTables.members r.stylesheetAliases.entries),
        ("stylesheets", LoaderTables.members (r.stylesheets.entries.map fun e => (e.1, e.2.text))),
        ("suffixes", .strings Specifier.suffixes)])) ∧
    (∀ s : String, Json.read (escapeScript (quote s)) = .ok (.string s) ∧
      ∀ (rest : List Char) (more offset : Nat), ∃ offset',
        Script.Lexer.scanHere ((escapeScript (quote s)).toList.length + more) false
            ⟨(escapeScript (quote s)).toList ++ rest, offset⟩ =
          ⟨.string ⟨s, false⟩, ⟨rest, offset'⟩, []⟩) ∧
    (∀ code : String, escapeScript (escapeScript code) = escapeScript code) := by
  refine ⟨fun r globals => ?_, fun s => ⟨?_, fun rest more offset => ?_⟩,
    escapeScript_escapeScript⟩
  · have readable := readable_tables (LoaderTables.ofRegistry r globals)
    have plain := Json.read_render readable
    refine ⟨(Json.read_escapeScript readable).trans plain.symm, plain.trans ?_⟩
    have texts : (r.stylesheets.map (·.text)).entries =
        r.stylesheets.entries.map fun e => (e.1, e.2.text) :=
      congrFun List.filterMap_eq_map r.stylesheets.entries
    rw [LoaderTables.toJson, LoaderTables.ofRegistry, texts]
  · exact Json.read_escapeScript (j := .string s) trivial
  · obtain ⟨text, chars, spells⟩ := toList_escapeScript_quote s
    have enough : text.length < (escapeScript (quote s)).toList.length + more := by
      rw [chars, List.length_append, List.length_cons]
      omega
    obtain ⟨offset', scan⟩ := Script.scanHere_spells spells rest enough offset
    refine ⟨offset', ?_⟩
    rw [← scan, chars, List.append_assoc]
    rfl

end LivePreview
