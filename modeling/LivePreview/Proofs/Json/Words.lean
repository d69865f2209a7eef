import LivePreview.Json.Reader

/-!
# Reading what was written: words, strings and numbers

A string in quotes is read as the string, also where slashes have backslashes before them
(`readQuoted_spells`), and the digits of a natural of at most sixty-four bits as the natural
(`readNumber_decimalDigits`), whatever value or text is around them. Where in the text they stand
does not matter.
-/

namespace LivePreview.Text.Quoted

/-- The characters that have a letter or sign of their own to stand behind a backslash. -/
def letters : List (Char × Char) :=
  [('"', '"'), ('\\', '\\'), ('\n', 'n'), ('\r', 'r'), ('\t', 't'), ('\x08', 'b'), ('\x0c', 'f')]

/-- How a character is escaped. -/
inductive Escaped (c : Char) : List Char → Prop where
  | letter {d : Char} : (c, d) ∈ letters → Escaped c ['\\', d]
  | number : c.toNat < 32 →
      Escaped c ['\\', 'u', '0', '0', hexDigit (c.toNat / 16), hexDigit (c.toNat % 16)]
  | plain : c ≠ '"' → c ≠ '\\' → ¬ c.toNat < 32 → Escaped c [c]

theorem escaped_escape (c : Char) : Escaped c (escape c) := by
  by_cases named : c ∈ letters.map (·.1)
  · obtain ⟨⟨_, d⟩, mem, rfl⟩ := List.mem_map.1 named
    have short : ∀ l ∈ letters, escape l.1 = ['\\', l.2] := by decide
    rw [short _ mem]
    exact .letter mem
  · simp only [letters, List.map_cons, List.map_nil, List.mem_cons, List.not_mem_nil, or_false,
      not_or] at named
    obtain ⟨quote, backslash, newline, feed, tab, back, page⟩ := named
    rw [escape, if_neg quote, if_neg backslash, if_neg newline, if_neg feed, if_neg tab,
      if_neg back, if_neg page]
    split
    · next control => exact .number control
    · next above => exact .plain quote backslash above

/-- The characters `cs` as they may stand in quotes: escaped, and a slash with a backslash before
it or without. -/
inductive Spells : List Char → List Char → Prop where
  | nil : Spells [] []
  | char (c : Char) {text cs : List Char} : Spells text cs → Spells (escape c ++ text) (c :: cs)
  | slash {text cs : List Char} : Spells text cs → Spells ('\\' :: '/' :: text) ('/' :: cs)

theorem spells_escape (cs : List Char) : Spells (cs.flatMap escape) cs := by
  induction cs with
  | nil => exact .nil
  | cons c cs ih => exact .char c ih

end LivePreview.Text.Quoted

namespace LivePreview.Json

open Text

/-! ## Strings -/

theorem hexValue4_escaped {n : Nat} (h : n < 32) :
    hexValue4 '0' '0' (hexDigit (n / 16)) (hexDigit (n % 16)) = some n := by
  have high := hexValue_hexDigit (n / 16) (by omega)
  have low := hexValue_hexDigit (n % 16) (by omega)
  have zero : hexValue '0' = some 0 := by decide
  simp only [hexValue4, zero, high, low, Option.bind_eq_bind, Option.bind_some, pure]
  congr 1
  omega

/-- An escaped character is read as the character. -/
theorem readString_escaped {c : Char} {text : List Char} (h : Quoted.Escaped c text)
    (acc : List Char) (p : Place) (cs : List Char) :
    ∃ q, readString (.ok acc) p (text ++ cs) = readString (.ok (c :: acc)) q cs := by
  cases h with
  | letter named =>
    have short : ∀ l ∈ Quoted.letters, ∃ q,
        readString (.ok acc) p (['\\', l.2] ++ cs) = readString (.ok (l.1 :: acc)) q cs := by
      simp only [Quoted.letters, List.forall_mem_cons]
      exact ⟨⟨_, rfl⟩, ⟨_, rfl⟩, ⟨_, rfl⟩, ⟨_, rfl⟩, ⟨_, rfl⟩, ⟨_, rfl⟩, ⟨_, rfl⟩,
        List.forall_mem_nil _⟩
    exact short _ named
  | number control =>
    have low : isLowSurrogate c.toNat = false := by simp [isLowSurrogate]; omega
    have high : isHighSurrogate c.toNat = false := by simp [isHighSurrogate]; omega
    refine ⟨((p.after '\\').after 'u').afterBytes 4
      ['0', '0', hexDigit (c.toNat / 16), hexDigit (c.toNat % 16)], ?_⟩
    simp only [List.cons_append, List.nil_append]
    rw [readString]
    simp only [hexValue4_escaped control, low, high, Char.ofNat_toNat, Bool.false_eq_true, if_false]
    rfl
  | plain quote backslash above =>
    refine ⟨p.after c, ?_⟩
    rw [List.singleton_append, readString]
    · rw [if_neg above]
      rfl
    · exact quote
    · intro _ _ _ _ _ h
      exact absurd h backslash
    · exact backslash

theorem readString_spells {text cs : List Char} (h : Quoted.Spells text cs) (acc rest : List Char)
    (p : Place) :
    ∃ q, readString (.ok acc) p (text ++ '"' :: rest) =
      .closed (.ok (acc.reverse ++ cs)) ⟨rest, q⟩ := by
  induction h generalizing acc p with
  | nil => exact ⟨p.after '"', by simp [readString, Except.map]⟩
  | @char c text cs _ ih =>
    obtain ⟨q, step⟩ := readString_escaped (Quoted.escaped_escape c) acc p (text ++ '"' :: rest)
    obtain ⟨q', run⟩ := ih (c :: acc) q
    refine ⟨q', ?_⟩
    rw [List.append_assoc, step, run]
    simp
  | @slash text cs _ ih =>
    obtain ⟨q, run⟩ := ih ('/' :: acc) ((p.after '\\').after '/')
    refine ⟨q, ?_⟩
    have step : readString (.ok acc) p ('\\' :: '/' :: (text ++ '"' :: rest)) =
        readString (.ok ('/' :: acc)) ((p.after '\\').after '/') (text ++ '"' :: rest) := rfl
    rw [List.cons_append, List.cons_append, step, run]
    simp

/-- A quoted text is read as the text. -/
theorem readQuoted_spells {s : String} {text : List Char} (h : Quoted.Spells text s.toList)
    (rest : List Char) (p : Place) :
    ∃ q, readQuoted ⟨text ++ '"' :: rest, p⟩ =
      (.scalar (.string s) (some q), some ⟨rest, q⟩) := by
  obtain ⟨q, run⟩ := readString_spells h [] rest p
  refine ⟨q, ?_⟩
  simp only [readQuoted, run]
  simp

/-! ## Words -/

theorem readWord_append (s : Scalar) (word rest : List Char) (p : Place) :
    ∃ q, readWord s word ⟨word ++ rest, p⟩ = (.scalar s (some q), some ⟨rest, q⟩) := by
  induction word generalizing p with
  | nil => exact ⟨p, rfl⟩
  | cons c cs ih =>
    obtain ⟨q, read⟩ := ih (p.after c)
    exact ⟨q, by simpa [readWord, Input.step] using read⟩

/-! ## Numbers -/

theorem takeDigits_eq {cs : List Char} {n : Nat} (h : Nat.ofDigitChars 10 cs n ≤ maxNatural) :
    takeDigits n cs = (Nat.ofDigitChars 10 cs n, []) := by
  induction cs generalizing n with
  | nil => rfl
  | cons c cs ih =>
    have comm : n * 10 + (c.toNat - 48) = 10 * n + (c.toNat - '0'.toNat) := by
      rw [Nat.mul_comm]
      rfl
    rw [Nat.ofDigitChars_cons, ← comm] at h ⊢
    have grows : n * 10 + (c.toNat - 48) ≤
        Nat.ofDigitChars 10 cs (n * 10 + (c.toNat - 48)) := by
      rw [Nat.ofDigitChars_eq_ofDigitChars_zero]
      have := Nat.le_mul_of_pos_left (n * 10 + (c.toNat - 48))
        (Nat.pow_pos (n := cs.length) (show 0 < 10 by decide))
      omega
    rw [takeDigits]
    rw [if_neg (Nat.not_lt.2 (Nat.le_trans grows h)), ih h]

theorem isDigit_of_mem_decimalDigits {c : Char} {n : Nat} (h : c ∈ decimalDigits n) :
    c.isDigit = true := Nat.isDigit_of_mem_toDigits (by decide) (by decide) h

/-- A number begins with a digit, and with a zero only if it is that. -/
theorem decimalDigits_cons (n : Nat) :
    ∃ c cs, decimalDigits n = c :: cs ∧ c.isDigit = true ∧ (c = '0' → cs = []) := by
  have zero : ∀ n, 0 < n → ∀ c ∈ (decimalDigits n).head?, c ≠ '0' := by
    intro n
    induction n using Nat.strongRecOn with
    | ind n ih =>
      intro pos
      by_cases small : n < 10
      · have digits : ∀ n < 10, 0 < n → n.digitChar ≠ '0' := by decide
        rw [decimalDigits, Nat.toDigits_of_lt_base small]
        rintro c ⟨⟩
        exact digits n small pos
      · have front := ih (n / 10) (by omega) (by omega)
        rw [decimalDigits] at front ⊢
        rw [Nat.toDigits_of_base_le (by decide) (by omega)]
        cases eq : Nat.toDigits 10 (n / 10) with
        | nil => exact absurd eq Nat.toDigits_ne_nil
        | cons c cs =>
          rw [eq] at front
          exact front
  cases eq : decimalDigits n with
  | nil => exact absurd eq Nat.toDigits_ne_nil
  | cons c cs =>
    refine ⟨c, cs, rfl, isDigit_of_mem_decimalDigits (n := n) (by simp [eq]), fun h => ?_⟩
    rcases Nat.eq_zero_or_pos n with rfl | pos
    · exact (List.cons.inj eq).2.symm
    · exact absurd h (zero n pos c (by simp [eq]))

/-- What may follow a value: the end of the text, or of the list or table around it, or a comma. -/
def Ends (rest : List Char) : Prop := ∀ c ∈ rest.head?, c = ',' ∨ c = ']' ∨ c = '\x7d'

theorem span_decimalDigits (n : Nat) {rest : List Char} (ends : Ends rest) (p : Place) :
    ∃ q, Input.span Char.isDigit ⟨decimalDigits n ++ rest, p⟩ = (decimalDigits n, ⟨rest, q⟩) := by
  have digits : ∀ c ∈ decimalDigits n, c.isDigit = true := fun c =>
    isDigit_of_mem_decimalDigits
  have stop : rest.takeWhile Char.isDigit = [] ∧ rest.dropWhile Char.isDigit = rest := by
    cases rest with
    | nil => exact ⟨rfl, rfl⟩
    | cons c rest =>
      rcases ends c rfl with rfl | rfl | rfl
      · exact ⟨rfl, rfl⟩
      · exact ⟨rfl, rfl⟩
      · exact ⟨rfl, rfl⟩
  refine ⟨(decimalDigits n).foldl Place.after p, ?_⟩
  simp [Input.span, List.takeWhile_append_of_pos digits, List.dropWhile_append_of_pos digits, stop]

/-- A natural is read as the natural, if it has at most sixty-four bits. -/
theorem readNumber_decimalDigits {n : Nat} (fits : n ≤ maxNatural) {rest : List Char}
    (ends : Ends rest) (p : Place) :
    ∃ q, readNumber false ⟨decimalDigits n ++ rest, p⟩ =
      (.scalar (.integer n) (some q), some ⟨rest, q⟩) := by
  obtain ⟨q, span⟩ := span_decimalDigits n ends p
  have taken : takeDigits 0 (decimalDigits n) = (n, []) := by
    have value : Nat.ofDigitChars 10 (decimalDigits n) 0 = n := Nat.ofDigitChars_ten_toDigits
    rw [takeDigits_eq (by rw [value]; exact fits), value]
  obtain ⟨c, cs, eq, digit, single⟩ := decimalDigits_cons n
  have lone : (c == '0' && (cs ++ rest).head?.any Char.isDigit) = false := by
    by_cases zero : c = '0'
    · rw [single zero, List.nil_append]
      cases rest with
      | nil => simp
      | cons d rest =>
        rcases ends d rfl with rfl | rfl | rfl
        · simp
        · simp
        · simp
    · simp [zero]
  refine ⟨q, ?_⟩
  rw [eq] at span taken ⊢
  rw [List.cons_append] at span ⊢
  simp only [readNumber, digit, lone, span, taken]
  cases rest with
  | nil => rfl
  | cons d rest =>
    rcases ends d rfl with rfl | rfl | rfl
    · rfl
    · rfl
    · rfl

end LivePreview.Json
