import LivePreview.Script.Parser

/-!
# What parsers yield

Rules for what holds of the value of a parser and the end of the last token it took. `After` speaks
of runs that start at a token at `n` or behind, `Past` of runs where a token that ends there is
taken already. Both are closed under sequencing, for no parser goes back.
-/

namespace LivePreview.Script.Parser

variable {α β : Type}

/-- Run on the text `cs` where `c` is allowed, from a token at `n` or behind, `p` yields values that
satisfy `Q` together with the end of the last token taken. -/
structure After (cs : List Char) (c : Scope) (n : Nat) (p : Parser α) (Q : α → Nat → Prop) :
    Prop where
  yields {s t : State} {a : α} (h : s.InPlace cs) (hn : n ≤ s.token.start)
    (hr : p.run c s = .ok a t) (clean : t.errors = []) : Q a t.prevStop

/-- The same from a state in which the token before ends at `n` or behind. -/
structure Past (cs : List Char) (c : Scope) (n : Nat) (p : Parser α) (Q : α → Nat → Prop) :
    Prop where
  yields {s t : State} {a : α} (h : s.InPlace cs) (hn : n ≤ s.prevStop)
    (hr : p.run c s = .ok a t) (clean : t.errors = []) : Q a t.prevStop

/-- The parser takes a token. -/
structure Eats (p : Parser α) : Prop where
  eats {cs : List Char} {c : Scope} {s t : State} {a : α} (h : s.InPlace cs)
    (hr : p.run c s = .ok a t) : s.token.start ≤ t.prevStop

theorem run_bind {p : Parser α} {f : α → Parser β} {c : Scope} {s t : State} {b : β}
    (h : (p >>= f).run c s = .ok b t) : ∃ a u, p.run c s = .ok a u ∧ (f a).run c u = .ok b t := by
  change (Parser.bind p f).run c s = _ at h
  simp only [Parser.bind] at h
  split at h
  · next hp => exact ⟨_, _, hp, h⟩
  · cases h

variable {cs : List Char} {c : Scope} {m n : Nat} {Q : α → Nat → Prop}

/-! ## Sequencing -/

theorem After.past {p : Parser α} (h : After cs c n p Q) : Past cs c n p Q where
  yields hs hn hr clean := h.yields hs (Nat.le_trans hn hs.behind) hr clean

theorem After.mono {p : Parser α} (h : After cs c n p Q) (le : n ≤ m) : After cs c m p Q where
  yields hs hm hr clean := h.yields hs (Nat.le_trans le hm) hr clean

theorem After.imp {p : Parser α} {R : α → Nat → Prop} (h : After cs c n p R)
    (imp : ∀ a stop, R a stop → Q a stop) : After cs c n p Q where
  yields hs hn hr clean := imp _ _ (h.yields hs hn hr clean)

theorem After.bind {p : Parser β} {f : β → Parser α} (h : ∀ b, After cs c n (f b) Q) :
    After cs c n (p >>= f) Q where
  yields hs hn hr clean := by
    obtain ⟨b, u, hp, hf⟩ := run_bind hr
    have leads := p.leads hs hp
    exact (h b).yields leads.inPlace (Nat.le_trans hn leads.start) hf clean

theorem Past.bind {p : Parser β} {f : β → Parser α} (h : ∀ b, Past cs c n (f b) Q) :
    Past cs c n (p >>= f) Q where
  yields hs hn hr clean := by
    obtain ⟨b, u, hp, hf⟩ := run_bind hr
    have leads := p.leads hs hp
    exact (h b).yields leads.inPlace (Nat.le_trans hn leads.prevStop) hf clean

theorem After.eat {p : Parser β} {f : β → Parser α} (hp : Eats p) (h : ∀ b, Past cs c n (f b) Q) :
    After cs c n (p >>= f) Q where
  yields hs hn hr clean := by
    obtain ⟨b, u, hr, hf⟩ := run_bind hr
    exact (h b).yields (p.leads hs hr).inPlace (Nat.le_trans hn (hp.eats hs hr)) hf clean

/-- What is known of the value of `p` is known behind it. -/
theorem After.seq {p : Parser β} {f : β → Parser α} {R : β → Nat → Prop} (hp : After cs c n p R)
    (h : ∀ b stop, R b stop → Past cs c stop (f b) Q) : After cs c n (p >>= f) Q where
  yields hs hn hr clean := by
    obtain ⟨b, u, hr, hf⟩ := run_bind hr
    have leads := p.leads hs hr
    have known := hp.yields hs hn hr (((f b).leads leads.inPlace hf).errors clean)
    exact (h b _ known).yields leads.inPlace (Nat.le_refl _) hf clean

theorem Past.seq {p : Parser β} {f : β → Parser α} {R : β → Nat → Prop} (hp : Past cs c n p R)
    (h : ∀ b stop, R b stop → Past cs c stop (f b) Q) : Past cs c n (p >>= f) Q where
  yields hs hn hr clean := by
    obtain ⟨b, u, hr, hf⟩ := run_bind hr
    have leads := p.leads hs hr
    have known := hp.yields hs hn hr (((f b).leads leads.inPlace hf).errors clean)
    exact (h b _ known).yields leads.inPlace (Nat.le_refl _) hf clean

/-- The end stays behind what was taken before. -/
theorem Past.reach {p : Parser α} (h : Past cs c n p Q) :
    Past cs c n p fun a stop => n ≤ stop ∧ Q a stop where
  yields hs hn hr clean :=
    ⟨Nat.le_trans hn (p.leads hs hr).prevStop, h.yields hs hn hr clean⟩

theorem After.within {f : Scope → Scope} {p : Parser α} (h : After cs (f c) n p Q) :
    After cs c n (within f p) Q where
  yields hs hn hr clean := h.yields hs hn hr clean

theorem After.delayed {p : Unit → Parser α} (h : After cs c n (p ()) Q) :
    After cs c n (delayed p) Q where
  yields hs hn hr clean := h.yields hs hn hr clean

/-! ## Values and places -/

theorem After.pure {a : α} (h : ∀ stop, Q a stop) : After cs c n (pure a) Q where
  yields _ _ hr _ := by
    cases hr
    exact h _

theorem Past.pure {a : α} (h : ∀ stop, n ≤ stop → Q a stop) : Past cs c n (pure a) Q where
  yields _ hn hr _ := by
    cases hr
    exact h _ hn

theorem After.stop {f : Scope → State → List Diagnostic} : After cs c n (stop f) Q where
  yields _ _ hr _ := by cases hr

theorem After.start {f : Nat → Parser α} (h : ∀ m, n ≤ m → After cs c m (f m) Q) :
    After cs c n (startPos >>= f) Q where
  yields {s _ _} hs hn hr clean := (h s.token.start hn).yields hs (Nat.le_refl _) hr clean

theorem Past.start {f : Nat → Parser α} (h : ∀ m, n ≤ m → After cs c m (f m) Q) :
    Past cs c n (startPos >>= f) Q :=
  (After.start h).past

theorem After.token {f : Token → Parser α} (h : ∀ t : Token, n ≤ t.start → After cs c n (f t) Q) :
    After cs c n (token >>= f) Q where
  yields {s _ _} hs hn hr clean := (h s.token hn).yields hs hn hr clean

theorem After.span {start : Nat} {f : Span → Parser α}
    (h : ∀ stop, Past cs c stop (f ⟨start, stop⟩) Q) : After cs c n (spanFrom start >>= f) Q where
  yields {s _ _} hs _ hr clean := (h s.prevStop).yields hs (Nat.le_refl _) hr clean

theorem Past.span {start : Nat} {f : Span → Parser α}
    (h : ∀ stop, n ≤ stop → Past cs c stop (f ⟨start, stop⟩) Q) :
    Past cs c n (spanFrom start >>= f) Q where
  yields {s _ _} hs hn hr clean := (h s.prevStop hn).yields hs (Nat.le_refl _) hr clean

/-- The span of a value made at the end ends there. -/
theorem After.close {start : Nat} {f : Span → α} (h : ∀ stop, Q (f ⟨start, stop⟩) stop) :
    After cs c n (spanFrom start >>= fun span => Pure.pure (f span)) Q where
  yields _ _ hr _ := by
    cases hr
    exact h _

theorem Past.close {start : Nat} {f : Span → α} (h : ∀ stop, n ≤ stop → Q (f ⟨start, stop⟩) stop) :
    Past cs c n (spanFrom start >>= fun span => Pure.pure (f span)) Q where
  yields {s _ _} _ hn hr _ := by
    cases hr
    exact h s.prevStop hn

/-! ## Taking tokens -/

theorem Eats.bind {p : Parser α} {f : α → Parser β} (h : Eats p) : Eats (p >>= f) where
  eats hs hr := by
    obtain ⟨a, u, hp, hf⟩ := run_bind hr
    exact Nat.le_trans (h.eats hs hp) ((f a).leads (p.leads hs hp).inPlace hf).prevStop

theorem Eats.behind {p : Parser α} {f : α → Parser β} (h : ∀ a, Eats (f a)) : Eats (p >>= f) where
  eats hs hr := by
    obtain ⟨a, u, hp, hf⟩ := run_bind hr
    have leads := p.leads hs hp
    exact Nat.le_trans leads.start ((h a).eats leads.inPlace hf)

theorem eats_stop {f : Scope → State → List Diagnostic} : Eats (stop f : Parser α) where
  eats _ hr := by cases hr

theorem eats_advance : Eats advance where
  eats hs hr := by
    cases hr
    exact hs.token.ordered

theorem eats_advanceName : Eats advanceName where
  eats hs hr := by
    cases hr
    exact hs.token.ordered

theorem eats_expectWord (name : String) : Eats (expectWord name) := by
  refine .behind fun found => ?_
  split
  · exact eats_advance
  · exact eats_stop

theorem eats_expect (p : Punct) : Eats (expect p) := by
  refine .behind fun found => ?_
  split
  · exact eats_advance
  · exact eats_stop

theorem eats_bindingName : Eats bindingName := by
  refine .behind fun t => ?_
  split
  · dsimp only
    split
    · exact .bind eats_stop
    · exact .behind fun _ => .bind eats_advanceName
  · exact eats_stop

theorem eats_stringLiteral : Eats stringLiteral := by
  refine .behind fun t => ?_
  split
  · exact .bind eats_advance
  · exact eats_stop

/-! ## Words -/

theorem run_expectWord {name : String} {s t : State} {u : Unit}
    (hr : (expectWord name).run c s = .ok u t) :
    s.token.isWord name = true ∧ advance.run c s = .ok u t := by
  obtain ⟨found, s', hp, hf⟩ := run_bind hr
  cases hp
  split at hf
  · next h => exact ⟨h, hf⟩
  · cases hf

/-- A keyword that is taken without faults stands in the text as it is. -/
theorem spells_of_advance {name : String} {s t : State} {u : Unit} (hs : s.InPlace cs)
    (word : s.token.isWord name = true) (keyword : isKeyword name = true)
    (hr : advance.run c s = .ok u t) (clean : t.errors = []) :
    Cursor.Spells ⟨cs.drop s.token.start, s.token.start⟩ name s.lexer.cursor := by
  cases hr
  obtain ⟨d, hd, between⟩ := hs.token
  rw [between.start, ← hd.eq_drop]
  apply between.spelled
  unfold Token.isWord at word
  split at word
  · next n spelling hk =>
    rw [beq_iff_eq.1 word] at hk
    cases spelling with
    | none => rw [hk]; rfl
    | some spelling => simp [hk, keyword] at clean
  · cases word

/-- The end of the word is where the next token is read from. -/
theorem Spells.stop_eq {name : String} {s : State} (hs : s.InPlace cs)
    (spelled : Cursor.Spells ⟨cs.drop s.token.start, s.token.start⟩ name s.lexer.cursor) :
    s.token.stop = s.token.start + name.length := by
  obtain ⟨d, -, between⟩ := hs.token
  exact between.stop.trans spelled.offset

theorem After.word {name : String} (keyword : isKeyword name = true) {f : Nat → Parser α}
    (h : ∀ m, n ≤ m → Past cs c (m + name.length) (f m) Q) :
    After cs c n (startPos >>= fun start => expectWord name >>= fun _ => f start) Q where
  yields {s t a} hs hn hr clean := by
    obtain ⟨u, s', hw, hf⟩ := run_bind (p := expectWord name) (f := fun _ => f s.token.start) hr
    obtain ⟨word, moved⟩ := run_expectWord hw
    have leads := (expectWord name).leads hs hw
    have clean' := ((f s.token.start).leads leads.inPlace hf).errors clean
    have stop := Spells.stop_eq hs (spells_of_advance hs word keyword moved clean')
    have prev : s'.prevStop = s.token.stop := by
      cases moved
      rfl
    exact (h _ hn).yields leads.inPlace (by omega) hf clean

/-! ## The token at hand -/

/-- The same from a state at the token `token`. -/
structure At (cs : List Char) (c : Scope) (token : Token) (n : Nat) (p : Parser α)
    (Q : α → Nat → Prop) : Prop where
  yields {s t : State} {a : α} (h : s.InPlace cs) (ht : s.token = token) (hn : n ≤ s.prevStop)
    (hr : p.run c s = .ok a t) (clean : t.errors = []) : Q a t.prevStop

theorem Past.at {token : Token} {p : Parser α} (h : Past cs c n p Q) : At cs c token n p Q where
  yields hs _ hn hr clean := h.yields hs hn hr clean

theorem At.token {t : Token} {f : Token → Parser α} (h : At cs c t n (f t) Q) :
    At cs c t n (token >>= f) Q where
  yields hs ht hn hr clean := by
    subst ht
    exact h.yields hs rfl hn hr clean

end LivePreview.Script.Parser
