import LivePreview.Script.Kind
import LivePreview.Proofs.Lowering.Places

/-!
# The order of statements

The statements of a source that could be read come one behind the other, round by round of one loop:
what is said of them statement by statement (`Chains`) holds if it holds of every statement that the
grammar yields (`Chains.of_parse`). So they stand in the text in their order, the imports and
exports with them (`laid_of_parse`).
-/

namespace LivePreview.Script

open Script.Parser Grammar

/-- Statements of the text `cs` from `lo` on stand in their order. -/
def Laid (cs : List Char) : Nat → List Stmt → Prop
  | _, [] => True
  | lo, s :: rest => ∃ hi, lo ≤ hi ∧ hi ≤ cs.length ∧ Placed cs lo s hi ∧ Laid cs hi rest

theorem Laid.mono {cs : List Char} {lo lo' : Nat} {statements : List Stmt}
    (h : Laid cs lo statements) (le : lo' ≤ lo) : Laid cs lo' statements := by
  cases statements with
  | nil => trivial
  | cons s rest =>
    obtain ⟨hi, reach, bounded, placed, rest⟩ := h
    exact ⟨hi, Nat.le_trans le reach, bounded, placed.mono le (Nat.le_refl _), rest⟩

theorem Laid.tail {cs : List Char} {lo : Nat} {s : Stmt} {rest : List Stmt}
    (h : Laid cs lo (s :: rest)) : Laid cs lo rest := by
  obtain ⟨hi, reach, -, -, rest⟩ := h
  exact rest.mono reach

variable {cs : List Char} {c : Scope} {Q : Nat → Stmt → Nat → Prop} {R : Nat → List Stmt → Prop}

theorem State.InPlace.bounded {s : State} (h : s.InPlace cs) : s.prevStop ≤ cs.length := by
  obtain ⟨d, ⟨n, hn, rfl⟩, between⟩ := h.token
  have start : s.token.start = n := between.start.trans (Nat.zero_add n)
  exact Nat.le_trans h.behind (start ▸ hn)

/-- What `R` says of statements from a place on, it says of them one by one: `Q` holds of each, one
behind the other. -/
structure Chains (cs : List Char) (Q : Nat → Stmt → Nat → Prop) (R : Nat → List Stmt → Prop) :
    Prop where
  nil (lo : Nat) : R lo []
  cons {lo hi : Nat} {s : Stmt} {rest : List Stmt} :
    lo ≤ hi → hi ≤ cs.length → Q lo s hi → R hi rest → R lo (s :: rest)
  tail {lo : Nat} {s : Stmt} {rest : List Stmt} : R lo (s :: rest) → R lo rest

namespace Chains

/-- Each round of the loop over statements adds one more. -/
theorem iterate (h : Chains cs Q R) {done : Parser Bool} {p : Parser Stmt}
    (hp : ∀ n, After cs c n p (Q n)) {fuel : Nat} {acc out : List Stmt} {s t : State}
    (hs : s.InPlace cs)
    (hr : (Parser.iterate (fun acc => do
      if ← done then return (acc, false)
      return ((← p) :: acc, true)) fuel acc).run c s = .ok out t)
    (clean : t.errors = []) : ∃ new, out = new.reverse ++ acc ∧ R s.prevStop new := by
  induction fuel generalizing acc s with
  | zero =>
    cases hr
    exact ⟨[], rfl, h.nil _⟩
  | succ fuel ih =>
    obtain ⟨⟨acc', more⟩, u, hb, hr⟩ := run_bind hr
    obtain ⟨stop, s', hd, hb⟩ := run_bind hb
    have first := done.leads hs hd
    split at hb
    · cases hb
      cases hr
      exact ⟨[], rfl, h.nil _⟩
    · obtain ⟨a, s'', ha, hb⟩ := run_bind hb
      cases hb
      have second := p.leads first.inPlace ha
      obtain ⟨new, rfl, rest⟩ := ih second.inPlace hr
      have clean' := ((Parser.iterate _ fuel _).leads second.inPlace hr).errors clean
      have here := (hp s.prevStop).yields first.inPlace
        (Nat.le_trans hs.behind first.start) ha clean'
      refine ⟨a :: new, by simp, h.cons ?_ second.inPlace.bounded here rest⟩
      exact Nat.le_trans first.prevStop second.prevStop

theorem wholeSource (h : Chains cs Q R)
    (stmt : ∀ n g, After cs c n (anyStatement g .list) (Q n)) {s t : State} {out : List Stmt}
    (hs : s.InPlace cs) (hr : Parser.wholeSource.run c s = .ok out t) (clean : t.errors = []) :
    R s.prevStop out := by
  have rule (n : Nat) :
      After cs c n ((Grammar.upTo Grammar.rules (4 * c.fuel + 64)).stmt .list) (Q n) := by
    change After cs c n (delayed fun _ => anyStatement _ .list) _
    exact .delayed (stmt n _)
  obtain ⟨_, _, hc, hr⟩ := run_bind hr
  cases hc
  obtain ⟨items, u, hi, hr⟩ := run_bind hr
  cases hr
  obtain ⟨_, _, hc, hi⟩ := run_bind hi
  cases hc
  obtain ⟨new, rfl, all⟩ := h.iterate rule hs hi clean
  simpa using all

theorem splitDirectives (h : Chains cs Q R) {source : Nat → Nat → String} {lo : Nat}
    {statements : List Stmt} (all : R lo statements) :
    R lo (Grammar.splitDirectives source statements).2 := by
  fun_induction Grammar.splitDirectives source statements with
  | case1 _ _ _ _ _ _ _ split ih =>
    rw [split] at ih
    exact ih (h.tail all)
  | case2 => exact all
  | case3 => exact all

end Chains

theorem inPlace_first (kind : SourceKind) (n : Nat) {cursor : Cursor}
    (h : Cursor.Reaches ⟨cs, 0⟩ cursor) : (State.first kind n cursor).InPlace cs :=
  ⟨Nat.zero_le _, (Lexer.follows_next ..).after h⟩

theorem reaches_hashbang (cs : List Char) : Cursor.Reaches ⟨cs, 0⟩ (hashbang cs).2 := by
  unfold hashbang
  split
  · exact Cursor.reaches_span _ _
  · exact .refl _

/-- What holds of every statement that the grammar yields holds of the statements of a source. -/
theorem Chains.of_parse {kind : SourceKind} {source : String} {program : Program}
    (h : Chains source.toList Q R)
    (stmt : ∀ n g, After source.toList (Scope.top kind source.toList.length) n
      (anyStatement g .list) (Q n))
    (parsed : parse kind source = .ok program) : R 0 program.body.statements := by
  unfold parse at parsed
  dsimp only at parsed
  split at parsed
  · cases parsed
  · next statements s hr =>
    split at parsed
    · next clean =>
      cases parsed
      have first := inPlace_first kind source.toList.length (reaches_hashbang source.toList)
      refine h.splitDirectives (h.wholeSource stmt first hr ?_)
      simp only [allFaults, List.append_eq_nil_iff, List.reverse_eq_nil_iff] at clean
      exact clean.1.1.2
    · cases parsed

theorem chains_laid (cs : List Char) : Chains cs (Placed cs) (Laid cs) where
  nil _ := trivial
  cons reach bounded placed rest := ⟨_, reach, bounded, placed, rest⟩
  tail := Laid.tail

/-- The statements of a module are laid out in their order. -/
theorem laid_of_parse {kind : SourceKind} {source : String} {program : Program}
    (goal : kind.module = true) (h : parse kind source = .ok program) :
    Laid source.toList 0 program.body.statements :=
  (chains_laid _).of_parse (fun _ g => after_anyStatement g .list rfl goal) h

end LivePreview.Script
