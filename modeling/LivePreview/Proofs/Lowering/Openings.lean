import LivePreview.Proofs.Lowering.Order

/-!
# How imports and exports start

Every import and export that lowering edits starts with the word `import` or `export`, written
without escapes (`opens_of_parse`): one rule for each production that yields one, and so for all
statements of a source.
-/

namespace LivePreview.Script

open Script.Parser

variable {cs : List Char} {c : Scope} {n : Nat}

/-- An import or export has its word at its start. -/
def Opens (cs : List Char) (s : Stmt) : Prop :=
  ∀ span, s.edited? = some span →
    "import".toList <+: cs.drop span.start ∨ "export".toList <+: cs.drop span.start

theorem Opens.of_none {s : Stmt} (h : s.edited? = none) : Opens cs s :=
  fun _ found => nomatch h.symm.trans found

theorem Opens.of_import {s : Stmt} {start stop : Nat} (word : "import".toList <+: cs.drop start)
    (h : s.edited? = some ⟨start, stop⟩) : Opens cs s := by
  intro span found
  cases h.symm.trans found
  exact .inl word

theorem Opens.of_export {s : Stmt} {start stop : Nat} (word : "export".toList <+: cs.drop start)
    (h : s.edited? = some ⟨start, stop⟩) : Opens cs s := by
  intro span found
  cases h.symm.trans found
  exact .inr word

theorem edited_markFree (s : Stmt) : s.markFree.edited? = s.edited? := by
  unfold Stmt.markFree
  split <;> rfl

theorem Opens.markFree {s : Stmt} (h : Opens cs s) : Opens cs s.markFree := by
  rwa [Opens, edited_markFree]

/-- What comes behind a keyword may use that the keyword stands in the text. -/
theorem Parser.After.spelled {α : Type} {Q : α → Nat → Prop} {name : String}
    (keyword : isKeyword name = true) {f : Nat → Parser α}
    (h : ∀ m, name.toList <+: cs.drop m → Past cs c 0 (f m) Q) :
    After cs c n (startPos >>= fun start => expectWord name >>= fun _ => f start) Q where
  yields {s t a} hs hn hr clean := by
    obtain ⟨u, s', hw, hf⟩ := run_bind (p := expectWord name) (f := fun _ => f s.token.start) hr
    obtain ⟨word, moved⟩ := run_expectWord hw
    have leads := (expectWord name).leads hs hw
    have clean' := ((f s.token.start).leads leads.inPlace hf).errors clean
    have spelled := spells_of_advance hs word keyword moved clean'
    exact (h _ ⟨_, spelled.rest.symm⟩).yields leads.inPlace (Nat.zero_le _) hf clean

namespace Grammar

variable (g : Grammar) {start : Nat}

/-! ## Imports -/

theorem opens_importRest (word : "import".toList <+: cs.drop start) (phase : ImportPhase)
    (typeOnly : Bool) (default : Option (Span × String)) :
    Past cs c n (importRest start phase typeOnly default) fun s _ => Opens cs s := by
  repeat' first
    | exact .close fun _ _ => .of_import word rfl
    | refine .bind fun _ => ?_
    | split

theorem opens_importDeclaration :
    After cs c n importDeclaration fun s _ => Opens cs s := by
  refine .spelled rfl fun start word => .bind fun ⟨phase, typeOnly, default⟩ => ?_
  dsimp only
  split
  · refine .bind fun found => ?_
    split
    · refine .seq (after_importAlias ..).past fun s stop h => .bind fun _ => ?_
      split
      · exact .bind fun _ => .pure fun _ _ => .of_none h.kind.1
      · exact .pure fun _ _ => .of_none h.kind.1
    · exact opens_importRest word ..
  · exact opens_importRest word ..

/-! ## Exports -/

theorem opens_exportRest (word : "export".toList <+: cs.drop start) (marks : List Expr) :
    Past cs c n (exportRest g start marks) fun s _ => Opens cs s := by
  have all (typeOnly : Bool) : Past cs c n (exportAll start typeOnly) fun s _ => Opens cs s := by
    repeat' first
      | exact .close fun _ _ => .of_export word rfl
      | refine .bind fun _ => ?_
      | split
  have names (typeOnly : Bool) :
      Past cs c n (exportedNames start typeOnly) fun s _ => Opens cs s := by
    repeat' first
      | exact .close fun _ _ => .of_export word rfl
      | refine .bind fun _ => ?_
      | split
      | dsimp only
  have declared : Past cs c n (exportedDeclaration g start marks) fun s _ => Opens cs s := by
    repeat' first
      | exact .close fun _ _ => .of_export word rfl
      | refine .bind fun _ => ?_
  refine .bind fun t => ?_
  split
  · exact all _
  split
  · exact names _
  split
  · exact .bind fun _ => .bind fun _ => .bind fun _ => .close fun _ _ => .of_export word rfl
  refine .bind fun typed => ?_
  split
  · refine .bind fun next => ?_
    split
    · exact .bind fun _ => .bind fun _ => .bind fun _ => .close fun _ _ => .of_none rfl
    split
    · exact .bind fun _ => .bind fun _ => .bind fun _ => .bind fun _ => .close fun _ _ =>
        .of_none rfl
    split
    · exact .bind fun _ => names _
    split
    · exact .bind fun _ => all _
    · exact declared
  · exact declared

theorem opens_exportDeclaration (marks : List Expr) :
    After cs c n (exportDeclaration g marks) fun s _ => Opens cs s :=
  .spelled rfl fun _ word => opens_exportRest g word marks

/-! ## Statements -/

theorem opens_decoratedStatement (place : StmtPlace) :
    After cs c n (decoratedStatement g place) fun s _ => Opens cs s := by
  refine .bind fun _ => .bind fun marks => .bind fun found => ?_
  split
  · exact opens_exportDeclaration g marks
  repeat' first
    | exact .pure fun _ => .of_none rfl
    | exact .stop
    | exact .seq (after_classStatement g (Nat.zero_le _) ..) fun _ _ h =>
        .bind fun _ => .pure fun _ _ => .of_none h.kind
    | refine .bind fun _ => ?_
    | split

theorem opens_unmarkedStatement (place : StmtPlace) :
    After cs c n (unmarkedStatement g place) fun s _ => Opens cs s :=
  unmarkedStatement_of g place (fun _ _ h => .of_none h.kind) (opens_decoratedStatement g place)
    (opens_exportDeclaration g []) opens_importDeclaration

theorem opens_anyStatement (place : StmtPlace) :
    After cs c n (anyStatement g place) fun s _ => Opens cs s := by
  refine .bind fun free => .seq (opens_unmarkedStatement g place) fun s stop h => .pure fun _ _ => ?_
  split
  · exact h.markFree
  · exact h

end Grammar

/-! ## Sources -/

theorem chains_opens (cs : List Char) :
    Chains cs (fun _ s _ => Opens cs s) fun _ statements => ∀ s ∈ statements, Opens cs s where
  nil _ := nofun
  cons _ _ here rest := List.forall_mem_cons.2 ⟨here, rest⟩
  tail all := (List.forall_mem_cons.1 all).2

/-- The imports and exports of a source start with their words. -/
theorem opens_of_parse {kind : SourceKind} {source : String} {program : Program}
    (h : parse kind source = .ok program) :
    ∀ s ∈ program.body.statements, Opens source.toList s :=
  (chains_opens _).of_parse (fun _ g => Grammar.opens_anyStatement g .list) h

end LivePreview.Script
