import LivePreview.Script.Parser.Basic

/-!
# The recursive goals of the grammar

The goals that contain themselves, as one record. Each rule is written over such a record and asks
it for what is nested; `Grammar.upTo` ties the knot for any depth that a source can reach.
-/

namespace LivePreview.Script

/-- Where a statement stands. -/
inductive StmtPlace where
  | list
  /-- The body of a label. -/
  | label
  /-- The only statement of an `if`, a loop or a `with`. -/
  | single
  deriving DecidableEq, Repr, Inhabited

/-- Parsers for the goals that contain themselves. -/
structure Grammar where
  /-- An expression without a comma outside brackets. The flag says whether an arrow function in
  it may declare its result type: within the middle part of a conditional it is not sure. -/
  assign : Bool → Parser Expr
  /-- A binary expression whose operators all bind more tightly than the given strength. -/
  binary : Nat → Parser Expr
  /-- A unary expression. -/
  unary : Parser Expr
  /-- An expression with its members, but without calls; also whether it has an optional link. -/
  member : Parser (Expr × Bool)
  stmt : StmtPlace → Parser Stmt
  /-- What may be bound. -/
  pattern : Parser Pattern
  type : Parser Unit
  /-- A type without conditional, union or intersection at its top. -/
  typeOperand : Parser Unit
  /-- An element or fragment, after its `<`, which starts at the given place. The flag says whether
  it is a child of another. -/
  jsx : Nat → Bool → Parser Jsx

namespace Grammar

/-- The grammar of nothing. -/
def empty : Grammar where
  assign _ := Parser.unexpected
  binary _ := Parser.unexpected
  unary := Parser.unexpected
  member := Parser.unexpected
  stmt _ := Parser.unexpected
  pattern := Parser.unexpected
  type := Parser.unexpected
  typeOperand := Parser.unexpected
  jsx _ _ := Parser.unexpected

/-- The grammar of sources that nest at most `n` deep. Each goal applies the rules anew, so that no
more of the depth is unfolded than a source reaches. -/
def upTo (rules : Grammar → Grammar) : Nat → Grammar
  | 0 => empty
  | n + 1 =>
    { assign := fun b => .delayed fun _ => (rules (upTo rules n)).assign b
      binary := fun b => .delayed fun _ => (rules (upTo rules n)).binary b
      unary := .delayed fun _ => (rules (upTo rules n)).unary
      member := .delayed fun _ => (rules (upTo rules n)).member
      stmt := fun p => .delayed fun _ => (rules (upTo rules n)).stmt p
      pattern := .delayed fun _ => (rules (upTo rules n)).pattern
      type := .delayed fun _ => (rules (upTo rules n)).type
      typeOperand := .delayed fun _ => (rules (upTo rules n)).typeOperand
      jsx := fun start child => .delayed fun _ => (rules (upTo rules n)).jsx start child }

end Grammar

end LivePreview.Script
