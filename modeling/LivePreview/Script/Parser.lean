import LivePreview.Text.Search
import LivePreview.Script.Parser.Statements

/-!
# Parsing

`parse` reads a whole source: its tree with the comments, or the faults found.
-/

namespace LivePreview.Script

/-- A source that could be read. -/
structure Program where
  /-- The line `#!…` at the top. -/
  hashbang : Option String
  body : Body
  /-- The comments in the order of the source. -/
  comments : List Comment

/-- The rules of the grammar over the goals nested in them. -/
def Grammar.rules (g : Grammar) : Grammar where
  assign := g.assignment
  binary := g.binaryExpression
  unary := g.unaryExpression
  member := g.memberHere
  stmt := g.anyStatement
  pattern := g.anyPattern
  type := g.anyType
  typeOperand := g.operandType
  jsx := g.anyJsx

namespace Parser

/-- The statements of a whole source. -/
def wholeSource : Parser (List Stmt) := do
  let g := Grammar.upTo Grammar.rules (4 * (← scope).fuel + 64)
  manyUntil (do return (← token).isEof) (g.stmt .list)

/-- What is allowed at the top of a source of `n` characters. -/
def Scope.top (kind : SourceKind) (n : Nat) : Scope where
  kind := kind
  fuel := n
  allowIn := true
  inGenerator := false
  inAsync := kind.module
  inFunction := false
  inDecorator := false
  ambient := false
  noConditional := false
  enclosed := false
  inElement := false

/-- The line `#!…` at the top of a source, and the place after it. -/
def hashbang (cs : List Char) : Option String × Cursor :=
  match cs with
  | '#' :: '!' :: _ =>
    let (line, next) := (Cursor.mk cs 0).span fun c => !isLineEnd c
    (some (String.ofList (line.drop 2)), next)
  | _ => (none, ⟨cs, 0⟩)

/-- The state at the first token. -/
def State.first (kind : SourceKind) (n : Nat) (cursor : Cursor) : State :=
  let (token, lexer) := Lexer.next (n + 1) (!kind.module) false ⟨cursor, Trivia.start, []⟩
  { lexer := lexer, token := token, prevStop := 0, errors := [], covers := [], trailing := [],
    exports := [], exportErrors := [], defaultExports := 0, parts := [] }

/-- All faults of a source whose parsing did not stop early. -/
def allFaults (c : Scope) (s : State) : List Diagnostic :=
  s.lexer.errors.reverse ++ s.errors.reverse ++ s.covers.map (fun _ => .coverInitializer)
    ++ exportFaults c s

/-- A faulty source without types whose first comment asks for another type system is refused as a
whole. -/
def withFlow (kind : SourceKind) (cs : List Char) (faults : List Diagnostic) : List Diagnostic :=
  let (_, start) := hashbang cs
  let (first, lexer) := Lexer.next (cs.length + 1) (!kind.module) false ⟨start, Trivia.start, []⟩
  let led := lexer.trivia.settled.reverse.head?
  let asks := !kind.types && led.any fun c => Text.occurs "@flow".toList c.text.toList
  if asks && (first.start != 0) then [.flow] else faults

end Parser

/-- Reads a source of the given kind. -/
def parse (kind : SourceKind) (source : String) : Except (List Diagnostic) Program :=
  let cs := source.toList
  let n := cs.length
  let (bang, cursor) := Parser.hashbang cs
  let scope := Parser.Scope.top kind n
  match Parser.wholeSource.run scope (Parser.State.first kind n cursor) with
  | .stop faults => .error (Parser.withFlow kind cs faults)
  | .ok statements s =>
    match Parser.allFaults scope s with
    | [] =>
      let cut (start stop : Nat) : String := String.ofList ((cs.drop start).take (stop - start))
      let (directives, statements) := Grammar.splitDirectives cut statements
      .ok { hashbang := bang, body := .mk ⟨0, n⟩ directives statements,
            comments := s.lexer.trivia.settled.reverse }
    | faults => .error (Parser.withFlow kind cs faults)

end LivePreview.Script
