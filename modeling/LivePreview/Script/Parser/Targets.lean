import LivePreview.Script.Names
import LivePreview.Script.Parser.Basic

/-!
# Assignment targets

An expression on the left of a `=` has been read before the sign is seen. Here it is turned into
the pattern that it spells, where it spells one.
-/

namespace LivePreview.Script

/-- The expression under brackets and type-level wrappers. -/
def Expr.inner : Expr → Expr
  | .paren _ e => e.inner
  | .typed _ _ _ e => e.inner
  | e => e

/-- A name or member, which can be assigned as it stands. -/
def Expr.isPlace : Expr → Bool
  | .name _ _ | .member _ _ _ _ _ | .index _ _ _ _ | .privateMember _ _ _ _ => true
  | _ => false

/-- The expression would give the rest of an object a form or a default of its own. -/
def Expr.isCompound : Expr → Bool
  | .object _ _ | .array _ _ | .assign _ _ _ _ => true
  | _ => false

namespace Parser

/-- The target spelled by an expression that is no pattern. -/
def simpleTarget : Expr → Parser Pattern
  | .name span name => return .name span name
  | e@(.member _ _ _ _ _) | e@(.index _ _ _ _) | e@(.privateMember _ _ _ _) => return .place e
  | .paren _ e => simpleTarget e
  | .typed s form types e =>
    if form != .instantiation && e.inner.isPlace then return .place (.typed s form types e)
    else fail .invalidAssignment
  | _ => fail .invalidAssignment

/-- Notes that the array or object that starts at `start` ends in a comma after its rest. -/
def checkTrailing (start : Nat) : Parser Unit := do
  if (← state).trailing.contains start then report .restTrailingComma

/-- The property at `start` turned out to be part of a pattern. -/
def claimCover (start : Nat) : Parser Unit :=
  modify fun s => { s with covers := s.covers.filter (· != start) }

mutual

/-- The pattern spelled by an expression. -/
def toTarget : Expr → Parser Pattern
  | .array span elements => do
    let (items, rest) ← toElements span elements
    return .array span items rest
  | .object span members => do
    let (items, rest) ← toProperties span members
    return .object span items rest
  | .name span name => return .name span name
  | e => simpleTarget e

/-- The pattern with an optional default spelled by an expression. -/
def toMaybeDefault : Expr → Parser Pattern
  | .assign span op target value => do
    if op.isSome then report .defaultOperator
    return .default span target value
  | .array span elements => do
    let (items, rest) ← toElements span elements
    return .array span items rest
  | .object span members => do
    let (items, rest) ← toProperties span members
    return .object span items rest
  | .name span name => return .name span name
  | e => simpleTarget e

def toElements (span : Span) :
    List (Option Expr) → Parser (List (Option Pattern) × Option Pattern)
  | [] => return ([], none)
  | none :: es => do
    let (items, rest) ← toElements span es
    return (none :: items, rest)
  | some (.spread _ e) :: es => do
    if !es.isEmpty then fail .spreadNotLast
    if e matches .assign _ _ _ _ then report .restArgument
    let target ← toTarget e
    checkTrailing span.start
    return ([], some target)
  | some e :: es => do
    let item ← toMaybeDefault e
    let (items, rest) ← toElements span es
    return (some item :: items, rest)

def toProperties (span : Span) :
    List Property → Parser (List PatternProperty × Option Pattern)
  | [] => return ([], none)
  | .spread _ e :: ps => do
    if !ps.isEmpty then fail .spreadNotLast
    if e.isCompound then report .restArgument
    let target ← toTarget e
    checkTrailing span.start
    return ([], some target)
  | .shorthand s name default :: ps => do
    claimCover s.start
    let nameSpan : Span := ⟨s.start, s.start + name.length⟩
    let target := match default with
      | none => Pattern.name nameSpan name
      | some e => .default s (.name nameSpan name) e
    let (items, rest) ← toProperties span ps
    return (.mk s (.name nameSpan name) target true :: items, rest)
  | .keyed s key value :: ps => do
    let target ← toMaybeDefault value
    let (items, rest) ← toProperties span ps
    return (.mk s key target false :: items, rest)
  | .method _ _ _ :: _ | .accessor _ _ _ _ :: _ => fail .invalidAssignment

end

end Parser

end LivePreview.Script
