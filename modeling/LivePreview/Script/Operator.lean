import LivePreview.Script.Token

/-!
# Operators

How operators are spelled and how tightly they bind.
-/

namespace LivePreview.Script

/-- How tightly a form of expression binds; the tighter, the greater. -/
abbrev Strength := Nat

namespace Strength

def lowest : Strength := 0
def comma : Strength := 1
def spread : Strength := 2
def yield : Strength := 3
def assign : Strength := 4
def conditional : Strength := 5
def coalesce : Strength := 6
def or : Strength := 7
def and : Strength := 8
def bitOr : Strength := 9
def bitXor : Strength := 10
def bitAnd : Strength := 11
def equality : Strength := 12
def compare : Strength := 13
def shift : Strength := 14
def add : Strength := 15
def multiply : Strength := 16
def power : Strength := 17
def unary : Strength := 18
def suffix : Strength := 19
def new : Strength := 20
def call : Strength := 21
def member : Strength := 22

end Strength

namespace BinaryOp

def strength : BinaryOp → Strength
  | coalesce => .coalesce
  | or => .or
  | and => .and
  | bitOr => .bitOr
  | bitXor => .bitXor
  | bitAnd => .bitAnd
  | eq | ne | strictEq | strictNe => .equality
  | lt | le | gt | ge | elementOf | instanceOf => .compare
  | shl | shr | ushr => .shift
  | add | sub => .add
  | mul | div | rem => .multiply
  | pow => .power

/-- Only the power associates to the right. -/
def rightAssociative (op : BinaryOp) : Bool := op == pow

/-- The operators that may leave their right operand alone. -/
def isLogical (op : BinaryOp) : Bool := op == or || op == and || op == coalesce

def text : BinaryOp → String
  | eq => "==" | ne => "!=" | strictEq => "===" | strictNe => "!=="
  | lt => "<" | le => "<=" | gt => ">" | ge => ">="
  | shl => "<<" | shr => ">>" | ushr => ">>>"
  | add => "+" | sub => "-" | mul => "*" | div => "/" | rem => "%" | pow => "**"
  | bitOr => "|" | bitXor => "^" | bitAnd => "&"
  | elementOf => "in" | instanceOf => "instanceof"
  | or => "||" | and => "&&" | coalesce => "??"

/-- The operator that a token spells. -/
def ofToken? (t : Token) : Option BinaryOp :=
  match t.kind with
  | .word name _ =>
    if name == "in" then some elementOf
    else if name == "instanceof" then some instanceOf
    else none
  | .punct p =>
    match p with
    | .eqEq => some eq | .bangEq => some ne
    | .eqEqEq => some strictEq | .bangEqEq => some strictNe
    | .lt => some lt | .le => some le | .gt => some gt | .ge => some ge
    | .shl => some shl | .shr => some shr | .ushr => some ushr
    | .plus => some add | .minus => some sub | .star => some mul | .slash => some div
    | .percent => some rem | .starStar => some pow
    | .pipe => some bitOr | .caret => some bitXor | .amp => some bitAnd
    | .pipePipe => some or | .ampAmp => some and | .questionQuestion => some coalesce
    | _ => none
  | _ => none

/-- The operator that an assignment sign applies first; `none` for a plain `=`. -/
def ofAssignment? (t : Token) : Option (Option BinaryOp) :=
  match t.kind with
  | .punct p =>
    match p with
    | .eq => some none
    | .plusEq => some (some add) | .minusEq => some (some sub) | .starEq => some (some mul)
    | .slashEq => some (some div) | .percentEq => some (some rem) | .starStarEq => some (some pow)
    | .shlEq => some (some shl) | .shrEq => some (some shr) | .ushrEq => some (some ushr)
    | .ampEq => some (some bitAnd) | .pipeEq => some (some bitOr) | .caretEq => some (some bitXor)
    | .ampAmpEq => some (some and) | .pipePipeEq => some (some or)
    | .questionQuestionEq => some (some coalesce)
    | _ => none
  | _ => none

end BinaryOp

namespace UnaryOp

def text : UnaryOp → String
  | plus => "+" | minus => "-" | not => "!" | bitNot => "~"
  | typeof => "typeof" | void => "void" | delete => "delete"

/-- The operator is a word. -/
def isWord : UnaryOp → Bool
  | typeof | void | delete => true
  | _ => false

def ofToken? (t : Token) : Option UnaryOp :=
  match t.kind with
  | .word name _ =>
    if name == "typeof" then some typeof
    else if name == "void" then some void
    else if name == "delete" then some delete
    else none
  | .punct .plus => some plus
  | .punct .minus => some minus
  | .punct .bang => some not
  | .punct .tilde => some bitNot
  | _ => none

end UnaryOp

namespace UpdateOp

def text : UpdateOp → String
  | increment => "++" | decrement => "--"

def ofToken? (t : Token) : Option UpdateOp :=
  match t.kind with
  | .punct .plusPlus => some increment
  | .punct .minusMinus => some decrement
  | _ => none

end UpdateOp

/-- How tightly what a token joins to its left is bound, type-level wrappers included. -/
def joinStrength? (t : Token) : Option Strength :=
  if t.isWord "as" || t.isWord "satisfies" then some .compare
  else (BinaryOp.ofToken? t).map BinaryOp.strength

end LivePreview.Script
