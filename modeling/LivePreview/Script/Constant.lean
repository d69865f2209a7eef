import LivePreview.Number.DoubleText
import LivePreview.Script.Lexer
import LivePreview.Script.Tree

/-!
# Constants

Values of the expressions that initialize enum members, as far as they are known without running
anything.
-/

namespace LivePreview.Script

/-- A known value. -/
inductive Constant where
  | number (value : Double)
  | string (value : String)
  deriving DecidableEq, Repr, Inhabited

namespace Constant

def ofFloat (x : Float) : Constant := .number ⟨x.toBits⟩

def ofInt (n : Int) : Constant :=
  if 0 ≤ n then .number (.ofNat n.toNat) else .number (Double.ofNat n.natAbs).neg

def nan : Constant := .number ⟨0x7ff8000000000000⟩

/-- A number as text, in the way of scripts. -/
def text : Constant → String
  | .string s => s
  | .number d =>
    if d.isNaN then "NaN" else
    let magnitude := if d.isInfinite then "Infinity" else String.ofList d.scriptText
    if d.isNegative && !d.isZero then "-" ++ magnitude else magnitude

/-- A number as a natural below `2 ^ 32`, what is beyond being dropped. -/
def toWord (d : Double) : Nat :=
  if d.isNaN || d.isInfinite then 0 else
  let n := d.truncate % Nat.pow 2 32
  if d.isNegative then (Nat.pow 2 32 - n) % Nat.pow 2 32 else n

/-- A word read as a signed number. -/
def signed (n : Nat) : Int := if n < Nat.pow 2 31 then n else (n : Int) - 0x100000000

/-- The remainder of the magnitudes, with the sign of the dividend. -/
def remainder (a b : Double) : Constant :=
  if a.isNaN || a.isInfinite || b.isNaN || b.isZero then nan
  else if b.isInfinite then .number a
  else
    let (n, m) := a.ratio
    let (k, l) := b.ratio
    let r := Double.ofRatio (n * l % (k * m)) (m * l)
    .number (if a.isNegative then r.neg else r)

def arithmetic (f : Float → Float → Float) (a b : Double) : Constant :=
  ofFloat (f (Float.ofBits a.bits) (Float.ofBits b.bits))

/-- Applies an operator to two numbers. -/
def binaryNumber (op : BinaryOp) (a b : Double) : Option Constant :=
  match op with
  | .add => some (arithmetic (· + ·) a b)
  | .sub => some (arithmetic (· - ·) a b)
  | .mul => some (arithmetic (· * ·) a b)
  | .div => some (arithmetic (· / ·) a b)
  | .rem => some (remainder a b)
  | .pow => some (arithmetic Float.pow a b)
  | .bitOr => some (ofInt (signed (toWord a ||| toWord b)))
  | .bitXor => some (ofInt (signed (toWord a ^^^ toWord b)))
  | .bitAnd => some (ofInt (signed (toWord a &&& toWord b)))
  | .shl => some (ofInt (signed (toWord a * Nat.pow 2 (toWord b % 32) % Nat.pow 2 32)))
  | .shr => some (ofInt (signed (toWord a) / Nat.pow 2 (toWord b % 32)))
  | .ushr => some (ofInt (toWord a / Nat.pow 2 (toWord b % 32)))
  | _ => none

/-- Applies an operator; texts can only be joined. -/
def binary (op : BinaryOp) (a b : Constant) : Option Constant :=
  match a, b with
  | .number x, .number y => binaryNumber op x y
  | _, _ => if op == .add then some (.string (a.text ++ b.text)) else none

def unary (op : UnaryOp) (a : Constant) : Option Constant :=
  match a with
  | .number d =>
    match op with
    | .plus => some a
    | .minus => some (.number d.neg)
    | .bitNot => some (ofInt (signed (Nat.pow 2 32 - 1 - toWord d)))
    | _ => none
  | .string _ =>
    match op with
    | .minus => some nan
    | .bitNot => some (ofInt (-1))
    | _ => some a

/-- The value of a stretch of template text. -/
def cookTemplate : Nat → Cursor → List Char → List Char
  | 0, _, cooked => cooked.reverse
  | fuel + 1, c, cooked =>
    match c.peek with
    | none => cooked.reverse
    | some '\\' =>
      let (value, next, _) := readEscape c.step
      cookTemplate fuel next ((StringValue.ofCodePoints value).text.toList.reverse ++ cooked)
    | some x => cookTemplate fuel c.step (x :: cooked)

def pieceText (piece : TemplatePiece) : String :=
  let cs := piece.raw.toList
  String.ofList (cookTemplate cs.length ⟨cs, 0⟩ [])

/-- The enums known so far: of each its name and its members, where `none` is a member whose value
is not known. -/
abbrev Enums := List (String × List (String × Option Constant))

/-- The member `property` of the enum `name`. -/
def memberOf? (enums : Enums) (name property : String) : Option Constant := do
  (← (← enums.lookup name).lookup property)

end Constant

mutual

/-- The value of an expression, where `members` are the members before it. -/
def Expr.constant? (enums : Constant.Enums) (members : List (String × Option Constant)) :
    Expr → Option Constant
  | .literal _ (.number bits) => some (.number ⟨bits⟩)
  | .literal _ (.string value) => some (.string value.text)
  | .template _ pieces holes =>
    (Expr.templateConstant? enums members pieces holes).map Constant.string
  | .paren _ inner => inner.constant? enums members
  | .unary _ op arg => do Constant.unary op (← arg.constant? enums members)
  | .binary _ op left right => do
    let a ← left.constant? enums members
    let b ← right.constant? enums members
    Constant.binary op a b
  | .name _ id =>
    if id == "Infinity" then some (.number .infinity)
    else if id == "NaN" then some Constant.nan
    else do (← members.lookup id)
  | .member _ (.name _ id) _ property _ => Constant.memberOf? enums id property
  | .index _ (.name _ id) (.literal _ (.string key)) _ => Constant.memberOf? enums id key.text
  | _ => none

/-- The text of a template whose holes all have values. -/
def Expr.templateConstant? (enums : Constant.Enums) (members : List (String × Option Constant)) :
    List TemplatePiece → List Expr → Option String
  | [], _ => some ""
  | piece :: _, [] => some (Constant.pieceText piece)
  | piece :: pieces, hole :: holes => do
    let value ← hole.constant? enums members
    let rest ← Expr.templateConstant? enums members pieces holes
    some (Constant.pieceText piece ++ value.text ++ rest)

end

end LivePreview.Script
