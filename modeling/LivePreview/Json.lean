import LivePreview.Number.DoubleText
import LivePreview.Text.Quoted
import LivePreview.Text.Split

/-!
# Structured values

Values as data files hold them, and their compact text. A table keeps its members in order, and may
name one more than once.
-/

namespace LivePreview

/-- A value of a data file. -/
inductive Json where
  | null
  | bool (b : Bool)
  | integer (n : Int)
  | double (d : Double)
  | string (s : String)
  | list (items : List Json)
  | table (members : List (String × Json))
  deriving Repr, Inhabited

namespace Double

/-- A finite double in a data file: positional with at least one place from `1e-5` up to `1e16`,
with an exponent of at least two digits outside. -/
def dataText (d : Double) : List Char :=
  let sign := if d.isNegative then ['-'] else []
  if d.isZero then sign ++ ['0', '.', '0'] else
  let (c, k) := d.shortest
  let ds := decimalDigits c
  let point : Int := k + ds.length
  let text :=
    if 0 ≤ k ∧ point ≤ 16 then ds ++ List.replicate k.toNat '0' ++ ['.', '0']
    else if 0 < point ∧ point ≤ 16 then ds.take point.toNat ++ '.' :: ds.drop point.toNat
    else if -5 < point ∧ point ≤ 0 then
      '0' :: '.' :: (List.replicate (-point).toNat '0' ++ ds)
    else
      let e := point - 1
      let digits := decimalDigits e.natAbs
      let digits := if digits.length < 2 then '0' :: digits else digits
      let mantissa := match ds with
        | c :: d :: rest => c :: '.' :: d :: rest
        | ds => ds
      mantissa ++ 'e' :: (if e < 0 then '-' else '+') :: digits
  sign ++ text

end Double

/-- An integer in decimal. -/
def integerText (n : Int) : List Char :=
  if n < 0 then '-' :: decimalDigits n.natAbs else decimalDigits n.toNat

namespace Json

mutual

/-- The text of a value, without blanks. -/
def chars : Json → List Char
  | null => "null".toList
  | bool true => "true".toList
  | bool false => "false".toList
  | integer n => integerText n
  | double d => d.dataText
  | string s => Text.Quoted.encode s.toList
  | list items => '[' :: Text.joinChars [','] (itemChars items) ++ [']']
  | table members => '\x7b' :: Text.joinChars [','] (memberChars members) ++ ['\x7d']

def itemChars : List Json → List (List Char)
  | [] => []
  | j :: js => chars j :: itemChars js

def memberChars : List (String × Json) → List (List Char)
  | [] => []
  | (k, j) :: ms => (Text.Quoted.encode k.toList ++ ':' :: chars j) :: memberChars ms

end

/-- The text of a value, without blanks. -/
def render (j : Json) : String := String.ofList j.chars

def strings (xs : List String) : Json := list (xs.map string)

def ofOption (f : α → Json) : Option α → Json
  | none => null
  | some a => f a

end Json

end LivePreview
