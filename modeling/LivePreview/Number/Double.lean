/-!
# Doubles by their bits

The IEEE double nearest to a ratio of naturals, and the fewest decimal digits that read back as a
given double. Both work in exact arithmetic on naturals, so nothing here depends on the float unit.
-/

namespace LivePreview

/-- A double, by its sixty-four bits. -/
structure Double where
  bits : UInt64
  deriving DecidableEq, Repr, Inhabited

namespace Double

/-- The bits of positive infinity, as a natural. -/
def infinityBits : Nat := 0x7ff * Nat.pow 2 52

/-- Positive infinity. -/
def infinity : Double := ⟨UInt64.ofNat infinityBits⟩

/-- The magnitude's bits: all but the sign. -/
def magnitude (d : Double) : Nat := d.bits.toNat % Nat.pow 2 63

def isNegative (d : Double) : Bool := Nat.pow 2 63 ≤ d.bits.toNat

def isNaN (d : Double) : Bool := infinityBits < d.magnitude

def isInfinite (d : Double) : Bool := d.magnitude == infinityBits

def isZero (d : Double) : Bool := d.magnitude == 0

def neg (d : Double) : Double :=
  ⟨if d.isNegative then UInt64.ofNat d.magnitude else UInt64.ofNat (d.magnitude + Nat.pow 2 63)⟩

def abs (d : Double) : Double := ⟨UInt64.ofNat d.magnitude⟩

/-- The exponent `e` with `2 ^ e ≤ num / den < 2 ^ (e + 1)`, for positive `num` and `den`. -/
def binaryExponent (num den : Nat) : Int :=
  let e : Int := (num.log2 : Int) - (den.log2 : Int)
  let below := if 0 ≤ e then num < den * Nat.pow 2 e.toNat else num * Nat.pow 2 (-e).toNat < den
  if below then e - 1 else e

/-- The double nearest to `num / den`; a tie goes to the even neighbour, and what is too large is
infinite. -/
def ofRatio (num den : Nat) : Double :=
  if num = 0 ∨ den = 0 then ⟨0⟩ else
  let shift := min (52 - binaryExponent num den) 1074
  let n := if 0 ≤ shift then num * Nat.pow 2 shift.toNat else num
  let d := if 0 ≤ shift then den else den * Nat.pow 2 (-shift).toNat
  let q := n / d
  let r := n % d
  let q := if d < 2 * r ∨ (2 * r = d ∧ q % 2 = 1) then q + 1 else q
  ⟨UInt64.ofNat (min infinityBits ((1074 - shift).toNat * Nat.pow 2 52 + q))⟩

/-- The double nearest to `digits * 10 ^ exponent`. -/
def ofDecimal (digits : Nat) (exponent : Int) : Double :=
  if digits = 0 then ⟨0⟩ else
  let size : Int := exponent + Int.ofNat (digits.log2 / 4)
  if 400 < size then infinity
  else if size + (digits.log2 : Int) < -400 then ⟨0⟩
  else if 0 ≤ exponent then ofRatio (digits * Nat.pow 10 exponent.toNat) 1
  else ofRatio digits (Nat.pow 10 (-exponent).toNat)

def ofNat (n : Nat) : Double := ofRatio n 1

/-- The significand `m` and exponent `q` of a finite magnitude `m * 2 ^ q`. -/
def parts (d : Double) : Nat × Int :=
  let field : Nat := d.magnitude / Nat.pow 2 52
  let fraction : Nat := d.magnitude % Nat.pow 2 52
  if field = 0 then (fraction, -1074) else (fraction + Nat.pow 2 52, (field : Int) - 1075)

/-- The magnitude of a finite double as a ratio. -/
def ratio (d : Double) : Nat × Nat :=
  let (m, q) := d.parts
  if 0 ≤ q then (m * Nat.pow 2 q.toNat, 1) else (m, Nat.pow 2 (-q).toNat)

/-- A finite double without a fractional part. -/
def isInteger (d : Double) : Bool :=
  !d.isNaN && !d.isInfinite && (let (n, m) := d.ratio; n % m == 0)

/-- The integer part of a finite double's magnitude. -/
def truncate (d : Double) : Nat :=
  let (n, m) := d.ratio
  n / m

/-- The reals that round to the magnitude `m * 2 ^ q`, in units of `2 ^ (q - 2)`: lower end, value
and upper end. The gap below a power of two is half as wide. -/
def interval (d : Double) : Nat × Nat × Nat :=
  let (m, q) := d.parts
  (if m = Nat.pow 2 52 ∧ -1074 < q then 4 * m - 1 else 4 * m - 2, 4 * m, 4 * m + 2)

/-- A ratio scaled by a power of two and one of ten, as numerator and denominator. -/
def scaled (n : Nat) (two ten : Int) : Nat × Nat :=
  (n * Nat.pow 2 two.toNat * Nat.pow 10 ten.toNat, Nat.pow 2 (-two).toNat * Nat.pow 10 (-ten).toNat)

/-- The decimal with the least unit `10 ^ k` that reads back as `d`, if one of the two neighbours
of `d` on that grid does; of two the nearer one. -/
def onGrid (d : Double) (k : Int) : Option Nat :=
  let (low, mid, high) := d.interval
  let (m, q) := d.parts
  let closed := m % 2 == 0
  let (ln, ld) := scaled low (q - 2) (-k)
  let (vn, vd) := scaled mid (q - 2) (-k)
  let (hn, hd) := scaled high (q - 2) (-k)
  let inside (c : Nat) : Bool :=
    (if closed then ln ≤ c * ld else ln < c * ld) && (if closed then c * hd ≤ hn else c * hd < hn)
  let c := vn / vd
  let r := vn % vd
  let downFirst := 2 * r < vd || (2 * r == vd && c % 2 == 0)
  let first := if downFirst then c else c + 1
  let second := if downFirst then c + 1 else c
  if 0 < first && inside first then some first
  else if 0 < second && inside second then some second
  else none

/-- The exponent of the leading decimal digit of a positive ratio. -/
def decimalExponent (num den : Nat) : Int :=
  let guess : Int := ((num.log2 : Int) - (den.log2 : Int)) * 30103 / 100000
  let holds (e : Int) : Bool := -- `10 ^ e ≤ num / den`
    if 0 ≤ e then den * Nat.pow 10 e.toNat ≤ num else den ≤ num * Nat.pow 10 (-e).toNat
  if holds (guess + 1) then guess + 1 else if holds guess then guess else guess - 1

/-- Tries the grids from the coarsest, the one of the leading digit, downward. -/
def searchGrids (d : Double) : Nat → Int → Nat × Int
  | 0, k => (0, k)
  | n + 1, k =>
    match d.onGrid k with
    | some c => (c, k)
    | none => searchGrids d n (k - 1)

/-- Strips the zeros at the end of a decimal. -/
def stripZeros : Nat → Nat → Int → Nat × Int
  | 0, c, k => (c, k)
  | n + 1, c, k => if c ≠ 0 ∧ c % 10 = 0 then stripZeros n (c / 10) (k + 1) else (c, k)

/-- The shortest decimal `digits * 10 ^ exponent` that reads back as the magnitude of the finite
double `d`, without zeros at its end. -/
def shortest (d : Double) : Nat × Int :=
  if d.isZero then (0, 0) else
  let (n, m) := d.ratio
  let (c, k) := searchGrids d 18 (decimalExponent n m + 1)
  stripZeros 20 c k

end Double

end LivePreview
