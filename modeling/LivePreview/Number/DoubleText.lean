import LivePreview.Number.Double

/-!
# Texts of doubles

The two ways in which numbers are written: the script's own `toString`, and the shortest literal
that a script reads back as the same number.
-/

namespace LivePreview

/-- Decimal digits of a natural. -/
def decimalDigits (n : Nat) : List Char := Nat.toDigits 10 n

namespace Double

/-- The magnitude of a finite double as scripts show it: positional from `1e-6` up to `1e21`, with
an exponent outside. -/
def scriptText (d : Double) : List Char :=
  if d.isZero then ['0'] else
  let (c, k) := d.shortest
  let ds := decimalDigits c
  let point : Int := k + ds.length
  if 0 ≤ k ∧ point ≤ 21 then ds ++ List.replicate k.toNat '0'
  else if 0 < point ∧ point ≤ 21 then ds.take point.toNat ++ '.' :: ds.drop point.toNat
  else if -6 < point ∧ point ≤ 0 then
    '0' :: '.' :: (List.replicate (-point).toNat '0' ++ ds)
  else
    let e := point - 1
    let sign := if e < 0 then '-' else '+'
    let mantissa := match ds with
      | [] => []
      | [c] => [c]
      | c :: rest => c :: '.' :: rest
    mantissa ++ 'e' :: sign :: decimalDigits e.natAbs

/-- Drops the `0` in front of a leading point. -/
def dropLeadingZero : List Char → List Char
  | '0' :: '.' :: rest => '.' :: rest
  | cs => cs

/-- Drops the sign of a positive exponent. -/
def dropExponentPlus : List Char → List Char
  | [] => []
  | 'e' :: '+' :: rest => 'e' :: rest
  | c :: rest => c :: dropExponentPlus rest

/-- `.000ddd` with an exponent, where that is shorter. -/
def shortenFraction (cs : List Char) : List Char :=
  match cs with
  | '.' :: '0' :: _ =>
    let digits := (cs.drop 1).dropWhile (· == '0')
    let e := cs.length - 1
    let short := digits ++ 'e' :: '-' :: decimalDigits e
    if short.length < cs.length then short else cs
  | _ => cs

/-- `ddd000` with an exponent, where that is shorter. -/
def shortenZeros (cs : List Char) : List Char :=
  let zeros := (cs.reverse.takeWhile (· == '0')).length
  if zeros == 0 then cs else
  let short := cs.take (cs.length - zeros) ++ 'e' :: decimalDigits zeros
  if short.length < cs.length then short else cs

/-- Reads an exponent with an optional minus. -/
def exponentOf (cs : List Char) : Int :=
  match cs with
  | '-' :: ds => -(String.ofList ds).toNat!
  | ds => (String.ofList ds).toNat!

/-- `d.ddde9` without the point, where that is shorter. -/
def shortenPoint (cs : List Char) : List Char :=
  let whole := cs.takeWhile (· != '.')
  match cs.dropWhile (· != '.') with
  | [] => cs
  | _ :: rest =>
    let fraction := rest.takeWhile (· != 'e')
    match rest.dropWhile (· != 'e') with
    | [] => cs
    | _ :: e =>
      let e := exponentOf e - fraction.length
      let digits := decimalDigits e.natAbs
      let short := whole ++ fraction ++ 'e' :: (if e < 0 then '-' :: digits else digits)
      if short.length < cs.length then short else cs

/-- The shortest script literal of a finite magnitude: decimal, with an exponent, or hexadecimal
where that is shorter than the decimal text. -/
def literalText (d : Double) : List Char :=
  let plain := d.scriptText
  if d.isInteger && d.truncate < 1000 then plain else
  let best := dropExponentPlus (dropLeadingZero plain)
  if d.isInteger then
    let hex := '0' :: 'x' :: Nat.toDigits 16 d.truncate
    if hex.length < best.length then hex else shortenPoint (shortenZeros best)
  else shortenPoint (shortenZeros (shortenFraction best))

end Double

end LivePreview
