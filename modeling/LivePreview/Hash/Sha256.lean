import LivePreview.Text.Hex

/-!
# SHA-256

The digest of a list of bytes: the bytes are padded to blocks of sixteen words, and each block is
mixed into a state of eight words.
-/

namespace LivePreview.Hash.Sha256

/-- The words mixed into the 64 rounds. -/
def roundWords : List UInt32 :=
  [0x428a2f98, 0x71374491, 0xb5c0fbcf, 0xe9b5dba5, 0x3956c25b, 0x59f111f1, 0x923f82a4, 0xab1c5ed5,
   0xd807aa98, 0x12835b01, 0x243185be, 0x550c7dc3, 0x72be5d74, 0x80deb1fe, 0x9bdc06a7, 0xc19bf174,
   0xe49b69c1, 0xefbe4786, 0x0fc19dc6, 0x240ca1cc, 0x2de92c6f, 0x4a7484aa, 0x5cb0a9dc, 0x76f988da,
   0x983e5152, 0xa831c66d, 0xb00327c8, 0xbf597fc7, 0xc6e00bf3, 0xd5a79147, 0x06ca6351, 0x14292967,
   0x27b70a85, 0x2e1b2138, 0x4d2c6dfc, 0x53380d13, 0x650a7354, 0x766a0abb, 0x81c2c92e, 0x92722c85,
   0xa2bfe8a1, 0xa81a664b, 0xc24b8b70, 0xc76c51a3, 0xd192e819, 0xd6990624, 0xf40e3585, 0x106aa070,
   0x19a4c116, 0x1e376c08, 0x2748774c, 0x34b0bcb5, 0x391c0cb3, 0x4ed8aa4a, 0x5b9cca4f, 0x682e6ff3,
   0x748f82ee, 0x78a5636f, 0x84c87814, 0x8cc70208, 0x90befffa, 0xa4506ceb, 0xbef9a3f7, 0xc67178f2]

def rotate (x n : UInt32) : UInt32 := (x >>> n) ||| (x <<< (32 - n))

/-- The eight words that blocks are mixed into. -/
structure State where
  a : UInt32
  b : UInt32
  c : UInt32
  d : UInt32
  e : UInt32
  f : UInt32
  g : UInt32
  h : UInt32
  deriving DecidableEq, Repr

namespace State

def initial : State :=
  ⟨0x6a09e667, 0xbb67ae85, 0x3c6ef372, 0xa54ff53a, 0x510e527f, 0x9b05688c, 0x1f83d9ab, 0x5be0cd19⟩

def words (s : State) : List UInt32 := [s.a, s.b, s.c, s.d, s.e, s.f, s.g, s.h]

/-- The sum of two states, word by word. -/
def add (s t : State) : State :=
  ⟨s.a + t.a, s.b + t.b, s.c + t.c, s.d + t.d, s.e + t.e, s.f + t.f, s.g + t.g, s.h + t.h⟩

/-- One round, with a word of the schedule and one of the rounds. -/
def round (s : State) (w k : UInt32) : State :=
  let mixE := rotate s.e 6 ^^^ rotate s.e 11 ^^^ rotate s.e 25
  let choice := (s.e &&& s.f) ^^^ (~~~s.e &&& s.g)
  let t := s.h + mixE + choice + k + w
  let mixA := rotate s.a 2 ^^^ rotate s.a 13 ^^^ rotate s.a 22
  let majority := (s.a &&& s.b) ^^^ (s.a &&& s.c) ^^^ (s.b &&& s.c)
  ⟨t + mixA + majority, s.a, s.b, s.c, s.d + t, s.e, s.f, s.g⟩

end State

/-- The next word of a schedule, from the sixteen before it. -/
def nextWord : List UInt32 → UInt32
  | [w0, w1, _, _, _, _, _, _, _, w9, _, _, _, _, w14, _] =>
    let s0 := rotate w1 7 ^^^ rotate w1 18 ^^^ (w1 >>> 3)
    let s1 := rotate w14 17 ^^^ rotate w14 19 ^^^ (w14 >>> 10)
    w0 + s0 + w9 + s1
  | _ => 0

/-- The rounds that are left, on the sixteen words of the schedule that come next. -/
def rounds (s : State) (window : List UInt32) : List UInt32 → State
  | [] => s
  | k :: ks =>
    rounds (s.round (window.headD 0) k) (window.drop 1 ++ [nextWord window]) ks

/-- Mixes one block into the state. -/
def compress (s : State) (block : List UInt32) : State := s.add (rounds s block roundWords)

/-- The bytes of a number, the highest first. -/
def bigEndian (width n : Nat) : List UInt8 :=
  (List.range width).map fun i => UInt8.ofNat (n >>> (8 * (width - 1 - i)))

/-- The bytes followed by a set bit, clear bits, and their number of bits in eight bytes, so that
the length is a multiple of 64. -/
def pad (bytes : List UInt8) : List UInt8 :=
  let zeros := (119 - bytes.length % 64) % 64
  bytes ++ 0x80 :: List.replicate zeros 0 ++ bigEndian 8 (8 * bytes.length)

/-- Bytes joined to words; a rest of less than four bytes is dropped. -/
def toWords : List UInt8 → List UInt32
  | a :: b :: c :: d :: rest =>
    ((a.toUInt32 <<< 24) ||| (b.toUInt32 <<< 16) ||| (c.toUInt32 <<< 8) ||| d.toUInt32)
      :: toWords rest
  | _ => []

/-- Mixes words into the state, sixteen at a time. -/
def absorb (s : State) (words : List UInt32) : State :=
  if _h : words.length < 16 then s else absorb (compress s (words.take 16)) (words.drop 16)
termination_by words.length
decreasing_by simp only [List.length_drop]; omega

/-- The digest of some bytes. -/
def digest (bytes : List UInt8) : List UInt8 :=
  (absorb .initial (toWords (pad bytes))).words.flatMap fun w => bigEndian 4 w.toNat

/-- Bytes as pairs of digits. -/
def hex (bytes : List UInt8) : List Char :=
  bytes.flatMap fun b => [Text.hexDigit (b.toNat / 16), Text.hexDigit (b.toNat % 16)]

end Sha256

/-- The bytes of a text. -/
def utf8 (s : String) : List UInt8 := s.toByteArray.data.toList

/-- The digest of some bytes, as 64 digits. -/
def sha256 (bytes : List UInt8) : String := String.ofList (Sha256.hex (Sha256.digest bytes))

end LivePreview.Hash
