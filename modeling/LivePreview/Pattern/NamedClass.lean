import LivePreview.Unicode.Binary

/-!
# Classes with short names

The classes of characters that patterns name by a letter or by a word in brackets.
-/

namespace LivePreview.Pattern

open Unicode (CodeSet)

/-- The characters that words are made of. -/
def wordSet : CodeSet := Unicode.wordCode

def isWord (c : Char) : Bool := wordSet.hasChar c

/-- The characters of ASCII that words are made of. -/
def asciiWordSet : CodeSet := .ofTable ["30-39 41-5a 5f 61-7a"]

def isAsciiWord (c : Char) : Bool := asciiWordSet.hasChar c

/-- The class behind a backslash and a small letter; a `wide` one reaches above ASCII. -/
def letterClass (wide : Bool) (letter : Char) : CodeSet :=
  match letter, wide with
  | 'd', true => Unicode.category "Nd"
  | 'd', false => .ofTable ["30-39"]
  | 's', true => Unicode.listed "whitespace"
  | 's', false => .ofTable ["9-d 20"]
  | _, true => wordSet
  | _, false => asciiWordSet

/-- The classes of ASCII characters that have names. -/
def asciiClasses : List (String × String) :=
  [("alnum", "30-39 41-5a 61-7a"), ("alpha", "41-5a 61-7a"), ("ascii", "0-7f"), ("blank", "9 20"),
   ("cntrl", "0-1f 7f"), ("digit", "30-39"), ("graph", "21-7e"), ("lower", "61-7a"),
   ("print", "20-7e"), ("punct", "21-2f 3a-40 5b-60 7b-7e"), ("space", "9-d 20"),
   ("upper", "41-5a"), ("word", "30-39 41-5a 5f 61-7a"), ("xdigit", "30-39 41-46 61-66")]

def asciiClass? (name : String) : Option CodeSet :=
  (asciiClasses.lookup name).map fun line => .ofTable [line]

end LivePreview.Pattern
