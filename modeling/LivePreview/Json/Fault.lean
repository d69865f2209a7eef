import LivePreview.Json
import LivePreview.Unicode.Hidden

/-!
# Faults of data

What can be wrong with a data file: its text is broken, or its values have not the shape that is
asked for.
-/

namespace LivePreview.Json

/-- A place in a text: the line, counted from one, and how many bytes of it come before. -/
structure Place where
  line : Nat := 1
  column : Nat := 0
  deriving DecidableEq, Repr, Inhabited

namespace Place

/-- The place behind a character. -/
def after (p : Place) (c : Char) : Place :=
  if c = '\n' then ⟨p.line + 1, 0⟩ else ⟨p.line, p.column + c.utf8Size⟩

/-- The place behind the first byte of what comes next. -/
def afterByte (p : Place) : List Char → Place
  | [] => p
  | c :: _ => if c = '\n' then ⟨p.line + 1, 0⟩ else ⟨p.line, p.column + 1⟩

/-- The place behind so many bytes of what comes next, or at its end. -/
def afterBytes (p : Place) : Nat → List Char → Place
  | 0, _ | _, [] => p
  | n, c :: cs =>
    if c.utf8Size ≤ n then afterBytes (p.after c) (n - c.utf8Size) cs
    else ⟨p.line, p.column + n⟩

end Place

/-- A value without parts. -/
inductive Scalar where
  | null
  | bool (b : Bool)
  | integer (n : Int)
  | double (d : Double)
  | string (s : String)
  deriving DecidableEq, Repr, Inhabited

def Scalar.toJson : Scalar → Json
  | .null => .null
  | .bool b => .bool b
  | .integer n => .integer n
  | .double d => .double d
  | .string s => .string s

/-- What was found where something else was expected. -/
inductive Found where
  | scalar (s : Scalar)
  | list
  | table
  deriving DecidableEq, Repr, Inhabited

/-- A character of a quoted text in a complaint. -/
def quotedChar (c : Char) : List Char :=
  if c = '"' then ['\\', '"']
  else if c = '\\' then ['\\', '\\']
  else if c = '\n' then ['\\', 'n']
  else if c = '\r' then ['\\', 'r']
  else if c = '\t' then ['\\', 't']
  else if c = '\x00' then ['\\', '0']
  else if Unicode.hidden.hasChar c then
    "\\u\x7b".toList ++ Nat.toDigits 16 c.toNat ++ ['\x7d']
  else [c]

/-- A text as a complaint quotes it. -/
def quoted (s : String) : String := String.ofList ('"' :: s.toList.flatMap quotedChar ++ ['"'])

def Found.describe : Found → String
  | .scalar .null => "null"
  | .scalar (.bool b) => "boolean `" ++ (if b then "true" else "false") ++ "`"
  | .scalar (.integer n) => "integer `" ++ String.ofList (integerText n) ++ "`"
  | .scalar (.double d) => "floating point `" ++ String.ofList d.dataText ++ "`"
  | .scalar (.string s) => "string " ++ quoted s
  | .list => "sequence"
  | .table => "map"

/-- What is wrong. -/
inductive Cause where
  | endInTable
  | endInList
  | endInString
  | endInValue
  | expectedColon
  | expectedListEnd
  | expectedTableEnd
  | expectedWord
  | expectedValue
  | keyNoString
  | trailingComma
  | trailingText
  | badNumber
  | numberOutOfRange
  | badEscape
  | endOfSurrogate
  | loneSurrogate
  | controlCharacter
  | tooDeep
  | mismatch (found : Found) (expected : String)
  /-- A number that is none of those expected. -/
  | outside (n : Int) (expected : String)
  | wrongLength (length : Nat) (expected : String)
  | missing (field : String)
  | twice (field : String)
  | unknownVariant (name : String) (known : List String)
  deriving DecidableEq, Repr, Inhabited

def Cause.message : Cause → String
  | endInTable => "EOF while parsing an object"
  | endInList => "EOF while parsing a list"
  | endInString => "EOF while parsing a string"
  | endInValue => "EOF while parsing a value"
  | expectedColon => "expected `:`"
  | expectedListEnd => "expected `,` or `]`"
  | expectedTableEnd => "expected `,` or `\x7d`"
  | expectedWord => "expected ident"
  | expectedValue => "expected value"
  | keyNoString => "key must be a string"
  | trailingComma => "trailing comma"
  | trailingText => "trailing characters"
  | badNumber => "invalid number"
  | numberOutOfRange => "number out of range"
  | badEscape => "invalid escape"
  | endOfSurrogate => "unexpected end of hex escape"
  | loneSurrogate => "lone leading surrogate in hex escape"
  | controlCharacter => "control character (\\u0000-\\u001F) found while parsing a string"
  | tooDeep => "recursion limit exceeded"
  | mismatch found expected => "invalid type: " ++ found.describe ++ ", expected " ++ expected
  | outside n expected =>
    "invalid value: integer `" ++ String.ofList (integerText n) ++ "`, expected " ++ expected
  | wrongLength n expected => "invalid length " ++ toString n ++ ", expected " ++ expected
  | missing field => "missing field `" ++ field ++ "`"
  | twice field => "duplicate field `" ++ field ++ "`"
  | unknownVariant name known =>
    "unknown variant `" ++ name ++ "`, expected one of "
      ++ ", ".intercalate (known.map fun k => "`" ++ k ++ "`")

/-- What is wrong, and where, if there is a text to point into. -/
structure Fault where
  cause : Cause
  place : Option Place := none
  deriving DecidableEq, Repr, Inhabited

def Fault.message (f : Fault) : String :=
  match f.place with
  | none => f.cause.message
  | some p =>
    f.cause.message ++ " at line " ++ toString p.line ++ " column " ++ toString p.column

end LivePreview.Json
