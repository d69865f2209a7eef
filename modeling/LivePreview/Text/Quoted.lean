import LivePreview.Text.Hex

/-!
# Quoted strings

Text between double quotes, as data formats and scripts both read it: quotes, backslashes and
control characters are escaped and all else stands for itself.
-/

namespace LivePreview.Text.Quoted

/-- One character inside quotes. -/
def escape (c : Char) : List Char :=
  if c = '"' then ['\\', '"']
  else if c = '\\' then ['\\', '\\']
  else if c = '\n' then ['\\', 'n']
  else if c = '\r' then ['\\', 'r']
  else if c = '\t' then ['\\', 't']
  else if c = '\x08' then ['\\', 'b']
  else if c = '\x0c' then ['\\', 'f']
  else if c.toNat < 32 then
    ['\\', 'u', '0', '0', hexDigit (c.toNat / 16), hexDigit (c.toNat % 16)]
  else [c]

/-- The text in quotes. -/
def encode (cs : List Char) : List Char := '"' :: cs.flatMap escape ++ ['"']

end LivePreview.Text.Quoted

namespace LivePreview.Text

/-- A string in double quotes. -/
def quote (s : String) : String := String.ofList (Quoted.encode s.toList)

end LivePreview.Text
