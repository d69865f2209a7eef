import LivePreview.Text.Escape
import LivePreview.Text.Quoted
import LivePreview.Script.Tree

/-!
# Texts of string literals

How a string value is written in a script: between double quotes, with escapes for what may not
stand there and for what would end the script element around it.
-/

namespace LivePreview.Script

/-- Text as it may stand in a script inside a document: nothing in it closes the script. -/
def guardScript (cs : List Char) : List Char := Text.guardClose Char.toLower "script".toList cs

/-- One character inside quotes, before the characters that follow it. -/
def escapeStringChar (c : Char) (next : Option Char) : List Char :=
  if c = '"' then ['\\', '"']
  else if c = '\\' then ['\\', '\\']
  else if c = '\n' then ['\\', 'n']
  else if c = '\r' then ['\\', 'r']
  else if c = '\x08' then ['\\', 'b']
  else if c = '\x0b' then ['\\', 'v']
  else if c = '\x0c' then ['\\', 'f']
  else if c = '\x00' then if next.any Char.isDigit then "\\x00".toList else ['\\', '0']
  else if c = '\x07' then "\\x07".toList
  else if c = '\x1b' then "\\x1B".toList
  else if c = '\xa0' then "\\xA0".toList
  else if c = '\u2028' then "\\u2028".toList
  else if c = '\u2029' then "\\u2029".toList
  else [c]

def escapeString : List Char → List Char
  | [] => []
  | c :: cs => escapeStringChar c cs.head? ++ escapeString cs

/-- Escapes of a value in which U+FFFD and four digits spell one code unit. -/
def escapeUnits : List Char → List Char
  | [] => []
  | '\ufffd' :: a :: b :: c :: d :: cs =>
    if [a, b, c, d] = "fffd".toList then '\ufffd' :: escapeUnits cs
    else '\\' :: 'u' :: a :: b :: c :: d :: escapeUnits cs
  | c :: cs => escapeStringChar c cs.head? ++ escapeUnits cs

/-- A string literal with the given value. -/
def StringValue.literal (v : StringValue) : List Char :=
  '"' :: guardScript ((if v.loneSurrogates then escapeUnits else escapeString) v.text.toList)
    ++ ['"']

end LivePreview.Script
