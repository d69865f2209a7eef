/-!
# Text inside documents

Keeping text from ending the element or attribute that it stands in.
-/

namespace LivePreview.Text

/-- The small letter that stands for a character where case does not count. The long s is an s. -/
def foldLetter (c : Char) : Char := if c = '\u017f' then 's' else c.toLower

/-- `cs` starts with `word`, letters being compared by what `fold` makes of them. -/
def startsWithLetters (fold : Char → Char) : List Char → List Char → Bool
  | [], _ => true
  | _ :: _, [] => false
  | w :: ws, c :: cs => fold w == fold c && startsWithLetters fold ws cs

/-- Puts a backslash before the slash of every `</` that is followed by `word`. -/
def guardClose (fold : Char → Char) (word : List Char) : List Char → List Char
  | [] => []
  | '<' :: '/' :: rest =>
    if startsWithLetters fold word rest then '<' :: '\\' :: '/' :: guardClose fold word rest
    else '<' :: guardClose fold word ('/' :: rest)
  | c :: rest => c :: guardClose fold word rest

/-- Code that cannot end the script element around it. -/
def escapeScript (code : String) : String :=
  String.ofList (guardClose foldLetter "script".toList code.toList)

/-- Rules that cannot end the style element around them. -/
def escapeStyle (css : String) : String :=
  String.ofList (guardClose foldLetter "style".toList css.toList)

/-- The entity of a character in a quoted attribute. -/
def attributeChar (c : Char) : List Char :=
  if c = '&' then "&amp;".toList
  else if c = '"' then "&quot;".toList
  else if c = '<' then "&lt;".toList
  else [c]

/-- A value as it stands in a double-quoted attribute. -/
def escapeAttribute (value : String) : String := String.ofList (value.toList.flatMap attributeChar)

end LivePreview.Text
