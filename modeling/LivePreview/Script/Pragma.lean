import LivePreview.Script.Diagnostic
import LivePreview.Script.Lexer

/-!
# Pragmas

Elements become calls of a function that the settings name; comments of a source may name another
one. `ElementTarget.of` settles what the elements of a source become, and what is wrong with the
settings.
-/

namespace LivePreview.Script

/-- The functions that elements and fragments become calls of. -/
structure JsxSettings where
  pragma : String := "React.createElement"
  pragmaFrag : String := "React.Fragment"
  deriving DecidableEq, Repr, Inhabited

/-- What a pragma in a comment may set. -/
inductive PragmaKind where
  | element | fragment | runtime | importSource
  deriving DecidableEq, Repr

def PragmaKind.ofSuffix? (suffix : String) : Option PragmaKind :=
  match suffix with
  | "" => some .element
  | "Frag" => some .fragment
  | "Runtime" => some .runtime
  | "ImportSource" => some .importSource
  | _ => none

def isGap (c : Char) : Bool := c == ' ' || c == '\t'

def isPragmaEnd (c : Char) : Bool := isGap c || c == '\n' || c == '\r'

/-- The pragmas in the text of a comment, in order: `@jsx` with a suffix, a gap, and a value. -/
def pragmasFrom : Nat → List Char → List (PragmaKind × String)
  | 0, _ => []
  | fuel + 1, cs =>
    match cs with
    | [] => []
    | '@' :: 'j' :: 's' :: 'x' :: cs =>
      match PragmaKind.ofSuffix? (String.ofList (cs.takeWhile (!isGap ·))),
          cs.dropWhile (!isGap ·) with
      | some kind, _ :: rest =>
        let rest := rest.dropWhile isGap
        let value := rest.takeWhile (!isPragmaEnd ·)
        if value.isEmpty then [] else
        (kind, String.ofList value) :: pragmasFrom fuel (rest.dropWhile (!isPragmaEnd ·))
      | _, rest => pragmasFrom fuel rest
    | _ :: cs => pragmasFrom fuel cs

/-- The text of a comment without its delimiters. -/
def Comment.content (c : Comment) : List Char :=
  let cs := c.text.toList.drop 2
  if c.isLine then cs else cs.take (cs.length - 2)

def Comment.pragmas (c : Comment) : List (PragmaKind × String) :=
  pragmasFrom c.content.length c.content

/-- What the elements of a source become. -/
structure ElementTarget where
  settings : JsxSettings
  automatic : Bool
  importSource : Bool

namespace ElementTarget

def apply (t : ElementTarget) : PragmaKind × String → ElementTarget
  | (.element, value) => { t with settings := { t.settings with pragma := value } }
  | (.fragment, value) => { t with settings := { t.settings with pragmaFrag := value } }
  | (.runtime, value) =>
    if value == "automatic" then { t with automatic := true }
    else if value == "classic" then { t with automatic := false }
    else t
  | (.importSource, _) => { t with importSource := true }

/-- The settings, as the comments of a source change them. -/
def of (settings : JsxSettings) (comments : List Comment) : ElementTarget :=
  (comments.flatMap Comment.pragmas).foldl apply ⟨settings, false, false⟩

/-- What is wrong with the settings. -/
def faults (t : ElementTarget) : List Diagnostic :=
  if t.automatic then [.pragmaWithAutomatic] else
  (if t.importSource then [.importSourceWithClassic] else [])
    ++ (if t.settings.pragma.isEmpty then [.pragmaShape] else [])
    ++ (if t.settings.pragmaFrag.isEmpty then [.pragmaShape] else [])

end ElementTarget

end LivePreview.Script
