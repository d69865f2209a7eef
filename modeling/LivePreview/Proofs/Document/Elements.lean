import LivePreview.Sandbox
import LivePreview.Proofs.Document.Scanning

/-!
# The inline elements of a document

The style element and the inline script of a document end where the document ends them, whatever
text they hold (`Sandbox.inline_elements_closed`).

A document is read as pieces around the tags of the two elements (`document_eq`). In each piece the
tags are counted line by line. The code, the rules and the addresses come from elsewhere: the first
two hold no end tag of their own (`count_escapeScript`, `count_escapeStyle`), an address no tag at
all (`count_attribute`).
-/

namespace LivePreview

namespace Sandbox

open Text

/-! ## The pieces of a document -/

/-- What stands in front of the style element. -/
def opening : String :=
  "\n".intercalate [
    "<!DOCTYPE html>",
    "<html>",
    "  <head>",
    "    <meta charset=\"UTF-8\">",
    "    <meta name=\"viewport\" content=\"width=device-width, initial-scale=1.0\">",
    "    "]

/-- What stands in the style element. -/
def styleText (css : String) : String :=
  "\n" ++ baseStyle ++ "\n/* project stylesheet */\n" ++ escapeStyle css ++ "\n    "

/-- The element that loads a part of React. -/
def reactTag (url : String) : String :=
  "    <script crossorigin src=\"" ++ escapeAttribute url ++ "\"></script>"

/-- What stands between the end tag of the style element and the inline script. -/
def loading (s : Sandbox) (urls : List String) : String :=
  "\n".intercalate [
    ">",
    "  </head>",
    "  <body>",
    "    <div id=\"root\"></div>",
    reactTag s.reactUrl,
    reactTag s.reactDomUrl,
    "\n".intercalate (urls.map dependencyTag),
    "    "]

/-- What stands in the inline script. -/
def scriptText (script : String) : String := "\n" ++ script ++ "\n    "

/-- What stands behind the inline script. -/
def closing : String := "\n".intercalate [">", "  </body>", "</html>", ""]

/-- What stands behind the style element. -/
def behindStyle (s : Sandbox) (urls : List String) (script : String) : String :=
  s.loading urls ++ "<script>" ++ (scriptText script ++ "</script" ++ closing)

theorem document_eq (s : Sandbox) (css : String) (urls : List String) (script : String) :
    s.document css urls script =
      opening ++ "<style>" ++ (styleText css ++ "</style" ++ s.behindStyle urls script) := by
  have style : "    <style>" = "    " ++ "<style>" := rfl
  have styleEnd : "    </style>" = "    " ++ "</style" ++ ">" := rfl
  have code : "    <script>" = "    " ++ "<script>" := rfl
  have codeEnd : "    </script>" = "    " ++ "</script" ++ ">" := rfl
  have comment : "\n/* project stylesheet */\n" = "\n" ++ "/* project stylesheet */" ++ "\n" := rfl
  have indent : "\n    " = "\n" ++ "    " := rfl
  unfold behindStyle loading reactTag
  simp only [document, opening, styleText, scriptText, closing, style, styleEnd, code, codeEnd,
    comment, indent, String.intercalate_cons_cons, String.intercalate_singleton,
    String.append_assoc]

/-- What stands behind the style element, line by line. -/
theorem behindStyle_lines (s : Sandbox) (urls : List String) (script : String) :
    s.behindStyle urls script =
      "\n".intercalate [
        ">",
        "  </head>",
        "  <body>",
        "    <div id=\"root\"></div>",
        reactTag s.reactUrl,
        reactTag s.reactDomUrl,
        "\n".intercalate (urls.map dependencyTag),
        "    <script>",
        script,
        "    </script>",
        "  </body>",
        "</html>",
        ""] := by
  have code : "    <script>" = "    " ++ "<script>" := rfl
  have codeEnd : "    </script>" = "    " ++ "</script" ++ ">" := rfl
  have indent : "\n    " = "\n" ++ "    " := rfl
  simp only [behindStyle, loading, scriptText, closing, code, codeEnd, indent,
    String.intercalate_cons_cons, String.intercalate_singleton, String.append_assoc]

/-! ## The tags in each piece -/

theorem tagStart_style : TagStart id "<style>" :=
  ⟨⟨_, rfl, by decide⟩, by decide, by decide, fun _ h => h⟩

theorem tagStart_styleEnd : TagStart Char.toLower "</style" :=
  ⟨⟨_, rfl, by decide⟩, by decide, by decide, fun _ h => eq_of_toLower_eq (by decide) h⟩

theorem tagStart_script : TagStart id "<script>" :=
  ⟨⟨_, rfl, by decide⟩, by decide, by decide, fun _ h => h⟩

theorem tagStart_scriptEnd : TagStart Char.toLower "</script" :=
  ⟨⟨_, rfl, by decide⟩, by decide, by decide, fun _ h => eq_of_toLower_eq (by decide) h⟩

theorem count_opening : count id "<style>" opening = 0 ∧ count id "<script>" opening = 0 ∧
    count Char.toLower "</script" opening = 0 := by
  refine ⟨count_lines_eq_zero tagStart_style ?_, count_lines_eq_zero tagStart_script ?_,
    count_lines_eq_zero tagStart_scriptEnd ?_⟩
  all_goals
    simp only [List.mem_cons, List.not_mem_nil, or_false, forall_eq_or_imp, forall_eq]
    refine ⟨?_, ?_, ?_, ?_, ?_, ?_⟩ <;> rw [count_ofList] <;> decide

theorem count_baseStyle : count Char.toLower "</style" baseStyle = 0 := by
  refine count_lines_eq_zero tagStart_styleEnd ?_
  simp only [List.mem_cons, List.not_mem_nil, or_false, forall_eq_or_imp, forall_eq,
    String.reduceAppend]
  refine ⟨?_, ?_, ?_, ?_, ?_, ?_, ?_, ?_, ?_⟩ <;> rw [count_ofList] <;> decide

theorem count_styleText (css : String) : count Char.toLower "</style" (styleText css) = 0 := by
  have comment : "\n/* project stylesheet */\n" = "\n" ++ "/* project stylesheet */" ++ "\n" := rfl
  have indent : "\n    " = "\n" ++ "    " := rfl
  have lines : styleText css = "\n".intercalate ["", baseStyle, "/* project stylesheet */",
      escapeStyle css, "    "] := by
    simp only [styleText, comment, indent, String.intercalate_cons_cons,
      String.intercalate_singleton, String.append_assoc, String.empty_append]
  rw [lines]
  refine count_lines_eq_zero tagStart_styleEnd ?_
  simp only [List.mem_cons, List.not_mem_nil, or_false, forall_eq_or_imp, forall_eq]
  exact ⟨by decide, count_baseStyle, by decide, count_escapeStyle css, by decide⟩

theorem count_reactTag {fold : Char → Char} {word : String} (h : TagStart fold word)
    (url : String) :
    count fold word (reactTag url) =
      count fold word "    <script crossorigin src=" + count fold word "></script>" :=
  count_attribute h "    <script crossorigin src=" url "></script>"

theorem count_dependencyTag {fold : Char → Char} {word : String} (h : TagStart fold word)
    (url : String) :
    count fold word (dependencyTag url) =
      count fold word "    <script src=" + count fold word "></script>" :=
  count_attribute h "    <script src=" url "></script>"

/-- Whatever is loaded, each address has one script element. -/
theorem count_dependencyTags {fold : Char → Char} {word : String} (h : TagStart fold word)
    (urls : List String) :
    count fold word ("\n".intercalate (urls.map dependencyTag)) =
      urls.length * (count fold word "    <script src=" + count fold word "></script>") := by
  induction urls with
  | nil => simp [count, countChars]
  | cons url urls ih =>
    rw [List.length_cons, Nat.succ_mul, ← ih, ← count_dependencyTag h url]
    cases urls with
    | nil => simp [count, countChars]
    | cons next urls =>
      rw [List.map_cons, List.map_cons, count_lines h, Nat.add_comm]

theorem count_script_loading (s : Sandbox) (urls : List String) :
    count id "<script>" (s.loading urls) = 0 := by
  have react : ∀ url, count id "<script>" (reactTag url) = 0 := by
    intro url
    rw [count_reactTag tagStart_script]
    decide
  have dependencies : count id "<script>" ("\n".intercalate (urls.map dependencyTag)) = 0 := by
    rw [count_dependencyTags tagStart_script]
    exact Nat.mul_eq_zero.2 (.inr (by decide))
  refine count_lines_eq_zero tagStart_script ?_
  simp only [List.mem_cons, List.not_mem_nil, or_false, forall_eq_or_imp, forall_eq]
  exact ⟨by decide, by decide, by decide, by decide, react _, react _, dependencies, by decide⟩

/-- Behind the style element, every script element has one end tag. -/
theorem count_scriptEnd_behindStyle (s : Sandbox) (urls : List String) {script : String}
    (h : count Char.toLower "</script" script = 0) :
    count Char.toLower "</script" (s.behindStyle urls script) = 3 + urls.length := by
  have literals : count Char.toLower "</script" ">" = 0 ∧
      count Char.toLower "</script" "  </head>" = 0 ∧
      count Char.toLower "</script" "  <body>" = 0 ∧
      count Char.toLower "</script" "    <div id=\"root\"></div>" = 0 ∧
      count Char.toLower "</script" "    <script crossorigin src=" = 0 ∧
      count Char.toLower "</script" "    <script src=" = 0 ∧
      count Char.toLower "</script" "></script>" = 1 ∧
      count Char.toLower "</script" "    <script>" = 0 ∧
      count Char.toLower "</script" "    </script>" = 1 ∧
      count Char.toLower "</script" "  </body>" = 0 ∧
      count Char.toLower "</script" "</html>" = 0 ∧ count Char.toLower "</script" "" = 0 := by
    decide
  simp only [behindStyle_lines, count_lines tagStart_scriptEnd, String.intercalate_singleton,
    count_reactTag tagStart_scriptEnd, count_dependencyTags tagStart_scriptEnd, literals, h]
  omega

theorem count_scriptText {script : String} (h : count Char.toLower "</script" script = 0) :
    count Char.toLower "</script" (scriptText script) = 0 := by
  have indent : "\n    " = "\n" ++ "    " := rfl
  have lines : scriptText script = "\n".intercalate ["", script, "    "] := by
    simp only [scriptText, indent, String.intercalate_cons_cons, String.intercalate_singleton,
      String.append_assoc, String.empty_append]
  rw [lines]
  refine count_lines_eq_zero tagStart_scriptEnd ?_
  simp only [List.mem_cons, List.not_mem_nil, or_false, forall_eq_or_imp, forall_eq]
  exact ⟨by decide, h, by decide⟩

/-! ## The elements of a build -/

/-- No code and no rules end the element they stand in: the script of a build has no end tag, the
style element and the inline script reach from their start tags to the end tags of the document,
and around the style element there are as many end tags as script elements. -/
theorem inline_elements_closed (s : Sandbox) (entryJs : String) (stylesheet : Option String)
    (r : Registry) (scriptUrls : List String) (globals : Table String) :
    let p := s.build entryJs stylesheet r scriptUrls globals
    count Char.toLower "</script" p.runtimeScript = 0 ∧
    ∃ front style behind tags code tail : String,
      cut id "<style>" p.html = some (front, style) ∧
      cut Char.toLower "</style" style = some
        ("\n" ++ baseStyle ++ "\n/* project stylesheet */\n" ++ escapeStyle (stylesheet.getD "") ++
          "\n    ", behind) ∧
      cut id "<script>" behind = some (tags, code) ∧
      cut Char.toLower "</script" code = some ("\n" ++ p.runtimeScript ++ "\n    ", tail) ∧
      count id "<script>" front = 0 ∧
      count Char.toLower "</script" front + count Char.toLower "</script" behind =
        3 + scriptUrls.length := by
  intro p
  have quiet : count Char.toLower "</script" p.runtimeScript = 0 := count_escapeScript _
  let behind := s.behindStyle scriptUrls p.runtimeScript
  let rules := styleText (stylesheet.getD "")
  have html : p.html = opening ++ "<style>" ++ (rules ++ "</style" ++ behind) := document_eq ..
  obtain ⟨noStyle, noScript, noEnd⟩ := count_opening
  have style := cut_append tagStart_style noStyle (rules ++ "</style" ++ behind)
  rw [← html] at style
  refine ⟨quiet, opening, _, behind, s.loading scriptUrls, _, closing, style,
    cut_append tagStart_styleEnd (count_styleText _) _,
    cut_append tagStart_script (count_script_loading s scriptUrls) _,
    cut_append tagStart_scriptEnd (count_scriptText quiet) _, noScript, ?_⟩
  rw [noEnd, count_scriptEnd_behindStyle s scriptUrls quiet, Nat.zero_add]

end Sandbox

end LivePreview
