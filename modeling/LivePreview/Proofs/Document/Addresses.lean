import Mathlib.Data.List.Forall2
import Mathlib.Data.List.TakeWhile
import LivePreview.Window
import LivePreview.Proofs.Document.Elements
import LivePreview.Proofs.Document.Markup

/-!
# The addresses in documents

A preview's document loads React and the packages that were asked for by script elements, and so
does the document of a detached window with React. `addresses_survive` says what becomes of the
addresses: in the document of a preview each stands for itself, whatever characters it has
(`Carries`), and the tags around it are the same for all addresses (`tagsFrom_document`). The
document of a window holds the addresses of React as they are, so that they stand for themselves if
and only if they have no quote, no `<` and nothing that reads as an entity (`carries_window_iff`).
-/

namespace LivePreview

namespace Text

/-! ## Entities -/

/-- The text that a quoted attribute stands for. -/
def unescapeChars : List Char → List Char
  | '&' :: 'a' :: 'm' :: 'p' :: ';' :: cs => '&' :: unescapeChars cs
  | '&' :: 'q' :: 'u' :: 'o' :: 't' :: ';' :: cs => '"' :: unescapeChars cs
  | '&' :: 'l' :: 't' :: ';' :: cs => '<' :: unescapeChars cs
  | c :: cs => c :: unescapeChars cs
  | [] => []

def unescapeAttribute (value : String) : String := String.ofList (unescapeChars value.toList)

/-- What stands for a character that an attribute cannot hold, or that begins such. -/
def entities : List String := ["&amp;", "&quot;", "&lt;"]

theorem unescapeChars_cons {c : Char} (h : c ≠ '&') (cs : List Char) :
    unescapeChars (c :: cs) = c :: unescapeChars cs := by
  rw [unescapeChars]
  all_goals
    rintro _ rfl
    contradiction

/-- Replacing entities undoes the escape. -/
theorem unescape_escapeAttribute (value : String) :
    unescapeAttribute (escapeAttribute value) = value := by
  have chars : ∀ cs : List Char, unescapeChars (cs.flatMap attributeChar) = cs := by
    intro cs
    induction cs with
    | nil => rfl
    | cons c cs ih =>
      rw [List.flatMap_cons]
      conv => rhs; rw [← ih]
      unfold attributeChar
      split
      · next same => rw [same]; rfl
      split
      · next same => rw [same]; rfl
      split
      · next same => rw [same]; rfl
      · next other _ _ => exact unescapeChars_cons other _
  rw [unescapeAttribute, escapeAttribute, String.toList_ofList, chars, String.ofList_toList]

theorem length_unescapeChars (cs : List Char) : (unescapeChars cs).length ≤ cs.length := by
  fun_induction unescapeChars cs with
  | case1 cs ih => simp only [List.length_cons]; omega
  | case2 cs ih => simp only [List.length_cons]; omega
  | case3 cs ih => simp only [List.length_cons]; omega
  | case4 c cs _ _ _ ih => simp only [List.length_cons]; omega
  | case5 => exact Nat.le_refl 0

/-- The texts without entities are those that stand for themselves. -/
theorem unescapeChars_eq_self_iff (cs : List Char) :
    unescapeChars cs = cs ↔ ∀ e ∈ entities, ¬ e.toList <:+: cs := by
  -- what stands for an entity in front is shorter than it
  have shrinks : ∀ {c : Char} {e : List Char} (cs : List Char), 1 < e.length →
      c :: unescapeChars cs ≠ e ++ cs := by
    intro c e cs long same
    have lengths := congrArg List.length same
    have short := length_unescapeChars cs
    rw [List.length_cons, List.length_append] at lengths
    omega
  fun_induction unescapeChars cs with
  | case1 cs _ =>
    refine iff_of_false (shrinks (e := "&amp;".toList) cs (by decide)) fun none => ?_
    exact none "&amp;" (by decide) ⟨[], cs, rfl⟩
  | case2 cs _ =>
    refine iff_of_false (shrinks (e := "&quot;".toList) cs (by decide)) fun none => ?_
    exact none "&quot;" (by decide) ⟨[], cs, rfl⟩
  | case3 cs _ =>
    refine iff_of_false (shrinks (e := "&lt;".toList) cs (by decide)) fun none => ?_
    exact none "&lt;" (by decide) ⟨[], cs, rfl⟩
  | case4 c cs amp quot lt ih =>
    have front : ∀ e ∈ entities, ¬ e.toList <+: c :: cs := by
      simp only [entities, List.forall_mem_cons, List.not_mem_nil]
      refine ⟨?_, ?_, ?_, nofun⟩
      · rintro ⟨rest, same⟩
        cases same
        exact amp rest rfl rfl
      · rintro ⟨rest, same⟩
        cases same
        exact quot rest rfl rfl
      · rintro ⟨rest, same⟩
        cases same
        exact lt rest rfl rfl
    rw [List.cons.injEq, and_iff_right rfl]
    refine Iff.trans ih (forall₂_congr fun e he => not_congr ?_)
    rw [List.infix_cons_iff, or_iff_right (front e he)]
  | case5 => decide

/-! ## Values that stand for addresses -/

/-- The value of an attribute stands for `text`, and cannot be taken for markup. -/
structure Carries (value text : String) : Prop where
  unquoted : '"' ∉ value.toList
  untagged : '<' ∉ value.toList
  meaning : unescapeAttribute value = text

theorem carries_escapeAttribute (text : String) : Carries (escapeAttribute text) text where
  unquoted := not_mem_escapeAttribute (.inl rfl) text
  untagged := not_mem_escapeAttribute (.inr rfl) text
  meaning := unescape_escapeAttribute text

/-- A text that stands for itself in an attribute. -/
structure Plain (text : String) : Prop where
  unquoted : '"' ∉ text.toList
  untagged : '<' ∉ text.toList
  noEntity : ∀ e ∈ entities, ¬ e.toList <:+: text.toList

/-- The value that a text in quotes is read as. -/
def valueOf (text : String) : String := String.ofList (text.toList.takeWhile (· != '"'))

theorem toList_valueOf (text : String) : (valueOf text).toList = text.toList.takeWhile (· != '"') :=
  String.toList_ofList

theorem valueOf_eq {text : String} (h : '"' ∉ text.toList) : valueOf text = text := by
  refine String.toList_injective ?_
  rw [toList_valueOf]
  refine List.takeWhile_eq_self_iff.2 fun c hc => ?_
  rw [bne_iff_ne]
  rintro rfl
  exact h hc

/-- A text in quotes stands for itself only if it is plain. -/
theorem carries_valueOf_iff (text : String) : Carries (valueOf text) text ↔ Plain text := by
  constructor
  · rintro ⟨-, untagged, meaning⟩
    have chars : unescapeChars (valueOf text).toList = text.toList := by
      rw [unescapeAttribute] at meaning
      rw [← String.ofList_inj, meaning, String.ofList_toList]
    -- nothing of the text is cut off, as entities only shorten it
    have whole : (valueOf text).toList = text.toList := by
      have short := length_unescapeChars (valueOf text).toList
      rw [chars] at short
      rw [toList_valueOf] at short ⊢
      exact (List.takeWhile_prefix _).eq_of_length_le short
    have unquoted : '"' ∉ text.toList := by
      intro mem
      have := List.takeWhile_eq_self_iff.1 (toList_valueOf text ▸ whole) '"' mem
      exact absurd this (by decide)
    rw [whole] at untagged chars
    exact ⟨unquoted, untagged, (unescapeChars_eq_self_iff _).1 chars⟩
  · rintro ⟨unquoted, untagged, noEntity⟩
    rw [valueOf_eq unquoted]
    refine ⟨unquoted, untagged, ?_⟩
    rw [unescapeAttribute, (unescapeChars_eq_self_iff _).2 noEntity, String.ofList_toList]

end Text

open Text Markup

/-! ## Script elements -/

/-- An element that loads a part of React, with `value` in the quotes of its address. -/
def reactElement (value : String) : String :=
  "    <script crossorigin src=\"" ++ value ++ "\"></script>"

/-- The tag of a script with an address. -/
def scriptTag (marks : List (List Char × String)) (value : String) : Tag :=
  ⟨script, marks ++ [(src, value)]⟩

/-- The mark of the scripts of React. -/
def crossorigin : List (List Char × String) :=
  [(['c', 'r', 'o', 's', 's', 'o', 'r', 'i', 'g', 'i', 'n'], "")]

theorem source?_scriptTag (value : String) {marks : List (List Char × String)}
    (h : marks.lookup src = none) : (scriptTag marks value).source? = some value := by
  simp only [scriptTag, Tag.source?, if_true, List.lookup_append, h, Option.none_or,
    List.lookup_cons_self]

/-- The spot in the address of a script. -/
def atAddress (marks : List (List Char × String)) (value : List Char) : Spot :=
  .value ⟨script, marks⟩ src '"' value

theorem reads_value (marks : List (List Char × String)) {value : String} (h : '"' ∉ value.toList) :
    Reads (atAddress marks []) value (atAddress marks value.toList) [] :=
  fun rest => tagsFrom_value _ src [] value.toList h rest

theorem reads_toReact :
    Reads .text "    <script crossorigin src=\"" (atAddress crossorigin []) [] :=
  reads_ofList fun _ => rfl

theorem reads_behindAddress (marks : List (List Char × String)) (value : String) :
    Reads (atAddress marks value.toList) "\"></script>" .text [scriptTag marks value] := by
  have chars : ∀ cs, Reads (atAddress marks cs) "\"></script>" .text
      [scriptTag marks (String.ofList cs)] := fun _ => reads_ofList fun _ => rfl
  have same := chars value.toList
  rwa [String.ofList_toList] at same

theorem reads_reactElement {value : String} (h : '"' ∉ value.toList) :
    Reads .text (reactElement value) .text [scriptTag crossorigin value] :=
  (reads_toReact.append (reads_value _ h)).append (reads_behindAddress crossorigin value)

theorem reads_dependencyTag (url : String) :
    Reads .text (Sandbox.dependencyTag url) .text [scriptTag [] (escapeAttribute url)] := by
  have start : Reads .text "    <script src=\"" (atAddress [] []) [] := reads_ofList fun _ => rfl
  have value := reads_value [] (carries_escapeAttribute url).unquoted
  exact (start.append value).append (reads_behindAddress [] _)

theorem eq_valueOf_append (value : String) (rest : List Char) :
    ∃ behind, value.toList ++ '"' :: rest = (valueOf value).toList ++ '"' :: behind := by
  have parts := List.takeWhile_append_dropWhile (p := (· != '"')) (l := value.toList)
  rw [toList_valueOf]
  cases h : value.toList.dropWhile (· != '"') with
  | nil =>
    rw [h, List.append_nil] at parts
    exact ⟨rest, by rw [parts]⟩
  | cons c cs =>
    have quote := List.head?_dropWhile_not (· != '"') value.toList
    rw [h] at quote parts
    have same : c = '"' := by simpa using quote
    rw [same] at parts
    refine ⟨cs ++ '"' :: rest, ?_⟩
    rw [← List.cons_append, ← List.append_assoc, parts]

theorem toList_enclosed (front value : String) (c : Char) (behind rest : List Char) :
    (front ++ value ++ String.ofList (c :: behind)).toList ++ rest =
      front.toList ++ (value.toList ++ c :: (behind ++ rest)) := by
  rw [String.toList_append, String.toList_append, String.toList_ofList, List.append_assoc,
    List.append_assoc, List.cons_append]

/-- Whatever stands in the quotes of an address, the next script that is loaded is loaded from what
precedes the first quote in it. -/
theorem head?_atAddress (value : String) (rest : List Char) :
    ∀ x ∈ (sources (tagsFrom (atAddress crossorigin []) (value.toList ++ '"' :: rest))).head?,
      x = valueOf value := by
  obtain ⟨behind, split⟩ := eq_valueOf_append value rest
  have unquoted : '"' ∉ (valueOf value).toList := by
    rw [toList_valueOf]
    exact fun mem => absurd (List.mem_takeWhile_imp mem) (by decide)
  have loads : Spot.Loads (valueOf value) (.inside (scriptTag crossorigin (valueOf value))) :=
    source?_scriptTag _ (by decide)
  have ended : Tag.add ⟨script, crossorigin⟩ src (valueOf value).toList =
      scriptTag crossorigin (valueOf value) := by
    rw [Tag.add, String.ofList_toList, scriptTag]
  rw [split, atAddress, tagsFrom_value _ _ _ _ unquoted, tagsFrom_quote, List.nil_append, ended]
  exact head?_sources loads behind

theorem tagsFrom_reactElement (value : String) (rest : List Char) :
    ∃ behind, tagsFrom .text ((reactElement value).toList ++ rest) =
      tagsFrom (atAddress crossorigin []) (value.toList ++ '"' :: behind) :=
  ⟨_, (congrArg (tagsFrom .text) (toList_enclosed _ value '"' _ rest)).trans (reads_toReact _)⟩

/-! ## The document of a preview -/

theorem toList_scriptEnd : "</script".toList = '<' :: '/' :: script := String.toList_ofList

theorem toList_styleEnd : "</style".toList = '<' :: '/' :: style := String.toList_ofList

theorem reads_closing : Reads .passing Sandbox.closing .text [] := by
  have close : Reads .passing ">" .text [] := reads_ofList fun _ => rfl
  have body : Reads .text "  </body>" .text [] := reads_ofList fun _ => rfl
  have html : Reads .text "</html>" .text [] := reads_ofList fun _ => rfl
  have last : Reads .text "" .text [] := reads_ofList fun _ => rfl
  exact close.line (body.line (html.line last.lastLine))

/-- An inline script that holds no end tag of its own ends with the document. -/
theorem tagsFrom_inlineScript {js : String} (quiet : count Char.toLower "</script" js = 0) :
    tagsFrom (.raw script) (Sandbox.scriptText js ++ "</script" ++ Sandbox.closing).toList = [] := by
  have behind := reads_closing []
  rw [List.append_nil] at behind
  refine Eq.trans ?_ behind
  exact tagsFrom_raw_append (by decide) toList_scriptEnd Sandbox.tagStart_scriptEnd
    (Sandbox.count_scriptText quiet) _

/-- The tags of a preview's document in front of its style element. -/
def headTags : List Tag :=
  [⟨['h', 't', 'm', 'l'], []⟩,
    ⟨['h', 'e', 'a', 'd'], []⟩,
    ⟨['m', 'e', 't', 'a'], [(['c', 'h', 'a', 'r', 's', 'e', 't'], "UTF-8")]⟩,
    ⟨['m', 'e', 't', 'a'], [(['n', 'a', 'm', 'e'], "viewport"),
      (['c', 'o', 'n', 't', 'e', 'n', 't'], "width=device-width, initial-scale=1.0")]⟩]

/-- The tags between its style element and its scripts. -/
def bodyTags : List Tag :=
  [⟨['b', 'o', 'd', 'y'], []⟩, ⟨['d', 'i', 'v'], [(['i', 'd'], "root")]⟩]

/-- The lines that every document starts with. -/
theorem reads_headLines {next : String} {lines : List String} {spot : Spot} {tags : List Tag}
    (h : Reads .text ("\n".intercalate (next :: lines)) spot tags) :
    Reads .text ("\n".intercalate ("<!DOCTYPE html>" :: "<html>" :: "  <head>" ::
      "    <meta charset=\"UTF-8\">" ::
      "    <meta name=\"viewport\" content=\"width=device-width, initial-scale=1.0\">" ::
      next :: lines)) spot (headTags ++ tags) := by
  have doctype : Reads .text "<!DOCTYPE html>" .text [] := reads_ofList fun _ => rfl
  have html : Reads .text "<html>" .text [_] := reads_ofList fun _ => rfl
  have head : Reads .text "  <head>" .text [_] := reads_ofList fun _ => rfl
  have charset : Reads .text "    <meta charset=\"UTF-8\">" .text [_] :=
    reads_ofList fun _ => rfl
  have viewport : Reads .text
      "    <meta name=\"viewport\" content=\"width=device-width, initial-scale=1.0\">" .text [_] :=
    reads_ofList fun _ => rfl
  exact doctype.line (html.line (head.line (charset.line (viewport.line h))))

theorem reads_opening : Reads .text Sandbox.opening .text headTags := by
  have indent : Reads .text "    " .text [] := reads_ofList fun _ => rfl
  exact List.append_nil headTags ▸ reads_headLines indent.lastLine

theorem reads_headEnd : Reads .text "  </head>" .text [] := reads_ofList fun _ => rfl

theorem reads_body : Reads .text "  <body>" .text [⟨['b', 'o', 'd', 'y'], []⟩] :=
  reads_ofList fun _ => rfl

theorem reads_container : Reads .text "    <div id=\"root\"></div>" .text
    [⟨['d', 'i', 'v'], [(['i', 'd'], "root")]⟩] :=
  reads_ofList fun _ => rfl

theorem reads_loading (s : Sandbox) (urls : List String) :
    Reads .passing (s.loading urls) .text (bodyTags ++
      ([s.reactUrl, s.reactDomUrl].map (scriptTag crossorigin <| escapeAttribute ·) ++
        urls.map (scriptTag [] <| escapeAttribute ·))) := by
  have close : Reads .passing ">" .text [] := reads_ofList fun _ => rfl
  have react : ∀ url, Reads .text (Sandbox.reactTag url) .text
      [scriptTag crossorigin (escapeAttribute url)] :=
    fun url => reads_reactElement (carries_escapeAttribute url).unquoted
  have indent : Reads .text "    " .text [] := reads_ofList fun _ => rfl
  have packages := (reads_lines reads_dependencyTag urls).line indent.lastLine
  rw [List.append_nil] at packages
  exact close.line (reads_headEnd.line (reads_body.line (reads_container.line
    ((react s.reactUrl).line ((react s.reactDomUrl).line packages)))))

/-- The tags of a preview's document, with `react` and `packages` for its addresses. -/
def documentTags (react packages : List String) : List Tag :=
  headTags ++ [⟨style, []⟩] ++ bodyTags ++ react.map (scriptTag crossorigin) ++
    packages.map (scriptTag []) ++ [⟨script, []⟩]

/-- Whatever is loaded, the tags of a preview's document are the same but for the addresses, which
are escaped. Others can only come behind the inline script. -/
theorem tagsFrom_document (s : Sandbox) (css : String) (urls : List String) (js : String) :
    ∃ more, tagsFrom .text (s.document css urls js).toList =
        documentTags ([s.reactUrl, s.reactDomUrl].map escapeAttribute)
          (urls.map escapeAttribute) ++ more ∧
      (count Char.toLower "</script" js = 0 → more = []) := by
  have styleTag : Reads .text "<style>" (.raw style) [⟨style, []⟩] := reads_ofList fun _ => rfl
  have codeTag : Reads .text "<script>" (.raw script) [⟨script, []⟩] := reads_ofList fun _ => rfl
  refine ⟨_, ?_, tagsFrom_inlineScript⟩
  have rules := tagsFrom_raw_append (by decide) toList_styleEnd Sandbox.tagStart_styleEnd
    (Sandbox.count_styleText css) (s.behindStyle urls js)
  rw [Sandbox.document_eq, (reads_opening.append styleTag).tagsFrom_append, rules,
    Sandbox.behindStyle, ((reads_loading s urls).append codeTag).tagsFrom_append,
    documentTags, List.map_map, List.map_map]
  simp only [List.append_assoc]
  rfl

/-! ## The document of a window -/

/-- The lines of a window's document in front of its scripts. -/
def windowOpening : List String :=
  ["<!DOCTYPE html>",
    "<html>",
    "  <head>",
    "    <meta charset=\"UTF-8\">",
    "    <meta name=\"viewport\" content=\"width=device-width, initial-scale=1.0\">",
    "    <title>Rerender Preview</title>",
    "    <style>",
    "      * \x7b margin: 0; padding: 0; box-sizing: border-box; \x7d",
    "      body \x7b font-family: -apple-system, BlinkMacSystemFont, 'Segoe UI',"
      ++ " Roboto, sans-serif; padding: 20px; \x7d",
    "      #root \x7b width: 100%; \x7d",
    "    </style>",
    "    <style id=\"dynamic-styles\"></style>",
    "  </head>",
    "  <body>",
    "    <div id=\"root\"></div>"]

/-- The lines behind those that load React. -/
def windowClosing (c : Config) : List String :=
  ["    <script>", escapeScript (Window.script c), "    </script>", "  </body>", "</html>", ""]

theorem window_eq (c : Config) : Window.document c = "\n".intercalate
    (windowOpening ++ reactElement c.reactUrl :: reactElement c.reactDomUrl :: windowClosing c) :=
  rfl

theorem sources_windowOpening :
    ∃ tags, Reads .text ("\n".intercalate windowOpening) .text tags ∧ sources tags = [] := by
  have title : Reads .text "    <title>Rerender Preview</title>" .text [_] :=
    reads_ofList fun _ => rfl
  have rules : Reads .text "    <style>" (.raw style) [_] := reads_ofList fun _ => rfl
  have all : Reads (.raw style) "      * \x7b margin: 0; padding: 0; box-sizing: border-box; \x7d"
      (.raw style) [] := reads_ofList fun _ => rfl
  have font : Reads (.raw style)
      "      body \x7b font-family: -apple-system, BlinkMacSystemFont, 'Segoe UI',"
      (.raw style) [] := reads_ofList fun _ => rfl
  have fallback : Reads (.raw style) " Roboto, sans-serif; padding: 20px; \x7d" (.raw style) [] :=
    reads_ofList fun _ => rfl
  have root : Reads (.raw style) "      #root \x7b width: 100%; \x7d" (.raw style) [] :=
    reads_ofList fun _ => rfl
  have rulesEnd : Reads (.raw style) "    </style>" .text [] := reads_ofList fun _ => rfl
  have dynamic : Reads .text "    <style id=\"dynamic-styles\"></style>" .text [_] :=
    reads_ofList fun _ => rfl
  exact ⟨_, reads_headLines (title.line (rules.line (all.line ((font.append fallback).line
    (root.line (rulesEnd.line (dynamic.line (reads_headEnd.line (reads_body.line
      reads_container.lastLine))))))))), rfl⟩

theorem sources_windowClosing (c : Config) :
    sources (tagsFrom .text ("\n".intercalate (windowClosing c)).toList) = [] := by
  have codeEnd : "    </script>" = "    " ++ "</script" ++ ">" := rfl
  have indent : "\n    " = "\n" ++ "    " := rfl
  have pieces : "\n".intercalate (windowClosing c) = "    <script>" ++
      (Sandbox.scriptText (escapeScript (Window.script c)) ++ "</script" ++ Sandbox.closing) := by
    simp only [windowClosing, Sandbox.scriptText, Sandbox.closing, codeEnd, indent,
      String.intercalate_cons_cons, String.intercalate_singleton, String.append_assoc]
  have codeTag : Reads .text "    <script>" (.raw script) [⟨script, []⟩] :=
    reads_ofList fun _ => rfl
  rw [pieces, codeTag.tagsFrom_append, tagsFrom_inlineScript (count_escapeScript _)]
  rfl

/-- An address of React that is not escaped stands for itself if and only if it is plain, whatever
comes behind it. -/
theorem carries_reactElement_iff (value next : String) (lines values : List String) :
    List.Forall₂ Carries
        (sources (tagsFrom .text ("\n".intercalate (reactElement value :: next :: lines)).toList))
        (value :: values) ↔
      Plain value ∧ List.Forall₂ Carries
        (sources (tagsFrom .text ("\n".intercalate (next :: lines)).toList)) values := by
  have first : ∀ x ∈ (sources (tagsFrom .text
      ("\n".intercalate (reactElement value :: next :: lines)).toList)).head?,
      x = valueOf value := by
    rw [String.intercalate_cons_cons, String.append_assoc, String.toList_append]
    obtain ⟨behind, same⟩ := tagsFrom_reactElement value
      ("\n" ++ "\n".intercalate (next :: lines)).toList
    rw [same]
    exact head?_atAddress value behind
  have whole (plain : Plain value) : sources (tagsFrom .text
      ("\n".intercalate (reactElement value :: next :: lines)).toList) =
      value :: sources (tagsFrom .text ("\n".intercalate (next :: lines)).toList) := by
    have newline : Reads .text "\n" .text [] := reads_ofList fun _ => rfl
    have line := ((reads_reactElement plain.unquoted).append newline).tagsFrom_append
      ("\n".intercalate (next :: lines))
    rw [String.intercalate_cons_cons, line, sources_append]
    rfl
  constructor
  · intro h
    have plain : Plain value := by
      rw [List.forall₂_cons_right_iff] at h
      obtain ⟨x, xs, carries, -, same⟩ := h
      rw [same] at first
      rw [first x rfl] at carries
      exact (carries_valueOf_iff value).1 carries
    rw [whole plain, List.forall₂_cons] at h
    exact ⟨plain, h.2⟩
  · rintro ⟨plain, h⟩
    rw [whole plain, List.forall₂_cons]
    have carries := (carries_valueOf_iff value).2 plain
    rw [valueOf_eq plain.unquoted] at carries
    exact ⟨carries, h⟩

/-- The addresses of a window's document stand for those of React if and only if those are plain. -/
theorem carries_window_iff (c : Config) :
    List.Forall₂ Carries (scriptSources (Window.document c)) [c.reactUrl, c.reactDomUrl] ↔
      Plain c.reactUrl ∧ Plain c.reactDomUrl := by
  obtain ⟨tags, opening, quiet⟩ := sources_windowOpening
  have newline : Reads .text "\n" .text [] := reads_ofList fun _ => rfl
  have front : windowOpening ≠ [] := by rw [windowOpening]; exact List.cons_ne_nil _ _
  have same : scriptSources (Window.document c) = sources (tagsFrom .text ("\n".intercalate
      (reactElement c.reactUrl :: reactElement c.reactDomUrl :: windowClosing c)).toList) := by
    rw [scriptSources, window_eq,
      String.intercalate_append_of_ne_nil front (List.cons_ne_nil _ _),
      (opening.append newline).tagsFrom_append, sources_append, List.append_nil, quiet,
      List.nil_append]
  have last := sources_windowClosing c
  rw [windowClosing] at same last
  rw [same, carries_reactElement_iff, carries_reactElement_iff, last, List.forall₂_nil_right_iff,
    and_iff_left rfl]

/-! ## The addresses of both documents -/

/-- What becomes of addresses. In the document of a preview each stands for itself, and the tags
are the same but for it; in the document of a window those of React stand for themselves if and
only if they are plain. -/
theorem addresses_survive (c : Config) :
    (∀ (css : String) (urls : List String) (js : String), ∃ react packages more,
      tagsFrom .text ((Sandbox.ofConfig c).document css urls js).toList =
        documentTags react packages ++ more ∧
      List.Forall₂ Carries react [c.reactUrl, c.reactDomUrl] ∧
      List.Forall₂ Carries packages urls ∧
      (count Char.toLower "</script" js = 0 → more = [])) ∧
    (List.Forall₂ Carries (scriptSources (Window.document c)) [c.reactUrl, c.reactDomUrl] ↔
      Plain c.reactUrl ∧ Plain c.reactDomUrl) := by
  have escaped (urls : List String) : List.Forall₂ Carries (urls.map escapeAttribute) urls := by
    rw [List.forall₂_map_left_iff]
    exact List.forall₂_same.2 fun url _ => carries_escapeAttribute url
  refine ⟨fun css urls js => ?_, carries_window_iff c⟩
  obtain ⟨more, tags, quiet⟩ := tagsFrom_document (Sandbox.ofConfig c) css urls js
  exact ⟨_, _, more, tags, escaped _, escaped urls, quiet⟩

/-- A quote in an address of React ends its value in the document of a window. -/
theorem window_address_ends_at_quote :
    let c : Config := { reactUrl := "a\"b" }
    ¬ List.Forall₂ Carries (scriptSources (Window.document c)) [c.reactUrl, c.reactDomUrl] := by
  intro c h
  have plain := ((carries_window_iff c).1 h).1
  have quote : '"' ∈ c.reactUrl.toList := by
    show '"' ∈ (String.ofList ['a', '"', 'b']).toList
    rw [String.toList_ofList]
    decide
  exact plain.unquoted quote

end LivePreview
