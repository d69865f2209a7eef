import LivePreview.Proofs.Document.Scanning

/-!
# Reading the tags of a document

The start tags of a document with their attributes (`tagsFrom`), and from them the addresses that
its scripts are loaded from (`scriptSources`). A document is read from left to right, one character
at a time (`Spot.step`); only the text of a style or script element is searched for its end tag.

What is read of a text put together from pieces is what is read of the pieces (`Reads`): a piece
takes the reader from one spot to another. A quoted value is read up to the next quote
(`tagsFrom_value`), the text of a style or script element up to its end tag (`tagsFrom_raw`), and
of several values of one attribute the first one counts (`head?_sources`).
-/

namespace LivePreview

namespace Markup

open Text

/-- A start tag: its name in small letters, and its attributes in the order in which they stand,
each with its name and its value. -/
structure Tag where
  name : List Char
  attributes : List (List Char × String) := []
  deriving DecidableEq, Repr, Inhabited

def script : List Char := ['s', 'c', 'r', 'i', 'p', 't']

def style : List Char := ['s', 't', 'y', 'l', 'e']

def src : List Char := ['s', 'r', 'c']

namespace Tag

def add (t : Tag) (key value : List Char) : Tag :=
  { t with attributes := t.attributes ++ [(key, String.ofList value)] }

/-- The address of a script that is loaded. -/
def source? (t : Tag) : Option String :=
  if t.name = script then t.attributes.lookup src else none

end Tag

/-- Where in a document its reader is. -/
inductive Spot where
  | text
  /-- Behind a `<`. -/
  | opened
  /-- In an end tag or a declaration. -/
  | passing
  | naming (tag : Tag)
  /-- In a tag, behind its name or an attribute. -/
  | inside (tag : Tag)
  /-- In the name of an attribute. -/
  | key (tag : Tag) (name : List Char)
  /-- Behind the `=` of an attribute. -/
  | equals (tag : Tag) (name : List Char)
  | value (tag : Tag) (name : List Char) (quote : Char) (read : List Char)
  /-- In a value without quotes. -/
  | bare (tag : Tag) (name read : List Char)
  /-- In the text of an element that holds no tags. -/
  | raw (name : List Char)
  deriving DecidableEq, Repr, Inhabited

/-- A tag that has ended, with the spot behind it. -/
def Tag.close (t : Tag) : Spot × List Tag :=
  (if t.name = script ∨ t.name = style then .raw t.name else .text, [t])

/-- The spot behind the next character, with the tag that it ends. -/
def Spot.step : Spot → Char → Spot × List Tag
  | .text, c => (if c = '<' then .opened else .text, [])
  | .opened, c =>
    (if c.isAlpha then .naming ⟨[c.toLower], []⟩
      else if c = '<' then .opened
      else if c = '/' ∨ c = '!' then .passing
      else .text, [])
  | .passing, c => (if c = '>' then .text else .passing, [])
  | .naming t, c =>
    if c = '>' then t.close
    else if c.isWhitespace ∨ c = '/' then (.inside t, [])
    else (.naming { t with name := t.name ++ [c.toLower] }, [])
  | .inside t, c =>
    if c = '>' then t.close
    else if c.isWhitespace ∨ c = '/' then (.inside t, [])
    else (.key t [c.toLower], [])
  | .key t name, c =>
    if c = '>' then (t.add name []).close
    else if c = '=' then (.equals t name, [])
    else if c.isWhitespace ∨ c = '/' then (.inside (t.add name []), [])
    else (.key t (name ++ [c.toLower]), [])
  | .equals t name, c =>
    if c = '"' ∨ c = '\'' then (.value t name c [], [])
    else if c = '>' then (t.add name []).close
    else if c.isWhitespace then (.equals t name, [])
    else (.bare t name [c], [])
  | .value t name quote cs, c =>
    if c = quote then (.inside (t.add name cs), []) else (.value t name quote (cs ++ [c]), [])
  | .bare t name cs, c =>
    if c = '>' then (t.add name cs).close
    else if c.isWhitespace then (.inside (t.add name cs), [])
    else (.bare t name (cs ++ [c]), [])
  | .raw name, _ => (.raw name, [])

/-- The start tags that end in a text which is read from `spot` on. -/
def tagsFrom : Spot → List Char → List Tag
  | _, [] => []
  | .raw name, c :: cs =>
    if startsWithLetters Char.toLower ('<' :: '/' :: name) (c :: cs) then tagsFrom .passing cs
    else tagsFrom (.raw name) cs
  | spot, c :: cs => (spot.step c).2 ++ tagsFrom (spot.step c).1 cs

/-- The addresses of the scripts among the tags. -/
def sources (tags : List Tag) : List String := tags.filterMap Tag.source?

/-- The addresses that the scripts of a document are loaded from. -/
def scriptSources (document : String) : List String := sources (tagsFrom .text document.toList)

theorem sources_append (tags tags' : List Tag) :
    sources (tags ++ tags') = sources tags ++ sources tags' := List.filterMap_append

/-! ## Pieces of a document -/

/-- However the document goes on, the text takes its reader from `spot` to `spot'`, and `tags` end
in it. -/
def Reads (spot : Spot) (text : String) (spot' : Spot) (tags : List Tag) : Prop :=
  ∀ rest, tagsFrom spot (text.toList ++ rest) = tags ++ tagsFrom spot' rest

variable {spot spot' spot'' : Spot} {text text' : String} {tags tags' : List Tag}

/-- For literals: their characters are at hand without their bytes being read. -/
theorem reads_ofList {cs : List Char}
    (h : ∀ rest, tagsFrom spot (cs ++ rest) = tags ++ tagsFrom spot' rest) :
    Reads spot (String.ofList cs) spot' tags := by
  intro rest
  rw [String.toList_ofList]
  exact h rest

theorem Reads.append (h : Reads spot text spot' tags) (h' : Reads spot' text' spot'' tags') :
    Reads spot (text ++ text') spot'' (tags ++ tags') := by
  intro rest
  rw [String.toList_append, List.append_assoc, h, h', List.append_assoc]

/-- What is read of a text whose first piece is read. -/
theorem Reads.tagsFrom_append (h : Reads spot text spot' tags) (rest : String) :
    tagsFrom spot (text ++ rest).toList = tags ++ tagsFrom spot' rest.toList := by
  rw [String.toList_append]
  exact h rest.toList

/-- A line is read in front of others. -/
theorem Reads.line (h : Reads spot text spot' tags) {next : String} {lines : List String}
    (h' : Reads spot' ("\n".intercalate (next :: lines)) spot'' tags')
    (newline : Reads spot' "\n" spot' [] := by exact reads_ofList fun _ => rfl) :
    Reads spot ("\n".intercalate (text :: next :: lines)) spot'' (tags ++ tags') := by
  rw [String.intercalate_cons_cons]
  exact (List.append_nil tags ▸ h.append newline).append h'

theorem Reads.lastLine (h : Reads spot text spot' tags) :
    Reads spot ("\n".intercalate [text]) spot' tags := by
  rwa [String.intercalate_singleton]

/-- Lines that are each read for themselves are read one after the other. -/
theorem reads_lines {line : String → String} {tagOf : String → Tag}
    (h : ∀ x, Reads .text (line x) .text [tagOf x]) :
    ∀ xs : List String, Reads .text ("\n".intercalate (xs.map line)) .text (xs.map tagOf)
  | [] => fun _ => rfl
  | [x] => (h x).lastLine
  | x :: y :: xs => (h x).line (reads_lines h (y :: xs))

/-! ## Values and texts -/

theorem tagsFrom_passing {word cs : List Char} (plain : '>' ∉ word)
    (h : startsWithLetters Char.toLower word cs = true) :
    tagsFrom .passing cs = tagsFrom .passing (cs.drop word.length) := by
  induction word generalizing cs with
  | nil => rfl
  | cons w word ih =>
    cases cs with
    | nil => cases h
    | cons c cs =>
      simp only [startsWithLetters, Bool.and_eq_true, beq_iff_eq] at h
      have inner : c ≠ '>' := by
        rintro rfl
        exact plain (eq_of_toLower_eq (by decide) h.1 ▸ List.mem_cons_self)
      rw [tagsFrom, Spot.step, if_neg inner, List.nil_append, List.length_cons, List.drop_succ_cons]
      · exact ih (fun again => plain (List.mem_cons_of_mem w again)) h.2
      · intro name same
        cases same

/-- The text of an element without tags is passed over up to its end tag. -/
theorem tagsFrom_raw {name cs a b : List Char} (plain : '>' ∉ name)
    (h : cutChars Char.toLower ('<' :: '/' :: name) cs = some (a, b)) :
    tagsFrom (.raw name) cs = tagsFrom .passing b := by
  induction cs generalizing a with
  | nil => cases h
  | cons c cs ih =>
    rw [cutChars] at h
    rw [tagsFrom]
    split
    · next starts =>
      rw [if_pos starts] at h
      cases h
      have behind : startsWithLetters Char.toLower ('/' :: name) cs = true := by
        rw [startsWithLetters, Bool.and_eq_true] at starts
        exact starts.2
      exact tagsFrom_passing (by simpa using plain) behind
    · next other =>
      rw [if_neg other, Option.map_eq_some_iff] at h
      obtain ⟨⟨a', b'⟩, h, same⟩ := h
      cases same
      exact ih h

/-- The text of an element that has no end tag of its own reaches to the one behind it. -/
theorem tagsFrom_raw_append {name : List Char} (plain : '>' ∉ name) {stop text : String}
    (word : stop.toList = '<' :: '/' :: name) (start : TagStart Char.toLower stop)
    (quiet : count Char.toLower stop text = 0) (rest : String) :
    tagsFrom (.raw name) (text ++ stop ++ rest).toList = tagsFrom .passing rest.toList := by
  have found := cut_append start quiet rest
  rw [cut, Option.map_eq_some_iff] at found
  obtain ⟨⟨a, b⟩, found, same⟩ := found
  rw [word] at found
  rw [tagsFrom_raw plain found, ← (Prod.mk.inj same).2, String.toList_ofList]

/-- A quoted value is read up to the next quote. -/
theorem tagsFrom_value (t : Tag) (name cs a : List Char) {quote : Char} (h : quote ∉ a)
    (rest : List Char) :
    tagsFrom (.value t name quote cs) (a ++ rest) =
      tagsFrom (.value t name quote (cs ++ a)) rest := by
  induction a generalizing cs with
  | nil => rw [List.nil_append, List.append_nil]
  | cons c a ih =>
    rw [List.mem_cons, not_or] at h
    rw [List.cons_append, tagsFrom, Spot.step, if_neg (Ne.symm h.1), List.nil_append, ih _ h.2,
      List.append_assoc]
    · rfl
    · nofun

/-- A quote ends the value that it began. -/
theorem tagsFrom_quote (t : Tag) (name cs : List Char) (quote : Char) (rest : List Char) :
    tagsFrom (.value t name quote cs) (quote :: rest) = tagsFrom (.inside (t.add name cs)) rest := by
  rw [tagsFrom, Spot.step, if_pos rfl, List.nil_append]
  nofun

/-! ## The first address counts -/

theorem Tag.source?_add {t : Tag} {source : String} (h : t.source? = some source)
    (key value : List Char) : (t.add key value).source? = some source := by
  unfold Tag.source? at h ⊢
  split at h
  · next named =>
    rw [Tag.add, if_pos named, List.lookup_append, h, Option.some_or]
  · cases h

/-- The reader is in a script's tag, behind the address of the script. -/
def Spot.Loads (source : String) : Spot → Prop
  | .inside t | .key t _ | .equals t _ | .value t _ _ _ | .bare t _ _ =>
    t.source? = some source
  | _ => False

/-- An address stays until the tag ends. -/
theorem Spot.Loads.step {source : String} {spot : Spot} (h : spot.Loads source) (c : Char) :
    (spot.step c).2 = [] ∧ (spot.step c).1.Loads source ∨
      ∃ t : Tag, (spot.step c).2 = [t] ∧ t.source? = some source := by
  cases spot
  case inside t =>
    rw [Spot.step]
    split
    · exact .inr ⟨t, rfl, h⟩
    split
    · exact .inl ⟨rfl, h⟩
    · exact .inl ⟨rfl, h⟩
  case key t name =>
    rw [Spot.step]
    split
    · exact .inr ⟨_, rfl, Tag.source?_add h name []⟩
    split
    · exact .inl ⟨rfl, h⟩
    split
    · exact .inl ⟨rfl, Tag.source?_add h name []⟩
    · exact .inl ⟨rfl, h⟩
  case equals t name =>
    rw [Spot.step]
    split
    · exact .inl ⟨rfl, h⟩
    split
    · exact .inr ⟨_, rfl, Tag.source?_add h name []⟩
    split
    · exact .inl ⟨rfl, h⟩
    · exact .inl ⟨rfl, h⟩
  case value t name quote cs =>
    rw [Spot.step]
    split
    · exact .inl ⟨rfl, Tag.source?_add h name cs⟩
    · exact .inl ⟨rfl, h⟩
  case bare t name cs =>
    rw [Spot.step]
    split
    · exact .inr ⟨_, rfl, Tag.source?_add h name cs⟩
    split
    · exact .inl ⟨rfl, Tag.source?_add h name cs⟩
    · exact .inl ⟨rfl, h⟩
  all_goals exact h.elim

/-- Whatever follows the address of a script in its tag, no other script comes before it. -/
theorem head?_sources {source : String} {spot : Spot} (h : spot.Loads source)
    (cs : List Char) :
    ∀ x ∈ (sources (tagsFrom spot cs)).head?, x = source := by
  induction cs generalizing spot with
  | nil =>
    rw [tagsFrom]
    nofun
  | cons c cs ih =>
    rw [tagsFrom]
    · rcases h.step c with ⟨none, loads⟩ | ⟨t, one, loads⟩
      · rw [none, List.nil_append]
        exact ih loads
      · rw [one, List.singleton_append, sources, List.filterMap_cons, loads]
        rintro x ⟨⟩
        rfl
    · rintro name rfl
      exact h.elim

end Markup

end LivePreview
