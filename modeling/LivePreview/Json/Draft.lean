import LivePreview.Json.Fault
import LivePreview.Table

/-!
# Drafts

A draft is a value as far as its text can be read, with the places that complaints about it point
to. Which complaint comes first depends on what the value is asked to be, so a draft keeps the
faults of its text where they are: what nobody asks for is passed over, and is held to less.

`Draft.value` is the value that a draft without faults stands for.
-/

namespace LivePreview.Json

/-- Ways in which a text fails to go on or to close behind an element. -/
inductive Gap where
  /-- The text ends. -/
  | theEnd
  /-- The text ends behind a comma. -/
  | commaAtEnd
  /-- A comma stands before the bracket. -/
  | commaAtClose
  /-- There is no comma. -/
  | noComma
  /-- A table goes on with something that is no quoted name. -/
  | noName
  deriving DecidableEq, Repr, Inhabited

namespace Gap

/-- In a list whose items are asked for. -/
def inList : Gap → Cause
  | theEnd => .endInList
  | commaAtEnd => .endInValue
  | commaAtClose => .trailingComma
  | noComma | noName => .expectedListEnd

/-- In a list that has to end here. -/
def atListEnd : Gap → Cause
  | theEnd => .endInList
  | commaAtClose => .trailingComma
  | commaAtEnd | noComma | noName => .trailingText

/-- In a list that is passed over. -/
def inPassedList : Gap → Cause
  | theEnd => .endInList
  | commaAtEnd => .endInValue
  | commaAtClose => .expectedValue
  | noComma | noName => .expectedListEnd

/-- In a table whose members are asked for. -/
def inTable : Gap → Cause
  | theEnd => .endInTable
  | commaAtEnd => .endInValue
  | commaAtClose => .trailingComma
  | noComma => .expectedTableEnd
  | noName => .keyNoString

/-- In a table that is passed over. -/
def inPassedTable : Gap → Cause
  | theEnd | commaAtEnd => .endInTable
  | commaAtClose | noName => .keyNoString
  | noComma => .expectedTableEnd

end Gap

/-- How a list or table ends. -/
inductive Ending where
  /-- With its bracket. -/
  | closed (stop : Place)
  /-- Not at all. -/
  | cut (gap : Gap) (place : Place)
  /-- It is a whole value and no text. -/
  | value
  /-- It is a part of a value, taken out of a table. -/
  | part
  deriving DecidableEq, Repr, Inhabited

namespace Ending

/-- The place behind it. -/
def stop? : Ending → Option Place
  | closed p => some p
  | _ => none

/-- Complains unless it ends well. -/
def check (cause : Gap → Cause) : Ending → Except Fault Unit
  | cut gap p => .error ⟨cause gap, p⟩
  | _ => .ok ()

end Ending

/-- A value as far as it can be read. -/
inductive Draft where
  | scalar (s : Scalar) (stop : Option Place)
  /-- A number or string that can be passed over, but stands for no value. -/
  | unreadable (fault : Fault)
  /-- What is no value. Passing over it is another fault than reading it. -/
  | broken (fault passing : Fault)
  /-- A list: its items, each with the place behind its first byte. -/
  | list (start : Option Place) (items : List (Option Place × Draft)) (ending : Ending)
  /-- A table: its members, each with the place behind its name. -/
  | table (start : Option Place) (members : List (Draft × Option Place × Draft)) (ending : Ending)
  deriving Repr, Inhabited

namespace Draft

/-- The complaint that the draft is not what was expected. -/
def mismatch (expected : String) : Draft → Fault
  | scalar s stop => ⟨.mismatch (.scalar s) expected, stop⟩
  | unreadable f | broken f _ => f
  | list start _ _ => ⟨.mismatch .list expected, start⟩
  | table start _ _ => ⟨.mismatch .table expected, start⟩

/-- The draft is a text. -/
def text : Draft → Except Fault String
  | scalar (.string s) _ => .ok s
  | d => .error (d.mismatch "a string")

/-! ## Passing over -/

mutual

/-- Complains if the draft cannot be passed over. -/
def pass : Draft → Except Fault Unit
  | scalar _ _ | unreadable _ => .ok ()
  | broken _ f => .error f
  | list _ items e => do
    passItems items
    e.check Gap.inPassedList
  | table _ members e => do
    passMembers members
    e.check Gap.inPassedTable

def passItems : List (Option Place × Draft) → Except Fault Unit
  | [] => .ok ()
  | (_, d) :: ds => do
    pass d
    passItems ds

def passMembers : List (Draft × Option Place × Draft) → Except Fault Unit
  | [] => .ok ()
  | (k, _, d) :: ds => do
    pass k
    pass d
    passMembers ds

end

/-! ## Values -/

/-- How deep values may be nested. -/
def depthLimit : Nat := 128

/-- The complaint about a bracket that opens too deep. -/
def tooDeep (start : Option Place) : Fault :=
  ⟨.tooDeep, start.map fun p => ⟨p.line, p.column + 1⟩⟩

mutual

/-- The value, with its members as they come, if it is nested less deep than `depth`. -/
def value (depth : Nat) : Draft → Except Fault Json
  | scalar s _ => .ok s.toJson
  | unreadable f | broken f _ => .error f
  | list start items e => do
    if depth ≤ 1 then throw (tooDeep start)
    let items ← itemValues (depth - 1) items
    e.check Gap.inList
    return .list items
  | table start members e => do
    if depth ≤ 1 then throw (tooDeep start)
    let members ← memberValues (depth - 1) members
    e.check Gap.inTable
    return .table members

def itemValues (depth : Nat) : List (Option Place × Draft) → Except Fault (List Json)
  | [] => .ok []
  | (_, d) :: ds => do
    let j ← value depth d
    return j :: (← itemValues depth ds)

def memberValues (depth : Nat) :
    List (Draft × Option Place × Draft) → Except Fault (List (String × Json))
  | [] => .ok []
  | (k, _, d) :: ds => do
    let name ← k.text
    let j ← value depth d
    return (name, j) :: (← memberValues depth ds)

end

mutual

/-- A value as a draft without faults. -/
def ofJson (ending : Ending) : Json → Draft
  | .null => scalar .null none
  | .bool b => scalar (.bool b) none
  | .integer n => scalar (.integer n) none
  | .double d => scalar (.double d) none
  | .string s => scalar (.string s) none
  | .list items => list none (ofItems ending items) ending
  | .table members => table none (ofMembers ending members) ending

def ofItems (ending : Ending) : List Json → List (Option Place × Draft)
  | [] => []
  | j :: js => (none, ofJson ending j) :: ofItems ending js

def ofMembers (ending : Ending) : List (String × Json) → List (Draft × Option Place × Draft)
  | [] => []
  | (k, j) :: ms => (scalar (.string k) none, none, ofJson ending j) :: ofMembers ending ms

end

end Draft

/-! ## Members in order of their names -/

mutual

/-- The value with the members of its tables sorted; of equal names the last one stays. -/
def sorted : Json → Json
  | list items => list (sortedItems items)
  | table members => table (sortedMembers members [])
  | j => j

def sortedItems : List Json → List Json
  | [] => []
  | j :: js => sorted j :: sortedItems js

def sortedMembers : List (String × Json) → List (String × Json) → List (String × Json)
  | [], acc => acc
  | (k, j) :: ms, acc => sortedMembers ms (Table.insertEntry k (sorted j) acc)

end

/-- The draft of a whole value. -/
def toDraft (j : Json) : Draft := .ofJson .value j.sorted

end LivePreview.Json
