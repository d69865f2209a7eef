import LivePreview.Json.Draft

/-!
# Values of known shape

Reading a draft as a value of a known type. A record is read from a table by the names of its
fields, whatever else the table holds, or from a list by their order.
-/

namespace LivePreview.Json

namespace Draft

/-- The draft is a natural of sixty-four bits. -/
def word : Draft → Except Fault UInt64
  | scalar (.integer n) stop =>
    if n < 0 then .error ⟨.outside n "u64", stop⟩ else .ok (UInt64.ofNat n.toNat)
  | d => .error (d.mismatch "u64")

/-- The draft is a value, or null. -/
def option (read : Draft → Except Fault α) : Draft → Except Fault (Option α)
  | scalar .null _ => .ok none
  | d => do return some (← read d)

def readItems (read : Draft → Except Fault α) :
    List (Option Place × Draft) → Except Fault (List α)
  | [] => .ok []
  | (_, d) :: ds => do
    let a ← read d
    return a :: (← readItems read ds)

/-- The draft is a list. -/
def listOf (read : Draft → Except Fault α) : Draft → Except Fault (List α)
  | list _ items e => do
    let xs ← readItems read items
    e.check Gap.inList
    return xs
  | d => .error (d.mismatch "a sequence")

def readMembers (read : Draft → Except Fault α) (t : Table α) :
    List (Draft × Option Place × Draft) → Except Fault (Table α)
  | [] => .ok t
  | (k, _, d) :: ds => do
    let name ← k.text
    let a ← read d
    readMembers read (t.insert name a) ds

/-- The draft is a table; of equal names the last one counts. -/
def tableOf (read : Draft → Except Fault α) : Draft → Except Fault (Table α)
  | table _ members e => do
    let t ← readMembers read .empty members
    e.check Gap.inTable
    return t
  | d => .error (d.mismatch "a map")

end Draft

/-- A field of a record. -/
structure Field (ρ : Type) where
  name : String
  /-- A record without it is none. -/
  required : Bool
  /-- Reads the field into a record. -/
  read : Draft → ρ → Except Fault ρ

/-- How a record is read. -/
structure Shape (ρ : Type) where
  /-- What the record is called in complaints. -/
  name : String
  fields : List (Field ρ)
  /-- The record before any field is read. -/
  start : ρ

namespace Shape

variable {ρ : Type}

/-- Reads the members of a table into `r`; `seen` names the fields that have come. -/
def readMembers (fields : List (Field ρ)) (r : ρ) (seen : List String) :
    List (Draft × Option Place × Draft) → Except Fault (ρ × List String)
  | [] => .ok (r, seen)
  | (k, behind, d) :: ds => do
    let name ← k.text
    match fields.find? (·.name == name) with
    | none =>
      d.pass
      readMembers fields r seen ds
    | some f =>
      if seen.contains name then throw ⟨.twice name, behind⟩
      let r ← f.read d r
      readMembers fields r (name :: seen) ds

/-- Reads items into the fields in their order. What is left over is not looked at. -/
def readItems (shape : Shape ρ) (e : Ending) (r : ρ) (count : Nat) :
    List (Field ρ) → List (Option Place × Draft) → Except Fault ρ
  | [], _ => .ok r
  | f :: fs, [] => do
    e.check Gap.inList
    if f.required then
      throw ⟨.wrongLength count
        (shape.name ++ " with " ++ toString shape.fields.length ++ " elements"), e.stop?⟩
    readItems shape e r (count + 1) fs []
  | f :: fs, (_, d) :: ds => do
    let r ← f.read d r
    readItems shape e r (count + 1) fs ds

/-- The items of a list of a known number. -/
def elements (n : Nat) : String :=
  toString n ++ (if n == 1 then " element" else " elements") ++ " in sequence"

/-- Complains about items behind the first `count`. -/
def checkEnd (count : Nat) (items : List (Option Place × Draft)) (e : Ending) :
    Except Fault Unit :=
  match items.drop count with
  | [] => e.check Gap.atListEnd
  | (place, _) :: _ =>
    match e with
    | .value => .error ⟨.wrongLength items.length "fewer elements in array", none⟩
    | .part => .error ⟨.wrongLength items.length (elements count), none⟩
    | _ => .error ⟨.trailingText, place⟩

/-- Reads a record. -/
def read (shape : Shape ρ) : Draft → Except Fault ρ
  | .table _ members e => do
    let (r, seen) ← readMembers shape.fields shape.start [] members
    e.check Gap.inTable
    match shape.fields.find? (fun f => f.required && !seen.contains f.name) with
    | some f => throw ⟨.missing f.name, e.stop?⟩
    | none => return r
  | .list _ items e => do
    let r ← readItems shape e shape.start 0 shape.fields items
    checkEnd shape.fields.length items e
    return r
  | d => .error (d.mismatch shape.name)

end Shape

end LivePreview.Json
